import CrossArch.Files.Category
import CrossArch.Proofs.Text.Front
import CrossArch.Proofs.Text.Line
import CrossArch.Proofs.Unicode.Word

/-!
# The names of shared objects

The test for shared objects looks at the last `.so.` of a name only and reads what stands behind it
as a version. A version has no letter, so no `.so.` can begin further on, and looking at the last
one is enough: the names that pass are those of a plain grammar. What follows the last dot of such a
name is `so` or a number, and neither is the extension of a source, a header or a Makefile.
-/

namespace CrossArch

namespace Text

variable {piece text rest : List Char}

theorem afterLast?_eq_none_iff : afterLast? piece text = none ↔ ¬piece <:+: text := by
  induction text with
  | nil => simp [afterLast?, after?_eq_none_iff]
  | cons c text ih =>
      simp only [afterLast?, Option.orElse_eq_orElse, Option.orElse_eq_or,
        Option.or_eq_none_iff, ih, after?_eq_none_iff, List.infix_cons_iff, not_or, and_comm]

theorem exists_front_of_afterLast? (found : afterLast? piece text = some rest) :
    ∃ front, text = front ++ (piece ++ rest) := by
  induction text with
  | nil =>
      have here := after?_eq_some_iff.1 found
      exact ⟨[], here⟩
  | cons c text ih =>
      simp only [afterLast?, Option.orElse_eq_orElse, Option.orElse_eq_or,
        Option.or_eq_some_iff] at found
      rcases found with later | ⟨-, found⟩
      · rcases ih later with ⟨front, rfl⟩
        exact ⟨c :: front, rfl⟩
      · have here := after?_eq_some_iff.1 found
        exact ⟨[], here⟩

/-- An occurrence with no later one, not even one that overlaps with it, is the last. -/
theorem afterLast?_append {c : Char} (front : List Char) (last : ¬c :: piece <:+: piece ++ rest) :
    afterLast? (c :: piece) (front ++ c :: (piece ++ rest)) = some rest := by
  induction front with
  | nil =>
      have here : after? (c :: piece) (c :: (piece ++ rest)) = some rest :=
        after?_eq_some_iff.2 rfl
      have noLater : afterLast? (c :: piece) (piece ++ rest) = none := afterLast?_eq_none_iff.2 last
      simp [afterLast?, noLater, here]
  | cons d front ih => simp [afterLast?, ih]

end Text

/-- A number of a version. -/
structure IsNumber (number : List Char) : Prop where
  nonempty : number ≠ []
  digits : ∀ c ∈ number, c.isDigit = true

/-- The names of shared objects: anything, then `.so`, then numbers with a dot before each of
them. -/
inductive IsSharedObjectName : List Char → Prop where
  | plain (stem : List Char) : IsSharedObjectName (stem ++ ['.', 's', 'o'])
  | numbered {name number : List Char} (named : IsSharedObjectName name)
      (isNumber : IsNumber number) :
      IsSharedObjectName (name ++ '.' :: number)

section Grammar

variable {name version number : List Char}

theorem IsNumber.dot_not_mem (isNumber : IsNumber number) : '.' ∉ number := by
  intro mem
  have digit := isNumber.digits '.' mem
  simp at digit

theorem isVersion_iff :
    isVersion version = true ↔ ∀ number ∈ Text.splitAt '.' version, IsNumber number := by
  simp only [isVersion, List.all_eq_true, Bool.and_eq_true, Bool.not_eq_true',
    List.isEmpty_eq_false_iff]
  apply forall₂_congr
  intro number _
  exact ⟨fun both => ⟨both.1, both.2⟩, fun isNumber => ⟨isNumber.nonempty, isNumber.digits⟩⟩

theorem isVersion_of_isNumber (isNumber : IsNumber number) : isVersion number = true := by
  simpa [isVersion_iff, Text.splitAt_of_not_mem isNumber.dot_not_mem] using isNumber

theorem isVersion_append (isVersion : isVersion version = true) (isNumber : IsNumber number) :
    CrossArch.isVersion (version ++ '.' :: number) = true := by
  simp only [isVersion_iff, Text.splitAt_append, List.forall_mem_append]
  exact ⟨isVersion_iff.1 isVersion, isVersion_iff.1 (isVersion_of_isNumber isNumber)⟩

theorem letter_not_mem_of_isVersion (isVersion : isVersion version = true) : 's' ∉ version := by
  intro mem
  have other : 's' ≠ '.' := by decide
  rcases Text.exists_piece_of_mem mem other with ⟨number, numberMem, mem⟩
  have digit := (isVersion_iff.1 isVersion number numberMem).digits 's' mem
  simp at digit

theorem IsSharedObjectName.versioned (named : IsSharedObjectName name)
    (isVersion : isVersion version = true) : IsSharedObjectName (name ++ '.' :: version) := by
  rcases Text.exists_splitAt_eq_cons '.' version with ⟨first, later, same⟩
  have numbers := isVersion_iff.1 isVersion
  rw [same] at numbers
  clear isVersion
  -- The numbers of the version extend the name one by one.
  induction later generalizing name version first with
  | nil =>
      have single := Text.eq_of_splitAt_singleton same
      subst single
      exact named.numbered (numbers version (by simp))
  | cons second later ih =>
      rcases Text.exists_splitAt_of_cons same (by simp) with ⟨rest, rfl, sameRest⟩
      have longer := named.numbered (numbers first (by simp))
      have whole := ih longer second sameRest (List.forall_mem_of_forall_mem_cons numbers)
      simpa using whole

theorem IsSharedObjectName.exists_version (named : IsSharedObjectName name) :
    ∃ stem, name = stem ++ ['.', 's', 'o'] ∨
      ∃ version, isVersion version = true ∧ name = stem ++ '.' :: (['s', 'o', '.'] ++ version) := by
  induction named with
  | plain stem => exact ⟨stem, Or.inl rfl⟩
  | @numbered name number named isNumber ih =>
      rcases ih with ⟨stem, rfl | ⟨version, isVersion, rfl⟩⟩
      · exact ⟨stem, Or.inr ⟨number, isVersion_of_isNumber isNumber, by simp⟩⟩
      · exact ⟨stem, Or.inr ⟨version ++ '.' :: number, isVersion_append isVersion isNumber,
          by simp⟩⟩

/-- A version is behind the last `.so.` of a name. -/
theorem afterLast?_of_isVersion (stem : List Char) (isVersion : isVersion version = true) :
    Text.afterLast? ['.', 's', 'o', '.'] (stem ++ '.' :: (['s', 'o', '.'] ++ version)) =
      some version := by
  apply Text.afterLast?_append
  have noLetter := letter_not_mem_of_isVersion isVersion
  simp only [List.cons_append, List.nil_append, List.infix_cons_iff, List.cons_prefix_cons]
  rintro (⟨differs, -⟩ | ⟨differs, -⟩ | ⟨-, behindDot⟩ | within)
  · simp at differs
  · simp at differs
  · exact noLetter (behindDot.subset (by simp))
  · exact noLetter (within.subset (by simp))

/-- The test for shared objects accepts the names of the grammar and no others. -/
theorem isSharedObject_iff : isSharedObject name = true ↔ IsSharedObjectName name := by
  simp only [isSharedObject, Bool.or_eq_true, Text.endsWith_iff]
  constructor
  · rintro (⟨stem, rfl⟩ | versioned)
    · exact .plain stem
    · cases found : Text.afterLast? ['.', 's', 'o', '.'] name with
      | none => simp [found] at versioned
      | some version =>
          rw [found] at versioned
          have isVersion : isVersion version = true := versioned
          rcases Text.exists_front_of_afterLast? found with ⟨stem, rfl⟩
          simpa using (IsSharedObjectName.plain stem).versioned isVersion
  · intro named
    rcases named.exists_version with ⟨stem, rfl | ⟨version, isVersion, rfl⟩⟩
    · exact Or.inl ⟨stem, rfl⟩
    · right
      rw [afterLast?_of_isVersion stem isVersion]
      exact isVersion

theorem IsSharedObjectName.last_eq {front last : List Char}
    (named : IsSharedObjectName (front ++ '.' :: last)) (noDot : '.' ∉ last) :
    last = ['s', 'o'] ∨ IsNumber last := by
  generalize same : front ++ '.' :: last = name at named
  cases named with
  | plain stem =>
      left
      exact Text.eq_of_append_separator noDot (by simp) same
  | numbered named isNumber =>
      right
      have sameLast := Text.eq_of_append_separator noDot isNumber.dot_not_mem same
      exact sameLast ▸ isNumber

end Grammar

section Extension

variable {name extension : String} {category : FileCategory}

theorem exists_stem_of_extensionOf? (found : Path.extensionOf? name = some extension) :
    ∃ stem, name.toList = stem ++ '.' :: extension.toList ∧ '.' ∉ extension.toList := by
  unfold Path.extensionOf? at found
  split at found
  · simp at found
  · simp at found
  · rename_i last before notOnly notHidden same
    have pieces : Text.splitAt '.' name.toList = before.reverse ++ [last] := by
      simpa using congrArg List.reverse same
    have lastMem : last ∈ Text.splitAt '.' name.toList := by simp [pieces]
    rcases Text.exists_front_of_splitAt pieces (by simpa using notOnly) with ⟨stem, whole⟩
    simp only [Option.some.injEq] at found
    subst found
    simpa using ⟨⟨stem, whole⟩, Text.not_mem_of_mem_splitAt lastMem⟩
  · simp at found

theorem eq_dot_of_mem_lowerChar {c : Char} (mem : '.' ∈ lowerChar c) : c = '.' := by
  have dot : '.'.toNat = 46 := rfl
  unfold lowerChar at mem
  split_ifs at mem with kelvin dotted
  · simp at mem
  · simp at mem
  · have same : '.' = c.toLower := List.mem_singleton.1 mem
    have code := Unicode.toNat_toLower c
    rw [← same] at code
    apply Char.toNat_inj.1
    split_ifs at code <;> omega

theorem exists_stem_of_lowerName (found : Path.extensionOf? name = some extension) :
    ∃ stem, lowerName name.toList = stem ++ '.' :: lowerName extension.toList ∧
      '.' ∉ lowerName extension.toList := by
  rcases exists_stem_of_extensionOf? found with ⟨stem, whole, noDot⟩
  have dot : lowerChar '.' = ['.'] := by decide
  refine ⟨lowerName stem, by simp [lowerName, whole, dot], ?_⟩
  intro mem
  rcases List.mem_flatMap.1 mem with ⟨c, cMem, isDot⟩
  rw [eq_dot_of_mem_lowerChar isDot] at cMem
  exact noDot cMem

theorem IsNumber.contains_eq_false {number : List Char} (isNumber : IsNumber number)
    {names : List String}
    (letters : (names.all fun name => name.toList.any fun c => !c.isDigit) = true) :
    names.contains (String.ofList number) = false := by
  rw [← Bool.not_eq_true, List.contains_iff_mem]
  intro mem
  have letter := List.all_eq_true.1 letters _ mem
  rw [String.toList_ofList] at letter
  rcases List.any_eq_true.1 letter with ⟨c, cMem, noDigit⟩
  simp [isNumber.digits c cMem] at noDigit

/-- All extensions with a category have a letter in them. -/
theorem IsNumber.extensionCategory?_eq_none {number : List Char} (isNumber : IsNumber number) :
    extensionCategory? number = none := by
  simp (disch := decide) only [extensionCategory?, isNumber.contains_eq_false, Bool.false_eq_true,
    if_false]

theorem extensionCategory?_ne_sharedObject (extension : List Char) :
    extensionCategory? extension ≠ some .sharedObject := by
  simp only [extensionCategory?]
  split_ifs <;> simp

theorem isSharedObject_eq_false_of_known (found : Path.extensionOf? name = some extension)
    (known : extensionCategory? (lowerName extension.toList) = some category) :
    isSharedObject (lowerName name.toList) = false := by
  rcases exists_stem_of_lowerName found with ⟨stem, whole, noDot⟩
  rw [← Bool.not_eq_true, isSharedObject_iff, whole]
  intro named
  have unknown : extensionCategory? (lowerName extension.toList) = none := by
    rcases named.last_eq noDot with so | isNumber
    · rw [so]
      decide
    · exact isNumber.extensionCategory?_eq_none
  simp [unknown] at known

end Extension

/-- The names by which a file is a Makefile, in lower case: one of a few, or `make.` and a word. -/
def IsMakefileName (name : List Char) : Prop :=
  name ∈ makefileNames ∨ ∃ c rest, name = ['m', 'a', 'k', 'e', '.'] ++ c :: rest ∧
    (Unicode.isAlphanumeric c = true ∨ c = '_')

theorem isMakeDotWord_iff {name : List Char} :
    isMakeDotWord name = true ↔ ∃ c rest, name = ['m', 'a', 'k', 'e', '.'] ++ c :: rest ∧
      (Unicode.isAlphanumeric c = true ∨ c = '_') := by
  constructor
  · intro word
    unfold isMakeDotWord at word
    split at word
    · rename_i c rest found
      exact ⟨c, rest, Text.after?_eq_some_iff.1 found, by simpa using word⟩
    · contradiction
  · rintro ⟨c, rest, same, word⟩
    have found := Text.after?_eq_some_iff.2 same
    simpa [isMakeDotWord, found] using word

theorem isMakefileName_iff {name : List Char} :
    IsMakefileName name ↔ (makefileNames.contains name || isMakeDotWord name) = true := by
  rw [Bool.or_eq_true, List.contains_iff_mem, isMakeDotWord_iff, IsMakefileName]

instance (name : List Char) : Decidable (IsMakefileName name) :=
  decidable_of_iff _ isMakefileName_iff.symm

theorem categoryOfName?_of_other {name : String} (other : ¬IsMakefileName (lowerName name.toList)) :
    categoryOfName? name =
      if isSharedObject (lowerName name.toList) then some .sharedObject
      else (Path.extensionOf? name).bind fun extension =>
        extensionCategory? (lowerName extension.toList) := by
  rw [isMakefileName_iff] at other
  simp only [categoryOfName?, other]
  rfl

/--
Among the files whose name is not that of a Makefile, the shared objects are those whose name in
lower case is of the form `stem.so`, `stem.so.1`, `stem.so.1.2` and so on. So a file with the
extension of a source or a header has the category of its extension, however often `.so.` occurs in
its name.
-/
theorem sharedObject_names_eq_grammar (path : Path) (name : String)
    (named : path.fileName? = some name) (other : ¬IsMakefileName (lowerName name.toList)) :
    (categoryOf? path = some .sharedObject ↔ IsSharedObjectName (lowerName name.toList)) ∧
      ∀ extension category, path.extension? = some extension →
        extensionCategory? (lowerName extension.toList) = some category →
          categoryOf? path = some category := by
  have category_eq : categoryOf? path = categoryOfName? name := by simp [categoryOf?, named]
  rw [category_eq, categoryOfName?_of_other other, ← isSharedObject_iff]
  constructor
  · constructor
    · intro isCategory
      by_contra notShared
      rw [if_neg notShared] at isCategory
      rcases Option.bind_eq_some_iff.1 isCategory with ⟨extension, -, known⟩
      exact extensionCategory?_ne_sharedObject _ known
    · intro shared
      exact if_pos shared
  · intro extension category found known
    have found' : Path.extensionOf? name = some extension := by
      simpa [Path.extension?, named] using found
    simp [isSharedObject_eq_false_of_known found' known, found', known]

theorem sharedObject_names_eq_grammar_lib :
    categoryOf? ⟨"lib/.so.a.SO.1.20"⟩ = some .sharedObject ∧
      categoryOf? ⟨"lib/a.so.1.so.CPP"⟩ = some .cpp := by
  constructor
  · have lower : lowerName ".so.a.SO.1.20".toList =
        ['.', 's', 'o', '.', 'a'] ++ ['.', 's', 'o'] ++ '.' :: ['1'] ++ '.' :: ['2', '0'] := by
      decide +kernel
    apply (sharedObject_names_eq_grammar _ ".so.a.SO.1.20" (by decide +kernel)
      (by decide +kernel)).1.2
    rw [lower]
    exact ((IsSharedObjectName.plain _).numbered ⟨by simp, by simp⟩).numbered ⟨by simp, by simp⟩
  · exact (sharedObject_names_eq_grammar _ "a.so.1.so.CPP" (by decide +kernel)
      (by decide +kernel)).2
      "CPP" .cpp (by decide +kernel) (by decide +kernel)

end CrossArch
