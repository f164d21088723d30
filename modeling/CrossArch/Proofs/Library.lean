import CrossArch.Library
import CrossArch.Proofs.Aggregate.Run
import CrossArch.Proofs.Text.Front

/-!
# Canonical names of libraries

A canonical name is a normal form: it has no blanks around it, starts with `lib` and names a shared
object, and such a name is its own canonical name. All references that give no exact file name lead
to a canonical name, and the four usual spellings of a bare name lead to the same one. So a run
counts them as one library.
-/

namespace CrossArch

namespace Unicode

/-- A text with no blank at either end. -/
structure IsTrimmed (text : List Char) : Prop where
  first : text.head?.any isBlank = false
  last : text.getLast?.any isBlank = false

instance (text : List Char) : Decidable (IsTrimmed text) :=
  decidable_of_iff (text.head?.any isBlank = false ∧ text.getLast?.any isBlank = false)
    ⟨fun ⟨first, last⟩ => ⟨first, last⟩, fun ⟨first, last⟩ => ⟨first, last⟩⟩

theorem dropWhile_isBlank_of_head? {text : List Char} (first : text.head?.any isBlank = false) :
    text.dropWhile isBlank = text := by
  cases text with
  | nil => rfl
  | cons c rest => exact List.dropWhile_cons_of_neg (by simpa using first)

theorem trim_of_isTrimmed {text : List Char} (trimmed : IsTrimmed text) : trim text = text := by
  have reversed : text.reverse.dropWhile isBlank = text.reverse := by
    apply dropWhile_isBlank_of_head?
    rw [List.head?_reverse]
    exact trimmed.last
  rw [trim, trimStart, dropWhile_isBlank_of_head? trimmed.first, trimEnd, reversed,
    List.reverse_reverse]

theorem last_trim (text : List Char) : (trim text).getLast?.any isBlank = false := by
  have stops := List.head?_dropWhile_not isBlank (trimStart text).reverse
  rw [trim, trimEnd, List.getLast?_reverse]
  cases first : ((trimStart text).reverse.dropWhile isBlank).head? with
  | none => rfl
  | some c => simpa [first] using stops

/-- A text ends in a blank only if its last part does. -/
theorem last_append {front back : List Char} (lastFront : front.getLast?.any isBlank = false)
    (lastBack : back.getLast?.any isBlank = false) :
    (front ++ back).getLast?.any isBlank = false := by
  rw [List.getLast?_append]
  cases last : back.getLast? with
  | none => exact lastFront
  | some c => simpa [last] using lastBack

theorem last_of_append {front back : List Char}
    (last : (front ++ back).getLast?.any isBlank = false) :
    back.getLast?.any isBlank = false := by
  rw [List.getLast?_append] at last
  cases isLast : back.getLast? with
  | none => rfl
  | some c => simpa [isLast] using last

end Unicode

/-- The canonical names: free of outer blanks, with `lib` in front, and of a shared object. -/
structure IsCanonicalName (name : List Char) : Prop where
  trimmed : Unicode.IsTrimmed name
  isLibrary : ['l', 'i', 'b'] <+: name
  sharedObject : ['.', 's', 'o'] <:+ name ∨ ['.', 's', 'o', '.'] <:+: name

theorem namesSharedObject_iff {name : List Char} :
    namesSharedObject name = true ↔
      ['.', 's', 'o'] <:+ name ∨ ['.', 's', 'o', '.'] <:+: name := by
  rw [namesSharedObject, Bool.or_eq_true, Text.endsWith_iff, Text.occursIn_iff]

theorem Text.withoutFront_append (front rest : List Char) :
    Text.withoutFront (front ++ rest) front = rest := by
  rw [Text.withoutFront, Text.after?_eq_some_iff.2 rfl, Option.getD_some]

theorem Text.withoutFront_of_other {text front : List Char} (other : ¬front <+: text) :
    Text.withoutFront text front = text := by
  rw [Text.withoutFront, Text.after?_eq_none_iff.2 other, Option.getD_none]

theorem Text.last_withoutFront {text front : List Char}
    (last : text.getLast?.any Unicode.isBlank = false) :
    (Text.withoutFront text front).getLast?.any Unicode.isBlank = false := by
  by_cases starts : front <+: text
  · rcases starts with ⟨rest, rfl⟩
    rw [Text.withoutFront_append]
    exact Unicode.last_of_append last
  · rwa [Text.withoutFront_of_other starts]

/-- The full name of a library that has a short one. -/
def fullName (name : List Char) : List Char :=
  if name = ['c', '+', '+'] then ['s', 't', 'd', 'c', '+', '+'] else name

/-- A name with `lib` in front. -/
def withLib (name : List Char) : List Char :=
  if Text.startsWith name ['l', 'i', 'b'] then name else 'l' :: 'i' :: 'b' :: name

/-- The name of a library as that of a shared object. -/
def withSharedObject (library : List Char) : List Char :=
  if namesSharedObject library then library else library ++ ['.', 's', 'o']

section Normal

variable {reference name library : List Char}

theorem canonicalLibrary_eq (named : Text.withoutFront (Unicode.trim reference) ['-', 'l'] = name)
    (notExact : name.head? ≠ some ':') :
    canonicalLibrary reference = withSharedObject (withLib (fullName name)) := by
  subst named
  unfold canonicalLibrary
  split
  · rename_i exact same
    simp [same] at notExact
  · rfl

theorem prefix_withLib (name : List Char) : ['l', 'i', 'b'] <+: withLib name := by
  unfold withLib
  split
  · rename_i starts
    exact Text.startsWith_iff.1 starts
  · exact List.prefix_append ['l', 'i', 'b'] name

theorem last_fullName (last : name.getLast?.any Unicode.isBlank = false) :
    (fullName name).getLast?.any Unicode.isBlank = false := by
  unfold fullName
  split
  · decide
  · exact last

theorem last_withLib (last : name.getLast?.any Unicode.isBlank = false) :
    (withLib name).getLast?.any Unicode.isBlank = false := by
  have lastLib : ['l', 'i', 'b'].getLast?.any Unicode.isBlank = false := by decide
  unfold withLib
  split
  · exact last
  · exact Unicode.last_append lastLib last

theorem isCanonicalName_withSharedObject (isLibrary : ['l', 'i', 'b'] <+: library)
    (last : library.getLast?.any Unicode.isBlank = false) :
    IsCanonicalName (withSharedObject library) := by
  have lastObject : ['.', 's', 'o'].getLast?.any Unicode.isBlank = false := by decide
  rcases isLibrary with ⟨rest, rfl⟩
  unfold withSharedObject
  split
  · rename_i names
    exact ⟨⟨rfl, last⟩, List.prefix_append _ _, namesSharedObject_iff.1 names⟩
  · refine ⟨⟨rfl, Unicode.last_append last lastObject⟩, ?_, Or.inl (List.suffix_append _ _)⟩
    rw [List.append_assoc]
    exact List.prefix_append _ _

/-- A canonical name is its own canonical name. -/
theorem canonicalLibrary_of_isCanonicalName (canonical : IsCanonicalName name) :
    canonicalLibrary name = name := by
  have isObject := namesSharedObject_iff.2 canonical.sharedObject
  have trimmed := Unicode.trim_of_isTrimmed canonical.trimmed
  rcases canonical.isLibrary with ⟨rest, rfl⟩
  have plain : Text.withoutFront (Unicode.trim (['l', 'i', 'b'] ++ rest)) ['-', 'l'] =
      ['l', 'i', 'b'] ++ rest := by
    rw [trimmed]
    exact Text.withoutFront_of_other (by simp)
  rw [canonicalLibrary_eq plain (by simp), fullName, if_neg (by simp), withLib,
    if_pos (Text.startsWith_iff.2 (List.prefix_append _ _)), withSharedObject, if_pos isObject]

theorem isCanonicalName_canonicalLibrary
    (notExact : (Text.withoutFront (Unicode.trim reference) ['-', 'l']).head? ≠ some ':') :
    IsCanonicalName (canonicalLibrary reference) := by
  rw [canonicalLibrary_eq rfl notExact]
  apply isCanonicalName_withSharedObject (prefix_withLib _)
  apply last_withLib
  apply last_fullName
  exact Text.last_withoutFront (Unicode.last_trim reference)

end Normal

/-- A bare name of a library: nothing in it is read as more than a part of the name. -/
structure IsBareName (name : List Char) : Prop where
  trimmed : Unicode.IsTrimmed name
  notLibrary : ¬['l', 'i', 'b'] <+: name
  notReference : ¬['-', 'l'] <+: name
  notExact : name.head? ≠ some ':'
  notShort : name ≠ ['c', '+', '+']
  notObject : ¬['.', 's', 'o'] <:+ name
  notVersioned : ¬['.', 's', 'o', '.'] <:+: name

/-- The usual spellings of a library: `-lX`, `X`, `libX` and `libX.so`. -/
def spellings (name : List Char) : List (List Char) :=
  [['-', 'l'] ++ name, name, ['l', 'i', 'b'] ++ name, ['l', 'i', 'b'] ++ name ++ ['.', 's', 'o']]

section Spellings

variable {name : List Char} (bare : IsBareName name)
include bare

theorem withSharedObject_of_isBareName :
    withSharedObject (['l', 'i', 'b'] ++ name) = ['l', 'i', 'b'] ++ name ++ ['.', 's', 'o'] := by
  have notObject : ¬namesSharedObject (['l', 'i', 'b'] ++ name) = true := by
    rw [namesSharedObject_iff]
    simp [List.suffix_cons_iff, List.infix_cons_iff, bare.notObject, bare.notVersioned]
  rw [withSharedObject, if_neg notObject]

theorem canonicalLibrary_of_stem {reference : List Char} (trimmed : Unicode.IsTrimmed reference)
    (stem : Text.withoutFront reference ['-', 'l'] = name ∨
      Text.withoutFront reference ['-', 'l'] = ['l', 'i', 'b'] ++ name) :
    canonicalLibrary reference = ['l', 'i', 'b'] ++ name ++ ['.', 's', 'o'] := by
  rw [← Unicode.trim_of_isTrimmed trimmed] at stem
  rcases stem with named | named
  · have notLibrary : ¬Text.startsWith name ['l', 'i', 'b'] = true := by
      rw [Text.startsWith_iff]
      exact bare.notLibrary
    rw [canonicalLibrary_eq named bare.notExact, fullName, if_neg bare.notShort, withLib,
      if_neg notLibrary]
    exact withSharedObject_of_isBareName bare
  · have isLibrary : Text.startsWith (['l', 'i', 'b'] ++ name) ['l', 'i', 'b'] = true :=
      Text.startsWith_iff.2 (List.prefix_append _ _)
    rw [canonicalLibrary_eq named (by simp), fullName, if_neg (by simp), withLib, if_pos isLibrary]
    exact withSharedObject_of_isBareName bare

/-- All spellings of a bare name have one canonical name. -/
theorem canonicalLibrary_of_mem_spellings {reference : List Char}
    (spelled : reference ∈ spellings name) :
    canonicalLibrary reference = ['l', 'i', 'b'] ++ name ++ ['.', 's', 'o'] := by
  have lastReference : ['-', 'l'].getLast?.any Unicode.isBlank = false := by decide
  have lastLib : ['l', 'i', 'b'].getLast?.any Unicode.isBlank = false := by decide
  have lastLibrary := Unicode.last_append lastLib bare.trimmed.last
  simp only [spellings, List.mem_cons, List.not_mem_nil, or_false] at spelled
  rcases spelled with rfl | rfl | rfl | rfl
  · have trimmed : Unicode.IsTrimmed (['-', 'l'] ++ name) :=
      ⟨rfl, Unicode.last_append lastReference bare.trimmed.last⟩
    exact canonicalLibrary_of_stem bare trimmed (Or.inl (Text.withoutFront_append _ _))
  · exact canonicalLibrary_of_stem bare bare.trimmed
      (Or.inl (Text.withoutFront_of_other bare.notReference))
  · exact canonicalLibrary_of_stem bare ⟨rfl, lastLibrary⟩
      (Or.inr (Text.withoutFront_of_other (by simp)))
  · rw [← withSharedObject_of_isBareName bare]
    apply canonicalLibrary_of_isCanonicalName
    exact isCanonicalName_withSharedObject (List.prefix_append _ _) lastLibrary

end Spellings

namespace Aggregate

open Operation

theorem knows_foldl_take {libraries : LibraryRegister} {name : String}
    (known : libraries.knows name = true) (references : List LibraryReference) :
    (references.foldl LibraryRegister.take libraries).knows name = true := by
  induction references generalizing libraries with
  | nil => exact known
  | cons reference later ih =>
      apply ih
      rw [LibraryRegister.knows_iff] at known ⊢
      rw [LibraryRegister.references_take, addReference]
      split
      · exact known
      · exact List.map_append ▸ List.mem_append_left _ known

/-- A library that has been added is known after all later operations. -/
theorem knows_after_addLibrary (aggregate : Aggregate) (name file : String)
    (category : FileCategory) (operations : List Operation) :
    ((aggregate.addLibrary name file category).2.performAll operations).2.libraries.knows name =
      true := by
  rw [performAll_snd]
  apply knows_foldl_take
  have taken : (aggregate.addLibrary name file category).2.libraries =
      aggregate.libraries.take ⟨name, file, category⟩ := rfl
  rw [taken, LibraryRegister.knows_iff, LibraryRegister.references_take, addReference]
  split
  · assumption
  · simp

end Aggregate

/--
References are normalised. The canonical name of a reference that gives no exact file name starts
with `lib`, names a shared object and is its own canonical name. The spellings `-lX`, `X`, `libX`
and `libX.so` of a bare name all have the canonical name `libX.so`: once a run has one of them, none
of the others is new, whatever the run has done in between.
-/
theorem canonicalLibrary_normalises :
    (∀ reference, (Text.withoutFront (Unicode.trim reference) ['-', 'l']).head? ≠ some ':' →
      ['l', 'i', 'b'] <+: canonicalLibrary reference ∧
        (['.', 's', 'o'] <:+ canonicalLibrary reference ∨
          ['.', 's', 'o', '.'] <:+: canonicalLibrary reference) ∧
        canonicalLibrary (canonicalLibrary reference) = canonicalLibrary reference) ∧
    ∀ name, IsBareName name → ∀ reference ∈ spellings name,
      canonicalLibrary reference = ['l', 'i', 'b'] ++ name ++ ['.', 's', 'o'] ∧
        ∀ other ∈ spellings name, ∀ (aggregate : Aggregate) (file file' : String)
          (category category' : FileCategory) (between : List Aggregate.Operation),
          let added :=
            aggregate.addLibrary (String.ofList (canonicalLibrary reference)) file category
          let later := (added.2.performAll between).2
          later.addLibrary (String.ofList (canonicalLibrary other)) file' category' =
            (false, later) := by
  constructor
  · intro reference notExact
    have canonical := isCanonicalName_canonicalLibrary notExact
    exact ⟨canonical.isLibrary, canonical.sharedObject,
      canonicalLibrary_of_isCanonicalName canonical⟩
  · intro name bare reference spelled
    have same := canonicalLibrary_of_mem_spellings bare spelled
    refine ⟨same, ?_⟩
    intro other otherSpelled aggregate file file' category category' between added later
    have known : later.libraries.knows (String.ofList (canonicalLibrary other)) = true := by
      rw [canonicalLibrary_of_mem_spellings bare otherSpelled, ← same]
      exact Aggregate.knows_after_addLibrary aggregate _ file category between
    rw [Aggregate.addLibrary, LibraryRegister.add, if_pos known]

/-- A reference with blanks and a version, and a name with `lib` and `.so` inside. -/
theorem canonicalLibrary_normalises_solib :
    (Text.withoutFront (Unicode.trim " -lgcc_s.so.1\t".toList) ['-', 'l']).head? ≠ some ':' ∧
      canonicalLibrary (canonicalLibrary " -lgcc_s.so.1\t".toList) = "libgcc_s.so.1".toList ∧
      IsBareName "a.solib".toList ∧
      canonicalLibrary "-la.solib".toList = "liba.solib.so".toList ∧
      ((((Aggregate.start "t" "r").addLibrary (String.ofList (canonicalLibrary "-la.solib".toList))
        "Makefile" .makefile).2.performAll []).2.addLibrary
          (String.ofList (canonicalLibrary "liba.solib".toList)) "sub/Makefile" .makefile).1 =
            false := by
  have notExact : (Text.withoutFront (Unicode.trim " -lgcc_s.so.1\t".toList) ['-', 'l']).head? ≠
      some ':' := by decide
  have bare : IsBareName "a.solib".toList :=
    ⟨by decide, by decide, by decide, by decide, by decide, by decide, by decide⟩
  have fixed := (canonicalLibrary_normalises.1 _ notExact).2.2
  have spelled := canonicalLibrary_normalises.2 _ bare "-la.solib".toList (by decide)
  have again := spelled.2 "liba.solib".toList (by decide) (Aggregate.start "t" "r") "Makefile"
    "sub/Makefile" .makefile .makefile []
  exact ⟨notExact, fixed.trans (by decide), bare, spelled.1.trans (by decide),
    congrArg Prod.fst again⟩

end CrossArch
