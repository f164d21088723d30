import CrossArch.Proofs.Comment.Cursor

/-!
# Texts without comments

A C text is clean when no comment opens in it. What stripping leaves is clean: a kept slash is
followed by a slash or a star only where the text itself has one there, since a dropped block leaves
a space between the pieces of a marker. In a clean text there is nothing to strip. So the clean
texts are the results of stripping and also the texts that stripping leaves as they are.
-/

namespace CrossArch.Comment

/--
A text in which no comment opens: it has no opening marker of block comments, and before each of its
line markers there is a character that is no blank.
-/
structure Clean (text : List Char) : Prop where
  noBlock : ¬['/', '*'] <:+: text
  noLine : ∀ front back, text = front ++ '/' :: '/' :: back →
    ∃ before c, front = before ++ [c] ∧ Unicode.isBlank c = false

/-- A text in which no comment opens when it stands behind the kept character `last`. -/
inductive CleanAfter : Option Char → List Char → Prop where
  | nil {last : Option Char} : CleanAfter last []
  | cons {last : Option Char} {c : Char} {rest : List Char}
      (noBlock : ¬(c = '/' ∧ rest.head? = some '*'))
      (noLine : opensLineComment cStyle.lineMarker last (c :: rest) = false)
      (later : CleanAfter (some c) rest) : CleanAfter last (c :: rest)

theorem cleanAfter_cons_iff {last : Option Char} {c : Char} {rest : List Char} :
    CleanAfter last (c :: rest) ↔
      ¬(c = '/' ∧ rest.head? = some '*') ∧
        opensLineComment cStyle.lineMarker last (c :: rest) = false ∧ CleanAfter (some c) rest := by
  constructor
  · rintro (_ | ⟨noBlock, noLine, later⟩)
    exact ⟨noBlock, noLine, later⟩
  · rintro ⟨noBlock, noLine, later⟩
    exact .cons noBlock noLine later

/-- Behind `last` it is the character before a line marker that decides, or `last` at the start. -/
theorem cleanAfter_iff {last : Option Char} {text : List Char} :
    CleanAfter last text ↔
      ¬['/', '*'] <:+: text ∧ ∀ front back, text = front ++ '/' :: '/' :: back →
        (front.getLast?.or last).all Unicode.isBlank = false := by
  induction text generalizing last with
  | nil => simp [CleanAfter.nil]
  | cons c rest ih =>
      rw [cleanAfter_cons_iff, ih, List.infix_cons_iff, pair_prefix_cons_iff, not_or,
        opensLineComment_cStyle]
      constructor
      · rintro ⟨noBlock, noLine, noBlocks, noLines⟩
        refine ⟨⟨noBlock, noBlocks⟩, ?_⟩
        intro front back split
        cases front with
        | nil =>
            cases split
            simpa using noLine
        | cons d front =>
            cases split
            have before := noLines front back rfl
            rw [List.getLast?_cons]
            cases behind : front.getLast? <;> simpa [behind] using before
      · rintro ⟨⟨noBlock, noBlocks⟩, noLines⟩
        refine ⟨noBlock, ?_, noBlocks, ?_⟩
        · by_contra opens
          simp only [Bool.not_eq_false, Bool.and_eq_true, beq_iff_eq] at opens
          rcases opens with ⟨⟨rfl, slash⟩, blank⟩
          rcases List.head?_eq_some_iff.1 slash with ⟨back, rfl⟩
          have atStart := noLines [] back rfl
          simp [blank] at atStart
        · intro front back split
          have before := noLines (c :: front) back (by rw [split, List.cons_append])
          rw [List.getLast?_cons] at before
          cases behind : front.getLast? <;> simpa [behind] using before

theorem cleanAfter_none_iff {text : List Char} : CleanAfter none text ↔ Clean text := by
  have nonblank : ∀ front : List Char, (front.getLast?.or none).all Unicode.isBlank = false ↔
      ∃ before c, front = before ++ [c] ∧ Unicode.isBlank c = false := by
    intro front
    rw [Option.or_none]
    constructor
    · intro decides
      cases behind : front.getLast? with
      | none => simp [behind] at decides
      | some c =>
          rcases List.getLast?_eq_some_iff.1 behind with ⟨before, rfl⟩
          exact ⟨before, c, rfl, by simpa [behind] using decides⟩
    · rintro ⟨before, c, rfl, notBlank⟩
      simp [notBlank]
  rw [cleanAfter_iff]
  simp only [nonblank]
  exact ⟨fun clean => ⟨clean.1, clean.2⟩, fun clean => ⟨clean.noBlock, clean.noLine⟩⟩

section BehindSlash

variable {rest : List Char} {c : Char}

/-- A block comment behind a slash does not bring the slash together with a slash or a star. -/
theorem head?_stripFrom_block (follows : followsSlash c = true) :
    (stripFrom cStyle true (some '/') rest).head? ≠ some c := by
  have notBreak : ∀ body more, (breaks body ++ more).head? = some c → breaks body = [] := by
    intro body more head
    cases newlines : breaks body with
    | nil => rfl
    | cons d later =>
        have isNewline : d = '\n' := eq_newline_of_mem_breaks (newlines ▸ List.mem_cons_self)
        rw [newlines, List.cons_append, List.head?_cons, Option.some.injEq, isNewline] at head
        subst head
        exact absurd follows (by decide)
  intro head
  by_cases unclosed : isBody rest = true
  · rw [stripFrom_unclosed unclosed] at head
    rw [notBreak rest [] (by simpa using head)] at head
    simp at head
  · rcases exists_body (by simpa using unclosed) with ⟨body, after, rfl, noClosing⟩
    rw [stripFrom_closed noClosing] at head
    have nothing := notBreak _ _ head
    have inLine : '\n' ∉ body := by
      intro newline
      have kept : '\n' ∈ breaks body := List.mem_filter.2 ⟨newline, rfl⟩
      simp [nothing] at kept
    rw [nothing, List.nil_append, lastKept, if_neg inLine] at head
    split at head <;> rename_i fused
    · rw [List.head?_cons, Option.some.injEq] at head
      subst head
      exact absurd follows (by decide)
    · cases after with
      | nil =>
          rw [stripFrom] at head
          simp at head
      | cons d more =>
          have apart : followsSlash d = false := by simpa [fuses] using fused
          have notSlash : d ≠ '/' := by
            rintro rfl
            exact absurd apart (by decide)
          rw [stripFrom_outside (fun opening => notSlash opening.1), opensLineComment_cStyle,
            if_neg (by simp [notSlash]), List.head?_cons, Option.some.injEq] at head
          rw [head, follows] at apart
          simp at apart

/-- Behind a kept slash, a slash or a star is kept only where it stands right there in the text. -/
theorem head?_of_head?_stripFrom (follows : followsSlash c = true)
    (head : (stripFrom cStyle false (some '/') rest).head? = some c) : rest.head? = some c := by
  cases rest with
  | nil =>
      rw [stripFrom] at head
      simp at head
  | cons d more =>
      by_cases opening : d = '/' ∧ more.head? = some '*'
      · rcases opening with ⟨rfl, star⟩
        rcases List.head?_eq_some_iff.1 star with ⟨inside, rfl⟩
        rw [stripFrom_opening] at head
        exact absurd head (head?_stripFrom_block follows)
      · have slashIsNoBlank : Unicode.isBlank '/' = false := by decide
        rw [stripFrom_outside opening, opensLineComment_cStyle,
          if_neg (by simp [slashIsNoBlank])] at head
        exact head

end BehindSlash

/-- What the loop keeps is clean behind the last character that it kept before. -/
theorem cleanAfter_stripFrom (inBlock : Bool) (last : Option Char) (text : List Char) :
    CleanAfter last (stripFrom cStyle inBlock last text) := by
  fun_induction stripFrom cStyle inBlock last text with
  | case1 => exact .nil
  | case2 inBlock last c rest turn ih =>
      have spaced : ∀ {last kept}, CleanAfter (some ' ') kept → CleanAfter last (' ' :: kept) :=
        fun later => .cons (by simp) (by simp [opensLineComment_cStyle]) later
      have broken : ∀ {last kept}, CleanAfter (some '\n') kept → CleanAfter last ('\n' :: kept) :=
        fun later => .cons (by simp) (by simp [opensLineComment_cStyle]) later
      cases inBlock with
      | true =>
          by_cases closes : c = '*' ∧ rest.head? = some '/'
          · rcases closes with ⟨rfl, slash⟩
            rcases List.head?_eq_some_iff.1 slash with ⟨after, rfl⟩
            simp only [turn, step_closing] at ih ⊢
            split at ih <;> rename_i fused
            · rw [if_pos fused]
              exact spaced ih
            · rw [if_neg fused]
              exact ih
          · simp only [turn, step_inside closes] at ih ⊢
            split at ih <;> rename_i newline
            · rw [if_pos newline]
              exact broken ih
            · rw [if_neg newline]
              exact ih
      | false =>
          by_cases opening : c = '/' ∧ rest.head? = some '*'
          · rcases opening with ⟨rfl, star⟩
            rcases List.head?_eq_some_iff.1 star with ⟨inside, rfl⟩
            exact ih
          · simp only [turn, step_outside opening] at ih ⊢
            split at ih <;> rename_i opens
            · rw [if_pos opens]
              exact ih
            · rw [if_neg opens]
              refine .cons ?_ ?_ ih
              · rintro ⟨rfl, star⟩
                exact opening ⟨rfl, head?_of_head?_stripFrom (by decide) star⟩
              · rw [opensLineComment_cStyle] at opens ⊢
                by_contra arises
                simp only [Bool.not_eq_false, Bool.and_eq_true, beq_iff_eq] at arises
                rcases arises with ⟨⟨rfl, slash⟩, blank⟩
                apply opens
                simp [head?_of_head?_stripFrom (by decide) slash, blank]

/-- The loop keeps a clean text as it is. -/
theorem stripFrom_of_cleanAfter {last : Option Char} {text : List Char}
    (clean : CleanAfter last text) : stripFrom cStyle false last text = text := by
  induction clean with
  | nil => rw [stripFrom]
  | cons noBlock noLine _ ih =>
      rw [stripFrom_outside noBlock, if_neg (by simp [noLine]), ih]

theorem clean_strip (text : List Char) : Clean (strip cStyle text) :=
  cleanAfter_none_iff.1 (cleanAfter_stripFrom false none text)

theorem strip_eq_of_clean {text : List Char} (clean : Clean text) : strip cStyle text = text :=
  stripFrom_of_cleanAfter (cleanAfter_none_iff.2 clean)

/--
The clean texts are the results of stripping, and they are the texts that stripping leaves as they
are. So stripping a second time changes nothing.
-/
theorem strip_image_and_fixed_points (text : List Char) :
    Clean (strip cStyle text) ∧ (strip cStyle text = text ↔ Clean text) ∧
      ((∃ original, strip cStyle original = text) ↔ Clean text) ∧
      strip cStyle (strip cStyle text) = strip cStyle text := by
  refine ⟨clean_strip text, ⟨?_, strip_eq_of_clean⟩, ⟨?_, ?_⟩, strip_eq_of_clean (clean_strip text)⟩
  · intro unchanged
    rw [← unchanged]
    exact clean_strip text
  · rintro ⟨original, rfl⟩
    exact clean_strip original
  · intro clean
    exact ⟨text, strip_eq_of_clean clean⟩

-- A block between two slashes leaves a space, and the line comment behind it is dropped as well.
example : strip cStyle "a//*b*///c".toList = "a/ ".toList := by
  decide +kernel

end CrossArch.Comment
