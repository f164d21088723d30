import CrossArch.Proofs.Comment.Cursor

/-!
# Resuming at a line break

No turn of the loop reads over the end of a line together with what stands before it, and none looks
past a newline. So a text may be cut at a newline: what the loop keeps before the newline does not
depend on what follows, and behind it the loop goes on inside a block comment or as it does at the
start of a text.
-/

namespace CrossArch.Comment

/-- Whether the loop ends inside a block comment when it has read a text. -/
def endsInBlock (text : List Char) : Bool :=
  (cursorAt cStyle 0 false none text).inBlock

section BeforeNewline

variable (last : Option Char) (rest back : List Char)

theorem head?_append_newline_eq_iff {c : Char} (notNewline : c ≠ '\n') :
    (rest ++ '\n' :: back).head? = some c ↔ rest.head? = some c := by
  cases rest <;> simp [notNewline.symm]

theorem fuses_append_newline : fuses last (rest ++ '\n' :: back) = fuses last rest := by
  have notPiece : followsSlash '\n' = false := by decide
  cases rest <;> simp [fuses, notPiece]

theorem opensLineComment_append_newline (c : Char) :
    opensLineComment cStyle.lineMarker last (c :: (rest ++ '\n' :: back)) =
      opensLineComment cStyle.lineMarker last (c :: rest) := by
  rw [opensLineComment_cStyle, opensLineComment_cStyle]
  cases rest <;> simp

/-- A turn before a newline does not depend on what follows from the newline on. -/
theorem step_append_newline (inBlock : Bool) (c : Char) :
    step cStyle inBlock last c (rest ++ '\n' :: back) =
      ((step cStyle inBlock last c rest).1,
        ⟨(step cStyle inBlock last c rest).2.inBlock, (step cStyle inBlock last c rest).2.last,
          (step cStyle inBlock last c rest).2.rest ++ '\n' :: back⟩) := by
  cases inBlock with
  | true =>
      by_cases closes : c = '*' ∧ rest.head? = some '/'
      · rcases closes with ⟨rfl, slash⟩
        rcases List.head?_eq_some_iff.1 slash with ⟨after, rfl⟩
        rw [List.cons_append, step_closing, step_closing, fuses_append_newline]
        split <;> rfl
      · have staysOpen : ¬(c = '*' ∧ (rest ++ '\n' :: back).head? = some '/') := by
          rwa [head?_append_newline_eq_iff _ _ (by decide)]
        rw [step_inside staysOpen, step_inside closes]
        split <;> rfl
  | false =>
      by_cases opening : c = '/' ∧ rest.head? = some '*'
      · rcases opening with ⟨rfl, star⟩
        rcases List.head?_eq_some_iff.1 star with ⟨inside, rfl⟩
        rfl
      · have notOpening : ¬(c = '/' ∧ (rest ++ '\n' :: back).head? = some '*') := by
          rwa [head?_append_newline_eq_iff _ _ (by decide)]
        rw [step_outside notOpening, step_outside opening, opensLineComment_append_newline,
          ← List.cons_append, Text.dropWhile_append_stop (by decide)]
        split <;> rfl

end BeforeNewline

/-- The loop reads a text as if it ended before the newline, and goes on from where it then
stands. -/
theorem stripFrom_append_newline (inBlock : Bool) (last : Option Char) (front back : List Char) :
    stripFrom cStyle inBlock last (front ++ '\n' :: back) =
      stripFrom cStyle inBlock last front ++
        stripFrom cStyle (cursorAt cStyle 0 inBlock last front).inBlock
          (cursorAt cStyle 0 inBlock last front).last ('\n' :: back) := by
  fun_induction stripFrom cStyle inBlock last front with
  | case1 =>
      rw [cursorAt]
      rfl
  | case2 inBlock last c rest turn ih =>
      rw [List.cons_append, stripFrom, step_append_newline, cursorAt_cons (Nat.zero_le _),
        List.append_assoc, ← ih]

/-- A kept newline decides about what follows as the start of a text does. -/
theorem stripFrom_behind_newline (inBlock : Bool) (text : List Char) :
    stripFrom cStyle inBlock (some '\n') text = stripFrom cStyle inBlock none text := by
  generalize start : (none : Option Char) = last
  fun_induction stripFrom cStyle inBlock last text with
  | case1 => rw [stripFrom]
  | case2 inBlock last c rest turn ih =>
      subst start
      rw [stripFrom]
      cases inBlock with
      | true =>
          by_cases closes : c = '*' ∧ rest.head? = some '/'
          · rcases closes with ⟨rfl, slash⟩
            rcases List.head?_eq_some_iff.1 slash with ⟨after, rfl⟩
            have apart : fuses none after = false := rfl
            simp only [turn, step_closing, not_fuses_newline, apart] at ih ⊢
            exact ih rfl
          · simp only [turn, step_inside closes] at ih ⊢
            split at ih <;> rename_i newline
            · simp [newline]
            · simpa [newline] using ih
      | false =>
          by_cases opening : c = '/' ∧ rest.head? = some '*'
          · rcases opening with ⟨rfl, star⟩
            rcases List.head?_eq_some_iff.1 star with ⟨inside, rfl⟩
            exact ih rfl
          · have newlineIsBlank : Unicode.isBlank '\n' = true := by decide
            have sameMarker : opensLineComment cStyle.lineMarker (some '\n') (c :: rest) =
                opensLineComment cStyle.lineMarker none (c :: rest) := by
              simp [opensLineComment_cStyle, newlineIsBlank]
            simp only [turn, step_outside opening, sameMarker] at ih ⊢
            split at ih <;> rename_i opens
            · simpa [opens] using ih
            · simp [opens]

/-- Outside block comments a newline is kept, and the loop starts anew behind it. -/
theorem stripFrom_false_newline (last : Option Char) (back : List Char) :
    stripFrom cStyle false last ('\n' :: back) = '\n' :: strip cStyle back := by
  rw [stripFrom_outside (by simp), opensLineComment_cStyle, if_neg (by simp), strip,
    stripFrom_behind_newline]

/-- Inside a block comment a newline is kept, and what was kept before it no longer counts. -/
theorem stripFrom_true_newline (last : Option Char) (back : List Char) :
    stripFrom cStyle true last ('\n' :: back) = strip cStyle ('/' :: '*' :: '\n' :: back) := by
  rw [strip, stripFrom_opening, stripFrom_inside (by simp), stripFrom_inside (by simp), if_pos rfl,
    if_pos rfl]

/--
Stripping can be resumed at any newline. If the text before it ends outside block comments, what
follows is stripped by itself; if it ends inside one, what follows is stripped as if a block comment
opened before the newline.
-/
theorem strip_append_newline (front back : List Char) :
    strip cStyle (front ++ '\n' :: back) =
      strip cStyle front ++
        if endsInBlock front then strip cStyle ('/' :: '*' :: '\n' :: back)
        else '\n' :: strip cStyle back := by
  have resumed := stripFrom_append_newline false none front back
  rw [← strip, ← strip] at resumed
  rw [resumed, endsInBlock]
  cases (cursorAt cStyle 0 false none front).inBlock with
  | true => simp [stripFrom_true_newline]
  | false => simp [stripFrom_false_newline]

end CrossArch.Comment
