import CrossArch.Proofs.Comment.Lines
import Mathlib.Data.Nat.Init

/-!
# Line comments alone

A style without block comments has a loop that is never inside one. If its marker contains no
newline, no turn looks past the end of a line, and of what was kept before a line the loop only
knows that it ended in a blank. So the loop starts anew on every line.
-/

namespace CrossArch.Comment

/-- A style without block comments, whose line marker contains no newline. -/
structure Style.LineCommentsOnly (style : Style) : Prop where
  noBlocks : style.block = none
  inLine : '\n' ∉ style.lineMarker

theorem makeStyle_lineCommentsOnly : makeStyle.LineCommentsOnly :=
  ⟨rfl, by decide⟩

theorem newlines_strip_of_lineCommentsOnly {style : Style} (lineOnly : style.LineCommentsOnly)
    (text : List Char) : Text.newlines (strip style text) = Text.newlines text := by
  apply Thinned.newlines_eq
  apply thinned_stripFrom
  intro markers block
  rw [lineOnly.noBlocks] at block
  contradiction

section Turn

variable {style : Style} (lineOnly : style.LineCommentsOnly) (last : Option Char)

include lineOnly in
/-- A turn drops a line comment or keeps a character. -/
theorem stripFrom_cons_of_lineCommentsOnly (c : Char) (rest : List Char) :
    stripFrom style false last (c :: rest) =
      if opensLineComment style.lineMarker last (c :: rest) then
        stripFrom style false last ((c :: rest).dropWhile (· != '\n'))
      else c :: stripFrom style false (some c) rest := by
  have turn : step style false last c rest =
      if opensLineComment style.lineMarker last (c :: rest) then
        ([], ⟨false, last, (c :: rest).dropWhile (· != '\n')⟩)
      else ([c], ⟨false, some c, rest⟩) := by
    simp [step, outsideBlock, lineOnly.noBlocks]
  rw [stripFrom, turn]
  split <;> rfl

theorem opensLineComment_newline_cons (back : List Char) :
    opensLineComment style.lineMarker last ('\n' :: back) = false := by
  have startsInLine := style.startsInLine
  cases marker : style.lineMarker with
  | nil => rfl
  | cons m more =>
      have notNewline : m ≠ '\n' := by simpa [marker] using startsInLine
      simp [opensLineComment, Text.startsWith, Text.after?, notNewline]

include lineOnly in
/-- Whether a line comment opens does not depend on what follows the line. -/
theorem opensLineComment_append_of_inLine (c : Char) (rest back : List Char) :
    opensLineComment style.lineMarker last (c :: rest ++ '\n' :: back) =
      opensLineComment style.lineMarker last (c :: rest) := by
  have marked : Text.startsWith (c :: rest ++ '\n' :: back) style.lineMarker =
      Text.startsWith (c :: rest) style.lineMarker := by
    rw [Text.startsWith, Text.after?_append_newline lineOnly.inLine, Option.isSome_map,
      Text.startsWith]
  have followed : ((c :: rest ++ '\n' :: back).tail.head? == some '=') =
      ((c :: rest).tail.head? == some '=') := by
    cases rest <;> simp
  rw [opensLineComment, opensLineComment, marked, followed]

include lineOnly in
/-- Of what was kept before, only whether it ended in a blank counts. -/
theorem stripFrom_eq_of_blank_eq {last last' : Option Char}
    (same : last.all Unicode.isBlank = last'.all Unicode.isBlank) (text : List Char) :
    stripFrom style false last text = stripFrom style false last' text := by
  induction size : text.length using Nat.strong_induction_on generalizing text with
  | _ size' ih =>
      subst size
      cases text with
      | nil => rw [stripFrom, stripFrom]
      | cons c rest =>
          have sameMarker : opensLineComment style.lineMarker last (c :: rest) =
              opensLineComment style.lineMarker last' (c :: rest) := by
            rw [opensLineComment, opensLineComment, same]
          rw [stripFrom_cons_of_lineCommentsOnly lineOnly,
            stripFrom_cons_of_lineCommentsOnly lineOnly, sameMarker]
          split <;> rename_i opens
          · exact ih _ (length_dropLineComment_lt style last' c rest opens) _ rfl
          · rfl

end Turn

section Lines

variable {style : Style} (lineOnly : style.LineCommentsOnly)
include lineOnly

/-- A newline is kept, and behind it the loop starts anew. -/
theorem stripFrom_newline_of_lineCommentsOnly (last : Option Char) (back : List Char) :
    stripFrom style false last ('\n' :: back) = '\n' :: strip style back := by
  have newlineIsBlank : Unicode.isBlank '\n' = true := by decide
  rw [stripFrom_cons_of_lineCommentsOnly lineOnly, opensLineComment_newline_cons,
    if_neg Bool.false_ne_true, strip]
  congr 1
  apply stripFrom_eq_of_blank_eq lineOnly
  simp [newlineIsBlank]

theorem stripFrom_append_of_lineCommentsOnly (last : Option Char) (front back : List Char) :
    stripFrom style false last (front ++ '\n' :: back) =
      stripFrom style false last front ++ '\n' :: strip style back := by
  induction size : front.length using Nat.strong_induction_on generalizing front last with
  | _ size' ih =>
      subst size
      cases front with
      | nil =>
          rw [List.nil_append, stripFrom_newline_of_lineCommentsOnly lineOnly, stripFrom]
          rfl
      | cons c rest =>
          have turn := stripFrom_cons_of_lineCommentsOnly lineOnly last c (rest ++ '\n' :: back)
          rw [← List.cons_append, opensLineComment_append_of_inLine lineOnly,
            Text.dropWhile_append_stop (by decide)] at turn
          rw [turn, stripFrom_cons_of_lineCommentsOnly lineOnly]
          split <;> rename_i opens
          · exact ih _ (length_dropLineComment_lt style last c rest opens) last _ rfl
          · rw [ih _ (by simp) (some c) rest rfl, List.cons_append]

/-- Every line is stripped by itself. -/
theorem strip_append_of_lineCommentsOnly (front back : List Char) :
    strip style (front ++ '\n' :: back) = strip style front ++ '\n' :: strip style back :=
  stripFrom_append_of_lineCommentsOnly lineOnly none front back

end Lines

end CrossArch.Comment
