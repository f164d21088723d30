import CrossArch.Comment
import CrossArch.Proofs.Text.Line
import Mathlib.Data.List.Forall2
import Mathlib.Data.List.TakeWhile

/-!
# Stripping keeps lines

Stripping a text may drop characters and may insert spaces, but it neither drops nor inserts a
newline. `Thinned` is that relation between a result and its text. Each turn of the loop thins what
it reads, so the whole loop does, and a thinned text has the lines of the text, each of them without
some of its characters and with some more spaces.
-/

namespace CrossArch.Comment

/-- A text that results when characters other than newlines are dropped and spaces are inserted. -/
inductive Thinned : List Char → List Char → Prop where
  | nil : Thinned [] []
  | keep {kept text : List Char} (c : Char) (thinned : Thinned kept text) :
      Thinned (c :: kept) (c :: text)
  | drop {kept text : List Char} {c : Char} (notNewline : c ≠ '\n') (thinned : Thinned kept text) :
      Thinned kept (c :: text)
  | insertSpace {kept text : List Char} (thinned : Thinned kept text) :
      Thinned (' ' :: kept) text

/-- A text without its spaces. -/
def withoutSpaces (text : List Char) : List Char :=
  text.filter (· != ' ')

theorem withoutSpaces_cons (c : Char) (text : List Char) :
    withoutSpaces (c :: text) =
      if c = ' ' then withoutSpaces text else c :: withoutSpaces text := by
  simp [withoutSpaces, List.filter_cons]

namespace Thinned

theorem drop_append {kept text : List Char} (dropped : List Char) (noNewline : '\n' ∉ dropped)
    (thinned : Thinned kept text) : Thinned kept (dropped ++ text) := by
  induction dropped with
  | nil => exact thinned
  | cons c rest ih =>
      rw [List.mem_cons, not_or] at noNewline
      exact (ih noNewline.2).drop (Ne.symm noNewline.1)

theorem newlines_eq {kept text : List Char} (thinned : Thinned kept text) :
    Text.newlines kept = Text.newlines text := by
  induction thinned with
  | nil => rfl
  | @keep kept text c _ ih =>
      by_cases newline : c = '\n'
      · subst newline
        rw [Text.newlines_newline_cons, Text.newlines_newline_cons, ih]
      · rw [Text.newlines_cons newline, Text.newlines_cons newline, ih]
  | drop notNewline _ ih => rw [Text.newlines_cons notNewline, ih]
  | insertSpace _ ih => rw [Text.newlines_cons (by decide), ih]

/-- Line by line, a thinned text without its spaces is a subsequence of the text without its. -/
theorem lines_sublist {kept text : List Char} (thinned : Thinned kept text) :
    List.Forall₂ (fun keptLine line => (withoutSpaces keptLine).Sublist (withoutSpaces line))
      (Text.lines kept) (Text.lines text) := by
  induction thinned with
  | nil => exact .cons (List.Sublist.refl _) .nil
  | @keep kept text c _ ih =>
      by_cases newline : c = '\n'
      · subst newline
        rw [Text.lines_newline_cons, Text.lines_newline_cons]
        exact .cons (List.Sublist.refl _) ih
      · rcases Text.exists_lines_eq_cons kept with ⟨keptLine, keptLater, keptSame⟩
        rcases Text.exists_lines_eq_cons text with ⟨line, later, same⟩
        rw [keptSame, same] at ih
        rw [Text.lines_cons newline keptSame, Text.lines_cons newline same]
        rcases ih with _ | ⟨sublist, laterSublists⟩
        refine .cons ?_ laterSublists
        rw [withoutSpaces_cons, withoutSpaces_cons]
        split
        · exact sublist
        · exact sublist.cons_cons c
  | @drop kept text c notNewline _ ih =>
      rcases Text.exists_lines_eq_cons kept with ⟨keptLine, keptLater, keptSame⟩
      rcases Text.exists_lines_eq_cons text with ⟨line, later, same⟩
      rw [keptSame, same] at ih
      rw [keptSame, Text.lines_cons notNewline same]
      rcases ih with _ | ⟨sublist, laterSublists⟩
      refine .cons (sublist.trans ?_) laterSublists
      rw [withoutSpaces_cons]
      split
      · exact List.Sublist.refl _
      · exact List.sublist_cons_self c _
  | @insertSpace kept text _ ih =>
      rcases Text.exists_lines_eq_cons kept with ⟨keptLine, keptLater, keptSame⟩
      rcases Text.exists_lines_eq_cons text with ⟨line, later, same⟩
      rw [keptSame, same] at ih
      rw [Text.lines_cons (by decide) keptSame, same]
      rcases ih with _ | ⟨sublist, laterSublists⟩
      exact .cons sublist laterSublists

end Thinned

/-- The markers around block comments contain no newline. -/
def Style.BlockWithinLine (style : Style) : Prop :=
  ∀ markers, style.block = some markers → '\n' ∉ markers.opening ∧ '\n' ∉ markers.closing

section Loop

variable {style : Style} {kept : List Char}

/-- A turn inside a block comment thins what it reads. -/
theorem thinned_insideBlock (withinLine : style.BlockWithinLine) (last : Option Char) (c : Char)
    (rest : List Char) (thinned : Thinned kept (insideBlock style last c rest).2.rest) :
    Thinned ((insideBlock style last c rest).1 ++ kept) (c :: rest) := by
  unfold insideBlock at thinned ⊢
  split at thinned
  · rename_i after found
    rcases Option.bind_eq_some_iff.1 found with ⟨markers, block, closed⟩
    rw [Text.after?_eq_some_iff.1 closed]
    apply Thinned.drop_append _ (withinLine markers block).2
    split at thinned <;> rename_i fuses
    · rw [if_pos fuses]
      exact thinned.insertSpace
    · rw [if_neg fuses]
      exact thinned
  · split at thinned <;> rename_i newline
    · rw [if_pos newline, newline]
      exact thinned.keep '\n'
    · rw [if_neg newline]
      exact thinned.drop newline

/-- A turn outside block comments thins what it reads. -/
theorem thinned_outsideBlock (withinLine : style.BlockWithinLine) (last : Option Char) (c : Char)
    (rest : List Char) (thinned : Thinned kept (outsideBlock style last c rest).2.rest) :
    Thinned ((outsideBlock style last c rest).1 ++ kept) (c :: rest) := by
  unfold outsideBlock at thinned ⊢
  split at thinned
  · rename_i after found
    rcases Option.bind_eq_some_iff.1 found with ⟨markers, block, opened⟩
    rw [Text.after?_eq_some_iff.1 opened]
    exact thinned.drop_append _ (withinLine markers block).1
  · split at thinned <;> rename_i opens
    · rw [if_pos opens, ← List.takeWhile_append_dropWhile (p := (· != '\n')) (l := c :: rest)]
      apply Thinned.drop_append _ _ thinned
      intro newlineMem
      have := List.mem_takeWhile_imp newlineMem
      simp at this
    · rw [if_neg opens]
      exact thinned.keep c

/-- What the loop keeps of a text is the text, thinned. -/
theorem thinned_stripFrom (withinLine : style.BlockWithinLine) (inBlock : Bool)
    (last : Option Char) (text : List Char) :
    Thinned (stripFrom style inBlock last text) text := by
  fun_induction stripFrom style inBlock last text with
  | case1 => exact .nil
  | case2 inBlock last c rest turn ih =>
      cases inBlock with
      | true => exact thinned_insideBlock withinLine last c rest ih
      | false => exact thinned_outsideBlock withinLine last c rest ih

end Loop

/--
Stripping never shifts or mixes lines. The result has as many newlines as the text, and each line of
it without its spaces is a subsequence of the same line of the text without its spaces.
-/
theorem strip_keeps_lines (style : Style) (withinLine : style.BlockWithinLine) (text : List Char) :
    Text.newlines (strip style text) = Text.newlines text ∧
      List.Forall₂ (fun stripped line => (withoutSpaces stripped).Sublist (withoutSpaces line))
        (Text.lines (strip style text)) (Text.lines text) := by
  have thinned := thinned_stripFrom withinLine false none text
  exact ⟨thinned.newlines_eq, thinned.lines_sublist⟩

theorem cStyle_blockWithinLine : cStyle.BlockWithinLine := by
  intro markers block
  cases block
  decide

/-- A block comment over two lines, whose removal leaves a space, and a line comment. -/
theorem strip_keeps_lines_cStyle :
    cStyle.BlockWithinLine ∧
      Text.newlines (strip cStyle "a//*\n*/*b\nc // d".toList) = 2 ∧
      List.Forall₂ (fun stripped line => (withoutSpaces stripped).Sublist (withoutSpaces line))
        (Text.lines (strip cStyle "a//*\n*/*b\nc // d".toList))
        (Text.lines "a//*\n*/*b\nc // d".toList) :=
  ⟨cStyle_blockWithinLine,
    strip_keeps_lines cStyle cStyle_blockWithinLine "a//*\n*/*b\nc // d".toList⟩

end CrossArch.Comment
