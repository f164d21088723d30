import CrossArch.Comment
import Mathlib.Data.List.Infix
import Mathlib.Tactic.Common

/-!
# The loop makes progress

Not every turn of the loop reads something: where a marker is empty, a block comment opens or closes
without a character being read. Such a turn changes the mode, and the turn after it would have to
leave the other mode in the same way, so that both markers would be empty. So of any two turns in a
row one reads a character, and the loop ends after at most two turns for each character.
-/

namespace CrossArch.Comment

/-- A turn of the loop in front of a character, with the characters that it keeps. -/
inductive Advances (style : Style) : Cursor → List Char → Cursor → Prop where
  | turn (inBlock : Bool) (last : Option Char) (c : Char) (rest : List Char) :
      Advances style ⟨inBlock, last, c :: rest⟩ (step style inBlock last c rest).1
        (step style inBlock last c rest).2

/-- From a cursor, the loop comes to the end of the text after a number of turns. -/
inductive Ends (style : Style) : Cursor → Nat → List Char → Prop where
  | atEnd (inBlock : Bool) (last : Option Char) : Ends style ⟨inBlock, last, []⟩ 0 []
  | turn {cursor next : Cursor} {kept later : List Char} {turns : Nat}
      (advances : Advances style cursor kept next) (ends : Ends style next turns later) :
      Ends style cursor (turns + 1) (kept ++ later)

/-- Whether the marker that ends a mode is empty. -/
def Style.leavesSilently (style : Style) (inBlock : Bool) : Bool :=
  style.block.any fun markers => (if inBlock then markers.closing else markers.opening).isEmpty

/-- What a turn reads, and why it may read nothing. -/
structure Progress (style : Style) (cursor next : Cursor) : Prop where
  suffix : next.rest <:+ cursor.rest
  silent : next.rest = cursor.rest →
    next.inBlock = !cursor.inBlock ∧ style.leavesSilently cursor.inBlock = true

section Turn

variable {style : Style} {last : Option Char} {c : Char} {rest : List Char}

theorem progress_of_shorter {cursor next : Cursor} (suffix : next.rest <:+ cursor.rest)
    (shorter : next.rest.length < cursor.rest.length) : Progress style cursor next := by
  refine ⟨suffix, ?_⟩
  intro same
  rw [same] at shorter
  exact absurd shorter (Nat.lt_irrefl _)

/-- A marker that is read leads to the other mode, and if nothing is read it is empty. -/
theorem progress_of_marker {cursor next : Cursor} {markers : BlockMarkers}
    (block : style.block = some markers)
    (read : Text.after? (if cursor.inBlock then markers.closing else markers.opening) cursor.rest =
      some next.rest)
    (flips : next.inBlock = !cursor.inBlock) : Progress style cursor next := by
  have split := Text.after?_eq_some_iff.1 read
  refine ⟨⟨_, split.symm⟩, ?_⟩
  intro same
  refine ⟨flips, ?_⟩
  rw [same] at split
  have empty := List.self_eq_append_left.1 split
  simp [Style.leavesSilently, block, empty]

theorem progress_insideBlock :
    Progress style ⟨true, last, c :: rest⟩ (insideBlock style last c rest).2 := by
  unfold insideBlock
  split
  · rename_i after found
    rcases Option.bind_eq_some_iff.1 found with ⟨markers, block, closed⟩
    split
    · exact progress_of_marker block closed rfl
    · exact progress_of_marker block closed rfl
  · split
    · exact progress_of_shorter (List.suffix_cons c rest) (by simp)
    · exact progress_of_shorter (List.suffix_cons c rest) (by simp)

theorem progress_outsideBlock :
    Progress style ⟨false, last, c :: rest⟩ (outsideBlock style last c rest).2 := by
  unfold outsideBlock
  split
  · rename_i after found
    rcases Option.bind_eq_some_iff.1 found with ⟨markers, block, opened⟩
    exact progress_of_marker block opened rfl
  · split
    · rename_i opens
      exact progress_of_shorter (List.dropWhile_suffix _)
        (length_dropLineComment_lt style last c rest opens)
    · exact progress_of_shorter (List.suffix_cons c rest) (by simp)

variable {first second third : Cursor} {kept kept' : List Char}

theorem Advances.progress (advances : Advances style first kept second) :
    Progress style first second := by
  cases advances with
  | turn inBlock last c rest =>
      cases inBlock with
      | true => exact progress_insideBlock
      | false => exact progress_outsideBlock

theorem Style.not_leavesSilently_both (style : Style) (inBlock : Bool)
    (silent : style.leavesSilently inBlock = true) : style.leavesSilently (!inBlock) = false := by
  unfold Style.leavesSilently at *
  cases block : style.block with
  | none => simp
  | some markers =>
      have notBoth := markers.notBothEmpty
      cases inBlock <;> simp_all

theorem Advances.not_silent_twice (advances : Advances style first kept second)
    (advances' : Advances style second kept' third) :
    ¬(second.rest = first.rest ∧ third.rest = second.rest) := by
  rintro ⟨same, same'⟩
  rcases advances.progress.silent same with ⟨flips, silent⟩
  rcases advances'.progress.silent same' with ⟨-, silent'⟩
  rw [flips, style.not_leavesSilently_both _ silent] at silent'
  contradiction

theorem Advances.shorter_or_same (advances : Advances style first kept second) :
    second.rest.length < first.rest.length ∨ second.rest = first.rest := by
  rcases Nat.lt_or_ge second.rest.length first.rest.length with shorter | longer
  · exact Or.inl shorter
  · exact Or.inr (advances.progress.suffix.eq_of_length_le longer)

theorem exists_advances (cursor : Cursor) (more : cursor.rest ≠ []) :
    ∃ kept next, Advances style cursor kept next ∧
      stripFrom style cursor.inBlock cursor.last cursor.rest =
        kept ++ stripFrom style next.inBlock next.last next.rest := by
  rcases cursor with ⟨inBlock, last, text⟩
  cases text with
  | nil => exact absurd rfl more
  | cons c rest => exact ⟨_, _, .turn inBlock last c rest, by rw [stripFrom]⟩

end Turn

theorem exists_ends (style : Style) (cursor : Cursor) :
    ∃ turns, turns ≤ 2 * cursor.rest.length ∧
      Ends style cursor turns (stripFrom style cursor.inBlock cursor.last cursor.rest) := by
  -- The induction is on what is left to read; it is used behind the first turn that reads
  -- something.
  induction size : cursor.rest.length using Nat.strong_induction_on generalizing cursor with
  | _ size' ih =>
      subst size
      by_cases more : cursor.rest = []
      · rcases cursor with ⟨inBlock, last, text⟩
        have empty : text = [] := more
        subst empty
        exact ⟨0, Nat.le_refl 0, by simpa [stripFrom] using Ends.atEnd inBlock last⟩
      · rcases exists_advances cursor more with ⟨kept, next, advances, stripped⟩
        rw [stripped]
        rcases advances.shorter_or_same with shorter | same
        · rcases ih _ shorter next rfl with ⟨turns, few, ends⟩
          exact ⟨turns + 1, by omega, .turn advances ends⟩
        · have more' : next.rest ≠ [] := by rwa [same]
          rcases exists_advances next more' with ⟨kept', third, advances', stripped'⟩
          have shorter : third.rest.length < cursor.rest.length := by
            rcases advances'.shorter_or_same with shorter | same'
            · rwa [← same]
            · exact absurd ⟨same, same'⟩ (advances.not_silent_twice advances')
          rcases ih _ shorter third rfl with ⟨turns, few, ends⟩
          rw [stripped']
          exact ⟨turns + 2, by omega, .turn advances (.turn advances' ends)⟩

/--
The loop ends on every text, after at most two turns for each character, and what it keeps on the
way is the text without its comments. Each turn reads from the front of what is left or changes the
mode, and no two turns in a row read nothing.
-/
theorem strip_ends_by_progress (style : Style) :
    (∀ cursor kept next, Advances style cursor kept next →
      next.rest <:+ cursor.rest ∧
        (next.rest.length < cursor.rest.length ∨ next.inBlock = !cursor.inBlock)) ∧
    (∀ first kept second kept' third, Advances style first kept second →
      Advances style second kept' third → ¬(second.rest = first.rest ∧ third.rest = second.rest)) ∧
    ∀ text, ∃ turns, turns ≤ 2 * text.length ∧
      Ends style ⟨false, none, text⟩ turns (strip style text) := by
  refine ⟨?_, ?_, ?_⟩
  · intro cursor kept next advances
    refine ⟨advances.progress.suffix, ?_⟩
    rcases advances.shorter_or_same with shorter | same
    · exact Or.inl shorter
    · exact Or.inr (advances.progress.silent same).1
  · intro first kept second kept' third advances advances'
    exact advances.not_silent_twice advances'
  · intro text
    exact exists_ends style ⟨false, none, text⟩

end CrossArch.Comment
