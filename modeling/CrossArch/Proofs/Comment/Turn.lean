import CrossArch.Proofs.Comment.LineMarker
import CrossArch.Proofs.Text.Front

/-!
# Turns of the loop for any markers

`Turn` says once what a turn can do when the style has block comments and none of its markers is
empty or contains a blank. What holds of the loop for all such markers follows from the cases of
`Turn`, by the induction `stripFrom_induction`.
-/

namespace CrossArch.Comment

/-- A marker as languages have them: it is not empty and contains no blank. -/
structure IsMarker (marker : List Char) : Prop where
  nonempty : marker ≠ []
  noBlank : ∀ c ∈ marker, Unicode.isBlank c = false

instance (marker : List Char) : Decidable (IsMarker marker) :=
  decidable_of_iff (marker ≠ [] ∧ marker.all (fun c => !Unicode.isBlank c) = true)
    ⟨fun ⟨nonempty, noBlank⟩ => ⟨nonempty, by simpa using noBlank⟩,
      fun ⟨nonempty, noBlank⟩ => ⟨nonempty, by simpa using noBlank⟩⟩

/-- A style with line comments, and with block comments between the given markers. -/
structure Style.HasMarkers (style : Style) (markers : BlockMarkers) : Prop where
  block : style.block = some markers
  line : IsMarker style.lineMarker
  opening : IsMarker markers.opening
  closing : IsMarker markers.closing

/-- Whether a space is left when a block comment between `last` and `after` is dropped. -/
def Style.leavesSpace (style : Style) (last : Option Char) (after : List Char) : Bool :=
  (style.block.any fun markers => fusesMarker last after markers.opening) ||
    fusesMarker last after style.lineMarker

/-- What a turn can do: the characters that it keeps of a text, and where the loop stands then. -/
inductive Turn (style : Style) (markers : BlockMarkers) :
    Bool → Option Char → List Char → List Char → Cursor → Prop where
  | opens {last : Option Char} {text after : List Char} (found : text = markers.opening ++ after) :
      Turn style markers false last text [] ⟨true, last, after⟩
  | skipsLine {last : Option Char} {c : Char} {rest : List Char}
      (noBlock : ¬markers.opening <+: c :: rest)
      (marked : opensLineComment style.lineMarker last (c :: rest) = true) :
      Turn style markers false last (c :: rest) []
        ⟨false, last, (c :: rest).dropWhile (· != '\n')⟩
  | keeps {last : Option Char} {c : Char} {rest : List Char}
      (noBlock : ¬markers.opening <+: c :: rest)
      (unmarked : opensLineComment style.lineMarker last (c :: rest) = false) :
      Turn style markers false last (c :: rest) [c] ⟨false, some c, rest⟩
  | closes {last : Option Char} {text after : List Char} (found : text = markers.closing ++ after)
      (apart : style.leavesSpace last after = false) :
      Turn style markers true last text [] ⟨false, last, after⟩
  | closesFused {last : Option Char} {text after : List Char}
      (found : text = markers.closing ++ after) (fused : style.leavesSpace last after = true) :
      Turn style markers true last text [' '] ⟨false, some ' ', after⟩
  | keepsNewline {last : Option Char} {rest : List Char}
      (unclosed : ¬markers.closing <+: '\n' :: rest) :
      Turn style markers true last ('\n' :: rest) ['\n'] ⟨true, some '\n', rest⟩
  | drops {last : Option Char} {c : Char} {rest : List Char}
      (unclosed : ¬markers.closing <+: c :: rest) (notNewline : c ≠ '\n') :
      Turn style markers true last (c :: rest) [] ⟨true, last, rest⟩

section Steps

variable {style : Style} {markers : BlockMarkers}

theorem exists_turn (inBlock : Bool) (last : Option Char) (c : Char) (rest : List Char) :
    ∃ kept cursor, Turn style markers inBlock last (c :: rest) kept cursor := by
  cases inBlock with
  | true =>
      by_cases closed : markers.closing <+: c :: rest
      · rcases closed with ⟨after, found⟩
        cases fused : style.leavesSpace last after with
        | true => exact ⟨_, _, .closesFused found.symm fused⟩
        | false => exact ⟨_, _, .closes found.symm fused⟩
      · by_cases newline : c = '\n'
        · subst newline
          exact ⟨_, _, .keepsNewline closed⟩
        · exact ⟨_, _, .drops closed newline⟩
  | false =>
      by_cases opened : markers.opening <+: c :: rest
      · rcases opened with ⟨after, found⟩
        exact ⟨_, _, .opens found.symm⟩
      · cases line : opensLineComment style.lineMarker last (c :: rest) with
        | true => exact ⟨_, _, .skipsLine opened line⟩
        | false => exact ⟨_, _, .keeps opened line⟩

variable (marked : style.HasMarkers markers)
include marked

theorem leavesSpace_eq (last : Option Char) (after : List Char) :
    style.leavesSpace last after =
      (fusesMarker last after markers.opening || fusesMarker last after style.lineMarker) := by
  simp [Style.leavesSpace, marked.block]

theorem Turn.step_eq {inBlock : Bool} {last : Option Char} {c : Char} {rest kept : List Char}
    {cursor : Cursor} (turn : Turn style markers inBlock last (c :: rest) kept cursor) :
    step style inBlock last c rest = (kept, cursor) := by
  cases turn with
  | opens found =>
      have opened := Text.after?_eq_some_iff.2 found
      simp [step, outsideBlock, marked.block, opened]
  | skipsLine noBlock opens =>
      have unopened := Text.after?_eq_none_iff.2 noBlock
      simp [step, outsideBlock, marked.block, unopened, opens]
  | keeps noBlock unmarked =>
      have unopened := Text.after?_eq_none_iff.2 noBlock
      simp [step, outsideBlock, marked.block, unopened, unmarked]
  | closes found apart =>
      have closed := Text.after?_eq_some_iff.2 found
      rw [leavesSpace_eq marked] at apart
      simp only [step, insideBlock, marked.block, Option.bind_some, closed, Option.any_some, apart,
        if_pos, Bool.false_eq_true, if_false]
  | closesFused found fused =>
      have closed := Text.after?_eq_some_iff.2 found
      rw [leavesSpace_eq marked] at fused
      simp only [step, insideBlock, marked.block, Option.bind_some, closed, Option.any_some, fused,
        if_pos]
  | keepsNewline unclosed =>
      have unfound := Text.after?_eq_none_iff.2 unclosed
      simp [step, insideBlock, marked.block, unfound]
  | drops unclosed notNewline =>
      have unfound := Text.after?_eq_none_iff.2 unclosed
      simp [step, insideBlock, marked.block, unfound, notNewline]

theorem Turn.stripFrom_eq {inBlock : Bool} {last : Option Char} {text kept : List Char}
    {cursor : Cursor} (turn : Turn style markers inBlock last text kept cursor) :
    stripFrom style inBlock last text =
      kept ++ stripFrom style cursor.inBlock cursor.last cursor.rest := by
  cases text with
  | nil =>
      cases turn with
      | opens found => exact absurd (List.append_eq_nil_iff.1 found.symm).1 marked.opening.nonempty
      | closes found _ =>
          exact absurd (List.append_eq_nil_iff.1 found.symm).1 marked.closing.nonempty
      | closesFused found _ =>
          exact absurd (List.append_eq_nil_iff.1 found.symm).1 marked.closing.nonempty
  | cons c rest => rw [stripFrom, turn.step_eq marked]

theorem stripFrom_kept {last : Option Char} {c : Char} {rest : List Char}
    (noBlock : ¬markers.opening <+: c :: rest)
    (unmarked : opensLineComment style.lineMarker last (c :: rest) = false) :
    stripFrom style false last (c :: rest) = c :: stripFrom style false (some c) rest :=
  (Turn.keeps noBlock unmarked).stripFrom_eq marked

/-- What every turn hands on to the output holds of all that the loop keeps. -/
theorem stripFrom_induction {motive : Bool → Option Char → List Char → List Char → Prop}
    (nil : ∀ inBlock last, motive inBlock last [] [])
    (turn : ∀ inBlock last text kept cursor, Turn style markers inBlock last text kept cursor →
      motive cursor.inBlock cursor.last cursor.rest
        (stripFrom style cursor.inBlock cursor.last cursor.rest) →
      motive inBlock last text (kept ++ stripFrom style cursor.inBlock cursor.last cursor.rest))
    (inBlock : Bool) (last : Option Char) (text : List Char) :
    motive inBlock last text (stripFrom style inBlock last text) := by
  fun_induction stripFrom style inBlock last text with
  | case1 inBlock last => exact nil inBlock last
  | case2 inBlock last c rest taken ih =>
      rcases exists_turn inBlock last c rest with ⟨kept, cursor, isTurn⟩
      have same : taken = (kept, cursor) := isTurn.step_eq marked
      rw [same] at ih ⊢
      exact turn inBlock last (c :: rest) kept cursor isTurn ih

end Steps

end CrossArch.Comment
