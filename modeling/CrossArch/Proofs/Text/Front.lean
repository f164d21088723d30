import CrossArch.Text.Front
import Mathlib.Data.List.Infix
import Mathlib.Data.Nat.Init
import Mathlib.Tactic.Common

/-!
# Fronts, ends and pieces of a text

The tests for a front, an end and a piece of a text mean that the text has a prefix, a suffix or an
infix. A text that starts with itself behind a piece repeats that piece from its start on, so it
also starts with what stands behind any later occurrence of the piece.
-/

namespace CrossArch.Text

variable {text front back piece : List Char}

theorem after?_eq_none_iff : after? front text = none ↔ ¬front <+: text := by
  rw [← Option.not_isSome_iff_eq_none, not_iff_not, Option.isSome_iff_exists]
  simp only [after?_eq_some_iff]
  exact ⟨fun ⟨rest, same⟩ => ⟨rest, same.symm⟩, fun ⟨rest, same⟩ => ⟨rest, same.symm⟩⟩

theorem startsWith_iff : startsWith text front = true ↔ front <+: text := by
  rw [startsWith, ← not_iff_not, Bool.not_eq_true, Option.isSome_eq_false_iff,
    Option.isNone_iff_eq_none, after?_eq_none_iff]

theorem endsWith_iff : endsWith text back = true ↔ back <:+ text := by
  rw [endsWith, startsWith_iff, List.reverse_prefix]

theorem occursIn_iff : occursIn piece text = true ↔ piece <:+: text := by
  induction text with
  | nil => simp [occursIn]
  | cons c rest ih => simp [occursIn, startsWith_iff, ih, List.infix_cons_iff]

/-- A front without a certain character does not reach over that character. -/
theorem prefix_of_prefix_append_cons {c : Char} (absent : c ∉ piece)
    (starts : piece <+: front ++ c :: back) : piece <+: front := by
  rcases List.prefix_or_prefix_of_prefix starts (List.prefix_append front (c :: back)) with
    within | beyond
  · exact within
  · rcases beyond with ⟨more, rfl⟩
    rw [List.prefix_append_right_inj] at starts
    cases more with
    | nil => simp
    | cons d more =>
        have same := (List.cons_prefix_cons.1 starts).1
        simp [same] at absent

section Periods

variable {before : List Char}

theorem getElem?_of_period (period : text <+: piece ++ text) {place : Nat}
    (inside : place < text.length) : text[place]? = (piece ++ text)[place]? := by
  rcases period with ⟨more, same⟩
  rw [← same, List.getElem?_append_left inside]

/-- A repeated piece that occurs again behind `before` goes on there as it does from the start. -/
theorem getElem?_behind_of_period (nonempty : piece ≠ [])
    (whole : text = before ++ (piece ++ back)) (period : text <+: piece ++ text) (place : Nat)
    (inside : before.length + place < text.length) :
    text[before.length + place]? = text[place]? := by
  have positive := List.length_pos_iff.2 nonempty
  induction place using Nat.strong_induction_on with
  | _ place ih =>
      have here : text[place]? = (piece ++ text)[place]? :=
        getElem?_of_period period (by omega)
      by_cases near : place < piece.length
      · rw [here, List.getElem?_append_left near, whole, List.getElem?_append_right (by omega),
          Nat.add_sub_cancel_left, List.getElem?_append_left near]
      · -- A period earlier, the two places are also the same distance apart.
        have there := getElem?_of_period period inside
        have earlier := ih (place - piece.length) (by omega) (by omega)
        have apart : before.length + place - piece.length =
            before.length + (place - piece.length) := by omega
        rw [here, there, List.getElem?_append_right (by omega),
          List.getElem?_append_right (by omega), apart, earlier]

theorem prefix_of_period (nonempty : piece ≠ []) (whole : text = before ++ (piece ++ back))
    (period : text <+: piece ++ text) : back <+: text := by
  have starts : piece ++ back <+: text := by
    rw [List.prefix_iff_getElem?]
    intro place inside
    have within : before.length + place < text.length := by simp [whole] at inside ⊢; omega
    rw [← getElem?_behind_of_period nonempty whole period place within]
    simp [whole, List.getElem?_append_right]
  exact (List.prefix_append_right_inj piece).1 (starts.trans period)

end Periods

end CrossArch.Text
