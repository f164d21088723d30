/-!
# The front of a text

Reading proceeds by dropping a known piece from the front of a text.
-/

namespace CrossArch.Text

/-- The text that follows `front`, if the text starts with it. -/
def after? : List Char → List Char → Option (List Char)
  | [], text => some text
  | _ :: _, [] => none
  | f :: front, c :: text => if f = c then after? front text else none

theorem after?_eq_some_iff {front text rest : List Char} :
    after? front text = some rest ↔ text = front ++ rest := by
  induction front generalizing text with
  | nil => simp [after?, eq_comm]
  | cons f front ih =>
    cases text with
    | nil => simp [after?]
    | cons c text =>
      by_cases same : f = c
      · simp [after?, same, ih]
      · simp [after?, same, Ne.symm same]

theorem length_of_after? {front text rest : List Char} (found : after? front text = some rest) :
    rest.length + front.length = text.length := by
  rw [after?_eq_some_iff.1 found]
  simp [Nat.add_comm]

/-- Whether a text starts with `front`. -/
def startsWith (text front : List Char) : Bool :=
  (after? front text).isSome

/-- Whether a text ends with `back`. -/
def endsWith (text back : List Char) : Bool :=
  startsWith text.reverse back.reverse

/-- Whether `piece` occurs somewhere in a text. -/
def occursIn (piece : List Char) : List Char → Bool
  | [] => piece.isEmpty
  | c :: rest => startsWith (c :: rest) piece || occursIn piece rest

end CrossArch.Text
