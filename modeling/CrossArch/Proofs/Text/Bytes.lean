import CrossArch.Text.Bytes
import Mathlib.Data.List.Infix
import Mathlib.Tactic.Common

/-!
# Cutting a text at offsets

A text can be cut at an offset if the offset lies on a character boundary, and then the characters
in front of the cut take up that many bytes. Since every character takes up at least one byte, no
other front of the text does.
-/

namespace CrossArch.Text

/-- Whether an offset lies at the start of a character or at the end of a text. -/
def IsBoundary (text : List Char) (offset : Nat) : Prop :=
  (⟨offset⟩ : String.Pos.Raw).IsValid (String.ofList text)

variable {text front : List Char} {bytes offset : Nat}

@[simp]
theorem byteLength_nil : byteLength [] = 0 :=
  rfl

@[simp]
theorem byteLength_cons (c : Char) (rest : List Char) :
    byteLength (c :: rest) = c.utf8Size + byteLength rest := by
  simp [byteLength, String.ofList_cons]

@[simp]
theorem byteLength_append (front back : List Char) :
    byteLength (front ++ back) = byteLength front + byteLength back := by
  simp [byteLength]

theorem eq_nil_of_byteLength_eq_zero (empty : byteLength text = 0) : text = [] := by
  cases text with
  | nil => rfl
  | cons c rest =>
      have positive := c.utf8Size_pos
      simp only [byteLength_cons] at empty
      omega

theorem byteLength_pos (nonempty : text ≠ []) : 0 < byteLength text := by
  rw [Nat.pos_iff_ne_zero]
  intro empty
  exact nonempty (eq_nil_of_byteLength_eq_zero empty)

theorem byteLength_le_of_front (isFront : front <+: text) :
    byteLength front ≤ byteLength text := by
  rcases isFront with ⟨back, rfl⟩
  simp

theorem isBoundary_iff :
    IsBoundary text offset ↔ ∃ front, front <+: text ∧ byteLength front = offset := by
  simp only [IsBoundary, String.Pos.Raw.isValid_ofList]
  constructor
  · rintro ⟨count, same⟩
    exact ⟨text.take count, List.take_prefix count text, same.symm⟩
  · rintro ⟨front, isFront, rfl⟩
    exact ⟨front.length, by rw [← List.prefix_iff_eq_take.1 isFront]; rfl⟩

theorem IsBoundary.le_byteLength (boundary : IsBoundary text offset) :
    offset ≤ byteLength text := by
  rcases isBoundary_iff.1 boundary with ⟨front, isFront, rfl⟩
  exact byteLength_le_of_front isFront

/-- Of two fronts of a text, the one that takes up no more bytes is a front of the other. -/
theorem prefix_of_byteLength_le {other : List Char} (isFront : front <+: text)
    (isFront' : other <+: text) (le : byteLength front ≤ byteLength other) : front <+: other := by
  rcases List.prefix_or_prefix_of_prefix isFront isFront' with shorter | longer
  · exact shorter
  · rcases longer with ⟨more, rfl⟩
    have empty : byteLength more = 0 := by
      simp only [byteLength_append] at le
      omega
    simp [eq_nil_of_byteLength_eq_zero empty]

theorem dropBytes?_append (front back : List Char) :
    dropBytes? (byteLength front) (front ++ back) = some back := by
  induction front with
  | nil => simp [dropBytes?]
  | cons c front ih =>
      have positive := c.utf8Size_pos
      have nonzero : 0 < c.utf8Size + byteLength front := Nat.add_pos_left positive _
      rcases Nat.exists_eq_add_one.2 nonzero with ⟨bytes, size⟩
      have fits : c.utf8Size ≤ bytes + 1 := by omega
      have left : bytes + 1 - c.utf8Size = byteLength front := by omega
      simp [size, dropBytes?, fits, left, ih]

theorem takeBytes?_eq_some_iff :
    takeBytes? bytes text = some front ↔ front <+: text ∧ byteLength front = bytes := by
  fun_induction takeBytes? bytes text generalizing front with
  | case1 text =>
      constructor
      · rintro ⟨⟩
        exact ⟨List.nil_prefix, rfl⟩
      · rintro ⟨-, empty⟩
        simp [eq_nil_of_byteLength_eq_zero empty]
  | case2 bytes =>
      simp only [reduceCtorEq, List.prefix_nil, false_iff, not_and]
      rintro rfl
      simp
  | case3 bytes c rest fits ih =>
      simp only [Option.map_eq_some_iff, ih]
      constructor
      · rintro ⟨more, ⟨isFront, size⟩, rfl⟩
        refine ⟨List.cons_prefix_cons.2 ⟨rfl, isFront⟩, ?_⟩
        simp only [byteLength_cons]
        omega
      · rintro ⟨isFront, size⟩
        rcases List.prefix_cons_iff.1 isFront with rfl | ⟨more, rfl, isFront'⟩
        · simp at size
        · simp only [byteLength_cons] at size
          exact ⟨more, ⟨isFront', by omega⟩, rfl⟩
  | case4 bytes c rest notFits =>
      simp only [reduceCtorEq, false_iff, not_and]
      intro isFront
      rcases List.prefix_cons_iff.1 isFront with rfl | ⟨more, rfl, -⟩
      · simp
      · simp only [byteLength_cons]
        omega

/-- A piece of a text lies between the ends of what stands before it and of the piece itself. -/
theorem slice?_append (front piece back : List Char) :
    slice? (byteLength front) (byteLength (front ++ piece)) (front ++ piece ++ back) =
      some piece := by
  have size : byteLength (front ++ piece) - byteLength front = byteLength piece := by simp
  rw [slice?, if_pos (byteLength_le_of_front (List.prefix_append front piece)), size,
    List.append_assoc, dropBytes?_append, Option.bind_some, takeBytes?_eq_some_iff]
  exact ⟨List.prefix_append piece back, rfl⟩

end CrossArch.Text
