import CrossArch.Hit.Line
import CrossArch.Proofs.Text.Bytes
import CrossArch.Proofs.Text.Line

/-!
# The line counter recounts

A line counter remembers how many newlines it has passed. What it remembers is always the number of
newlines in some front of the text, whether the last offset lay ahead of the one before, at the same
place or behind it. So its answers do not depend on what it was asked before: they are those of a
count from the start of the text.
-/

namespace CrossArch

namespace Text

/-- The characters of a text with the offsets at which they start. -/
def placed (start : Nat) : List Char → List (Nat × Char)
  | [] => []
  | c :: rest => (start, c) :: placed (start + c.utf8Size) rest

/-- The number of newlines before an offset. -/
def newlinesBefore (text : List Char) (offset : Nat) : Nat :=
  (placed 0 text).countP fun place => place.1 < offset ∧ place.2 = '\n'

theorem le_of_mem_placed {start : Nat} {text : List Char} {place : Nat × Char}
    (mem : place ∈ placed start text) : start ≤ place.1 := by
  induction text generalizing start with
  | nil => simp [placed] at mem
  | cons c rest ih =>
      simp only [placed, List.mem_cons] at mem
      rcases mem with rfl | later
      · exact Nat.le_refl start
      · have behind := ih later
        omega

/-- Up to the end of a front, the newlines before an offset are those of the front. -/
theorem countP_placed_append (start : Nat) (front back : List Char) :
    ((placed start (front ++ back)).countP fun place =>
      place.1 < start + byteLength front ∧ place.2 = '\n') = newlines front := by
  induction front generalizing start with
  | nil =>
      apply List.countP_eq_zero.2
      intro place mem
      have behind := Nat.not_lt.2 (le_of_mem_placed mem)
      simp [behind]
  | cons c front ih =>
      have positive := c.utf8Size_pos
      have first : start < start + (c.utf8Size + byteLength front) := by omega
      have later := ih (start + c.utf8Size)
      simp only [Nat.add_assoc] at later
      simp only [List.cons_append, placed, byteLength_cons, List.countP_cons, later, first]
      simp [newlines, List.count_cons]

theorem newlinesBefore_byteLength {front text : List Char} (isFront : front <+: text) :
    newlinesBefore text (byteLength front) = newlines front := by
  rcases isFront with ⟨back, rfl⟩
  simpa [newlinesBefore] using countP_placed_append 0 front back

end Text

namespace LineCounter

/-- The counter that has passed `front`. -/
def past (front : List Char) : LineCounter :=
  ⟨Text.byteLength front, Text.newlines front⟩

section Step

variable {text front : List Char} {offset : Nat} {answer : Nat × LineCounter}

theorem lineAt?_of_ahead (isFront : front <+: text) (ahead : Text.byteLength front ≤ offset) :
    (past front).lineAt? text offset = some answer ↔
      ∃ target, target <+: text ∧ Text.byteLength target = offset ∧
        answer = (Text.newlines target + 1, past target) := by
  rcases isFront with ⟨back, rfl⟩
  simp only [lineAt?, past, Nat.not_lt.2 ahead, if_false, Text.slice?, if_pos ahead,
    Text.dropBytes?_append, Option.bind_eq_bind, Option.bind_some, Option.bind_eq_some_iff,
    Text.takeBytes?_eq_some_iff, Option.pure_def, Option.some.injEq]
  constructor
  · rintro ⟨passed, ⟨isFront, size⟩, rfl⟩
    have whole : Text.byteLength (front ++ passed) = offset := by
      simp only [Text.byteLength_append]
      omega
    refine ⟨front ++ passed, (List.prefix_append_right_inj front).2 isFront, whole, ?_⟩
    simp [whole]
  · rintro ⟨target, isTarget, rfl, rfl⟩
    have longer : front <+: target :=
      Text.prefix_of_byteLength_le (List.prefix_append front back) isTarget ahead
    rcases longer with ⟨passed, rfl⟩
    exact ⟨passed, ⟨(List.prefix_append_right_inj front).1 isTarget, by simp⟩, by simp⟩

theorem lineAt?_of_behind {counter : LineCounter} (behind : offset < counter.offset) :
    counter.lineAt? text offset = start.lineAt? text offset := by
  simp [lineAt?, behind, start]

/-- Wherever a counter stands, its answer is the count in the front up to the offset, and it has
passed that front then. An offset that is no boundary has no answer. -/
theorem lineAt?_past (isFront : front <+: text) :
    (past front).lineAt? text offset = some answer ↔
      ∃ target, target <+: text ∧ Text.byteLength target = offset ∧
        answer = (Text.newlines target + 1, past target) := by
  by_cases ahead : Text.byteLength front ≤ offset
  · exact lineAt?_of_ahead isFront ahead
  · have reset : (past front).lineAt? text offset = (past []).lineAt? text offset :=
      lineAt?_of_behind (Nat.not_le.1 ahead)
    rw [reset]
    exact lineAt?_of_ahead List.nil_prefix (Nat.zero_le offset)

end Step

theorem linesAt?_past {text front : List Char} (isFront : front <+: text)
    {offsets lines : List Nat} :
    (past front).linesAt? text offsets = some lines ↔
      (∀ offset ∈ offsets, Text.IsBoundary text offset) ∧
        lines = offsets.map fun offset => 1 + Text.newlinesBefore text offset := by
  induction offsets generalizing front lines with
  | nil => simp [linesAt?, eq_comm]
  | cons offset later ih =>
      simp only [linesAt?, Option.bind_eq_bind, Option.bind_eq_some_iff, lineAt?_past isFront,
        Option.pure_def, Option.some.injEq, List.forall_mem_cons, List.map_cons,
        Text.isBoundary_iff]
      constructor
      · rintro ⟨_, ⟨target, isTarget, rfl, rfl⟩, others, answered, rfl⟩
        rcases (ih isTarget).1 answered with ⟨boundaries, rfl⟩
        refine ⟨⟨⟨target, isTarget, rfl⟩, ?_⟩, ?_⟩
        · simpa only [Text.isBoundary_iff] using boundaries
        · simp [Text.newlinesBefore_byteLength isTarget, Nat.add_comm]
      · rintro ⟨⟨⟨target, isTarget, rfl⟩, boundaries⟩, rfl⟩
        refine ⟨_, ⟨target, isTarget, rfl, rfl⟩, _, (ih isTarget).2 ⟨?_, rfl⟩, ?_⟩
        · simpa only [Text.isBoundary_iff] using boundaries
        · simp [Text.newlinesBefore_byteLength isTarget, Nat.add_comm]

/--
A counter that is asked for any offsets, in any order and with repeats, answers each as a count of
the newlines from the start of the text does. It fails only if one of the offsets lies past the end
of the text or inside a character.
-/
theorem answers_eq_recount (text : List Char) (offsets lines : List Nat) :
    start.linesAt? text offsets = some lines ↔
      (∀ offset ∈ offsets, Text.IsBoundary text offset) ∧
        lines = offsets.map fun offset => 1 + Text.newlinesBefore text offset :=
  linesAt?_past List.nil_prefix

example : start.linesAt? ['a', 'é', '\n', 'b', '\n'] [4, 0, 6, 6, 1, 5] =
    some [2, 1, 3, 3, 1, 2] := by
  decide

end LineCounter

end CrossArch
