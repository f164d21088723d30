import CrossArch.Assembly.Block
import CrossArch.Proofs.Assembly.Mask

/-!
# Reading a block is counting its brackets

A block that is being read is determined by its lines and by the pieces that it has met: its depth
is the number of brackets that are open in them, and its template consists of the literals in front
of their first colon at depth one. Reading the rest of a line adds the pieces of that line, unless
one of them ends the block.
-/

namespace CrossArch

/-- The lines of a span. -/
def LineRange.select (range : LineRange) (lines : List (List Char)) : List (List Char) :=
  (lines.drop (range.first - 1)).take (range.last + 1 - range.first)

/-- A line of a text with its number and the lines behind it. -/
structure LineAt (lines : List (List Char)) (number : Nat) (line : List Char)
    (later : List (List Char)) : Prop where
  positive : 1 ≤ number
  stands : lines.drop (number - 1) = line :: later

section LineAt

variable {lines later : List (List Char)} {number : Nat} {line : List Char}

theorem LineAt.next {next : List Char} (lineAt : LineAt lines number line (next :: later)) :
    LineAt lines (number + 1) next later := by
  have positive := lineAt.positive
  have place : number + 1 - 1 = number - 1 + 1 := by omega
  refine ⟨by omega, ?_⟩
  rw [place, ← List.tail_drop, lineAt.stands, List.tail_cons]

/-- A span that ends on a line is the span up to the line before, and that line. -/
theorem LineAt.select {first : Nat} (lineAt : LineAt lines number line later) (positive : 1 ≤ first)
    (le : first ≤ number) :
    (⟨first, number⟩ : LineRange).select lines =
      (⟨first, number - 1⟩ : LineRange).select lines ++ [line] := by
  have count : number + 1 - first = number - 1 + 1 - first + 1 := by omega
  have place : first - 1 + (number - 1 + 1 - first) = number - 1 := by omega
  have last : (lines.drop (first - 1))[number - 1 + 1 - first]? = some line := by
    rw [List.getElem?_drop, place, ← List.head?_drop, lineAt.stands, List.head?_cons]
  simp only [LineRange.select, count, List.take_add_one, last, Option.toList_some]

end LineAt

namespace Assembly

namespace Pending

/-- Read the rest of a line. A literal that is still open ends with the line. -/
def readLine (pending : Pending) (text : List Char) : Pending × Option (List Char) :=
  match (pending.feed text).2 with
  | some after => ((pending.feed text).1, some after)
  | none => ((pending.feed text).1.endLine, none)

section ReadLine

theorem readLine_nil (pending : Pending) (outside : pending.literal = .outside) :
    pending.readLine [] = (pending, none) := by
  simp [readLine, feed, endLine, outside]

theorem readLine_of_inside (pending : Pending) {escaped : Bool} {reversed : List Char}
    (inside : pending.literal = .inside escaped reversed) (c : Char) (rest : List Char) :
    pending.readLine (c :: rest) = (pending.readInside escaped reversed c).readLine rest := by
  simp only [readLine, feed, inside]

variable {pending next : Pending}

theorem readLine_of_some {c : Char} (outside : pending.literal = .outside)
    (read : pending.readOutside? c = some next) (rest : List Char) :
    pending.readLine (c :: rest) = next.readLine rest := by
  simp only [readLine, feed, outside, read]

theorem readLine_of_none {c : Char} (outside : pending.literal = .outside)
    (read : pending.readOutside? c = none) (rest : List Char) :
    pending.readLine (c :: rest) = (pending, some rest) := by
  simp only [readLine, feed, outside, read]

/-- Inside a literal, reading goes on behind it. -/
theorem readLine_literal (pending : Pending) (reversed rest : List Char) :
    ({ pending with literal := .inside false reversed } : Pending).readLine rest =
      (pending.finishLiteral ((splitLiteral rest).1.reverse ++ reversed)).readLine
        (splitLiteral rest).2 := by
  fun_induction splitLiteral rest generalizing reversed with
  | case1 =>
      rw [readLine_nil (pending.finishLiteral _) rfl]
      rfl
  | case2 rest =>
      rw [readLine_of_inside _ rfl]
      rfl
  | case3 c rest ih =>
      rw [readLine_of_inside _ rfl, readLine_of_inside _ rfl]
      simpa [readInside] using ih (c :: '\\' :: reversed)
  | case4 c rest notQuote notEscape ih =>
      by_cases backslash : c = '\\'
      · -- A backslash at the end of the line takes nothing along.
        cases rest with
        | nil =>
            subst backslash
            rw [readLine_of_inside _ rfl]
            simp [readLine, feed, readInside, endLine, splitLiteral, finishLiteral]
        | cons d rest => exact absurd rfl (notEscape d rest backslash)
      · rw [readLine_of_inside _ rfl]
        have plain : c ≠ '"' := notQuote
        simpa [readInside, backslash, plain] using ih (c :: reversed)

end ReadLine

/-- A block that was opened on the line `start` and has read the lines up to `last`, where it has
met the given pieces. -/
def reading (lines : List (List Char)) (start last : Nat) (marks : List Mark) : Pending where
  start := start
  lastLine := last
  lines := ((⟨start, last⟩ : LineRange).select lines).map Unicode.trim
  depth := Mask.depth marks
  literal := .outside
  inTemplate := Mask.inTemplate marks
  templates := Mask.template marks

section Reading

variable {lines : List (List Char)} {start last : Nat} {front : List Mark}

theorem noteLine_ofLine {number : Nat} {line : List Char} {later : List (List Char)}
    (lineAt : LineAt lines number line later) :
    (ofLine number).noteLine number line = reading lines number number [] := by
  have positive := lineAt.positive
  have select : (⟨number, number⟩ : LineRange).select lines = [line] := by
    rw [lineAt.select positive (Nat.le_refl number)]
    simp [LineRange.select, Nat.sub_add_cancel positive]
  rw [reading, select, noteLine, if_neg]
  · rfl
  · exact (Nat.ne_of_gt positive).symm

theorem noteLine_reading {number : Nat} {line : List Char} {later : List (List Char)}
    (lineAt : LineAt lines (number + 1) line later) (positive : 1 ≤ start) (le : start ≤ number) :
    (reading lines start number front).noteLine (number + 1) line =
      reading lines start (number + 1) front := by
  simp [noteLine, reading, lineAt.select positive (Nat.le_succ_of_le le)]

theorem started_reading (unclosed : Mask.Unclosed front) :
    (reading lines start last front).started = front.any Mark.opens := by
  rw [started, Bool.eq_iff_iff, bne_iff_ne]
  exact unclosed.depth_ne_zero_iff

/-- A literal is one more piece. -/
theorem finishLiteral_reading (mark : Mark) {text : List Char}
    (piece : mark.piece = .literal text) :
    (reading lines start last front).finishLiteral text.reverse =
      reading lines start last (front ++ [mark]) := by
  have notOpens : mark.opens = false := by simp [Mark.opens, piece]
  have notCounted : (mark.closes && front.any Mark.opens) = false := by simp [Mark.closes, piece]
  have notEnd : Mask.endsTemplate front mark = false := by
    simp [Mask.endsTemplate, Mark.isColon, piece]
  simp [finishLiteral, reading, Mask.depth_append_of_not_counted notOpens notCounted,
    Mask.inTemplate_append_singleton, notEnd, Mask.template_append_singleton, Mark.literal?, piece]

/-- A character changes the depth, and it may end the template. -/
theorem reading_append_code (mark : Mark) {c : Char} (piece : mark.piece = .code c) :
    reading lines start last (front ++ [mark]) =
      { reading lines start last front with
        depth := Mask.depth (front ++ [mark])
        inTemplate := Mask.inTemplate front && !Mask.endsTemplate front mark } := by
  simp [reading, Mask.inTemplate_append_singleton, Mask.template_append_singleton, Mark.literal?,
    piece]

/-- A character outside of literals is one more piece, unless it ends the block. -/
theorem readOutside?_reading (mark : Mark) {c : Char} (unclosed : Mask.Unclosed front)
    (piece : mark.piece = .code c) (notQuote : c ≠ '"') :
    (reading lines start last front).readOutside? c =
      if Mask.endsBlock front mark then none
      else some (reading lines start last (front ++ [mark])) := by
  have ends : Mask.endsBlock front mark = true ↔ mark.closes = true ∧ Mask.depth front = 1 :=
    unclosed.endsBlock_iff
  have opensIff : mark.opens = true ↔ c = '(' ∨ c = '\x7b' := by simp [Mark.opens, piece]
  have closesIff : mark.closes = true ↔ c = ')' ∨ c = '\x7d' := by simp [Mark.closes, piece]
  have templateEnds : Mask.endsTemplate front mark = true ↔ c = ':' ∧ Mask.depth front = 1 := by
    simp [Mask.endsTemplate, Mark.isColon, piece]
  rw [readOutside?, if_neg notQuote, started_reading unclosed, reading_append_code mark piece]
  by_cases opens : c = '(' ∨ c = '\x7b'
  · have markOpens := opensIff.2 opens
    have goesOn : ¬Mask.endsBlock front mark = true := by
      rw [ends, Mark.not_closes_of_opens markOpens]
      simp
    have notColon : Mask.endsTemplate front mark = false := by
      rw [← Bool.not_eq_true, templateEnds]
      rintro ⟨rfl, -⟩
      simp at opens
    rw [if_pos opens, if_neg goesOn, notColon, Mask.depth_append_of_opens unclosed markOpens]
    simp [reading]
  · have notOpens : mark.opens = false := Bool.eq_false_iff.2 (mt opensIff.1 opens)
    rw [if_neg opens]
    by_cases counted : (c = ')' ∨ c = '\x7d') ∧ front.any Mark.opens = true
    · have closes := closesIff.2 counted.1
      have notColon : Mask.endsTemplate front mark = false := by
        rw [← Bool.not_eq_true, templateEnds]
        rintro ⟨rfl, -⟩
        simp at counted
      rw [if_pos counted, Mask.depth_append_of_closes closes counted.2, notColon]
      by_cases one : Mask.depth front = 1
      · rw [if_pos (ends.2 ⟨closes, one⟩)]
        exact if_pos one
      · rw [if_neg (fun last => one (ends.1 last).2)]
        simp [reading, one]
    · have goesOn : ¬Mask.endsBlock front mark = true := by
        intro last
        exact counted ⟨closesIff.1 (ends.1 last).1, Mask.any_opens_of_endsBlock last⟩
      have notCounted : (mark.closes && front.any Mark.opens) = false := by
        rw [← Bool.not_eq_true, Bool.and_eq_true, closesIff]
        exact counted
      rw [if_neg counted, if_neg goesOn, Mask.depth_append_of_not_counted notOpens notCounted]
      by_cases colon : c = ':' ∧ Mask.depth front = 1
      · rw [templateEnds.2 colon]
        simp [reading, colon]
      · rw [Bool.eq_false_iff.2 (mt templateEnds.1 colon), Bool.not_false, Bool.and_true]
        exact if_neg colon

/-- Reading the rest of a line meets its pieces, up to the end of the block. -/
theorem readLine_reading (unclosed : Mask.Unclosed front) (number : Nat)
    (later : List (List Char)) (text : List Char) :
    (reading lines start last front).readLine text =
      (Mask.firstAt? Mask.endsBlock front (maskLine number later text)).elim
        (reading lines start last (front ++ maskLine number later text), none)
        fun found => (reading lines start last found.1, found.2.behind.head?) := by
  fun_induction maskLine number later text generalizing front with
  | case1 => simp [readLine_nil (reading lines start last front) rfl, Mask.firstAt?]
  | case2 rest ih =>
      have opened : (reading lines start last front).readOutside? '"' =
          some { reading lines start last front with literal := .inside false [] } := rfl
      have goesOn : Mask.endsBlock front
          ⟨.literal (splitLiteral rest).1, number, (splitLiteral rest).2 :: later⟩ = false := by
        simp [Mask.endsBlock, Mark.closes]
      rw [readLine_of_some rfl opened, readLine_literal, List.append_nil,
        finishLiteral_reading ⟨.literal _, number, (splitLiteral rest).2 :: later⟩ rfl,
        ih (unclosed.append_singleton goesOn), Mask.firstAt?, goesOn]
      simp
  | case3 c rest notQuote ih =>
      cases ends : Mask.endsBlock front ⟨.code c, number, rest :: later⟩
      · have read : (reading lines start last front).readOutside? c =
            some (reading lines start last (front ++ [⟨.code c, number, rest :: later⟩])) := by
          rw [readOutside?_reading ⟨.code c, number, rest :: later⟩ unclosed rfl notQuote, ends,
            if_neg Bool.false_ne_true]
        rw [readLine_of_some rfl read, ih (unclosed.append_singleton ends), Mask.firstAt?, ends]
        simp
      · have read : (reading lines start last front).readOutside? c = none := by
          rw [readOutside?_reading ⟨.code c, number, rest :: later⟩ unclosed rfl notQuote,
            if_pos ends]
        rw [readLine_of_none rfl read, Mask.firstAt?, if_pos ends]
        rfl

end Reading

end Pending

end Assembly

end CrossArch
