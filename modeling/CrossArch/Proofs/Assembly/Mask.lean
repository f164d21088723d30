import CrossArch.Text.Line
import Mathlib.Data.List.TakeWhile

/-!
# Masked lines and their brackets

A second account of where an inline assembly block ends, one without a state. The string literals of
each line are masked, so that a text becomes a list of pieces: single characters outside of
literals, and whole literals. The brackets are then counted in front of each piece. A block ends at
the first closing bracket at which as many brackets have been closed as opened since the first one,
and its template ends at the first colon at depth one.

The counts of a front that holds no end of a block stay apart: once a bracket is open, fewer are
closed than opened. So depth zero means that no bracket has been met.
-/

namespace CrossArch.Assembly

/-- A piece of a line whose string literals are masked. -/
inductive Piece where
  /-- A character outside of literals. -/
  | code (c : Char)
  /-- A literal without its quotes. -/
  | literal (text : List Char)
  deriving DecidableEq

/-- A piece with its place in a text. -/
structure Mark where
  piece : Piece
  /-- The number of its line. -/
  line : Nat
  /-- What stands behind it: the rest of its line, and the lines after that. -/
  behind : List (List Char)

namespace Mark

/-- Whether a bracket opens. -/
def opens (mark : Mark) : Bool :=
  decide (mark.piece = .code '(' ∨ mark.piece = .code '\x7b')

/-- Whether a bracket closes. -/
def closes (mark : Mark) : Bool :=
  decide (mark.piece = .code ')' ∨ mark.piece = .code '\x7d')

def isColon (mark : Mark) : Bool :=
  decide (mark.piece = .code ':')

/-- The text of a literal. -/
def literal? (mark : Mark) : Option (List Char) :=
  match mark.piece with
  | .code _ => none
  | .literal text => some text

variable {mark : Mark}

theorem not_closes_of_opens (opens : mark.opens = true) : mark.closes = false := by
  rw [Mark.opens, decide_eq_true_eq] at opens
  rcases opens with same | same <;> simp [closes, same]

theorem not_opens_of_closes (closes : mark.closes = true) : mark.opens = false := by
  rw [Mark.closes, decide_eq_true_eq] at closes
  rcases closes with same | same <;> simp [opens, same]

end Mark

/-- The text of a literal and what follows it on its line. A backslash takes the next character
along; a literal with no closing quote takes the whole line. -/
def splitLiteral : List Char → List Char × List Char
  | [] => ([], [])
  | '"' :: rest => ([], rest)
  | '\\' :: c :: rest => ('\\' :: c :: (splitLiteral rest).1, (splitLiteral rest).2)
  | c :: rest => (c :: (splitLiteral rest).1, (splitLiteral rest).2)

theorem length_splitLiteral (text : List Char) : (splitLiteral text).2.length ≤ text.length := by
  fun_induction splitLiteral text with
  | case1 => exact Nat.le_refl 0
  | case2 rest => simp
  | case3 c rest ih =>
      simp only [List.length_cons]
      omega
  | case4 c rest _ _ ih =>
      simp only [List.length_cons]
      omega

/-- The pieces of a line, or of the rest of one. -/
def maskLine (number : Nat) (later : List (List Char)) : List Char → List Mark
  | [] => []
  | c :: rest =>
    if c = '"' then
      ⟨.literal (splitLiteral rest).1, number, (splitLiteral rest).2 :: later⟩ ::
        maskLine number later (splitLiteral rest).2
    else ⟨.code c, number, rest :: later⟩ :: maskLine number later rest
  termination_by text => text.length
  decreasing_by
    · have := length_splitLiteral rest
      simp only [List.length_cons]
      omega
    · simp

/-- The pieces of a line and of the lines after it, numbered from the first. -/
def maskLines (number : Nat) : List (List Char) → List Mark
  | [] => []
  | line :: later => maskLine number later line ++ maskLines (number + 1) later

theorem place_of_mem_maskLine {number : Nat} {later : List (List Char)} {text : List Char}
    {mark : Mark} (mem : mark ∈ maskLine number later text) :
    mark.line = number ∧
      ∃ after, mark.behind = after :: later ∧ after.length < text.length := by
  fun_induction maskLine number later text with
  | case1 => simp at mem
  | case2 rest ih =>
      have shorter := length_splitLiteral rest
      rcases List.mem_cons.1 mem with rfl | laterMem
      · refine ⟨rfl, _, rfl, ?_⟩
        simp only [List.length_cons]
        omega
      · rcases ih laterMem with ⟨line, after, behind, size⟩
        refine ⟨line, after, behind, ?_⟩
        simp only [List.length_cons]
        omega
  | case3 c rest _ ih =>
      rcases List.mem_cons.1 mem with rfl | laterMem
      · exact ⟨rfl, rest, rfl, by simp⟩
      · rcases ih laterMem with ⟨line, after, behind, size⟩
        refine ⟨line, after, behind, ?_⟩
        simp only [List.length_cons]
        omega

theorem le_line_of_mem_maskLines {number : Nat} {lines : List (List Char)} {mark : Mark}
    (mem : mark ∈ maskLines number lines) : number ≤ mark.line := by
  induction lines generalizing number with
  | nil => simp [maskLines] at mem
  | cons line later ih =>
      rcases List.mem_append.1 mem with here | behind
      · exact Nat.le_of_eq (place_of_mem_maskLine here).1.symm
      · have := ih behind
        omega

/-- The number of characters of some lines, their ends included. -/
def lengthOfLines (lines : List (List Char)) : Nat :=
  lines.flatten.length + lines.length

theorem lengthOfLines_cons (line : List Char) (later : List (List Char)) :
    lengthOfLines (line :: later) = line.length + 1 + lengthOfLines later := by
  simp only [lengthOfLines, List.flatten_cons, List.length_append, List.length_cons]
  omega

theorem lengthOfLines_lt_cons (line : List Char) (later : List (List Char)) :
    lengthOfLines later < lengthOfLines (line :: later) := by
  rw [lengthOfLines_cons]
  omega

theorem length_behind_lt {number : Nat} {lines : List (List Char)} {mark : Mark}
    (mem : mark ∈ maskLines number lines) : lengthOfLines mark.behind < lengthOfLines lines := by
  induction lines generalizing number with
  | nil => simp [maskLines] at mem
  | cons line later ih =>
      rcases List.mem_append.1 mem with here | behind
      · rcases (place_of_mem_maskLine here).2 with ⟨after, behind, size⟩
        rw [behind, lengthOfLines_cons, lengthOfLines_cons]
        omega
      · exact Nat.lt_trans (ih behind) (lengthOfLines_lt_cons line later)

namespace Mask

/-- The marks from the first bracket on. -/
def sinceBracket (marks : List Mark) : List Mark :=
  marks.dropWhile fun mark => !mark.opens

/-- The brackets that were opened. -/
def openers (marks : List Mark) : Nat :=
  (sinceBracket marks).countP Mark.opens

/-- The brackets that were closed, since the first was opened. -/
def closers (marks : List Mark) : Nat :=
  (sinceBracket marks).countP Mark.closes

/-- The brackets that are open. -/
def depth (marks : List Mark) : Nat :=
  openers marks - closers marks

/-- The first mark with a property that depends on the marks in front of it, and these marks. Those
of `front` have been passed. -/
def firstAt? (holds : List Mark → Mark → Bool) (front : List Mark) :
    List Mark → Option (List Mark × Mark)
  | [] => none
  | mark :: later =>
    if holds front mark then some (front, mark) else firstAt? holds (front ++ [mark]) later

/-- Whether a block ends at a mark: a bracket closes, and all that were opened are closed. -/
def endsBlock (front : List Mark) (mark : Mark) : Bool :=
  mark.closes && front.any Mark.opens && openers (front ++ [mark]) == closers (front ++ [mark])

/-- Whether a mark could end the template of a block: a colon at depth one. -/
def endsTemplate (front : List Mark) (mark : Mark) : Bool :=
  mark.isColon && depth front == 1

/-- Whether no colon has ended the template. -/
def inTemplate (marks : List Mark) : Bool :=
  (firstAt? endsTemplate [] marks).isNone

/-- The literals before the first colon at depth one. -/
def template (marks : List Mark) : List (List Char) :=
  match firstAt? endsTemplate [] marks with
  | some (front, _) => front.filterMap Mark.literal?
  | none => marks.filterMap Mark.literal?

section FirstAt

variable {holds : List Mark → Mark → Bool}

theorem firstAt?_append (front marks more : List Mark) :
    firstAt? holds front (marks ++ more) =
      (firstAt? holds front marks).or (firstAt? holds (front ++ marks) more) := by
  induction marks generalizing front with
  | nil => simp [firstAt?]
  | cons mark later ih =>
      rw [List.cons_append, firstAt?, firstAt?]
      split
      · rfl
      · rw [ih, List.append_assoc, List.singleton_append]

theorem exists_of_firstAt? {front marks before : List Mark} {mark : Mark}
    (found : firstAt? holds front marks = some (before, mark)) :
    holds before mark = true ∧ mark ∈ marks ∧
      ∃ later, front ++ marks = before ++ mark :: later := by
  induction marks generalizing front with
  | nil => simp [firstAt?] at found
  | cons head later ih =>
      rw [firstAt?] at found
      split at found
      · rename_i here
        rw [Option.some.injEq, Prod.mk.injEq] at found
        rcases found with ⟨rfl, rfl⟩
        exact ⟨here, List.mem_cons_self, later, rfl⟩
      · rcases ih found with ⟨there, mem, rest, same⟩
        refine ⟨there, List.mem_cons_of_mem head mem, rest, ?_⟩
        rw [← same, List.append_assoc, List.singleton_append]

end FirstAt

section Counts

variable {front : List Mark} {mark : Mark}

theorem sinceBracket_append_singleton (front : List Mark) (mark : Mark) :
    sinceBracket (front ++ [mark]) =
      if front.any Mark.opens then sinceBracket front ++ [mark]
      else if mark.opens then [mark] else [] := by
  induction front with
  | nil => cases opens : mark.opens <;> simp [sinceBracket, opens]
  | cons head later ih =>
      cases opens : head.opens
      · simpa [sinceBracket, opens] using ih
      · simp [sinceBracket, opens]

theorem sinceBracket_eq_nil (closed : front.any Mark.opens = false) : sinceBracket front = [] := by
  rw [sinceBracket, List.dropWhile_eq_nil_iff]
  simpa using closed

theorem openers_append_singleton (front : List Mark) (mark : Mark) :
    openers (front ++ [mark]) = openers front + if mark.opens then 1 else 0 := by
  rw [openers, sinceBracket_append_singleton]
  cases opened : front.any Mark.opens
  · cases opens : mark.opens <;> simp [openers, sinceBracket_eq_nil opened, opens]
  · simp [openers, List.countP_append, List.countP_singleton]

theorem closers_append_singleton (front : List Mark) (mark : Mark) :
    closers (front ++ [mark]) =
      closers front + if mark.closes && front.any Mark.opens then 1 else 0 := by
  rw [closers, sinceBracket_append_singleton]
  cases opened : front.any Mark.opens
  · cases opens : mark.opens
    · simp [closers, sinceBracket_eq_nil opened]
    · simp [closers, sinceBracket_eq_nil opened, Mark.not_closes_of_opens opens]
  · simp [closers, List.countP_append, List.countP_singleton]

/-- Once a bracket is open, fewer are closed than opened: no block has ended. -/
def Unclosed (front : List Mark) : Prop :=
  front.any Mark.opens = true → closers front < openers front

theorem Unclosed.depth_ne_zero_iff (unclosed : Unclosed front) :
    depth front ≠ 0 ↔ front.any Mark.opens = true := by
  rw [depth]
  constructor
  · intro positive
    by_contra opened
    rw [Bool.not_eq_true] at opened
    simp [openers, closers, sinceBracket_eq_nil opened] at positive
  · intro opened
    have := unclosed opened
    omega

/-- A block ends where a bracket closes at depth one. -/
theorem Unclosed.endsBlock_iff (unclosed : Unclosed front) :
    endsBlock front mark = true ↔ mark.closes = true ∧ depth front = 1 := by
  have counted : mark.closes = true → front.any Mark.opens = true →
      (openers (front ++ [mark]) = closers (front ++ [mark]) ↔ depth front = 1) := by
    intro closes opened
    have := unclosed opened
    rw [openers_append_singleton, closers_append_singleton, Mark.not_opens_of_closes closes, closes,
      opened, depth]
    simp only [Bool.false_eq_true, Bool.and_self, ↓reduceIte]
    omega
  rw [endsBlock, Bool.and_eq_true, Bool.and_eq_true, beq_iff_eq]
  constructor
  · rintro ⟨⟨closes, opened⟩, same⟩
    exact ⟨closes, (counted closes opened).1 same⟩
  · rintro ⟨closes, one⟩
    have opened : front.any Mark.opens = true := unclosed.depth_ne_zero_iff.1 (by omega)
    exact ⟨⟨closes, opened⟩, (counted closes opened).2 one⟩

theorem depth_append_of_opens (unclosed : Unclosed front) (opens : mark.opens = true) :
    depth (front ++ [mark]) = depth front + 1 := by
  rw [depth, depth, openers_append_singleton, closers_append_singleton, opens,
    Mark.not_closes_of_opens opens]
  cases opened : front.any Mark.opens
  · simp [openers, closers, sinceBracket_eq_nil opened]
  · have := unclosed opened
    simp only [↓reduceIte, Bool.false_and, Bool.false_eq_true]
    omega

theorem depth_append_of_closes (closes : mark.closes = true)
    (opened : front.any Mark.opens = true) :
    depth (front ++ [mark]) = depth front - 1 := by
  rw [depth, depth, openers_append_singleton, closers_append_singleton,
    Mark.not_opens_of_closes closes, closes, opened]
  simp only [Bool.false_eq_true, Bool.and_self, ↓reduceIte]
  omega

theorem depth_append_of_not_counted (notOpens : mark.opens = false)
    (notCounted : (mark.closes && front.any Mark.opens) = false) :
    depth (front ++ [mark]) = depth front := by
  rw [depth, depth, openers_append_singleton, closers_append_singleton, notOpens, notCounted]
  rfl

theorem Unclosed.append_singleton (unclosed : Unclosed front)
    (goesOn : endsBlock front mark = false) :
    Unclosed (front ++ [mark]) := by
  intro opened
  rw [List.any_append, Bool.or_eq_true, List.any_cons, List.any_nil, Bool.or_false] at opened
  rw [openers_append_singleton, closers_append_singleton]
  by_cases opens : mark.opens = true
  · rw [opens, Mark.not_closes_of_opens opens]
    cases before : front.any Mark.opens
    · simp [openers, closers, sinceBracket_eq_nil before]
    · have := unclosed before
      simp only [Bool.false_and, Bool.false_eq_true, ↓reduceIte]
      omega
  · have before := opened.resolve_right opens
    have fewer := unclosed before
    rw [before, Bool.and_true]
    cases closes : mark.closes
    · simp only [Bool.false_eq_true, ↓reduceIte]
      omega
    · -- The bracket closes but the block goes on, so another one is open.
      have notOne : depth front ≠ 1 := by
        intro one
        rw [unclosed.endsBlock_iff.2 ⟨closes, one⟩] at goesOn
        contradiction
      rw [depth] at notOne
      simp only [↓reduceIte]
      omega

/-- Brackets stay open along marks at which no block ends. -/
theorem Unclosed.append {marks : List Mark} (unclosed : Unclosed front)
    (notFound : firstAt? endsBlock front marks = none) : Unclosed (front ++ marks) := by
  induction marks generalizing front with
  | nil => simpa using unclosed
  | cons mark later ih =>
      rw [firstAt?] at notFound
      split at notFound
      · contradiction
      · rename_i goesOn
        rw [List.append_cons]
        exact ih (unclosed.append_singleton (Bool.eq_false_iff.2 goesOn)) notFound

/-- A block that ends has a bracket in front of its end. -/
theorem any_opens_of_endsBlock (ends : endsBlock front mark = true) :
    front.any Mark.opens = true := by
  rw [endsBlock, Bool.and_eq_true, Bool.and_eq_true] at ends
  exact ends.1.2

end Counts

section Template

theorem inTemplate_append_singleton (front : List Mark) (mark : Mark) :
    inTemplate (front ++ [mark]) = (inTemplate front && !endsTemplate front mark) := by
  rw [inTemplate, inTemplate, firstAt?_append, List.nil_append]
  cases firstAt? endsTemplate [] front with
  | some _ => rfl
  | none => cases ends : endsTemplate front mark <;> simp [firstAt?, ends]

/-- A literal counts while the template lasts. -/
theorem template_append_singleton (front : List Mark) (mark : Mark) :
    template (front ++ [mark]) =
      if inTemplate front then template front ++ mark.literal?.toList else template front := by
  rw [template, template, inTemplate, firstAt?_append, List.nil_append]
  cases firstAt? endsTemplate [] front with
  | some _ => rfl
  | none =>
      cases ends : endsTemplate front mark
      · cases literal : mark.literal? <;> simp [firstAt?, ends, literal]
      · have colon : mark.piece = .code ':' := by
          rw [endsTemplate, Bool.and_eq_true, Mark.isColon, decide_eq_true_eq] at ends
          exact ends.1
        simp [firstAt?, ends, Mark.literal?, colon]

end Template

end Mask

end CrossArch.Assembly
