import CrossArch.Proofs.Conditional.Grouping
import CrossArch.Proofs.Conditional.Search

/-!
# The lines of flagged segments

The directives of a text stand on ascending lines. So the lines of a flagged segment begin before
they end, and since two maximal segments have no place in common, their lines have none either.
-/

namespace CrossArch

namespace Directive

theorem line_of_ofLine? {line : List Char} {number : Nat} {directive : Directive}
    (found : ofLine? line number = some directive) : directive.line = number := by
  simp only [ofLine?, Option.bind_eq_some_iff, Option.ite_none_right_eq_some,
    Option.some.injEq] at found
  rcases found with ⟨parts, -, -, rfl⟩
  rfl

/-- The directives of a text stand on ascending lines. -/
theorem pairwise_all (text : List Char) :
    (all text).Pairwise fun directive other => directive.line < other.line := by
  rw [all_eq]
  apply List.Pairwise.filterMap _ _ (Text.pairwise_numberedLines text)
  intro line other less directive found directive' found'
  rw [line_of_ofLine? found, line_of_ofLine? found']
  exact less

/-- The directives of a text stand on its lines. -/
theorem line_bounds {text : List Char} {directive : Directive} (mem : directive ∈ all text) :
    1 ≤ directive.line ∧ directive.line ≤ Text.newlines text + 1 := by
  rw [all_eq] at mem
  rcases List.mem_filterMap.1 mem with ⟨⟨line, number⟩, numbered, found⟩
  rw [line_of_ofLine? found]
  exact Text.number_mem_bounds numbered

end Directive

namespace Segment

theorem lineAt_eq {directives : List Directive} {place : Nat} (inside : place < directives.length) :
    lineAt directives place = directives[place].line := by
  rw [lineAt, List.getElem?_eq_getElem inside]
  rfl

/-- The lines of directives at ascending places ascend if those of all directives do. -/
theorem lineAt_lt {directives : List Directive}
    (ascending : directives.Pairwise fun directive other => directive.line < other.line)
    {place later : Nat} (less : place < later) (inside : later < directives.length) :
    lineAt directives place < lineAt directives later := by
  rw [lineAt_eq inside, lineAt_eq (less.trans inside)]
  exact List.pairwise_iff_getElem.1 ascending place later (less.trans inside) inside less

/-- On ascending lines, a closed segment begins before the line on which it ends. -/
theorem ClosedBy.lines_lt {directives : List Directive}
    (ascending : directives.Pairwise fun directive other => directive.line < other.line)
    {segment : Nat × Nat} (closed : ClosedBy directives segment.1 segment.2) :
    (linesOf directives segment).first < (linesOf directives segment).last :=
  lineAt_lt ascending closed.later closed.inside

/-- On ascending lines, two maximal segments have no line in common. -/
theorem Maximal.lines_apart {dest : Arch} {directives : List Directive}
    (ascending : directives.Pairwise fun directive other => directive.line < other.line)
    {segment other : Nat × Nat} (maximal : Maximal dest directives segment.1 segment.2)
    (maximal' : Maximal dest directives other.1 other.2) (different : segment ≠ other) :
    (linesOf directives segment).last < (linesOf directives other).first ∨
      (linesOf directives other).last < (linesOf directives segment).first := by
  have closed := maximal.flagged.closed
  have closed' := maximal'.flagged.closed
  rcases Nat.lt_trichotomy segment.1 other.1 with less | equal | greater
  · left
    apply lineAt_lt ascending (maximal.apart maximal' less)
    exact closed'.later.trans closed'.inside
  · rw [equal] at closed
    exact absurd (Prod.ext equal (closed.last_unique closed')) different
  · right
    apply lineAt_lt ascending (maximal'.apart maximal greater)
    exact closed.later.trans closed.inside

end Segment

section Analysis

variable (dest : Arch) (text : List Char)

/-- Every reported range comes from a maximal segment. -/
theorem exists_maximal_of_mem {directives : List Directive} {range : LineRange}
    (mem : range ∈ (flaggedSegments dest directives).value) :
    ∃ segment : Nat × Nat, Segment.Maximal dest directives segment.1 segment.2 ∧
      Segment.linesOf directives segment = range := by
  have same := Segment.finish_readAll dest directives
  have mem' : range ∈ ((flaggedSegments dest directives).value : Multiset LineRange) := mem
  rw [flaggedSegments, same, Multiset.mem_map] at mem'
  rcases mem' with ⟨segment, segmentMem, lines⟩
  exact ⟨segment, Segment.mem_maximalSegments.1 segmentMem, lines⟩

/-- The range of a flagged segment of a text spans at least two lines, and they are lines of it. -/
theorem analyzeConditionals_bounds {range : LineRange}
    (mem : range ∈ (analyzeConditionals dest text).value) :
    1 ≤ range.first ∧ range.first < range.last ∧ range.last ≤ Text.newlines text + 1 := by
  rcases exists_maximal_of_mem dest mem with ⟨segment, maximal, rfl⟩
  have closed := maximal.flagged.closed
  have inside := closed.later.trans closed.inside
  refine ⟨?_, closed.lines_lt (Directive.pairwise_all text), ?_⟩
  · rw [Segment.linesOf, Segment.lineAt_eq inside]
    exact (Directive.line_bounds (List.getElem_mem inside)).1
  · rw [Segment.linesOf, Segment.lineAt_eq closed.inside]
    exact (Directive.line_bounds (List.getElem_mem closed.inside)).2

/-- The ranges of the flagged segments of a text are different. -/
theorem analyzeConditionals_nodup : (analyzeConditionals dest text).value.Nodup := by
  rw [← Multiset.coe_nodup, analyzeConditionals, flaggedSegments, Segment.finish_readAll]
  apply Multiset.Nodup.map_on _ (Segment.maximalSegments dest (Directive.all text)).nodup
  intro segment segmentMem other otherMem same
  rw [Finset.mem_val, Segment.mem_maximalSegments] at segmentMem otherMem
  have ascending := Directive.pairwise_all text
  have spans := segmentMem.flagged.closed.lines_lt ascending
  by_contra different
  have apart := segmentMem.lines_apart ascending otherMem different
  rw [← same] at apart
  omega

/-- Each flagged segment of a text ends on a line before the next one begins. -/
theorem pairwise_analyzeConditionals :
    (analyzeConditionals dest text).value.Pairwise fun range other => range.last < other.first := by
  have sorted := (Segment.State.readAll dest (Directive.all text)).pairwise_finish
  have distinct := analyzeConditionals_nodup dest text
  apply List.Pairwise.imp_of_mem _ (sorted.and distinct)
  rintro range other rangeMem otherMem ⟨precedes, different⟩
  have bounds := analyzeConditionals_bounds dest text otherMem
  rcases exists_maximal_of_mem dest rangeMem with ⟨segment, maximal, rfl⟩
  rcases exists_maximal_of_mem dest otherMem with ⟨segment', maximal', rfl⟩
  have apart := maximal.lines_apart (Directive.pairwise_all text) maximal'
    (fun same => different (by rw [same]))
  rw [LineRange.precedes_iff] at precedes
  omega

end Analysis

end CrossArch
