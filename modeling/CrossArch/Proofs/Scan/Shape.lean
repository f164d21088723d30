import CrossArch.Proofs.Comment.Lines
import CrossArch.Proofs.Conditional.Order
import CrossArch.Proofs.Scan.Parts

/-!
# The shape of a source scan

The three parts of a source scan are found by three different searches over the text without its
comments. Stripping keeps the newlines, so the lines that the searches count are lines of the text
as it was given, and each part is in the order of its own search.
-/

namespace CrossArch

/-- What the findings of a source text with a number of lines look like. -/
structure SourceShape (lineCount : Nat) (findings : List Finding) : Prop where
  /-- The conditional segments come first, then the rules, then inline assembly. -/
  parts : findings =
    ofKind .conditional findings ++ ofKind .rule findings ++ ofKind .assembly findings
  /-- Every finding lies on lines of the text. -/
  bounds : ∀ finding ∈ findings, ∃ range, finding.range = some range ∧
    1 ≤ range.first ∧ range.first ≤ range.last ∧ range.last ≤ lineCount
  conditionalsSorted : (lineRanges (ofKind .conditional findings)).Pairwise fun range other =>
    range.precedes other = true
  conditionalsSpan : ∀ range ∈ lineRanges (ofKind .conditional findings), range.first < range.last
  /-- A conditional segment ends on a line before the next one begins. -/
  conditionalsApart : (lineRanges (ofKind .conditional findings)).Pairwise fun range other =>
    range.last < other.first
  rulesAscend : (lineRanges (ofKind .rule findings)).Pairwise fun range other =>
    range.first ≤ other.first
  /-- A block of inline assembly ends no later than the next one begins. -/
  assemblyFollows : (lineRanges (ofKind .assembly findings)).Pairwise fun range other =>
    range.last ≤ other.first

/-- Every finding lies on lines of a text with a number of lines. -/
def OnLines (lineCount : Nat) (findings : List Finding) : Prop :=
  ∀ finding ∈ findings, ∃ range, finding.range = some range ∧
    1 ≤ range.first ∧ range.first ≤ range.last ∧ range.last ≤ lineCount

theorem OnLines.append {lineCount : Nat} {findings more : List Finding}
    (onLines : OnLines lineCount findings) (moreOnLines : OnLines lineCount more) :
    OnLines lineCount (findings ++ more) := by
  intro finding mem
  rcases List.mem_append.1 mem with mem | mem
  · exact onLines finding mem
  · exact moreOnLines finding mem

section Bounds

variable {catalog : Catalog} {text : List Char} {file : String} {category : FileCategory}

theorem newlines_strip_cStyle (text : List Char) :
    Text.newlines (Comment.strip Comment.cStyle text) = Text.newlines text :=
  (Comment.thinned_stripFrom Comment.cStyle_blockWithinLine false none text).newlines_eq

theorem onLines_conditionalPart :
    OnLines (Text.newlines text + 1) (conditionalPart catalog text file category) := by
  intro finding mem
  rcases List.mem_map.1 mem with ⟨range, rangeMem, rfl⟩
  have bounds := analyzeConditionals_bounds _ _ rangeMem
  rw [newlines_strip_cStyle] at bounds
  exact ⟨range, rfl, bounds.1, bounds.2.1.le, bounds.2.2⟩

theorem onLines_rulePart :
    OnLines (Text.newlines text + 1) (rulePart catalog text file category) := by
  intro finding mem
  rcases exists_hit_of_mem_rulePart mem with ⟨hit, hitMem, -, -, lines⟩
  have bounds := sourceHits_bounds hitMem
  rw [newlines_strip_cStyle] at bounds
  exact ⟨hit.range, lines, bounds⟩

theorem onLines_assemblyPart :
    OnLines (Text.newlines text + 1) (assemblyPart catalog text file category) := by
  intro finding mem
  rcases exists_range_of_mem_assemblyPart mem with ⟨range, rfl⟩
  have rangeMem : range ∈ lineRanges (assemblyPart catalog text file category) :=
    List.mem_filterMap.2 ⟨_, mem, rfl⟩
  have bounds :=
    (Assembly.inOrder_events _).bounds range (lineRanges_assemblyPart_sublist.subset rangeMem)
  rw [newlines_strip_cStyle] at bounds
  exact ⟨range, rfl, bounds⟩

end Bounds

/-- For every catalog and every text, the findings of a source scan have the shape of such
findings. -/
theorem sourceShape_scanSource (catalog : Catalog) (text : List Char) (file : String)
    (category : FileCategory) :
    SourceShape (Text.newlines text + 1) (scanSource catalog text file category).value := by
  constructor
  · rw [ofKind_scanSource, ofKind_scanSource, ofKind_scanSource, value_scanSource]
  · rw [value_scanSource]
    exact (onLines_conditionalPart.append onLines_rulePart).append onLines_assemblyPart
  · rw [ofKind_scanSource, lineRanges_conditionalPart]
    exact Segment.State.pairwise_finish _
  · rw [ofKind_scanSource, lineRanges_conditionalPart]
    intro range mem
    exact (analyzeConditionals_bounds _ _ mem).2.1
  · rw [ofKind_scanSource, lineRanges_conditionalPart]
    exact pairwise_analyzeConditionals _ _
  · rw [ofKind_scanSource]
    apply List.Pairwise.sublist lineRanges_rulePart_sublist
    apply List.pairwise_map.2
    apply List.Pairwise.imp_of_mem _ (pairwise_sourceHits _ _)
    intro hit other hitMem _ follows
    exact (sourceHits_bounds hitMem).2.1.trans follows
  · rw [ofKind_scanSource]
    exact (Assembly.inOrder_events _).pairwise.sublist lineRanges_assemblyPart_sublist

end CrossArch
