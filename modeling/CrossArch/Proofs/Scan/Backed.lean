import CrossArch.Proofs.Comment.Blocks
import CrossArch.Proofs.Scan.Parts

/-!
# Rule findings and the text as given

Keys are searched for in the text without its comments, so a key that is found need not stand in the
text as it was given: a block comment may have been dropped from its middle. What does hold is that
the key is written on the reported line with nothing but block comments between its characters.
-/

namespace CrossArch

section Backed

variable {catalog : Catalog} {text : List Char} {file : String} {category : FileCategory}

theorem mem_rulePart {finding : Finding}
    (mem : finding ∈ (scanSource catalog text file category).value)
    (kind : finding.kind = .rule) : finding ∈ rulePart catalog text file category := by
  have ruleMem : finding ∈ ofKind .rule (scanSource catalog text file category).value :=
    List.mem_filter.2 ⟨mem, by simp [kind]⟩
  rwa [ofKind_scanSource] at ruleMem

end Backed

/--
If the keys of the rule table contain no newline, each rule finding lies on one line, and its key is
written on that line of the text as given, with nothing but block comments between its characters.
On a line without an opening marker the key stands as it is.
-/
theorem rule_finding_written_on_line (catalog : Catalog) (oneLine : catalog.source.HasOneLineKeys)
    (text : List Char) (file : String) (category : FileCategory) (finding : Finding)
    (mem : finding ∈ (scanSource catalog text file category).value)
    (kind : finding.kind = .rule) :
    ∃ number line written, finding.range = some ⟨number, number⟩ ∧
      (line, number) ∈ Text.numberedLines text ∧ written <:+: line ∧
      Comment.Interrupted none finding.key.toList written ∧
      (¬['/', '*'] <:+: line → finding.key.toList <:+: line) := by
  rcases exists_hit_of_mem_rulePart (mem_rulePart mem kind) with ⟨hit, hitMem, hitKind, key, range⟩
  have keyMem := SearchKey.mem_ofTable.1 (key_mem_of_ruleHit hitMem hitKind)
  have inLine : '\n' ∉ hit.key := by simpa using oneLine _ keyMem.1
  have nonempty : hit.key ≠ [] := by
    intro empty
    simp [empty, SearchKey.isSearched] at keyMem
  rcases exists_place_of_ruleHit hitMem hitKind with ⟨front, back, stripped, lines⟩
  rcases Comment.exists_interrupted_of_strip stripped nonempty inLine with
    ⟨line, written, numbered, onLine, interrupted⟩
  rw [key, String.toList_ofList, range, lines, Text.newlines_eq_zero inLine]
  refine ⟨Text.newlines front + 1, line, written, rfl, numbered, onLine, interrupted, ?_⟩
  intro notOpening
  rwa [← interrupted.eq_of_not_opening fun opening => notOpening (opening.trans onLine)]

/-- A catalog with a rule for one intrinsic. -/
def pauseCatalog : Catalog :=
  ⟨.x86_64, .arm64, ⟨⟨[("_mm_pause", ⟨"", ⟨[("arm64", "Use yield.")]⟩⟩)]⟩⟩, .empty, none, []⟩

/-- Two comments stand inside the key, one of which contains the openings of others. -/
theorem rule_finding_written_on_line_pause :
    pauseCatalog.source.HasOneLineKeys ∧
      ⟨"x.c", some ⟨2, 2⟩, "_mm_pause", "Use yield.", .cpp⟩ ∈ (scanSource pauseCatalog
        "\n _mm/*// /**/_/**/pause(); // y".toList "x.c" .cpp).value ∧
      ∃ number line written, some (⟨2, 2⟩ : LineRange) = some ⟨number, number⟩ ∧
        (line, number) ∈ Text.numberedLines "\n _mm/*// /**/_/**/pause(); // y".toList ∧
        written <:+: line ∧ Comment.Interrupted none "_mm_pause".toList written ∧
        (¬['/', '*'] <:+: line → "_mm_pause".toList <:+: line) := by
  have oneLine : pauseCatalog.source.HasOneLineKeys := by
    decide
  have mem : ⟨"x.c", some ⟨2, 2⟩, "_mm_pause", "Use yield.", .cpp⟩ ∈ (scanSource pauseCatalog
      "\n _mm/*// /**/_/**/pause(); // y".toList "x.c" .cpp).value := by
    decide +kernel
  exact ⟨oneLine, mem, rule_finding_written_on_line pauseCatalog oneLine _ _ _ _ mem rfl⟩

/-- Not every rule finding has its key on the reported line of the text as given. -/
theorem rule_key_not_on_line :
    ¬∀ (catalog : Catalog) (text : List Char) (file : String) (category : FileCategory),
      catalog.source.HasOneLineKeys →
      ∀ finding ∈ (scanSource catalog text file category).value, finding.kind = .rule →
      ∀ number line, finding.range = some ⟨number, number⟩ →
        (line, number) ∈ Text.numberedLines text → finding.key.toList <:+: line := by
  intro backed
  have onLine := backed pauseCatalog "_mm_/**/pause();".toList "x.c" .cpp (by decide)
    ⟨"x.c", some ⟨1, 1⟩, "_mm_pause", "Use yield.", .cpp⟩ (by decide +kernel) rfl 1
    "_mm_/**/pause();".toList rfl (by decide +kernel)
  revert onLine
  decide +kernel

end CrossArch
