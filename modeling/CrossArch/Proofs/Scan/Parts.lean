import CrossArch.Proofs.Assembly.Order
import CrossArch.Proofs.Hit.Search
import CrossArch.Scan.Source

/-!
# The parts of a source scan

The findings of a source text come in three parts, which their keys tell apart: the conditional
segments, the hits of the rule table, and the inline assembly. The two built-in keys are never
searched for, so a key that is not reserved belongs to the rule table.
-/

namespace CrossArch

/-- The lines of findings, in order. -/
def lineRanges (findings : List Finding) : List LineRange :=
  findings.filterMap Finding.range

/-- What a finding of a source file is about, by its key. -/
inductive FindingKind where
  | conditional
  | rule
  | assembly
  deriving DecidableEq, Repr

/-- The two built-in keys have kinds of their own; every other key is one of a rule table. -/
def Finding.kind (finding : Finding) : FindingKind :=
  if finding.key = conditionalKey then .conditional
  else if finding.key = assemblyKey then .assembly
  else .rule

/-- The findings of a kind, in order. -/
def ofKind (kind : FindingKind) (findings : List Finding) : List Finding :=
  findings.filter fun finding => finding.kind = kind

/-- Of findings of one kind, those of a kind are all or none. -/
theorem ofKind_of_forall_kind {findings : List Finding} {theirs : FindingKind}
    (allOfKind : ∀ finding ∈ findings, finding.kind = theirs) (kind : FindingKind) :
    ofKind kind findings = if theirs = kind then findings else [] := by
  split <;> rename_i same
  · apply List.filter_eq_self.2
    intro finding mem
    simp [allOfKind finding mem, same]
  · apply List.filter_eq_nil_iff.2
    intro finding mem
    simp [allOfKind finding mem, same]

/-- Findings in parts of one kind each can be told apart again. -/
theorem ofKind_append_of_kinds {conditionals rules assembly : List Finding}
    (areConditionals : ∀ finding ∈ conditionals, finding.kind = .conditional)
    (areRules : ∀ finding ∈ rules, finding.kind = .rule)
    (areAssembly : ∀ finding ∈ assembly, finding.kind = .assembly) (kind : FindingKind) :
    ofKind kind (conditionals ++ rules ++ assembly) =
      match kind with
      | .conditional => conditionals
      | .rule => rules
      | .assembly => assembly := by
  have split : ofKind kind (conditionals ++ rules ++ assembly) =
      ofKind kind conditionals ++ ofKind kind rules ++ ofKind kind assembly := by
    simp only [ofKind, List.filter_append]
  rw [split, ofKind_of_forall_kind areConditionals, ofKind_of_forall_kind areRules,
    ofKind_of_forall_kind areAssembly]
  cases kind <;> simp

section Parts

variable (catalog : Catalog) (text : List Char) (file : String) (category : FileCategory)

/-- What a source scan reports about conditional segments. -/
def conditionalPart : List Finding :=
  (analyzeConditionals catalog.dest (Comment.strip Comment.cStyle text)).value.map fun range =>
    ⟨file, some range, conditionalKey, catalog.conditionalSuggestion, category⟩

/-- What a source scan reports about keys of the rule table. -/
def rulePart : List Finding :=
  (ruleHits (sourceHits catalog.source (Comment.strip Comment.cStyle text))).filterMap
    (ruleFinding? catalog.source catalog.dest file category)

/-- What a source scan reports about inline assembly. -/
def assemblyPart : List Finding :=
  if (sourceHits catalog.source (Comment.strip Comment.cStyle text)).any
      (fun hit => hit.kind == .assembly) then
    (assemblyFindings catalog file category (Comment.strip Comment.cStyle text)).value
  else []

theorem value_scanSource :
    (scanSource catalog text file category).value =
      conditionalPart catalog text file category ++ rulePart catalog text file category ++
        assemblyPart catalog text file category := by
  simp only [scanSource, Logged.value_bind, assemblyPart]
  split <;> rfl

variable {catalog text file category} {finding : Finding}

theorem kind_of_mem_conditionalPart (mem : finding ∈ conditionalPart catalog text file category) :
    finding.kind = .conditional := by
  rcases List.mem_map.1 mem with ⟨range, -, rfl⟩
  rfl

/-- A finding of the rule part comes from a hit and takes its key and its lines. -/
theorem exists_hit_of_mem_rulePart (mem : finding ∈ rulePart catalog text file category) :
    ∃ hit ∈ sourceHits catalog.source (Comment.strip Comment.cStyle text),
      hit.kind = .rule ∧ finding.key = String.ofList hit.key ∧ finding.range = some hit.range := by
  rcases List.mem_filterMap.1 mem with ⟨hit, hitMem, found⟩
  rcases List.mem_filter.1 hitMem with ⟨hitMem, kind⟩
  rcases Option.map_eq_some_iff.1 found with ⟨suggestion, -, rfl⟩
  exact ⟨hit, hitMem, by simpa using kind, rfl, rfl⟩

theorem kind_of_mem_rulePart (mem : finding ∈ rulePart catalog text file category) :
    finding.kind = .rule := by
  rcases exists_hit_of_mem_rulePart mem with ⟨hit, hitMem, kind, key, -⟩
  have notReserved := SearchKey.not_mem_reservedKeys (key_mem_of_ruleHit hitMem kind)
  rw [← key] at notReserved
  simp only [reservedKeys, List.mem_cons, List.not_mem_nil, or_false, not_or] at notReserved
  rw [Finding.kind, if_neg notReserved.1, if_neg notReserved.2]

/-- Inline assembly is reported with the lines of the blocks that the destination cannot run. -/
theorem value_assemblyFindings (stripped : List Char) :
    (assemblyFindings catalog file category stripped).value =
      (catalog.whitelist.elim [] fun whitelist =>
        (Assembly.foreignBlocks catalog.dest whitelist stripped).value).map fun range =>
          ⟨file, some range, assemblyKey, catalog.assemblySuggestion, category⟩ := by
  unfold assemblyFindings
  split <;> rename_i loaded <;> simp [loaded]

/-- A finding of the assembly part has lines and the built-in key. -/
theorem exists_range_of_mem_assemblyPart
    (mem : finding ∈ assemblyPart catalog text file category) :
    ∃ range, finding = ⟨file, some range, assemblyKey, catalog.assemblySuggestion, category⟩ := by
  rw [assemblyPart, value_assemblyFindings] at mem
  split at mem
  · rcases List.mem_map.1 mem with ⟨range, -, same⟩
    exact ⟨range, same.symm⟩
  · simp at mem

theorem kind_of_mem_assemblyPart (mem : finding ∈ assemblyPart catalog text file category) :
    finding.kind = .assembly := by
  rcases exists_range_of_mem_assemblyPart mem with ⟨range, rfl⟩
  rfl

/-- The findings of each kind are the part of the scan that looks for them. -/
theorem ofKind_scanSource (kind : FindingKind) :
    ofKind kind (scanSource catalog text file category).value =
      match kind with
      | .conditional => conditionalPart catalog text file category
      | .rule => rulePart catalog text file category
      | .assembly => assemblyPart catalog text file category := by
  rw [value_scanSource]
  apply ofKind_append_of_kinds
  · intro finding mem
    exact kind_of_mem_conditionalPart mem
  · intro finding mem
    exact kind_of_mem_rulePart mem
  · intro finding mem
    exact kind_of_mem_assemblyPart mem

section Lines

theorem lineRanges_conditionalPart :
    lineRanges (conditionalPart catalog text file category) =
      (analyzeConditionals catalog.dest (Comment.strip Comment.cStyle text)).value := by
  simp [lineRanges, conditionalPart, List.filterMap_map]

theorem lineRanges_ruleFindings_sublist (table : RuleTable) (dest : Arch) (hits : List Hit) :
    (lineRanges (hits.filterMap (ruleFinding? table dest file category))).Sublist
      (hits.map Hit.range) := by
  induction hits with
  | nil => exact List.Sublist.refl _
  | cons hit later ih =>
      rw [List.map_cons, List.filterMap_cons]
      split <;> rename_i found
      · exact ih.cons hit.range
      · rcases Option.map_eq_some_iff.1 found with ⟨suggestion, -, rfl⟩
        exact ih.cons_cons hit.range

/-- The lines of the rule part are those of some of the hits, in order. -/
theorem lineRanges_rulePart_sublist :
    (lineRanges (rulePart catalog text file category)).Sublist
      ((sourceHits catalog.source (Comment.strip Comment.cStyle text)).map Hit.range) := by
  apply (lineRanges_ruleFindings_sublist _ _ _).trans
  exact List.Sublist.map Hit.range List.filter_sublist

/-- The lines of the assembly part are those of some of the blocks, in order. -/
theorem lineRanges_assemblyPart_sublist :
    (lineRanges (assemblyPart catalog text file category)).Sublist
      (Assembly.ranges (Assembly.events (Comment.strip Comment.cStyle text))) := by
  rw [assemblyPart, value_assemblyFindings]
  split
  · cases catalog.whitelist with
    | none => exact List.nil_sublist _
    | some whitelist =>
        simpa [lineRanges, List.filterMap_map] using
          Assembly.foreignBlocks_sublist catalog.dest whitelist (Comment.strip Comment.cStyle text)
  · exact List.nil_sublist _

end Lines

end Parts

end CrossArch
