import CrossArch.Assembly.Block
import CrossArch.Catalog
import CrossArch.Comment
import CrossArch.Conditional.Segment
import CrossArch.Finding
import CrossArch.Hit.Source

/-!
# Scanning a source file

A source file is scanned without its comments. Its findings are the conditional segments that leave
the destination out, then the rule keys that have a suggestion for the destination, then the inline
assembly that the destination cannot run. Inline assembly is only looked at when an opener was hit.
-/

namespace CrossArch

/-- The finding that a hit makes, if its key has a suggestion for the destination. -/
def ruleFinding? (table : RuleTable) (dest : Arch) (file : String) (category : FileCategory)
    (hit : Hit) : Option Finding :=
  (table.suggestion? (String.ofList hit.key) dest).map fun suggestion =>
    ⟨file, some hit.range, String.ofList hit.key, suggestion, category⟩

/-- The messages about rule hits that have no suggestion for the destination. -/
def droppedEntries (topic : LogTopic) (table : RuleTable) (dest : Arch) (file : String)
    (hits : List Hit) : List LogEntry :=
  hits.filterMap fun hit =>
    let key := String.ofList hit.key
    if (table.suggestion? key dest).isSome then none
    else some ⟨.debug, topic,
      s!"{file}:{hit.range.first} '{key}' has no suggestion for {dest.id}; dropped"⟩

/-- The hits of a rule table among other hits. -/
def ruleHits (hits : List Hit) : List Hit :=
  hits.filter fun hit => hit.kind == .rule

/-- The findings about inline assembly in a text without comments, once an opener was hit. -/
def assemblyFindings (catalog : Catalog) (file : String) (category : FileCategory)
    (stripped : List Char) : Logged (List Finding) :=
  match catalog.whitelist with
  | some whitelist => do
    let ranges ← Assembly.foreignBlocks catalog.dest whitelist stripped
    return ranges.map fun range =>
      ⟨file, some range, assemblyKey, catalog.assemblySuggestion, category⟩
  | none => do
    Logged.write .debug .sourceScan s!"{file}: inline assembly found but no whitelist is loaded"
    return []

/-- The findings of a source text. -/
def scanSource (catalog : Catalog) (text : List Char) (file : String) (category : FileCategory) :
    Logged (List Finding) := do
  let stripped := Comment.strip Comment.cStyle text
  let segments ← analyzeConditionals catalog.dest stripped
  let hits := sourceHits catalog.source stripped
  let rules := ruleHits hits
  Logged.writeAll (droppedEntries .sourceScan catalog.source catalog.dest file rules)
  let assembly ←
    if hits.any (fun hit => hit.kind == .assembly) then
      assemblyFindings catalog file category stripped
    else pure []
  let conditionals := segments.map fun range =>
    ⟨file, some range, conditionalKey, catalog.conditionalSuggestion, category⟩
  return conditionals ++
    rules.filterMap (ruleFinding? catalog.source catalog.dest file category) ++ assembly

end CrossArch
