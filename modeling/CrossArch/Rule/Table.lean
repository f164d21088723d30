import CrossArch.Architecture
import CrossArch.Log
import CrossArch.Rule.Dictionary

/-!
# Rule tables

A rule table maps a key, such as the name of an intrinsic or a compiler option, to a description and
to one suggestion for each destination that needs one.
-/

namespace CrossArch

/-- What a rule table says about a key. -/
structure RuleEntry where
  description : String
  /-- The suggestions by the identifier of their destination. -/
  suggestions : Dictionary String
  deriving DecidableEq, Repr

/-- Rules by their keys. -/
structure RuleTable where
  rules : Dictionary RuleEntry
  deriving DecidableEq, Repr

namespace RuleTable

/-- The table without rules. -/
def empty : RuleTable :=
  ⟨.empty⟩

/-- The rule under a key. -/
def find? (table : RuleTable) (key : String) : Option RuleEntry :=
  table.rules.find? key

/-- The suggestion of a key for a destination. -/
def suggestion? (table : RuleTable) (key : String) (dest : Arch) : Option String :=
  (table.find? key).bind fun entry => entry.suggestions.find? dest.id

/-- The keys of a table, in ascending order. -/
def keys (table : RuleTable) : List String :=
  table.rules.keys

/-- The number of rules. -/
def size (table : RuleTable) : Nat :=
  table.rules.size

/-- Put one rule into a table, with a message if it replaces another. -/
def mergeRule (table : RuleTable) (rule : String × RuleEntry) : Logged RuleTable := do
  if table.rules.contains rule.1 then
    Logged.write .debug .rules s!"rule '{rule.1}' overridden by a later rule file"
  return ⟨table.rules.insert rule.1 rule.2⟩

/-- Put all rules of a later table into an earlier one; where both have a key, the later counts. -/
def merge (table later : RuleTable) : Logged RuleTable :=
  later.rules.entries.foldlM mergeRule table

end RuleTable

end CrossArch
