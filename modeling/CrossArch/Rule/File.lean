import CrossArch.Assembly.Whitelist
import CrossArch.Json.Reader
import CrossArch.Rule.Table

/-!
# Rule files

Rule files are JSON. A table file is an object from keys to entries, and a whitelist file an object
with the field `instructions`. A record may be written as an object, whose unknown fields are
skipped and whose known fields may stand only once, or as an array of its fields in order. Fields
that may be missing have an empty default, and `null` is not a value for any of them.
-/

namespace CrossArch.RuleFile

/-- The content of a string. -/
def text? : Json → Option String
  | .string content => content
  | _ => none

/-- The fields of an object whose names are all texts. -/
def namedFields? (fields : List (Option String × Json)) : Option (List (String × Json)) :=
  fields.mapM fun field => field.1.map (·, field.2)

/-- A map from texts to values of one kind; of two under one name the later one counts. -/
def dictionary? {α : Type} (decode : Json → Option α) : Json → Option (Dictionary α)
  | .object fields => do
    let named ← namedFields? fields
    let decoded ← named.mapM fun field => (decode field.2).map (field.1, ·)
    return .ofList decoded
  | _ => none

/-- A map from destinations to suggestions. -/
def suggestions? : Json → Option (Dictionary String) :=
  dictionary? text?

/-- The field of a record: absent, present once, or a mistake. -/
def field? {α : Type} (name : String) (decode : Json → Option α) (missing : Option α)
    (fields : List (String × Json)) : Option α :=
  match fields.filter (·.1 == name) with
  | [] => missing
  | [field] => decode field.2
  | _ => none

/-- An item of a record written as an array: absent or decoded. -/
def item? {α : Type} (decode : Json → Option α) (missing : Option α) : Option Json → Option α
  | none => missing
  | some json => decode json

/-- A rule. -/
def entry? : Json → Option RuleEntry
  | .object fields => do
    let named ← namedFields? fields
    return ⟨← field? "description" text? (some "") named,
      ← field? "suggestion" suggestions? (some .empty) named⟩
  | .array items =>
    if items.length ≤ 2 then do
      return ⟨← item? text? (some "") items[0]?, ← item? suggestions? (some .empty) items[1]?⟩
    else none
  | _ => none

/-- What a whitelist says about an instruction. -/
def instruction? : Json → Option (Dictionary String)
  | .object fields => do
    field? "suggestion" suggestions? (some .empty) (← namedFields? fields)
  | .array items =>
    if items.length ≤ 1 then item? suggestions? (some .empty) items[0]? else none
  | _ => none

/-- The instructions of a whitelist file, by name. -/
def instructions? : Json → Option (Dictionary (Dictionary String))
  | .object fields => do
    field? "instructions" (dictionary? instruction?) none (← namedFields? fields)
  | .array [json] => dictionary? instruction? json
  | _ => none

/-- The rule table that a text holds. -/
def readTable? (text : List Char) : Option RuleTable := do
  let rules ← dictionary? entry? (← Json.read? text)
  return ⟨rules⟩

/-- The whitelist that a text holds. -/
def readWhitelist? (text : List Char) : Option Assembly.Whitelist := do
  let instructions ← instructions? (← Json.read? text)
  return .ofEntries (instructions.keys.map String.toList)

end CrossArch.RuleFile
