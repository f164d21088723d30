import CrossArch.Log
import CrossArch.Regex.Match
import CrossArch.Regex.Parser
import CrossArch.Text.Line
import CrossArch.Unicode.Blank

/-!
# Which log entries are shown

A filter is written as a list of rules with commas between them. A rule is a level, the start of a
topic, or both with an equals sign between them. The rule with the longest start of an entry's topic
decides. After a slash, a regular expression may ask for a part of the message.
-/

namespace CrossArch

/-- One rule of a filter: for topics with a start, entries up to a rank are shown. -/
structure LogRule where
  topic : Option String
  rank : Nat
  deriving DecidableEq, Repr

/-- A filter of log entries. -/
structure LogFilter where
  rules : List LogRule
  message : Option Regex
  deriving DecidableEq, Repr

namespace LogFilter

/-- The rank up to which a level name shows entries. -/
def rankNamed? (name : List Char) : Option Nat :=
  let plain := String.ofList (name.map Char.toLower)
  [("off", 0), ("error", 1), ("warn", 2), ("info", 3), ("debug", 4), ("trace", 5)].lookup plain

/-- The rank that shows every entry. -/
def allRanks : Nat :=
  LogLevel.trace.rank

/-- The rule that a piece of a filter stands for, or the part of it that is not understood. -/
def rule (piece : List Char) : Except (List Char) LogRule :=
  match Text.splitAt '=' piece with
  | [single] =>
    match rankNamed? single with
    | some rank => .ok ⟨none, rank⟩
    | none => .ok ⟨some (String.ofList single), allRanks⟩
  | [topic, level] =>
    let level := Unicode.trim level
    if level.isEmpty then .ok ⟨some (String.ofList topic), allRanks⟩
    else
      match rankNamed? level with
      | some rank => .ok ⟨some (String.ofList topic), rank⟩
      | none => .error level
  | _ => .error piece

/-- The complaint about a part of a filter that is not understood. -/
def invalidPart (part : List Char) (note : String) : String :=
  s!"warning: invalid logging spec '{String.ofList part}'" ++ note ++ ", ignoring it"

/-- Add a rule; it takes the place of one for the same topic. -/
def addRule (rules : List LogRule) (rule : LogRule) : List LogRule :=
  if rules.any fun other => other.topic == rule.topic then
    rules.map fun other => if other.topic = rule.topic then rule else other
  else rules ++ [rule]

/-- The rules of a filter and the complaints about it. -/
def readRules (rules : List LogRule) (complaints : List String) :
    List (List Char) → List LogRule × List String
  | [] => (rules, complaints)
  | piece :: rest =>
    let plain := Unicode.trim piece
    if plain.isEmpty then readRules rules complaints rest
    else
      match rule plain with
      | .ok rule => readRules (addRule rules rule) complaints rest
      | .error part => readRules rules (complaints ++ [invalidPart part ""]) rest

/-- The length of a rule's topic. -/
def reach (rule : LogRule) : Nat :=
  (rule.topic.map String.utf8ByteSize).getD 0

/-- Rules in the order of the lengths of their topics; without any, only errors are shown. -/
def arrange (rules : List LogRule) : List LogRule :=
  if rules.isEmpty then [⟨none, LogLevel.error.rank⟩]
  else rules.mergeSort fun a b => reach a ≤ reach b

/-- The filter that a text stands for, and the complaints about the text. -/
def parse (text : List Char) : LogFilter × List String :=
  match Text.splitAt '/' text with
  | [] => (⟨arrange [], none⟩, [])
  | [rules] =>
    let (rules, complaints) := readRules [] [] (Text.splitAt ',' rules)
    (⟨arrange rules, none⟩, complaints)
  | [rules, pattern] =>
    let (rules, complaints) := readRules [] [] (Text.splitAt ',' rules)
    match Regex.parse? Regex.caseful pattern with
    | some regex => (⟨arrange rules, some regex⟩, complaints)
    | none => (⟨arrange rules, none⟩, complaints ++ ["warning: invalid regex filter, ignoring it"])
  | _ => (⟨arrange [], none⟩, [invalidPart text " (too many '/'s)"])

/-- Whether a rule speaks about a topic. -/
def LogRule.covers (rule : LogRule) (topic : String) : Bool :=
  rule.topic.all fun start => start.toList.isPrefixOf topic.toList

/-- Whether an entry is shown. -/
def shows (filter : LogFilter) (entry : LogEntry) : Bool :=
  let decisive := filter.rules.reverse.find? fun rule => LogRule.covers rule entry.topic.name
  decisive.any (fun rule => entry.level.rank ≤ rule.rank) &&
    filter.message.all fun regex => regex.occursIn entry.message.toList

end LogFilter

/-- The level of an entry in a column of five characters. -/
def LogLevel.column (level : LogLevel) : String :=
  level.name ++ String.ofList (List.replicate (5 - level.name.length) ' ')

/-- An entry as it is shown; further lines of its message are indented. -/
def LogEntry.render (entry : LogEntry) : String :=
  let lines := (Text.splitAt '\n' entry.message.toList).map String.ofList
  "[" ++ entry.level.column ++ " " ++ entry.topic.name ++ "] " ++ "\n    ".intercalate lines

end CrossArch
