/-!
# Log entries

What an analysis has to say beside its result is returned as data: a `Logged` computation holds its
value and the entries written on the way. The value never depends on the entries.
-/

namespace CrossArch

/-- How severe a log entry is, the most severe first. -/
inductive LogLevel where
  | error
  | warn
  | info
  | debug
  | trace
  deriving DecidableEq, Repr

namespace LogLevel

/-- Position in the order of severity; a larger number is less severe. -/
def rank : LogLevel → Nat
  | error => 1
  | warn => 2
  | info => 3
  | debug => 4
  | trace => 5

/-- The name of a level as it stands in a log line. -/
def name : LogLevel → String
  | error => "ERROR"
  | warn => "WARN"
  | info => "INFO"
  | debug => "DEBUG"
  | trace => "TRACE"

end LogLevel

/-- The part of the program that a log entry comes from. -/
inductive LogTopic where
  | program
  | conditionals
  | assembly
  | rules
  | sourceScan
  | makefileScan
  | catalog
  | aggregate
  | classify
  | scan
  | output
  deriving DecidableEq, Repr

/-- The name under which the entries of a part can be filtered. -/
def LogTopic.name : LogTopic → String
  | program => "archport"
  | conditionals => "archport::macros"
  | assembly => "archport::inline_asm"
  | rules => "archport::models::rules"
  | sourceScan => "archport::matcher::source"
  | makefileScan => "archport::matcher::makefile"
  | catalog => "archport::catalog"
  | aggregate => "archport::aggregate"
  | classify => "archport::classify"
  | scan => "archport::scan"
  | output => "archport::output"

/-- One message of the log. -/
structure LogEntry where
  level : LogLevel
  topic : LogTopic
  message : String
  deriving DecidableEq, Repr

/-- A value together with the log entries written while it was computed. -/
structure Logged (α : Type) where
  value : α
  entries : List LogEntry

namespace Logged

/-- Write one entry. -/
def write (level : LogLevel) (topic : LogTopic) (message : String) : Logged Unit :=
  ⟨(), [⟨level, topic, message⟩]⟩

/-- Write several entries. -/
def writeAll (entries : List LogEntry) : Logged Unit :=
  ⟨(), entries⟩

instance : Monad Logged where
  pure value := ⟨value, []⟩
  bind first next :=
    let second := next first.value
    ⟨second.value, first.entries ++ second.entries⟩

@[simp] theorem value_pure {α : Type} (a : α) : (pure a : Logged α).value = a := rfl

@[simp] theorem value_bind {α β : Type} (first : Logged α) (next : α → Logged β) :
    (first >>= next).value = (next first.value).value := rfl

@[simp] theorem value_map {α β : Type} (f : α → β) (logged : Logged α) :
    (f <$> logged).value = f logged.value := rfl

end Logged

end CrossArch
