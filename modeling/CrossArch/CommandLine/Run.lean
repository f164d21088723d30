import CrossArch.CommandLine.Arguments
import CrossArch.Log.Filter
import CrossArch.Rule.Load
import CrossArch.Scan.Project

/-!
# Carrying out a command

What a command does is described by what it writes, in order, by its exit code, and by the files as
they are afterwards.
-/

namespace CrossArch

/-- Something that is written. -/
inductive Written where
  /-- Text for the standard output. -/
  | output (text : String)
  /-- A message to the user, a line of the standard error output. -/
  | message (text : String)
  /-- An entry of the log. -/
  | log (entry : LogEntry)
  deriving DecidableEq, Repr

/-- What comes of a command. -/
structure RunResult where
  exitCode : Nat
  written : List Written
  files : FileTree
  deriving DecidableEq, Repr

/-- What a command finds around it. -/
structure Surroundings where
  files : FileTree
  /-- Whether messages and reports are coloured. -/
  colors : Bool
  /-- The filter of the log, if it is set. -/
  logFilter : Option String
  /-- The name of a run that is not given one. -/
  defaultTaskId : String

/-- The version of the program. -/
def programVersion : String :=
  "0.1.0"

/-- The log entries of a result, as things that are written. -/
def Logged.written {α : Type} (logged : Logged α) : List Written :=
  logged.entries.map .log

/-- A line of the list of architectures: the name in a column of twelve characters, and the
label. -/
def Arch.row (arch : Arch) : String :=
  arch.id ++ String.ofList (List.replicate (12 - arch.id.length) ' ') ++ " " ++ arch.label ++ "\n"

namespace Surroundings

/-- A message that starts with its kind. -/
def say (surroundings : Surroundings) (kind : MessageKind) (text : String) : Written :=
  .message (kind.label surroundings.colors ++ " " ++ text)

/-- Write a report into the directory of the settings, if there is one. -/
def writeReport (surroundings : Surroundings) (settings : ScanSettings) (report : Report) :
    RunResult :=
  match settings.reportDirectory with
  | none => ⟨0, [], surroundings.files⟩
  | some directory =>
    let logged := report.writeInto surroundings.files directory
    match logged.value with
    | .ok (some path, files) =>
      ⟨0, logged.written ++ [surroundings.say .info s!"report written to {path.text}"], files⟩
    | .ok (none, files) =>
      ⟨0, logged.written ++ [surroundings.say .note "no findings; no report written"], files⟩
    | .error error =>
      ⟨1, logged.written ++ [surroundings.say .error
        s!"cannot write report into {directory.text}: {error.message}"], surroundings.files⟩

/-- Scan with the given settings. -/
def scanWith (surroundings : Surroundings) (settings : ScanSettings) : RunResult :=
  let files := surroundings.files
  let catalog := Catalog.load files settings.rules settings.srcArch settings.destArch
  let warnings := catalog.value.warnings.map (surroundings.say .warning)
  let excludes := Exclude.compile settings.exclude
  let report := scanProject files settings.root
    (settings.taskId.getD surroundings.defaultTaskId) excludes.value catalog.value .never
  let shown := report.value.render settings.output surroundings.colors
  let saved := surroundings.writeReport settings report.value
  ⟨saved.exitCode, catalog.written ++ warnings ++ excludes.written ++ report.written ++
    [.output shown] ++ saved.written, saved.files⟩

/-- The message that there is no configuration file. -/
def noConfigEntries (settings : ScanSettings) : List LogEntry :=
  if settings.configFound then []
  else [⟨.info, .program,
    s!"no archport.toml found from {settings.configRoot.text}; using defaults"⟩]

/-- Carry out a scan. -/
def scan (surroundings : Surroundings) (request : ScanRequest) : RunResult :=
  match ScanSettings.resolve surroundings.files request with
  | .error problem => ⟨2, [surroundings.say .error problem.message], surroundings.files⟩
  | .ok settings =>
    let noConfig := (noConfigEntries settings).map Written.log
    if surroundings.files.exists? settings.root then
      let result := surroundings.scanWith settings
      { result with written := noConfig ++ result.written }
    else
      ⟨2, noConfig ++ [surroundings.say .error s!"scan root not found: {settings.root.text}"],
        surroundings.files⟩

/-- Carry out a command, with the whole log. -/
def carryOut (surroundings : Surroundings) : Command → RunResult
  | .version => ⟨0, [.output (programVersion ++ "\n")], surroundings.files⟩
  | .archs => ⟨0, [.output (String.join (Arch.all.map Arch.row))], surroundings.files⟩
  | .scan request => surroundings.scan request

/-- The filter of the log for a count of requests for more of it. -/
def filterFor (verbosity : Nat) : String :=
  match verbosity with
  | 0 => "warn"
  | 1 => "info"
  | 2 => "debug"
  | _ => "trace"

/-- Run the program: of the log, only what its filter shows is written. -/
def run (surroundings : Surroundings) (invocation : Invocation) : RunResult :=
  let (filter, complaints) :=
    LogFilter.parse (surroundings.logFilter.getD (filterFor invocation.verbosity)).toList
  let result := surroundings.carryOut invocation.command
  let shown := result.written.filter fun written =>
    match written with
    | .log entry => filter.shows entry
    | _ => true
  { result with written := complaints.map .message ++ shown }

end Surroundings

/-- The lines that a thing adds to the standard error output. -/
def Written.errorText : Written → String
  | output _ => ""
  | message text => text ++ "\n"
  | log entry => entry.render ++ "\n"

/-- The text that a thing adds to the standard output. -/
def Written.outputText : Written → String
  | output text => text
  | _ => ""

end CrossArch
