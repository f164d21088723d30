import CrossArch.Config.Resolve

/-!
# Arguments of the command line

The arguments name a command: to show the version, to list the architectures, or to scan. Flags for
the log and for help are known to every command, options with values only to a scan. An option waits
for its value until the next argument that is not an option itself; what it says takes effect only
when the next option, flag or free argument is met, or at the end.
-/

namespace CrossArch

/-- What the program is asked to do. -/
inductive Command where
  | version
  | archs
  | scan (request : ScanRequest)
  deriving DecidableEq, Repr

/-- A command and how often more of the log was asked for. -/
structure Invocation where
  verbosity : Nat
  command : Command
  deriving DecidableEq, Repr

/-- Why arguments are not a command to carry out. -/
inductive UsageNotice where
  /-- Help was asked for. -/
  | help
  /-- The version of the program was asked for. -/
  | version
  /-- There are no arguments. -/
  | noArguments
  | missingCommand
  | unknownCommand
  | unknownArgument
  | missingValue
  /-- A flag was given a value. -/
  | unexpectedValue
  /-- An option that has one value was given twice. -/
  | repeatedOption
  deriving DecidableEq, Repr

/-- The exit code for a notice: only what was asked for is a success. -/
def UsageNotice.exitCode : UsageNotice → Nat
  | help => 0
  | version => 0
  | _ => 2

/-- The options of a scan. -/
inductive ScanOption where
  | srcArch
  | destArch
  | rules
  | output
  | reportDirectory
  | taskId
  | exclude
  deriving DecidableEq, Repr

/-- The option of a name. -/
def ScanOption.ofName? (name : String) : Option ScanOption :=
  [("src-arch", srcArch), ("dest-arch", destArch), ("rules", rules), ("output", output),
    ("report-dir", reportDirectory), ("task-id", taskId), ("exclude", exclude)].lookup name

namespace ScanRequest

/-- A scan with nothing said about it. -/
def empty : ScanRequest :=
  ⟨none, none, none, none, none, none, none, []⟩

/-- The value after one more was given, of which there can be only one. -/
def once (old : Option String) (value : String) : Except UsageNotice (Option String) :=
  if old.isSome then .error .repeatedOption else .ok (some value)

/-- Give an option a value. -/
def set (request : ScanRequest) (option : ScanOption) (value : String) :
    Except UsageNotice ScanRequest :=
  match option with
  | .srcArch => do return { request with srcArch := ← once request.srcArch value }
  | .destArch => do return { request with destArch := ← once request.destArch value }
  | .rules => do return { request with rules := ← once request.rules value }
  | .output => do return { request with output := ← once request.output value }
  | .reportDirectory => do
    return { request with reportDirectory := ← once request.reportDirectory value }
  | .taskId => do return { request with taskId := ← once request.taskId value }
  | .exclude => .ok { request with exclude := request.exclude ++ [value] }

end ScanRequest

namespace CommandLine

/-! ## The form of an argument -/

/-- The forms of an argument before the mark that ends options. -/
inductive Form where
  /-- The mark `--`. -/
  | mark
  /-- An argument `--name` or `--name=value`. -/
  | long (name : String) (value : Option String)
  /-- An argument `-abc`. -/
  | short (letters : List Char)
  | free
  deriving DecidableEq, Repr

/-- The form of an argument. -/
def formOf (argument : String) : Form :=
  match argument.toList with
  | ['-', '-'] => .mark
  | '-' :: '-' :: rest =>
    let name := rest.takeWhile (· != '=')
    match rest.drop name.length with
    | [] => .long (String.ofList name) none
    | _ :: value => .long (String.ofList name) (some (String.ofList value))
  | ['-'] => .free
  | '-' :: letters => .short letters
  | _ => .free

/-- The largest count of a repeated flag. -/
def countLimit : Nat :=
  255

/-! ## The arguments of a command -/

/-- What waits to take effect. -/
inductive Pending where
  | root (value : String)
  | option (option : ScanOption) (value : Option String)
  deriving DecidableEq, Repr

/-- What has been read of the arguments of a command. -/
structure Progress where
  /-- Whether the command is a scan, so that options and a root are known. -/
  isScan : Bool
  verbosity : Nat
  request : ScanRequest
  /-- Whether the root has been given. -/
  rootGiven : Bool
  pending : Option Pending
  deriving DecidableEq, Repr

namespace Progress

/-- Before the arguments of a command. -/
def start (isScan : Bool) : Progress :=
  ⟨isScan, 0, .empty, false, none⟩

/-- Let what waits take effect. -/
def settle (progress : Progress) : Except UsageNotice Progress :=
  match progress.pending with
  | none => .ok progress
  | some (.root value) =>
    let request := { progress.request with root := some value }
    .ok { progress with request := request, pending := none }
  | some (.option _ none) => .error .missingValue
  | some (.option option (some value)) => do
    return { progress with request := ← progress.request.set option value, pending := none }

/-- Count one more request for more of the log. -/
def countVerbose (progress : Progress) : Except UsageNotice Progress := do
  let settled ← progress.settle
  return { settled with verbosity := min countLimit (settled.verbosity + 1) }

/-- Ask for help, once what waits has taken effect. -/
def askHelp (progress : Progress) : Except UsageNotice Progress :=
  progress.settle.bind fun _ => .error .help

/-- Read the letters of a short argument. -/
def addLetters (progress : Progress) : List Char → Except UsageNotice Progress
  | [] => .ok progress
  | 'v' :: rest => do addLetters (← progress.countVerbose) rest
  | 'h' :: _ => progress.askHelp
  | _ => .error .unknownArgument

/-- Read an option of a scan. -/
def addOption (progress : Progress) (option : ScanOption) (value : Option String) :
    Except UsageNotice Progress := do
  let settled ← progress.settle
  match value with
  | none => return { settled with pending := some (.option option none) }
  | some value => return { settled with request := ← settled.request.set option value }

/-- Read a long argument. -/
def addLong (progress : Progress) (name : String) (value : Option String) :
    Except UsageNotice Progress :=
  match name with
  | "verbose" => if value.isSome then .error .unexpectedValue else progress.countVerbose
  | "help" => if value.isSome then .error .unexpectedValue else progress.askHelp
  | _ =>
    match if progress.isScan then ScanOption.ofName? name else none with
    | some option => progress.addOption option value
    | none => .error .unknownArgument

/-- Read a free argument, which is the root. -/
def addRoot (progress : Progress) (value : String) : Except UsageNotice Progress :=
  if progress.isScan && !progress.rootGiven then do
    let settled ← progress.settle
    return { settled with pending := some (.root value), rootGiven := true }
  else .error .unknownArgument

/-- Read a free argument, which is the value of an option that waits for one, or else the root. -/
def addFree (progress : Progress) (value : String) : Except UsageNotice Progress :=
  match progress.pending with
  | some (.option option none) =>
    .ok { progress with pending := some (.option option (some value)) }
  | _ => progress.addRoot value

/-- Read the arguments of a command; after the mark `--` all are free. -/
def addAll (progress : Progress) (marked : Bool) : List String → Except UsageNotice Progress
  | [] => progress.settle
  | argument :: rest =>
    if marked then do addAll (← progress.addRoot argument) true rest
    else
      match formOf argument with
      | .mark => addAll progress true rest
      | .long name value => do addAll (← progress.addLong name value) false rest
      | .short letters => do addAll (← progress.addLetters letters) false rest
      | .free => do addAll (← progress.addFree argument) false rest

end Progress

/-! ## The command -/

/-- The names of the commands. -/
def commandNames : List String :=
  ["version", "archs", "scan"]

/-- Whether an argument names a command, the request for help included. -/
def namesCommand (argument : String) : Bool :=
  argument == "help" || commandNames.contains argument

/-- What comes of a request for help on commands: at most one command can be named. -/
def helpOn (arguments : List String) : UsageNotice :=
  match arguments with
  | [] => .help
  | [argument] => if namesCommand argument then .help else .unknownCommand
  | _ => .unknownCommand

/-- The invocation of a command. A count that the command's own arguments give wins over the count
before the command. -/
def commandWith (verbosity : Nat) (name : String) (arguments : List String) :
    Except UsageNotice Invocation := do
  let progress ← (Progress.start (name == "scan")).addAll false arguments
  let command : Command := match name with
    | "version" => .version
    | "archs" => .archs
    | _ => .scan progress.request
  return ⟨if progress.verbosity = 0 then verbosity else progress.verbosity, command⟩

/-- Read the letters of a short argument before the command. -/
def lettersBefore (verbosity : Nat) : List Char → Except UsageNotice Nat
  | [] => .ok verbosity
  | 'v' :: rest => lettersBefore (min countLimit (verbosity + 1)) rest
  | 'h' :: _ => .error .help
  | 'V' :: _ => .error .version
  | _ => .error .unknownArgument

/-- Read a long argument before the command. -/
def longBefore (verbosity : Nat) (name : String) (value : Option String) :
    Except UsageNotice Nat :=
  if value.isSome then
    .error (if ["verbose", "help", "version"].contains name then .unexpectedValue
      else .unknownArgument)
  else
    match name with
    | "verbose" => .ok (min countLimit (verbosity + 1))
    | "help" => .error .help
    | "version" => .error .version
    | _ => .error .unknownArgument

/-- The notice when the arguments end before a command. -/
def withoutCommand (verbosity : Nat) : UsageNotice :=
  if verbosity = 0 then .noArguments else .missingCommand

/-- Read arguments up to and with the command. After the mark `--` there can be no command. -/
def parseFrom (verbosity : Nat) : List String → Except UsageNotice Invocation
  | [] => .error (withoutCommand verbosity)
  | argument :: rest =>
    if argument = "help" then .error (helpOn rest)
    else if commandNames.contains argument then commandWith verbosity argument rest
    else
      match formOf argument with
      | .mark =>
        match rest with
        | [] => .error (withoutCommand verbosity)
        | next :: _ => .error (if namesCommand next then .unknownArgument else .unknownCommand)
      | .long name value => do parseFrom (← longBefore verbosity name value) rest
      | .short letters => do parseFrom (← lettersBefore verbosity letters) rest
      | .free => .error .unknownCommand

end CommandLine

/-- The invocation that the arguments of the program stand for. -/
def Invocation.parse (arguments : List String) : Except UsageNotice Invocation :=
  CommandLine.parseFrom 0 arguments

end CrossArch
