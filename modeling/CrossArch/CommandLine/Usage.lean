import CrossArch.CommandLine.Arguments

/-!
# Help for the command line

The texts shown when the arguments are not a command to carry out.
-/

namespace CrossArch

/-- How the program is called. -/
def usageText : String :=
  "Usage: archport [-v]... <version | archs | scan | help>\n"

/-- What the program can do. -/
def helpText : String :=
  "archport scans a native code base for architecture-dependent constructs and prints a " ++
  "porting\nsuggestion for each. Settings are taken from the command line, then from " ++
  "archport.toml, then from\ndefaults.\n\n" ++ usageText ++ "\n" ++
  "Commands:\n" ++
  "  version  Show version\n" ++
  "  archs    List supported architectures\n" ++
  "  scan     Scan sources for architecture-dependent code\n" ++
  "  help     Print this message\n\n" ++
  "Options of scan:\n" ++
  "  [ROOT]               File or directory to scan (default: current dir)\n" ++
  "  --src-arch <ARCH>    Architecture the code runs on today (default: x86_64)\n" ++
  "  --dest-arch <ARCH>   Architecture to port to (default: arm64)\n" ++
  "  --rules <DIR>        Rules directory (default: rules next to archport.toml, else ./rules)\n" ++
  "  --output <MODE>      Output mode: human|json|csv (default: human)\n" ++
  "  --report-dir <DIR>   Also write a CSV report into this directory\n" ++
  "  --task-id <ID>       Task id naming the run (default: local time)\n" ++
  "  --exclude <REGEX>    Paths to skip; repeatable, replaces configured excludes\n\n" ++
  "Options of all commands:\n" ++
  "  -v, --verbose        Increase log verbosity (-v info, -vv debug, -vvv trace)\n" ++
  "  -h, --help           Print help\n"

/-- What is wrong with the arguments, if anything is. -/
def UsageNotice.complaint : UsageNotice → String
  | help => ""
  | version => ""
  | noArguments => ""
  | missingCommand => "error: a command is required\n\n"
  | unknownCommand => "error: unrecognized command\n\n"
  | unknownArgument => "error: unexpected argument\n\n"
  | missingValue => "error: an option needs a value\n\n"
  | unexpectedValue => "error: a flag takes no value\n\n"
  | repeatedOption => "error: an option is given more than once\n\n"

/-- The text shown for a notice; `version` is the version of the program. -/
def UsageNotice.text (version : String) : UsageNotice → String
  | .help => helpText
  | .version => "archport " ++ version ++ "\n"
  | .noArguments => helpText
  | notice => notice.complaint ++ usageText

end CrossArch
