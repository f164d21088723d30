import CrossArch.Files.Tree
import CrossArch.Log
import CrossArch.Report.Csv
import CrossArch.Report.Json
import CrossArch.Unicode.Blank

/-!
# Rendering reports

A report is shown in one of three modes: for people, as JSON or as CSV. For people it may be
coloured. A report can also be written into a directory, always as CSV.
-/

namespace CrossArch

/-- How a report is shown. -/
inductive OutputMode where
  | human
  | json
  | csv
  deriving DecidableEq, Repr

namespace OutputMode

/-- All modes. -/
def all : List OutputMode :=
  [human, json, csv]

/-- The name of a mode. -/
def name : OutputMode → String
  | human => "human"
  | json => "json"
  | csv => "csv"

/-- The mode of a name, without regard to outer blanks and the case of ASCII letters. -/
def ofName? (name : String) : Option OutputMode :=
  let plain := String.ofList ((Unicode.trim name.toList).map Char.toLower)
  all.find? fun mode => mode.name == plain

end OutputMode

/-- Ways to set text off on a terminal. -/
inductive TextStyle where
  | red
  | yellow
  | blue
  | cyan
  | grey
  | bold
  deriving DecidableEq, Repr

namespace TextStyle

/-- The code that turns a style on. -/
def on : TextStyle → String
  | red => "31"
  | yellow => "33"
  | blue => "34"
  | cyan => "36"
  | grey => "90"
  | bold => "1"

/-- The code that turns a style off. -/
def off : TextStyle → String
  | bold => "0"
  | _ => "39"

/-- A text in a style, or as it is without colours. -/
def apply (colors : Bool) (style : TextStyle) (text : String) : String :=
  if colors then "\x1b[" ++ style.on ++ "m" ++ text ++ "\x1b[" ++ style.off ++ "m" else text

end TextStyle

/-- A bold text in a colour. -/
def emphasize (colors : Bool) (color : TextStyle) (text : String) : String :=
  TextStyle.apply colors .bold (TextStyle.apply colors color text)

/-- The words that start a message to the user. -/
inductive MessageKind where
  | error
  | warning
  | note
  | info
  deriving DecidableEq, Repr

/-- The start of a message. -/
def MessageKind.label (colors : Bool) : MessageKind → String
  | error => emphasize colors .red "error:"
  | warning => emphasize colors .yellow "warning:"
  | note => emphasize colors .cyan "note:"
  | info => emphasize colors .blue "info:"

/-- The file of a finding with its lines. -/
def Finding.location (finding : Finding) : String :=
  finding.file ++ (finding.range.map LineRange.render).getD ""

namespace Report

/-- The line for a warning. -/
def warningLine (colors : Bool) (warning : String) : String :=
  emphasize colors .yellow "▲ ⟦warn⟧" ++ " " ++ warning ++ "\n"

/-- The two lines for a finding. -/
def findingLines (colors : Bool) (finding : Finding) : String :=
  TextStyle.apply colors .blue "◆" ++ " " ++ TextStyle.apply colors .bold finding.location ++
    " ❲" ++ TextStyle.apply colors .cyan finding.key ++ "❳ " ++
    TextStyle.apply colors .grey finding.category.name ++ "\n    " ++ finding.suggestion ++ "\n"

/-- The last line. -/
def summaryLine (colors : Bool) (report : Report) : String :=
  TextStyle.apply colors .bold
    (s!"— Summary — task={report.taskId} {report.srcArch}→{report.destArch} " ++
      s!"findings={report.summary.findings} files={report.summary.scanned} " ++
      s!"skipped={report.summary.skipped}") ++ "\n"

/-- A report for people. -/
def forPeople (colors : Bool) (report : Report) : String :=
  String.join (report.warnings.map (warningLine colors)) ++
    String.join (report.findings.map (findingLines colors)) ++ report.summaryLine colors

/-- The text of a report in a mode. -/
def render (report : Report) (mode : OutputMode) (colors : Bool) : String :=
  match mode with
  | .human => report.forPeople colors
  | .json => report.toJson.pretty 0 ++ "\n"
  | .csv => String.ofList (Csv.ofFindings report.findings)

/-- The name of the file that a report is written to. -/
def fileName (report : Report) : String :=
  s!"{report.taskId}-{report.srcArch}_to_{report.destArch}.csv"

/-- Write a report into a directory, unless it has no findings: the path of the file, and the new
tree. -/
def writeInto (tree : FileTree) (directory : Path) (report : Report) :
    Logged (Except FileError (Option Path × FileTree)) :=
  if report.findings.isEmpty then do
    Logged.write .info .output "no findings; no report file written"
    return .ok (none, tree)
  else
    let path := directory.join ⟨report.fileName⟩
    let content := String.ofList (Csv.ofFindings report.findings)
    match (tree.makeDirectories directory).bind fun prepared => prepared.write path content with
    | .error error => pure (.error error)
    | .ok written => do
      Logged.write .info .output s!"report written to {path.text}"
      return .ok (some path, written)

end Report

end CrossArch
