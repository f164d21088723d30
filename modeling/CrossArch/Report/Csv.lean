import CrossArch.Finding

/-!
# Reports as CSV

One row for each finding, under a row with the names of the columns. A field that holds a comma, a
quote or a line break is quoted, and a quote inside it is doubled.
-/

namespace CrossArch.Csv

/-- Double the quotes of a text. -/
def doubleQuotes : List Char → List Char
  | [] => []
  | c :: rest => if c = '"' then '"' :: '"' :: doubleQuotes rest else c :: doubleQuotes rest

/-- Whether a character forces a field to be quoted. -/
def needsQuotes (c : Char) : Bool :=
  c == ',' || c == '"' || c == '\n' || c == '\r'

/-- The written form of a field. -/
def field (text : List Char) : List Char :=
  if text.any needsQuotes then '"' :: (doubleQuotes text ++ ['"']) else text

/-- Fields with a comma between them. -/
def commaSeparated : List (List Char) → List Char
  | [] => []
  | [only] => only
  | first :: rest => first ++ ',' :: commaSeparated rest

/-- The written form of a row. -/
def row (fields : List (List Char)) : List Char :=
  commaSeparated (fields.map field) ++ ['\n']

/-- The names of the columns. -/
def columns : List (List Char) :=
  ["file", "range", "key", "suggestion", "category"].map String.toList

/-- The fields of a finding; the lines are empty when it has none. -/
def fieldsOf (finding : Finding) : List (List Char) :=
  [finding.file.toList, ((finding.range.map LineRange.render).getD "").toList, finding.key.toList,
    finding.suggestion.toList, finding.category.name.toList]

/-- The CSV text of findings. -/
def ofFindings (findings : List Finding) : List Char :=
  row columns ++ findings.flatMap fun finding => row (fieldsOf finding)

end CrossArch.Csv
