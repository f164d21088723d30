import CrossArch.Json.Value

/-!
# Writing JSON

The printed form puts every item and every field on a line of its own, indented by two spaces for
each level. Characters beyond ASCII are written as they are.
-/

namespace CrossArch.Json

/-- A digit in base sixteen. -/
def hexChar (digit : Nat) : Char :=
  if digit < 10 then Char.ofNat (48 + digit) else Char.ofNat (87 + digit)

/-- The written form of a character inside a string. -/
def escapeChar (c : Char) : List Char :=
  if c = '"' then ['\\', '"']
  else if c = '\\' then ['\\', '\\']
  else if c = '\n' then ['\\', 'n']
  else if c = '\r' then ['\\', 'r']
  else if c = '\t' then ['\\', 't']
  else if c = '\x08' then ['\\', 'b']
  else if c = '\x0C' then ['\\', 'f']
  else if c.toNat < 32 then
    ['\\', 'u', '0', '0', hexChar (c.toNat / 16), hexChar (c.toNat % 16)]
  else [c]

/-- The written form of a string. -/
def quote (text : String) : String :=
  String.ofList ('"' :: (text.toList.flatMap escapeChar ++ ['"']))

/-- Spaces at the start of a line. -/
def indentation (depth : Nat) : String :=
  String.ofList (List.replicate (2 * depth) ' ')

mutual

/-- The written form of a value, the lines after its first one indented. -/
def pretty (depth : Nat) : Json → String
  | .null => "null"
  | .bool true => "true"
  | .bool false => "false"
  | .number written => String.ofList written
  | .string content => quote (content.getD "")
  | .array [] => "[]"
  | .array (item :: items) =>
    "[\n" ++ prettyItems (depth + 1) (item :: items) ++ "\n" ++ indentation depth ++ "]"
  | .object [] => "\x7b\x7d"
  | .object (field :: fields) =>
    "\x7b\n" ++ prettyFields (depth + 1) (field :: fields) ++ "\n" ++ indentation depth ++ "\x7d"

/-- The items of an array, one on a line. -/
def prettyItems (depth : Nat) : List Json → String
  | [] => ""
  | [item] => indentation depth ++ pretty depth item
  | item :: items => indentation depth ++ pretty depth item ++ ",\n" ++ prettyItems depth items

/-- The fields of an object, one on a line. -/
def prettyFields (depth : Nat) : List (Option String × Json) → String
  | [] => ""
  | [(name, value)] => indentation depth ++ quote (name.getD "") ++ ": " ++ pretty depth value
  | (name, value) :: fields =>
    indentation depth ++ quote (name.getD "") ++ ": " ++ pretty depth value ++ ",\n" ++
      prettyFields depth fields

end

/-- A number. -/
def nat (n : Nat) : Json :=
  .number (toString n).toList

/-- A text. -/
def text (content : String) : Json :=
  .string (some content)

/-- An object with the given fields. -/
def record (fields : List (String × Json)) : Json :=
  .object (fields.map fun field => (some field.1, field.2))

end CrossArch.Json
