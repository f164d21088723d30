import CrossArch.Json.Value

/-!
# Reading JSON

A recursive reader over lists of characters. The reader of values takes a bound on the number of its
own calls; the length of the text is always enough, since every call reads a character.
-/

namespace CrossArch.Json

/-- Whether a character may separate tokens. -/
def isSpace (c : Char) : Bool :=
  c == ' ' || c == '\n' || c == '\t' || c == '\r'

/-- Drop the space at the front of a text. -/
def skipSpace (text : List Char) : List Char :=
  text.dropWhile isSpace

/-- The value of a hexadecimal digit. -/
def hexDigit? (c : Char) : Option Nat :=
  if '0' ≤ c ∧ c ≤ '9' then some (c.toNat - 48)
  else if 'a' ≤ c ∧ c ≤ 'f' then some (c.toNat - 87)
  else if 'A' ≤ c ∧ c ≤ 'F' then some (c.toNat - 55)
  else none

/-- The value of four hexadecimal digits. -/
def hexUnit? (a b c d : Char) : Option Nat := do
  return 4096 * (← hexDigit? a) + 256 * (← hexDigit? b) + 16 * (← hexDigit? c) + (← hexDigit? d)

/-- One piece of a string literal: a character, or one half of a surrogate pair. -/
inductive Piece where
  | char (c : Char)
  | unit (code : Nat)

/-- The character that a one-letter escape stands for. -/
def simpleEscape? (c : Char) : Option Char :=
  match c with
  | '"' => some '"'
  | '\\' => some '\\'
  | '/' => some '/'
  | 'b' => some '\x08'
  | 'f' => some '\x0C'
  | 'n' => some '\n'
  | 'r' => some '\r'
  | 't' => some '\t'
  | _ => none

/-- The pieces of a string literal after its opening quote, and the text after its closing quote. -/
def pieces? : List Char → Option (List Piece × List Char)
  | [] => none
  | '"' :: rest => some ([], rest)
  | '\\' :: 'u' :: a :: b :: c :: d :: rest => do
    let code ← hexUnit? a b c d
    let (pieces, after) ← pieces? rest
    return (.unit code :: pieces, after)
  | '\\' :: letter :: rest => do
    let c ← simpleEscape? letter
    let (pieces, after) ← pieces? rest
    return (.char c :: pieces, after)
  | c :: rest =>
    if c = '\\' ∨ c.toNat < 32 then none
    else do
      let (pieces, after) ← pieces? rest
      return (.char c :: pieces, after)

/-- The characters of a literal; a half of a surrogate pair is only good next to its other half. -/
def charactersOf? : List Piece → Option (List Char)
  | [] => some []
  | .char c :: rest => (charactersOf? rest).map (c :: ·)
  | .unit high :: .unit low :: rest =>
    if 0xD800 ≤ high ∧ high < 0xDC00 then
      if 0xDC00 ≤ low ∧ low < 0xE000 then
        (charactersOf? rest).map
          (Char.ofNat (0x10000 + (high - 0xD800) * 0x400 + (low - 0xDC00)) :: ·)
      else none
    else if 0xDC00 ≤ high ∧ high < 0xE000 then none
    else (charactersOf? (.unit low :: rest)).map (Char.ofNat high :: ·)
  | .unit code :: rest =>
    if 0xD800 ≤ code ∧ code < 0xE000 then none
    else (charactersOf? rest).map (Char.ofNat code :: ·)

/-- A string literal after its opening quote, and the text after it. -/
def literal? (text : List Char) : Option (Option String × List Char) := do
  let (pieces, rest) ← pieces? text
  return ((charactersOf? pieces).map String.ofList, rest)

/-- At least one digit, and the text after the digits. -/
def digits? (text : List Char) : Option (List Char) :=
  match text with
  | c :: rest => if c.isDigit then some (rest.dropWhile Char.isDigit) else none
  | [] => none

/-- The text after the whole part of a number; a zero is followed by no digit. -/
def wholePart? (text : List Char) : Option (List Char) :=
  match text with
  | '0' :: c :: rest => if c.isDigit then none else some (c :: rest)
  | _ => digits? text

/-- The text after the fraction of a number, if there is one. -/
def fraction? (text : List Char) : Option (List Char) :=
  match text with
  | '.' :: rest => digits? rest
  | _ => some text

/-- The text after the exponent of a number, if there is one. -/
def exponent? (text : List Char) : Option (List Char) :=
  match text with
  | e :: sign :: rest =>
    if e = 'e' ∨ e = 'E' then
      if sign = '+' ∨ sign = '-' then digits? rest else digits? (sign :: rest)
    else some text
  | [e] => if e = 'e' ∨ e = 'E' then none else some text
  | [] => some text

/-- A number and the text after it. -/
def number? (text : List Char) : Option (Json × List Char) := do
  let unsigned := match text with
    | '-' :: rest => rest
    | _ => text
  let rest ← exponent? (← fraction? (← wholePart? unsigned))
  return (.number (text.take (text.length - rest.length)), rest)

mutual

/-- A value at the front of a text without leading space, and the text after it. -/
def value? (bound : Nat) (text : List Char) : Option (Json × List Char) :=
  match bound with
  | 0 => none
  | bound + 1 =>
    match text with
    | 'n' :: 'u' :: 'l' :: 'l' :: rest => some (.null, rest)
    | 't' :: 'r' :: 'u' :: 'e' :: rest => some (.bool true, rest)
    | 'f' :: 'a' :: 'l' :: 's' :: 'e' :: rest => some (.bool false, rest)
    | '"' :: rest => do
      let (content, after) ← literal? rest
      return (.string content, after)
    | '[' :: rest =>
      match skipSpace rest with
      | ']' :: after => some (.array [], after)
      | start => do
        let (items, after) ← items? bound start
        return (.array items, after)
    | '\x7b' :: rest =>
      match skipSpace rest with
      | '\x7d' :: after => some (.object [], after)
      | start => do
        let (fields, after) ← fields? bound start
        return (.object fields, after)
    | _ => number? text

/-- The items of an array up to its closing bracket, the first of them at the front of the text. -/
def items? (bound : Nat) (text : List Char) : Option (List Json × List Char) :=
  match bound with
  | 0 => none
  | bound + 1 => do
    let (item, rest) ← value? bound text
    match skipSpace rest with
    | ',' :: more => do
      let (items, after) ← items? bound (skipSpace more)
      return (item :: items, after)
    | ']' :: after => return ([item], after)
    | _ => none

/-- The fields of an object up to its closing brace, the first of them at the front of the text. -/
def fields? (bound : Nat) (text : List Char) :
    Option (List (Option String × Json) × List Char) :=
  match bound with
  | 0 => none
  | bound + 1 =>
    match text with
    | '"' :: start => do
      let (name, afterName) ← literal? start
      match skipSpace afterName with
      | ':' :: afterColon => do
        let (value, rest) ← value? bound (skipSpace afterColon)
        match skipSpace rest with
        | ',' :: more => do
          let (fields, after) ← fields? bound (skipSpace more)
          return ((name, value) :: fields, after)
        | '\x7d' :: after => return ([(name, value)], after)
        | _ => none
      | _ => none
    | _ => none

end

/-- The value that a text holds, with nothing but space around it. -/
def read? (text : List Char) : Option Json := do
  let (value, rest) ← value? (2 * text.length + 2) (skipSpace text)
  if (skipSpace rest).isEmpty then return value else none

end CrossArch.Json
