import CrossArch.Json.Reader
import CrossArch.Text.Line

/-!
# Scalar values of TOML

Strings in their four notations, and the words that are numbers, truth values or times. Of the words
only the form matters here.
-/

namespace CrossArch.Toml

/-- Whether a character is blank inside a line. -/
def isSpace (c : Char) : Bool :=
  c == ' ' || c == '\t'

/-- Drop spaces and tabs. -/
def skipSpace (text : List Char) : List Char :=
  text.dropWhile isSpace

/-- Whether a character is a control character other than the tab. -/
def isControl (c : Char) : Bool :=
  (c.toNat < 32 && c != '\t') || c.toNat == 127

/-- The text after a line break, if there is one. -/
def newline? (text : List Char) : Option (List Char) :=
  match text with
  | '\n' :: rest => some rest
  | '\r' :: '\n' :: rest => some rest
  | _ => none

/-- The text after a comment, up to the end of its line; control characters are not allowed in
it. -/
def comment? (text : List Char) : Option (List Char) :=
  match text with
  | '#' :: rest =>
    let after := rest.dropWhile fun c => !isControl c
    match after with
    | [] => some []
    | _ => if (newline? after).isSome then some after else none
  | _ => some text

/-! ## Strings -/

/-- The character with a code given by hexadecimal digits. -/
def codeChar? (digits : List Char) : Option Char := do
  let code ← digits.foldlM (fun value c => (Json.hexDigit? c).map (16 * value + ·)) 0
  if code.isValidChar then return Char.ofNat code else none

/-- A character given by so many hexadecimal digits. -/
def codeEscape? (width : Nat) (text : List Char) : Option (Char × List Char) :=
  if text.length < width then none
  else (codeChar? (text.take width)).map (·, text.drop width)

/-- The character that an escape stands for, after its backslash. -/
def escape? (text : List Char) : Option (Char × List Char) :=
  match text with
  | 'b' :: rest => some ('\x08', rest)
  | 't' :: rest => some ('\t', rest)
  | 'n' :: rest => some ('\n', rest)
  | 'f' :: rest => some ('\x0C', rest)
  | 'r' :: rest => some ('\r', rest)
  | 'e' :: rest => some ('\x1B', rest)
  | '"' :: rest => some ('"', rest)
  | '\\' :: rest => some ('\\', rest)
  | 'x' :: rest => codeEscape? 2 rest
  | 'u' :: rest => codeEscape? 4 rest
  | 'U' :: rest => codeEscape? 8 rest
  | _ => none

/-- The rest of a string on one line, after its opening quote. -/
def basic? : Nat → List Char → Option (List Char × List Char)
  | 0, _ => none
  | bound + 1, text =>
    match text with
    | '"' :: rest => some ([], rest)
    | '\\' :: rest => do
      let (c, after) ← escape? rest
      let (content, ended) ← basic? bound after
      return (c :: content, ended)
    | c :: rest =>
      if isControl c then none
      else do
        let (content, ended) ← basic? bound rest
        return (c :: content, ended)
    | [] => none

/-- The rest of a literal string on one line, after its opening quote. -/
def literal? (text : List Char) : Option (List Char × List Char) :=
  match text.dropWhile fun c => c != '\'' && !isControl c with
  | '\'' :: rest => some (text.takeWhile (· != '\''), rest)
  | _ => none

/-- Drop one line break at the start of a string over several lines. -/
def dropFirstBreak (text : List Char) : List Char :=
  (newline? text).getD text

/-- Quotes at the end of a string over several lines: up to two belong to the string. -/
def closingQuotes? (quote : Char) (text : List Char) : Option (List Char × List Char) :=
  let quotes := (text.takeWhile (· == quote)).length
  if quotes < 3 then none
  else
    let kept := min (quotes - 3) 2
    some (List.replicate kept quote, text.drop (kept + 3))

/-- Drop blanks and line breaks. -/
def dropBlankLines : Nat → List Char → List Char
  | 0, text => text
  | bound + 1, text =>
    match newline? (skipSpace text) with
    | some rest => dropBlankLines bound rest
    | none => skipSpace text

/-- The rest of a string over several lines. -/
def multiBasic? : Nat → List Char → Option (List Char × List Char)
  | 0, _ => none
  | bound + 1, text =>
    match text with
    | [] => none
    | '"' :: rest =>
      match closingQuotes? '"' text with
      | some ended => some ended
      | none => do
        let (content, ended) ← multiBasic? bound rest
        return ('"' :: content, ended)
    | '\\' :: rest =>
      match newline? (skipSpace rest) with
      | some later => multiBasic? bound (dropBlankLines (later.length + 1) later)
      | none => do
        let (c, after) ← escape? rest
        let (content, ended) ← multiBasic? bound after
        return (c :: content, ended)
    | c :: rest =>
      match newline? text with
      | some later => do
        let (content, ended) ← multiBasic? bound later
        return ('\n' :: content, ended)
      | none =>
        if isControl c then none
        else do
          let (content, ended) ← multiBasic? bound rest
          return (c :: content, ended)

/-- The rest of a literal string over several lines. -/
def multiLiteral? : Nat → List Char → Option (List Char × List Char)
  | 0, _ => none
  | bound + 1, text =>
    match text with
    | [] => none
    | c :: rest =>
      match if c = '\'' then closingQuotes? '\'' text else none with
      | some ended => some ended
      | none =>
        match newline? text with
        | some later => do
          let (content, ended) ← multiLiteral? bound later
          return ('\n' :: content, ended)
        | none =>
          if isControl c then none
          else do
            let (content, ended) ← multiLiteral? bound rest
            return (c :: content, ended)

/-- A string at the front of a text, in any notation. -/
def string? (text : List Char) : Option (List Char × List Char) :=
  match text with
  | '"' :: '"' :: '"' :: rest => multiBasic? (rest.length + 1) (dropFirstBreak rest)
  | '\'' :: '\'' :: '\'' :: rest => multiLiteral? (rest.length + 1) (dropFirstBreak rest)
  | '"' :: rest => basic? (rest.length + 1) rest
  | '\'' :: rest => literal? rest
  | _ => none

/-! ## Words -/

/-- Digits of a base, with single underscores between them. -/
def isDigits (isDigit : Char → Bool) (text : List Char) : Bool :=
  (Text.splitAt '_' text).all fun piece => !piece.isEmpty && piece.all isDigit

/-- Decimal digits without a leading zero. -/
def isWhole (text : List Char) : Bool :=
  isDigits Char.isDigit text && (text.length == 1 || text.head? != some '0')

/-- A number without its sign. -/
def dropSign (text : List Char) : List Char :=
  match text with
  | '+' :: rest => rest
  | '-' :: rest => rest
  | _ => text

/-- Whether a word is an integer. -/
def isInteger (word : List Char) : Bool :=
  match word with
  | '0' :: 'x' :: rest => isDigits (fun c => (Json.hexDigit? c).isSome) rest
  | '0' :: 'o' :: rest => isDigits (fun c => '0' ≤ c && c ≤ '7') rest
  | '0' :: 'b' :: rest => isDigits (fun c => c == '0' || c == '1') rest
  | _ => isWhole (dropSign word)

/-- Whether a text is the exponent of a number. -/
def isExponent (text : List Char) : Bool :=
  isDigits Char.isDigit (dropSign text)

/-- Whether a word is a number with a fraction or an exponent, or one of the special numbers. -/
def isFloat (word : List Char) : Bool :=
  let number := dropSign word
  let mantissa := number.takeWhile fun c => c != 'e' && c != 'E'
  let exponent := number.drop mantissa.length
  let whole := mantissa.takeWhile (· != '.')
  let fraction := mantissa.drop whole.length
  if number = ['i', 'n', 'f'] ∨ number = ['n', 'a', 'n'] then true
  else isWhole whole && (fraction.isEmpty || isDigits Char.isDigit (fraction.drop 1)) &&
    (exponent.isEmpty || isExponent (exponent.drop 1)) && !(fraction.isEmpty && exponent.isEmpty)

/-- The value of exactly so many decimal digits at the front of a text. -/
def fixedDigits? (width : Nat) (text : List Char) : Option (Nat × List Char) :=
  let digits := text.take width
  if digits.length = width ∧ digits.all Char.isDigit then
    some (digits.foldl (fun value c => 10 * value + (c.toNat - 48)) 0, text.drop width)
  else none

/-- The number of days of a month. -/
def daysOf (year month : Nat) : Nat :=
  if month = 2 then
    if year % 4 = 0 ∧ (year % 100 ≠ 0 ∨ year % 400 = 0) then 29 else 28
  else if month = 4 ∨ month = 6 ∨ month = 9 ∨ month = 11 then 30
  else 31

/-- A date at the front of a text. -/
def date? (text : List Char) : Option (List Char) := do
  let (year, rest) ← fixedDigits? 4 text
  match rest with
  | '-' :: rest =>
    let (month, rest) ← fixedDigits? 2 rest
    match rest with
    | '-' :: rest =>
      let (day, rest) ← fixedDigits? 2 rest
      if 1 ≤ month ∧ month ≤ 12 ∧ 1 ≤ day ∧ day ≤ daysOf year month then some rest else none
    | _ => none
  | _ => none

/-- Seconds with an optional fraction at the front of a text. -/
def seconds? (text : List Char) : Option (List Char) := do
  let (second, rest) ← fixedDigits? 2 text
  if 60 < second then none
  match rest with
  | '.' :: rest =>
    if (rest.takeWhile Char.isDigit).isEmpty then none else some (rest.dropWhile Char.isDigit)
  | _ => some rest

/-- A time of day at the front of a text; seconds may be missing. -/
def time? (text : List Char) : Option (List Char) := do
  let (hour, rest) ← fixedDigits? 2 text
  match rest with
  | ':' :: rest =>
    let (minute, rest) ← fixedDigits? 2 rest
    if 23 < hour ∨ 59 < minute then none
    match rest with
    | ':' :: rest => seconds? rest
    | _ => some rest
  | _ => none

/-- Whether a text is the offset of a time from the standard time, or nothing. -/
def isOffset (text : List Char) : Bool :=
  match text with
  | [] => true
  | ['Z'] => true
  | ['z'] => true
  | sign :: rest =>
    (sign == '+' || sign == '-') &&
      match fixedDigits? 2 rest with
      | some (hour, ':' :: later) =>
        match fixedDigits? 2 later with
        | some (minute, []) => hour ≤ 23 && minute ≤ 59
        | _ => false
      | _ => false

/-- Whether a word is a date, a time or both. -/
def isDatetime (word : List Char) : Bool :=
  match date? word with
  | some [] => true
  | some (separator :: rest) =>
    (separator == 'T' || separator == 't' || separator == ' ') && (time? rest).any isOffset
  | none => time? word == some []

/-- Whether a character may stand in a word. -/
def isWordChar (c : Char) : Bool :=
  c.isAlphanum || c == '+' || c == '-' || c == '.' || c == ':' || c == '_'

/-- A word that is a value, and the text after it. A date and a time may have a space between
them. -/
def word? (text : List Char) : Option (List Char) :=
  let word := text.takeWhile isWordChar
  let rest := text.drop word.length
  let spaced := match rest with
    | ' ' :: later =>
      let time := later.takeWhile isWordChar
      if date? word == some [] && isDatetime (word ++ ' ' :: time) then
        some (later.drop time.length)
      else none
    | _ => none
  match spaced with
  | some after => some after
  | none =>
    if word = ['t', 'r', 'u', 'e'] ∨ word = ['f', 'a', 'l', 's', 'e'] then some rest
    else if isInteger word || isFloat word || isDatetime word then some rest
    else none

end CrossArch.Toml
