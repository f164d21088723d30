import CrossArch.Unicode.CodeRanges

/-!
# Blank characters

Whitespace in the sense of the Unicode property `White_Space`, and trimming by it.
-/

namespace CrossArch.Unicode

/-- Whitespace beyond ASCII. -/
def blanksBeyondAscii : CodeRanges :=
  ⟨[(0x0085, 0x0085), (0x00A0, 0x00A0), (0x1680, 0x1680), (0x2000, 0x200A), (0x2028, 0x2029),
    (0x202F, 0x202F), (0x205F, 0x205F), (0x3000, 0x3000)]⟩

/-- Whether a character is whitespace: tab to carriage return, space, or a blank beyond ASCII. -/
def isBlank (c : Char) : Bool :=
  if c.toNat < 128 then c.toNat == 32 || (9 ≤ c.toNat && c.toNat ≤ 13)
  else blanksBeyondAscii.contains c

/-- Drop the blanks at the start of a text. -/
def trimStart (text : List Char) : List Char :=
  text.dropWhile isBlank

/-- Drop the blanks at the end of a text. -/
def trimEnd (text : List Char) : List Char :=
  (text.reverse.dropWhile isBlank).reverse

/-- Drop the blanks at both ends of a text. -/
def trim (text : List Char) : List Char :=
  trimEnd (trimStart text)

/-- Drop the blanks at both ends of a string. -/
def trimString (text : String) : String :=
  String.ofList (trim text.toList)

end CrossArch.Unicode
