/-!
# Bytes of a text

Offsets into a text count the bytes of its UTF-8 form. A text can only be cut where a character
ends.
-/

namespace CrossArch.Text

/-- The number of bytes that a text takes up. -/
def byteLength (text : List Char) : Nat :=
  (String.ofList text).utf8ByteSize

/-- The text after a number of bytes, if they end where a character ends. -/
def dropBytes? : Nat → List Char → Option (List Char)
  | 0, text => some text
  | _ + 1, [] => none
  | bytes + 1, c :: rest =>
    if c.utf8Size ≤ bytes + 1 then dropBytes? (bytes + 1 - c.utf8Size) rest else none

/-- The first bytes of a text, if they end where a character ends. -/
def takeBytes? : Nat → List Char → Option (List Char)
  | 0, _ => some []
  | _ + 1, [] => none
  | bytes + 1, c :: rest =>
    if c.utf8Size ≤ bytes + 1 then
      (takeBytes? (bytes + 1 - c.utf8Size) rest).map (c :: ·)
    else none

/-- The text between two offsets, if it can be cut at both and they are in order. -/
def slice? (first last : Nat) (text : List Char) : Option (List Char) :=
  if first ≤ last then (dropBytes? first text).bind (takeBytes? (last - first)) else none

end CrossArch.Text
