import CrossArch.Unicode.Blank

/-!
# Instruction whitelists

The mnemonics that a destination knows. Mnemonics are compared without regard to the case of ASCII
letters, and blanks around the entries of a whitelist do not count.
-/

namespace CrossArch.Assembly

/-- A text with its ASCII letters in upper case. -/
def upperCase (text : List Char) : List Char :=
  text.map Char.toUpper

/-- The mnemonics known to an architecture, in upper case, each once. -/
structure Whitelist where
  mnemonics : List (List Char)

namespace Whitelist

/-- The form in which an entry is stored. -/
def normalize (entry : List Char) : List Char :=
  upperCase (Unicode.trim entry)

/-- The whitelist of some entries. -/
def ofEntries (entries : List (List Char)) : Whitelist :=
  ⟨(entries.map normalize).eraseDups⟩

/-- Whether the whitelist has a mnemonic. -/
def contains (whitelist : Whitelist) (mnemonic : List Char) : Bool :=
  whitelist.mnemonics.contains (upperCase mnemonic)

/-- The number of different mnemonics. -/
def size (whitelist : Whitelist) : Nat :=
  whitelist.mnemonics.length

end Whitelist

end CrossArch.Assembly
