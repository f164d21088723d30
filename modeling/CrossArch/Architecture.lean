import CrossArch.Unicode.Blank
import CrossArch.Unicode.CaseFold
import CrossArch.Unicode.Word

/-!
# Architectures

The closed set of processor architectures, the names by which a user may call them, and the macro
names that tie a preprocessor condition to one of them.
-/

namespace CrossArch

/-- A processor architecture. -/
inductive Arch where
  | x86_64
  | arm64
  | mips64el
  | sw64
  | loongarch64
  deriving DecidableEq, Repr

/--
A way in which the text of a condition mentions an architecture. All comparisons are up to case.
-/
inductive MacroName where
  /-- The text occurs anywhere. -/
  | anywhere (text : String)
  /-- The text occurs between word boundaries. -/
  | wholeWord (text : String)
  /-- The text occurs, followed by word characters that end in two underscores. -/
  | stem (text : String)
  deriving DecidableEq, Repr

namespace MacroName

/-- The regular expression that describes the name. -/
def pattern : MacroName → String
  | anywhere text => text
  | wholeWord text => "\\b" ++ text ++ "\\b"
  | stem text => text ++ "\\w*__"

/-- Whether word characters, the last two of them underscores, start a text. -/
def closesStem : List Char → Bool
  | '_' :: '_' :: _ => true
  | c :: rest => Unicode.isWord c && closesStem rest
  | [] => false

/-- Whether the name occurs at the start of `rest`, where `before` is the character to its left. -/
def occursAt (name : MacroName) (before : Option Char) (rest : List Char) : Bool :=
  match name with
  | anywhere text => (Unicode.dropFolded? text.toList rest).isSome
  | wholeWord text =>
    match Unicode.dropFolded? text.toList rest with
    | none => false
    | some after =>
      Unicode.atWordBoundary before rest.head? &&
        Unicode.atWordBoundary (rest.take text.length).getLast? after.head?
  | stem text =>
    match Unicode.dropFolded? text.toList rest with
    | none => false
    | some after => closesStem after

/-- Whether the name occurs at some place of a text whose left neighbour is `before`. -/
def occursFrom (name : MacroName) (before : Option Char) : List Char → Bool
  | [] => name.occursAt before []
  | c :: rest => name.occursAt before (c :: rest) || name.occursFrom (some c) rest

/-- Whether the name occurs in a text. -/
def occursIn (name : MacroName) (text : List Char) : Bool :=
  name.occursFrom none text

end MacroName

namespace Arch

/-- Every architecture, in the order in which they are listed. -/
def all : List Arch :=
  [x86_64, arm64, mips64el, sw64, loongarch64]

/-- The order in which a condition is compared with the architectures. -/
def byPriority : List Arch :=
  [arm64, x86_64, mips64el, sw64, loongarch64]

/-- The identifier of an architecture in rule files and reports. -/
def id : Arch → String
  | x86_64 => "x86_64"
  | arm64 => "arm64"
  | mips64el => "mips64el"
  | sw64 => "sw_64"
  | loongarch64 => "loongarch64"

/-- The name of an architecture in running text. -/
def label : Arch → String
  | x86_64 => "x86_64"
  | arm64 => "AArch64"
  | mips64el => "Mips64el"
  | sw64 => "sw_64"
  | loongarch64 => "LoongArch64"

/-- The names that a user may give an architecture. -/
def names : Arch → List String
  | x86_64 => ["x86_64", "amd64", "x86-64"]
  | arm64 => ["arm64", "aarch64"]
  | mips64el => ["mips64el"]
  | sw64 => ["sw_64", "sw64"]
  | loongarch64 => ["loongarch64", "loong64"]

/-- The architecture of a name, without regard to outer blanks and the case of ASCII letters. -/
def ofName? (name : String) : Option Arch :=
  let plain := String.ofList ((Unicode.trim name.toList).map Char.toLower)
  all.find? fun arch => arch.names.contains plain

/-- The macro names that tie a condition to an architecture. -/
def macroNames : Arch → List MacroName
  | x86_64 =>
    [.anywhere "x86_64", .anywhere "__x86__", .anywhere "__amd64", .anywhere "_M_X64",
      .anywhere "_M_AMD64", .anywhere "__i386", .anywhere "_M_IX86", .wholeWord "i386",
      .stem "__SSE", .stem "__AVX"]
  | arm64 =>
    [.anywhere "aarch64", .anywhere "__arm64", .anywhere "__arm__", .anywhere "_M_ARM",
      .anywhere "__ARM_ARCH", .anywhere "__ARM_NEON", .wholeWord "arm"]
  | mips64el =>
    [.anywhere "mips", .anywhere "_MIPS_ARCH", .anywhere "_MIPSEL", .anywhere "__MIPSEL__"]
  | sw64 => [.anywhere "sw_64", .anywhere "__sw64", .anywhere "sw64"]
  | loongarch64 => [.anywhere "loongarch", .anywhere "__loongarch64", .anywhere "loong64"]

/-- One regular expression for all macro names of an architecture. -/
def macroPattern (arch : Arch) : String :=
  "(?i)(?:" ++ "|".intercalate (arch.macroNames.map MacroName.pattern) ++ ")"

/-- Whether a text mentions an architecture by one of its macro names. -/
def mentionedIn (arch : Arch) (text : List Char) : Bool :=
  arch.macroNames.any fun name => name.occursIn text

end Arch

end CrossArch
