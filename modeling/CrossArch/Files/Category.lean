import CrossArch.Files.Path
import CrossArch.Finding
import CrossArch.Text.Front
import CrossArch.Unicode.Word

/-!
# File categories

The category of a file follows from its name alone, in lower case. Makefiles go by certain names, by
names that start with `make.`, and by certain extensions; shared objects by `.so`, with or without a
version after it; sources and headers by their extension.
-/

namespace CrossArch

/--
A character in lower case, as far as that can bring an ASCII character about: the ASCII capitals,
the Kelvin sign and the dotted capital `I`. All names and extensions with a meaning are ASCII.
-/
def lowerChar (c : Char) : List Char :=
  if c = 'K' then ['k']
  else if c = '\u0130' then ['i', '\u0307']
  else [c.toLower]

/-- A name in lower case. -/
def lowerName (name : List Char) : List Char :=
  name.flatMap lowerChar

/-- Names of Makefiles. -/
def makefileNames : List (List Char) :=
  ["makefile", "makefile.in", "makefile.am", "nmakefile", "makefile.mk", "gnumakefile"].map
    String.toList

/-- Whether a name is `make.` and a word. -/
def isMakeDotWord (name : List Char) : Bool :=
  match Text.after? ['m', 'a', 'k', 'e', '.'] name with
  | some (c :: _) => Unicode.isAlphanumeric c || c == '_'
  | _ => false

/-- The text after the last occurrence of `piece`. -/
def Text.afterLast? (piece : List Char) : List Char → Option (List Char)
  | [] => after? piece []
  | c :: rest => afterLast? piece rest <|> after? piece (c :: rest)

/-- Whether a text is a version: numbers with dots between them. -/
def isVersion (text : List Char) : Bool :=
  (Text.splitAt '.' text).all fun number => !number.isEmpty && number.all Char.isDigit

/-- Whether a name is that of a shared object: it ends with `.so`, or with `.so.` and a version. -/
def isSharedObject (name : List Char) : Bool :=
  Text.endsWith name ['.', 's', 'o'] || (Text.afterLast? ['.', 's', 'o', '.'] name).any isVersion

/-- The extensions of a category. -/
def extensionCategory? (extension : List Char) : Option FileCategory :=
  let extension := String.ofList extension
  if ["mk", "make", "makefile", "mak"].contains extension then some .makefile
  else if ["c", "cc", "cpp", "c++", "cp", "cxx", "ii"].contains extension then some .cpp
  else if ["h", "hh", "hpp", "tcc"].contains extension then some .header
  else none

/-- The category of a file name, if files with that name are scanned. -/
def categoryOfName? (name : String) : Option FileCategory :=
  let lower := lowerName name.toList
  if makefileNames.contains lower || isMakeDotWord lower then some .makefile
  else if isSharedObject lower then some .sharedObject
  else (Path.extensionOf? name).bind fun extension =>
    extensionCategory? (lowerName extension.toList)

/-- The category of the file that a path names. -/
def categoryOf? (path : Path) : Option FileCategory :=
  path.fileName?.bind categoryOfName?

end CrossArch
