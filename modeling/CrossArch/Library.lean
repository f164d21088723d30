import CrossArch.Text.Front
import CrossArch.Unicode.Blank

/-!
# Library names

Makefiles refer to a shared library in several spellings. All of them have one canonical name, the
file name of the shared object, so that a library is reported once however it is written.
-/

namespace CrossArch

/-- A text without `front`, if it starts with it. -/
def Text.withoutFront (text front : List Char) : List Char :=
  (Text.after? front text).getD text

/-- Whether a name already denotes a shared object: it ends with `.so` or has a version after it. -/
def namesSharedObject (name : List Char) : Bool :=
  Text.endsWith name ['.', 's', 'o'] || Text.occursIn ['.', 's', 'o', '.'] name

/--
The file name of the shared object that a reference means. A reference may start with `-l`; after a
colon stands an exact file name, otherwise `lib` and `.so` are added where they are missing, and
`c++` means the standard C++ library.
-/
def canonicalLibrary (reference : List Char) : List Char :=
  match Text.withoutFront (Unicode.trim reference) ['-', 'l'] with
  | ':' :: exact => exact
  | name =>
    let plain := if name = ['c', '+', '+'] then ['s', 't', 'd', 'c', '+', '+'] else name
    let library :=
      if Text.startsWith plain ['l', 'i', 'b'] then plain else 'l' :: 'i' :: 'b' :: plain
    if namesSharedObject library then library else library ++ ['.', 's', 'o']

end CrossArch
