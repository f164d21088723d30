import CrossArch.Regex.Syntax

/-!
# Matching regular expressions

From places of a text an expression leads to the places where its matches can end. All starts are
followed at once, so a search takes a single pass over the expression. A repetition adds the places
that one more round reaches; with no more places than characters, that many rounds are enough.
-/

namespace CrossArch

/-- A place of a text: the number of characters before it, the last of them, and the text after
it. -/
structure TextPlace where
  index : Nat
  before : Option Char
  rest : List Char
  deriving DecidableEq, Repr

/-- Whether a condition holds at a place. -/
def Assertion.holds (assertion : Assertion) (place : TextPlace) : Bool :=
  let before := place.before
  let after := place.rest.head?
  match assertion with
  | textStart => before.isNone
  | textEnd => after.isNone
  | lineStart => before.all (· == '\n')
  | lineEnd => after.all (· == '\n')
  | lineStartAnyEnding => before.all (· == '\n') || (before == some '\r' && after != some '\n')
  | lineEndAnyEnding =>
    after.all (· == '\r') || (after == some '\n' && before != some '\r')
  | wordBoundary letters => before.any letters.contains != after.any letters.contains
  | notWordBoundary letters => before.any letters.contains == after.any letters.contains
  | wordStart letters => !before.any letters.contains && after.any letters.contains
  | wordEnd letters => before.any letters.contains && !after.any letters.contains
  | wordStartHalf letters => !before.any letters.contains
  | wordEndHalf letters => !after.any letters.contains

namespace TextPlace

/-- The place after the next character, if it is in a set. -/
def next? (set : CharSet) (place : TextPlace) : Option TextPlace :=
  match place.rest with
  | c :: rest => if set.contains c then some ⟨place.index + 1, some c, rest⟩ else none
  | [] => none

/-- All places of a text from one of them on. -/
def allFrom (index : Nat) (before : Option Char) (text : List Char) : List TextPlace :=
  ⟨index, before, text⟩ ::
    match text with
    | [] => []
    | c :: rest => allFrom (index + 1) (some c) rest

end TextPlace

namespace Regex

/-- The places reached by exactly so many rounds. -/
def rounds (round : List TextPlace → List TextPlace) : Nat → List TextPlace → List TextPlace
  | 0, places => places
  | count + 1, places => if places.isEmpty then [] else rounds round count (round places)

/-- The places reached by at most so many rounds. -/
def roundsUpTo (round : List TextPlace → List TextPlace) : Nat → List TextPlace → List TextPlace
  | 0, places => places
  | count + 1, places =>
    let reached := (places ++ round places).eraseDups
    if reached.length = places.length then places else roundsUpTo round count reached

/-- A number of rounds after which further ones lead nowhere new: one of so many rounds reads
nothing, and could be left out or taken again. -/
def enoughRounds (places : List TextPlace) : Nat :=
  places.foldl (fun most place => max most (place.rest.length + 1)) 0

/-- The places where a match that starts at one of some places can end. -/
def reach : Regex → List TextPlace → List TextPlace
  | empty, places => places
  | char set, places => places.filterMap (TextPlace.next? set)
  | assert assertion, places => places.filter assertion.holds
  | seq first second, places => second.reach (first.reach places)
  | alt first second, places => (first.reach places ++ second.reach places).eraseDups
  | .repeat body least most _, places =>
    let enough := enoughRounds places
    let more := match most with
      | some bound => min (bound - least) enough
      | none => enough
    roundsUpTo body.reach more (rounds body.reach (min least enough) places)
  | group _ body, places => body.reach places

/-- Whether a text has a match. -/
def occursIn (regex : Regex) (text : List Char) : Bool :=
  !(regex.reach (TextPlace.allFrom 0 none text)).isEmpty

end Regex

end CrossArch
