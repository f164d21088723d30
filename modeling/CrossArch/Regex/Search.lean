import CrossArch.Regex.Match
import CrossArch.Text.Bytes

/-!
# Searching with regular expressions

A search goes through a text from left to right and takes the first match that it comes to. Where
several matches start at one place, it takes the one that is preferred: the first alternative that
leads to a match, and as many rounds of a repetition as possible, or as few as possible if the
repetition says so. The search then goes on behind the match. A match that reads nothing does not
count.
-/

namespace CrossArch.Regex

/-- What a group has read: the name of the group, how many characters stand before, and the text. -/
structure Capture where
  name : Option (List Char)
  start : Nat
  text : List Char
  deriving DecidableEq, Repr

/-- How far a match has come: its place, and what groups have read on the way, last first. -/
structure Thread where
  place : TextPlace
  captures : List Capture

/-- Keep what has been read since a place as the text of a group. -/
def Thread.capture (thread : Thread) (name : Option (List Char)) (start : TextPlace) : Thread :=
  let text := start.rest.take (thread.place.index - start.index)
  { thread with captures := ⟨name, start.index, text⟩ :: thread.captures }

section Run

variable {α : Type}

/-- Run through a number of rounds, and then go on. -/
def runRounds (round : Thread → (Thread → Option α) → Option α) :
    Nat → Thread → (Thread → Option α) → Option α
  | 0, thread, next => next thread
  | count + 1, thread, next => round thread fun later => runRounds round count later next

/-- Run through up to so many rounds, in the order of preference. A round has to read something. -/
def runFurther (greedy : Bool) (round : Thread → (Thread → Option α) → Option α) :
    Nat → Thread → (Thread → Option α) → Option α
  | 0, thread, next => next thread
  | count + 1, thread, next =>
    let more (_ : Unit) := round thread fun later =>
      if later.place.index = thread.place.index then none
      else runFurther greedy round count later next
    if greedy then more () <|> next thread else next thread <|> more ()

/-- Try the ways in which an expression can be read, in the order of preference, until one of them
can go on. -/
def run : Regex → Thread → (Thread → Option α) → Option α
  | empty, thread, next => next thread
  | char set, thread, next =>
    (thread.place.next? set).bind fun place => next { thread with place := place }
  | assert assertion, thread, next => if assertion.holds thread.place then next thread else none
  | seq first second, thread, next => first.run thread fun middle => second.run middle next
  | alt first second, thread, next => first.run thread next <|> second.run thread next
  | .repeat body least most greedy, thread, next =>
    runRounds (fun start further => body.run start further) least thread fun middle =>
      let more := match most with
        | some bound => min (bound - least) middle.place.rest.length
        | none => middle.place.rest.length
      runFurther greedy (fun start further => body.run start further) more middle next
  | group name body, thread, next =>
    body.run thread fun closed => next (closed.capture name thread.place)

end Run

/-- The preferred match that starts at a place. -/
def matchAt? (regex : Regex) (place : TextPlace) : Option Thread :=
  regex.run ⟨place, []⟩ some

/-- A match of a search. -/
structure Found where
  /-- How many characters stand before the match. -/
  index : Nat
  /-- How many bytes stand before the match. -/
  offset : Nat
  /-- The text of the match. -/
  read : List Char
  captures : List Capture
  deriving DecidableEq, Repr

/-- What a group has read, the last time if it has read several times. -/
def Found.group? (found : Found) (name : Option (List Char)) : Option Capture :=
  found.captures.find? fun capture => capture.name == name

/-- The preferred match at a place that so many bytes precede, if it reads something. -/
def foundAt? (regex : Regex) (offset : Nat) (place : TextPlace) : Option Found :=
  (regex.matchAt? place).bind fun ended =>
    let read := place.rest.take (ended.place.index - place.index)
    if read.isEmpty then none else some ⟨place.index, offset, read, ended.captures⟩

/-- The matches from a place on, in order, where the last match covers so many more characters. -/
def searchFrom (regex : Regex) (index offset : Nat) (before : Option Char) (covered : Nat) :
    List Char → List Found
  | [] => []
  | c :: rest =>
    let later (covered : Nat) :=
      regex.searchFrom (index + 1) (offset + c.utf8Size) (some c) covered rest
    match covered with
    | covered + 1 => later covered
    | 0 =>
      match regex.foundAt? offset ⟨index, before, c :: rest⟩ with
      | some found => found :: later (found.read.length - 1)
      | none => later 0

/-- The matches of a text, in order. -/
def search (regex : Regex) (text : List Char) : List Found :=
  regex.searchFrom 0 0 none 0 text

end CrossArch.Regex
