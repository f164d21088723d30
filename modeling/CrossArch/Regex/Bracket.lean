import CrossArch.Regex.Escape
import CrossArch.Text.Front

/-!
# Sets in brackets

Items, ranges and named sets between brackets, with further brackets inside, joined as a union and
by set operations.
-/

namespace CrossArch.Regex

/-- An item of a set in brackets: a character, which may start a range, or a set. -/
inductive Item where
  | char (c : Char)
  | set (set : CharSet)

/-- One item. -/
def item? (flags : Flags) (text : List Char) : Option (Item × List Char) :=
  match text with
  | [] => none
  | '\\' :: rest => do
    match ← escape? flags rest with
    | (.literal c, after) => some (.char c, after)
    | (.set set, after) => some (.set set, after)
    | (.assertion _, _) => none
  | c :: rest => some (.char c, rest)

/-- A character that may stand in a set; without Unicode it has to be ASCII. -/
def Flags.itemSet? (flags : Flags) (c : Char) : Option CharSet :=
  if flags.unicode || c.toNat < 128 then some (.single c) else none

/-- An item, or a range between two characters. -/
def range? (flags : Flags) (text : List Char) : Option (CharSet × List Char) := do
  let (first, rest) ← item? flags text
  let alone : Option CharSet := match first with
    | .char c => flags.itemSet? c
    | .set set => some set
  match flags.skip rest with
  | [] => none
  | '-' :: later =>
    match flags.skip later with
    | ']' :: _ | '-' :: _ => return (← alone, flags.skip rest)
    | start =>
      match first, ← item? flags start with
      | .char low, (.char high, after) =>
        if low ≤ high ∧ (flags.unicode ∨ high.toNat < 128) then return (.range low high, after)
        else none
      | _, _ => none
  | after => return (← alone, after)

/-- A named set such as `[:digit:]`, after its opening bracket. -/
def bracketName? (text : List Char) : Option (CharSet × List Char) :=
  match text with
  | ':' :: rest =>
    let (negated, start) := match rest with
      | '^' :: later => (true, later)
      | _ => (false, rest)
    match start.dropWhile (· != ':') with
    | ':' :: ']' :: after =>
      (namedSet? (start.takeWhile (· != ':'))).map fun set =>
        (if negated then .complement set else set, after)
    | _ => none
  | _ => none

/-- An operation between two sets in brackets. -/
inductive SetOperation where
  | intersection
  | difference
  | symmetricDifference

/-- The result of an operation on sets with their case variants. -/
def SetOperation.apply (flags : Flags) (operation : SetOperation) (a b : CharSet) : CharSet :=
  let left := flags.caseSet a
  let right := flags.caseSet b
  match operation with
  | intersection => .intersection left right
  | difference => .difference left right
  | symmetricDifference => .symmetricDifference left right

/-- The left side of an operation that waits for its right side. -/
abbrev Waiting := Option (CharSet × SetOperation)

/-- Give a waiting operation its right side. -/
def resolveWaiting (flags : Flags) (waiting : Waiting) (set : CharSet) : CharSet :=
  match waiting with
  | none => set
  | some (left, operation) => operation.apply flags left set

/-- Hyphens at the start of a set stand for themselves. -/
def leadingHyphens (flags : Flags) : Nat → List Char → List CharSet × List Char
  | 0, text => ([], text)
  | bound + 1, text =>
    match text with
    | '-' :: rest =>
      let (sets, after) := leadingHyphens flags bound (flags.skip rest)
      (.single '-' :: sets, after)
    | _ => ([], text)

/-- The start of a set, after its opening bracket: negation, and characters that stand for
themselves. -/
def setOpening? (flags : Flags) (text : List Char) : Option (Bool × List CharSet × List Char) :=
  let (negated, start) := match flags.skip text with
    | '^' :: rest => (true, flags.skip rest)
    | other => (false, other)
  match leadingHyphens flags start.length start with
  | ([], ']' :: rest) => some (negated, [.single ']'], flags.skip rest)
  | (hyphens, rest) => if rest.isEmpty then none else some (negated, hyphens, rest)

/-- The inside of a set in brackets up to its closing bracket. -/
def setBody? (flags : Flags) (negated : Bool) (waiting : Waiting) (sets : List CharSet) :
    Nat → List Char → Option (CharSet × List Char)
  | 0, _ => none
  | bound + 1, text =>
    let operate (operation : SetOperation) (rest : List Char) : Option (CharSet × List Char) :=
      let left := resolveWaiting flags waiting (.unionAll sets)
      setBody? flags negated (some (left, operation)) [] bound rest
    match flags.skip text with
    | [] => none
    | '[' :: rest =>
      match bracketName? rest with
      | some (named, after) => setBody? flags negated waiting (sets ++ [named]) bound after
      | none => do
        let (innerNegated, start, opened) ← setOpening? flags rest
        let (inner, after) ← setBody? flags innerNegated none start bound opened
        setBody? flags negated waiting (sets ++ [inner]) bound after
    | ']' :: after =>
      let set := flags.caseSet (resolveWaiting flags waiting (.unionAll sets))
      some (if negated then .complement set else set, after)
    | '&' :: '&' :: rest => operate .intersection rest
    | '-' :: '-' :: rest => operate .difference rest
    | '~' :: '~' :: rest => operate .symmetricDifference rest
    | start => do
      let (set, after) ← range? flags start
      setBody? flags negated waiting (sets ++ [set]) bound after

/-- A set in brackets, after its opening bracket. -/
def bracketSet? (flags : Flags) (text : List Char) : Option (CharSet × List Char) := do
  let (negated, start, opened) ← setOpening? flags text
  let (set, after) ← setBody? flags negated none start (text.length + 1) opened
  return (← flags.admit? set, after)

end CrossArch.Regex
