import CrossArch.Text.Line

/-!
# Hits

A hit is a place of a file where something is mentioned that a scan looks for. Hits are found from
left to right: at each place a matcher either reads a match, and the search goes on after it, or
reads nothing, and the search goes on one character later.
-/

namespace CrossArch

/-- What a hit is about. -/
inductive HitKind where
  /-- A key of a rule table. -/
  | rule
  /-- An opener of inline assembly. -/
  | assembly
  /-- A reference to a library. -/
  | library
  deriving DecidableEq, Repr

/-- A hit with the lines of its key. -/
structure Hit where
  key : List Char
  kind : HitKind
  range : LineRange
  deriving DecidableEq, Repr

/-- A match: a key with what is read before and after it, and the text that follows. -/
structure Match where
  kind : HitKind
  lead : List Char
  key : List Char
  trail : List Char
  rest : List Char

/-- Everything that a match reads. -/
def Match.read (found : Match) : List Char :=
  found.lead ++ found.key ++ found.trail

/-- A match at the front of a text, if its parts make up the text and its key is not empty. -/
def Match.IsFrontOf (found : Match) (text : List Char) : Prop :=
  text = found.read ++ found.rest ∧ found.key ≠ []

/-- A way to find matches: what stands at the front of a text, given the character before it. -/
structure Matcher where
  at? : Option Char → List Char → Option Match
  isFront : ∀ {before text found}, at? before text = some found → found.IsFrontOf text

theorem Match.IsFrontOf.length_rest_lt {found : Match} {text : List Char}
    (front : found.IsFrontOf text) : found.rest.length < text.length := by
  obtain ⟨same, nonempty⟩ := front
  have := List.length_pos_iff.2 nonempty
  rw [same]
  simp only [Match.read, List.length_append]
  omega

/-- A match with the line on which its key starts. -/
structure PlacedMatch where
  found : Match
  line : Nat

/-- The matches of a text that starts on a line, after the character `before`. -/
def Matcher.matchesFrom (matcher : Matcher) (before : Option Char) (line : Nat) :
    List Char → List PlacedMatch
  | [] => []
  | c :: rest =>
    match front : matcher.at? before (c :: rest) with
    | some found =>
      ⟨found, line + Text.newlines found.lead⟩ ::
        matcher.matchesFrom found.read.getLast? (line + Text.newlines found.read) found.rest
    | none => matcher.matchesFrom (some c) (if c = '\n' then line + 1 else line) rest
  termination_by text => text.length
  decreasing_by
    · exact (matcher.isFront front).length_rest_lt
    · simp

/-- The matches of a text, in order. -/
def Matcher.matches (matcher : Matcher) (text : List Char) : List PlacedMatch :=
  matcher.matchesFrom none 1 text

/-- The hit that a match makes. -/
def PlacedMatch.hit (placed : PlacedMatch) : Hit where
  key := placed.found.key
  kind := placed.found.kind
  range := ⟨placed.line, placed.line + Text.newlines placed.found.key⟩

end CrossArch
