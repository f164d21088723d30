import CrossArch.Regex.Syntax

/-!
# The weight of a regular expression

An expression with large counted repetitions is too large to search with. Its weight is an estimate,
in bytes, of the automaton it stands for, in which every repetition is written out.
-/

namespace CrossArch

/-- The weight of a set: that of its intervals, where characters beyond ASCII take several steps. -/
def CharSet.weight : CharSet → Nat
  | range _ last => if last.toNat < 128 then 8 else 120
  | digit => 2400
  | blank => 600
  | word => 50000
  | alphabetic => 45000
  | listed table => 60 * (table.whole.length + table.alternate.length)
  | none => 0
  | complement set => set.weight + 300
  | union a b => a.weight + b.weight
  | intersection a b => a.weight + b.weight
  | anyCase set => 2 * set.weight
  | anyAsciiCase set => 2 * set.weight

namespace Regex

/-- The weight of one state of the automaton. -/
def stateWeight : Nat :=
  32

/-- The weight of a choice between two ways. -/
def choiceWeight : Nat :=
  stateWeight + 8

/-- The weight of an expression. -/
def weight : Regex → Nat
  | empty => 0
  | char set => stateWeight + set.weight
  | assert _ => stateWeight
  | seq first second => first.weight + second.weight
  | alt first second => first.weight + second.weight + choiceWeight
  | .repeat body least most _ =>
    match most with
    | some bound => bound * body.weight + (bound - least) * choiceWeight
    | none => max 1 least * body.weight + choiceWeight
  | group _ body => body.weight

/-- The largest weight of an expression that is searched with. -/
def weightLimit : Nat :=
  10 * 1024 * 1024

/-- Whether an expression is too large to search with. -/
def isTooLarge (regex : Regex) : Bool :=
  weightLimit < regex.weight

end Regex

end CrossArch
