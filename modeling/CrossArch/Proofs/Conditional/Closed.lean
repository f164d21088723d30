import CrossArch.Conditional.Segment
import Mathlib.Data.Finset.Prod
import Mathlib.Tactic.Common

/-!
# Closed segments

Which directives belong together is said here without a stack, by counting. An opener is closed at
the first later place where the `#endif`s since the opener outnumber the openers since it. The own
directives of the closed segment are its two ends and the alternatives between them at depth zero,
where as many openers as `#endif`s have been passed.

A closed segment is flagged when its own directives name an architecture and never the destination.
It is maximal when no flagged closed segment strictly encloses it. All of these notions can be
evaluated.
-/

namespace CrossArch

/-- Whether a directive neither starts nor ends a segment. -/
def DirectiveKind.isAlternative : DirectiveKind → Bool
  | elseIf | elseIfBare | otherwise => true
  | _ => false

theorem DirectiveKind.not_isAlternative_of_opens {kind : DirectiveKind}
    (opens : kind.opens = true) :
    kind.isAlternative = false := by
  cases kind <;> simp_all [DirectiveKind.opens, isAlternative]

namespace Segment

/-- The directives at the places from `first` on, up to but not including `last`. -/
def part (directives : List Directive) (first last : Nat) : List Directive :=
  (directives.take last).drop first

/-- The number of openers among directives. -/
def openers (directives : List Directive) : Nat :=
  directives.countP fun directive => directive.kind.opens

/-- The number of `#endif`s among directives. -/
def ends (directives : List Directive) : Nat :=
  directives.countP fun directive => directive.kind = .endIf

/-- Whether the directive at a place starts a segment. -/
def opensAt (directives : List Directive) (place : Nat) : Bool :=
  directives[place]?.any fun directive => directive.kind.opens

/-- Whether the directive at a place is an `#endif`. -/
def endsAt (directives : List Directive) (place : Nat) : Bool :=
  directives[place]?.any fun directive => directive.kind = .endIf

/-- Whether the directive at a place is an alternative of a segment. -/
def alternativeAt (directives : List Directive) (place : Nat) : Bool :=
  directives[place]?.any fun directive => directive.kind.isAlternative

/-- Among the directives after `first`, up to and including `last`, the `#endif`s are the
majority. -/
def Outnumbered (directives : List Directive) (first last : Nat) : Prop :=
  openers (part directives (first + 1) (last + 1)) < ends (part directives (first + 1) (last + 1))

instance (directives : List Directive) (first last : Nat) :
    Decidable (Outnumbered directives first last) :=
  inferInstanceAs (Decidable (_ < _))

/-- The opener at `first` is closed at `last`, the least place where its `#endif`s are the
majority. -/
structure ClosedBy (directives : List Directive) (first last : Nat) : Prop where
  opener : opensAt directives first = true
  later : first < last
  inside : last < directives.length
  outnumbered : Outnumbered directives first last
  least : ∀ place < last, first < place → ¬Outnumbered directives first place

instance (directives : List Directive) (first last : Nat) :
    Decidable (ClosedBy directives first last) :=
  decidable_of_iff
    (opensAt directives first = true ∧ first < last ∧ last < directives.length ∧
      Outnumbered directives first last ∧
      ∀ place < last, first < place → ¬Outnumbered directives first place)
    ⟨fun ⟨opener, later, inside, outnumbered, least⟩ => ⟨opener, later, inside, outnumbered, least⟩,
      fun closed => ⟨closed.opener, closed.later, closed.inside, closed.outnumbered, closed.least⟩⟩

/-- The alternatives strictly between two places that stand at depth zero after the first. -/
def alternatives (directives : List Directive) (first last : Nat) : List Directive :=
  ((List.range last).filter fun place =>
    first < place ∧ alternativeAt directives place = true ∧
      openers (part directives (first + 1) place) =
        ends (part directives (first + 1) place)).filterMap fun place => directives[place]?

/-- The own directives of the segment between two places. -/
def ownDirectives (directives : List Directive) (first last : Nat) : List Directive :=
  directives[first]?.toList ++ alternatives directives first last ++ directives[last]?.toList

/-- A closed segment whose own directives name some architecture and never the destination. -/
structure Flagged (dest : Arch) (directives : List Directive) (first last : Nat) : Prop where
  closed : ClosedBy directives first last
  names : ∃ own ∈ ownDirectives directives first last, own.tag ≠ none
  omits : ∀ own ∈ ownDirectives directives first last, own.tag ≠ some dest

instance (dest : Arch) (directives : List Directive) (first last : Nat) :
    Decidable (Flagged dest directives first last) :=
  decidable_of_iff
    (ClosedBy directives first last ∧
      (∃ own ∈ ownDirectives directives first last, own.tag ≠ none) ∧
      ∀ own ∈ ownDirectives directives first last, own.tag ≠ some dest)
    ⟨fun ⟨closed, names, omits⟩ => ⟨closed, names, omits⟩,
      fun flagged => ⟨flagged.closed, flagged.names, flagged.omits⟩⟩

/-- A flagged closed segment that no flagged closed segment strictly encloses. -/
structure Maximal (dest : Arch) (directives : List Directive) (first last : Nat) : Prop where
  flagged : Flagged dest directives first last
  outermost : ∀ outerFirst < first, ∀ outerLast < directives.length, last < outerLast →
    ¬Flagged dest directives outerFirst outerLast

instance (dest : Arch) (directives : List Directive) (first last : Nat) :
    Decidable (Maximal dest directives first last) :=
  decidable_of_iff
    (Flagged dest directives first last ∧
      ∀ outerFirst < first, ∀ outerLast < directives.length, last < outerLast →
        ¬Flagged dest directives outerFirst outerLast)
    ⟨fun ⟨flagged, outermost⟩ => ⟨flagged, outermost⟩,
      fun maximal => ⟨maximal.flagged, maximal.outermost⟩⟩

/-- The places of the maximal flagged closed segments. -/
def maximalSegments (dest : Arch) (directives : List Directive) : Finset (Nat × Nat) :=
  (Finset.range directives.length ×ˢ Finset.range directives.length).filter fun segment =>
    Maximal dest directives segment.1 segment.2

/-- The line of the directive at a place. -/
def lineAt (directives : List Directive) (place : Nat) : Nat :=
  directives[place]?.elim 0 Directive.line

/-- The lines from the opener of a segment to its `#endif`. -/
def linesOf (directives : List Directive) (segment : Nat × Nat) : LineRange :=
  ⟨lineAt directives segment.1, lineAt directives segment.2⟩

theorem mem_maximalSegments {dest : Arch} {directives : List Directive} {segment : Nat × Nat} :
    segment ∈ maximalSegments dest directives ↔
      Maximal dest directives segment.1 segment.2 := by
  simp only [maximalSegments, Finset.mem_filter, Finset.mem_product, Finset.mem_range,
    and_iff_right_iff_imp]
  intro maximal
  have closed := maximal.flagged.closed
  exact ⟨closed.later.trans closed.inside, closed.inside⟩

section Counting

variable {directives : List Directive}

theorem part_append_part {first middle last : Nat} (le : first ≤ middle) (le' : middle ≤ last) :
    part directives first middle ++ part directives middle last = part directives first last := by
  have split : directives.take last = directives.take middle ++ part directives middle last := by
    conv_lhs => rw [← List.take_append_drop middle (directives.take last), List.take_take,
      Nat.min_eq_left le']
    rfl
  have dropped : part directives first last =
      (directives.take middle ++ part directives middle last).drop first := by
    rw [part, split]
  rw [dropped]
  by_cases inside : middle ≤ directives.length
  · rw [List.drop_append_of_le_length (by simp; omega)]
    rfl
  · have none : part directives middle last = [] := by
      simp only [part, List.drop_eq_nil_iff, List.length_take]
      omega
    rw [none, List.append_nil, List.append_nil]
    rfl

theorem part_self (place : Nat) : part directives place place = [] := by
  simp [part]

theorem part_succ (place : Nat) :
    part directives place (place + 1) = directives[place]?.toList := by
  rw [part, List.take_add_one, List.drop_append]
  cases found : directives[place]? with
  | none =>
      have := List.getElem?_eq_none_iff.1 found
      simp
  | some directive =>
      have := (List.getElem?_eq_some_iff.1 found).1
      simp [Nat.min_eq_left this.le]

/-- One more directive adds one to what is counted, or nothing. -/
theorem countP_part_succ (counted : Directive → Bool) {first place : Nat} (le : first ≤ place) :
    (part directives first (place + 1)).countP counted =
      (part directives first place).countP counted +
        if directives[place]?.any counted then 1 else 0 := by
  rw [← part_append_part le (Nat.le_succ place), List.countP_append, part_succ, Nat.add_right_inj]
  cases directives[place]? <;> simp [List.countP_cons]

theorem openers_part_succ {first place : Nat} (le : first ≤ place) :
    openers (part directives first (place + 1)) =
      openers (part directives first place) + if opensAt directives place then 1 else 0 :=
  countP_part_succ _ le

theorem ends_part_succ {first place : Nat} (le : first ≤ place) :
    ends (part directives first (place + 1)) =
      ends (part directives first place) + if endsAt directives place then 1 else 0 :=
  countP_part_succ _ le

theorem not_endsAt_of_opensAt {place : Nat} (opener : opensAt directives place = true) :
    endsAt directives place = false := by
  simp only [opensAt, endsAt, Option.any_eq_true, Option.any_eq_false] at opener ⊢
  rcases opener with ⟨directive, found, opens⟩
  intro other same
  rw [found] at same
  cases same
  cases kind : directive.kind <;> simp_all [DirectiveKind.opens]

/-- Counting may be cut at an opener, which adds one opener to what is counted around it. -/
theorem counts_around_opener {lower middle upper : Nat} (opener : opensAt directives middle = true)
    (le : lower ≤ middle) (less : middle < upper) :
    openers (part directives lower upper) =
        openers (part directives lower middle) + 1 +
          openers (part directives (middle + 1) upper) ∧
      ends (part directives lower upper) =
        ends (part directives lower middle) + ends (part directives (middle + 1) upper) := by
  have cut : part directives lower upper =
      part directives lower (middle + 1) ++ part directives (middle + 1) upper :=
    (part_append_part (by omega) less).symm
  have openersUpTo : openers (part directives lower (middle + 1)) =
      openers (part directives lower middle) + 1 := by
    rw [openers_part_succ le, opener, if_pos rfl]
  have endsUpTo : ends (part directives lower (middle + 1)) =
      ends (part directives lower middle) := by
    simp [ends_part_succ le, not_endsAt_of_opensAt opener]
  rw [cut, ← openersUpTo, ← endsUpTo]
  exact ⟨List.countP_append, List.countP_append⟩

/-- As long as the `#endif`s are never the majority, there are at least as many openers. -/
theorem ends_le_of_not_outnumbered {first place : Nat} (after : first < place)
    (never : ∀ earlier < place, first < earlier → ¬Outnumbered directives first earlier) :
    ends (part directives (first + 1) place) ≤ openers (part directives (first + 1) place) := by
  rcases Nat.exists_eq_add_of_lt after with ⟨distance, rfl⟩
  rcases distance with _ | distance
  · simp [part_self, openers, ends]
  · have notYet := never (first + distance + 1) (by omega) (by omega)
    simp only [Outnumbered] at notYet
    simpa [Nat.add_assoc, Nat.add_comm, Nat.add_left_comm] using notYet

end Counting

namespace ClosedBy

variable {directives : List Directive} {first last : Nat}

/-- Before it is closed, a segment has passed at least as many openers as `#endif`s. -/
theorem ends_le (closed : ClosedBy directives first last) {place : Nat} (after : first < place)
    (before : place ≤ last) :
    ends (part directives (first + 1) place) ≤ openers (part directives (first + 1) place) := by
  apply ends_le_of_not_outnumbered after
  intro earlier less
  exact closed.least earlier (less.trans_le before)

/-- A segment is closed by an `#endif`, which makes its `#endif`s the majority by one. -/
theorem endsAt_last (closed : ClosedBy directives first last) :
    endsAt directives last = true ∧
      ends (part directives (first + 1) (last + 1)) =
        openers (part directives (first + 1) (last + 1)) + 1 := by
  have notYet := closed.ends_le closed.later le_rfl
  have majority := closed.outnumbered
  have le := Nat.add_one_le_of_lt closed.later
  rw [Outnumbered, openers_part_succ le, ends_part_succ le] at majority
  rw [openers_part_succ le, ends_part_succ le]
  by_cases ending : endsAt directives last = true
  · have notOpening : opensAt directives last = false := by
      by_contra opening
      simp [not_endsAt_of_opensAt (by simpa using opening)] at ending
    simp only [ending, notOpening, if_true, Bool.false_eq_true, if_false] at majority ⊢
    exact ⟨trivial, by omega⟩
  · simp only [ending, Bool.false_eq_true, if_false] at majority
    omega

/-- An opener is closed at one place only. -/
theorem last_unique {other : Nat} (closed : ClosedBy directives first last)
    (closed' : ClosedBy directives first other) : last = other := by
  rcases Nat.lt_trichotomy last other with less | equal | greater
  · exact absurd closed.outnumbered (closed'.least last less closed.later)
  · exact equal
  · exact absurd closed'.outnumbered (closed.least other greater closed'.later)

/-- Of two closed segments, the later one begins after the first has ended or ends inside it. -/
theorem apart_or_inside {first' last' : Nat} (closed : ClosedBy directives first last)
    (closed' : ClosedBy directives first' last') (less : first < first') :
    last < first' ∨ last' < last := by
  by_contra crossing
  rcases not_or.1 crossing with ⟨notApart, notInside⟩
  have later := closed'.later
  have different : first' ≠ last := by
    rintro rfl
    have ending := closed.endsAt_last.1
    rw [not_endsAt_of_opensAt closed'.opener] at ending
    simp at ending
  -- Count from the first opener to its end, cut at the second opener.
  have upTo := closed.ends_le less (by omega)
  have majority := closed.endsAt_last.2
  have sums := counts_around_opener closed'.opener (Nat.add_one_le_of_lt less)
    (show first' < last + 1 by omega)
  rcases Nat.lt_or_eq_of_le (Nat.le_of_not_lt notInside) with less' | rfl
  · have inner := closed'.ends_le (show first' < last + 1 by omega) (by omega)
    omega
  · have inner := closed'.endsAt_last.2
    omega

end ClosedBy

/-- Two different maximal segments have no place in common. -/
theorem Maximal.apart {dest : Arch} {directives : List Directive} {first last first' last' : Nat}
    (maximal : Maximal dest directives first last)
    (maximal' : Maximal dest directives first' last') (less : first < first') : last < first' := by
  rcases maximal.flagged.closed.apart_or_inside maximal'.flagged.closed less with apart | inside
  · exact apart
  · exact absurd maximal.flagged
      (maximal'.outermost first less last maximal.flagged.closed.inside inside)

section Extension

variable {read back : List Directive} {directive : Directive}

/-- A place in the longer list is one of the places before, or the last. -/
theorem lt_length_or_eq {place : Nat} (inside : place < (read ++ [directive]).length) :
    place < read.length ∨ place = read.length := by
  rw [List.length_append, List.length_singleton] at inside
  exact Nat.lt_succ_iff_lt_or_eq.1 inside

theorem part_append {first last : Nat} (le : last ≤ read.length) :
    part (read ++ back) first last = part read first last := by
  rw [part, List.take_append_of_le_length le]
  rfl

theorem opensAt_append {place : Nat} (less : place < read.length) :
    opensAt (read ++ back) place = opensAt read place := by
  rw [opensAt, List.getElem?_append_left less]
  rfl

theorem alternativeAt_append {place : Nat} (less : place < read.length) :
    alternativeAt (read ++ [directive]) place = alternativeAt read place := by
  rw [alternativeAt, List.getElem?_append_left less]
  rfl

@[simp]
theorem opensAt_length : opensAt (read ++ [directive]) read.length = directive.kind.opens := by
  simp [opensAt]

@[simp]
theorem endsAt_length :
    endsAt (read ++ [directive]) read.length = decide (directive.kind = .endIf) := by
  simp [endsAt]

@[simp]
theorem alternativeAt_length :
    alternativeAt (read ++ [directive]) read.length = directive.kind.isAlternative := by
  simp [alternativeAt]

theorem outnumbered_append {first last : Nat} (less : last < read.length) :
    Outnumbered (read ++ back) first last ↔ Outnumbered read first last := by
  rw [Outnumbered, part_append (Nat.add_one_le_of_lt less)]
  rfl

theorem closedBy_append {first last : Nat} (less : last < read.length) :
    ClosedBy (read ++ [directive]) first last ↔ ClosedBy read first last := by
  constructor
  · rintro ⟨opener, later, -, outnumbered, least⟩
    rw [opensAt_append (later.trans less)] at opener
    refine ⟨opener, later, less, (outnumbered_append less).1 outnumbered, ?_⟩
    intro place before after
    rw [← outnumbered_append (before.trans less)]
    exact least place before after
  · rintro ⟨opener, later, -, outnumbered, least⟩
    rw [← opensAt_append (later.trans less)] at opener
    refine ⟨opener, later, by simp; omega, (outnumbered_append less).2 outnumbered, ?_⟩
    intro place before after
    rw [outnumbered_append (before.trans less)]
    exact least place before after

theorem alternatives_append {first last : Nat} (le : last ≤ read.length) :
    alternatives (read ++ [directive]) first last = alternatives read first last := by
  have sameFilter : ∀ place ∈ List.range last,
      decide (first < place ∧ alternativeAt (read ++ [directive]) place = true ∧
        openers (part (read ++ [directive]) (first + 1) place) =
          ends (part (read ++ [directive]) (first + 1) place)) =
      decide (first < place ∧ alternativeAt read place = true ∧
        openers (part read (first + 1) place) = ends (part read (first + 1) place)) := by
    intro place placeMem
    have less : place < read.length := (List.mem_range.1 placeMem).trans_le le
    rw [alternativeAt_append less, part_append less.le]
  rw [alternatives, alternatives, List.filter_congr sameFilter]
  apply List.filterMap_congr
  intro place placeMem
  have less := List.mem_range.1 (List.mem_filter.1 placeMem).1
  exact List.getElem?_append_left (less.trans_le le)

/-- One more directive is an alternative of an opener if it stands at depth zero after it. -/
theorem alternatives_length {first : Nat} :
    alternatives (read ++ [directive]) first (read ++ [directive]).length =
      alternatives read first read.length ++
        if first < read.length ∧ directive.kind.isAlternative = true ∧
          openers (part read (first + 1) read.length) = ends (part read (first + 1) read.length)
        then [directive] else [] := by
  have before : alternatives (read ++ [directive]) first read.length =
      alternatives read first read.length := alternatives_append le_rfl
  rw [← before, List.length_append, List.length_singleton, alternatives, List.range_succ,
    List.filter_append, List.filterMap_append]
  congr 1
  split
  · rename_i counted
    simp [part_append, alternativeAt_length, counted]
  · rename_i notCounted
    simp [part_append, alternativeAt_length, notCounted]

theorem flagged_append {dest : Arch} {first last : Nat} (less : last < read.length) :
    Flagged dest (read ++ [directive]) first last ↔ Flagged dest read first last := by
  have sameOwn : ∀ closed : ClosedBy read first last,
      ownDirectives (read ++ [directive]) first last = ownDirectives read first last := by
    intro closed
    rw [ownDirectives, alternatives_append less.le, List.getElem?_append_left less,
      List.getElem?_append_left (closed.later.trans less)]
    rfl
  constructor
  · rintro ⟨closed, names, omits⟩
    have closed := (closedBy_append less).1 closed
    rw [sameOwn closed] at names omits
    exact ⟨closed, names, omits⟩
  · rintro ⟨closed, names, omits⟩
    rw [← sameOwn closed] at names omits
    exact ⟨(closedBy_append less).2 closed, names, omits⟩

end Extension

/-- The opener at a place has not been closed. -/
structure IsOpen (directives : List Directive) (first : Nat) : Prop where
  opener : opensAt directives first = true
  notClosed : ∀ place < directives.length, first < place → ¬Outnumbered directives first place

namespace IsOpen

variable {read : List Directive} {directive : Directive} {first : Nat}

theorem lt_length (isOpen : IsOpen read first) : first < read.length := by
  by_contra outside
  have opener := isOpen.opener
  rw [opensAt, List.getElem?_eq_none_iff.2 (Nat.le_of_not_lt outside)] at opener
  simp at opener

theorem not_closedBy (isOpen : IsOpen read first) (last : Nat) : ¬ClosedBy read first last := by
  intro closed
  exact isOpen.notClosed last closed.inside closed.later closed.outnumbered

/-- After an opener that is still open there are at least as many openers as `#endif`s. -/
theorem ends_le (isOpen : IsOpen read first) {place : Nat} (after : first < place)
    (inside : place ≤ read.length) :
    ends (part read (first + 1) place) ≤ openers (part read (first + 1) place) := by
  apply ends_le_of_not_outnumbered after
  intro earlier less
  exact isOpen.notClosed earlier (less.trans_le inside)

/-- Around an open opener, an outer one has passed more openers than `#endif`s. -/
theorem ends_lt {inner : Nat} (isOpen : IsOpen read first) (innerOpen : IsOpen read inner)
    (less : first < inner) {place : Nat} (after : inner < place) (inside : place ≤ read.length) :
    ends (part read (first + 1) place) < openers (part read (first + 1) place) := by
  have upTo := isOpen.ends_le less (after.le.trans inside)
  have since := innerOpen.ends_le after inside
  have sums := counts_around_opener innerOpen.opener (Nat.add_one_le_of_lt less) after
  omega

/-- Between an open opener and a place where its segments are whole, no other opener is open. -/
theorem not_isOpen_of_balanced {upper : Nat} (isOpen : IsOpen read first)
    (balanced : openers (part read (first + 1) upper) = ends (part read (first + 1) upper))
    (inside : upper ≤ read.length) {inner : Nat} (after : first < inner) (before : inner < upper) :
    ¬IsOpen read inner := by
  intro innerOpen
  have more := isOpen.ends_lt innerOpen after before inside
  omega

/-- When a directive is read, an opener stays open unless the directive makes `#endif`s the
majority. -/
theorem append (isOpen : IsOpen read first)
    (notClosed : ¬Outnumbered (read ++ [directive]) first read.length) :
    IsOpen (read ++ [directive]) first := by
  constructor
  · rw [opensAt_append isOpen.lt_length]
    exact isOpen.opener
  · intro place inside after
    rcases lt_length_or_eq inside with less | rfl
    · rw [outnumbered_append less]
      exact isOpen.notClosed place less after
    · exact notClosed

/-- An opener that is open after a directive was open before, or is that directive. -/
theorem of_append (isOpen : IsOpen (read ++ [directive]) first) (less : first < read.length) :
    IsOpen read first := by
  constructor
  · rw [← opensAt_append less]
    exact isOpen.opener
  · intro place inside after
    rw [← outnumbered_append inside]
    exact isOpen.notClosed place (by simp; omega) after

end IsOpen

/-- Before the place where it is closed, an opener is open. -/
theorem isOpen_of_closedBy {read back : List Directive} {first last : Nat}
    (closed : ClosedBy (read ++ back) first last) (less : first < read.length)
    (le : read.length ≤ last) : IsOpen read first := by
  constructor
  · rw [← opensAt_append less]
    exact closed.opener
  · intro place inside after
    rw [← outnumbered_append inside]
    exact closed.least place (inside.trans_le le) after

/-- What the last directive closes was open before it, and the directive is an `#endif`. -/
theorem isOpen_of_closedBy_length {read : List Directive} {directive : Directive} {first : Nat}
    (closed : ClosedBy (read ++ [directive]) first read.length) :
    IsOpen read first ∧ directive.kind = .endIf := by
  refine ⟨isOpen_of_closedBy closed closed.later le_rfl, ?_⟩
  simpa using closed.endsAt_last.1

/-- The last directive makes `#endif`s the majority exactly if it is one and there were as many
before. -/
theorem outnumbered_length_iff {read : List Directive} {directive : Directive} {first : Nat}
    (isOpen : IsOpen read first) :
    Outnumbered (read ++ [directive]) first read.length ↔
      directive.kind = .endIf ∧
        openers (part read (first + 1) read.length) = ends (part read (first + 1) read.length) := by
  have le := Nat.add_one_le_of_lt isOpen.lt_length
  have atLeast := isOpen.ends_le isOpen.lt_length le_rfl
  rw [Outnumbered, openers_part_succ le, ends_part_succ le, opensAt_length, endsAt_length,
    part_append le_rfl]
  by_cases ending : directive.kind = .endIf
  · simp only [ending, DirectiveKind.opens, Bool.false_eq_true, if_false, decide_true, if_true,
      true_and]
    omega
  · simp only [ending, decide_false, Bool.false_eq_true, if_false, false_and, iff_false]
    omega

/-- An open opener is closed by an `#endif` that finds it at depth zero. -/
theorem closedBy_length {read : List Directive} {directive : Directive} {first : Nat}
    (isOpen : IsOpen read first) (ending : directive.kind = .endIf)
    (balanced : openers (part read (first + 1) read.length) =
      ends (part read (first + 1) read.length)) :
    ClosedBy (read ++ [directive]) first read.length := by
  refine ⟨?_, isOpen.lt_length, by simp, (outnumbered_length_iff isOpen).2 ⟨ending, balanced⟩, ?_⟩
  · rw [opensAt_append isOpen.lt_length]
    exact isOpen.opener
  · intro place inside after
    rw [outnumbered_append inside]
    exact isOpen.notClosed place inside after

end Segment

end CrossArch
