import CrossArch.Proofs.Conditional.Closed
import CrossArch.Proofs.Text.Line

/-!
# Grouping with a stack

The grouping reads directives one at a time and keeps the open frames on a stack. Here its state is
compared with the closed segments of the directives that have been read. The frames are exactly the
openers that are not closed yet, innermost first. Each frame holds the alternatives of its opener
and reports the maximal flagged segments that begin after its opener and before the next inner one;
the maximal segments before the outermost frame are reported outside.

One directive preserves this account, so it holds after every list of directives, balanced or not.
-/

namespace CrossArch

namespace Segment

/-- The maximal segments whose openers stand from the place `lower` on and before `upper`. -/
def maximalBetween (dest : Arch) (directives : List Directive) (lower upper : Nat) :
    Finset (Nat × Nat) :=
  (maximalSegments dest directives).filter fun segment => lower ≤ segment.1 ∧ segment.1 < upper

theorem mem_maximalBetween {dest : Arch} {directives : List Directive} {lower upper : Nat}
    {segment : Nat × Nat} :
    segment ∈ maximalBetween dest directives lower upper ↔
      Maximal dest directives segment.1 segment.2 ∧ lower ≤ segment.1 ∧ segment.1 < upper := by
  rw [maximalBetween, Finset.mem_filter, mem_maximalSegments]

/-- Ranges are the lines of the maximal segments that open between two places, each once. -/
def Reports (dest : Arch) (directives : List Directive) (lower upper : Nat)
    (ranges : List LineRange) : Prop :=
  (ranges : Multiset LineRange) =
    (maximalBetween dest directives lower upper).val.map (linesOf directives)

namespace Reports

variable {dest : Arch} {directives : List Directive} {lower middle upper : Nat}
  {ranges laterRanges : List LineRange}

/-- Where no maximal segment opens there is nothing to report. -/
theorem of_none
    (none : ∀ first last, lower ≤ first → first < upper → ¬Maximal dest directives first last) :
    Reports dest directives lower upper [] := by
  have empty : maximalBetween dest directives lower upper = ∅ := by
    ext segment
    rw [mem_maximalBetween]
    simp only [Finset.notMem_empty, iff_false]
    rintro ⟨maximal, atLeast, less⟩
    exact none segment.1 segment.2 atLeast less maximal
  rw [Reports, empty]
  rfl

theorem append (reports : Reports dest directives lower middle ranges)
    (later : Reports dest directives middle upper laterRanges) (le : lower ≤ middle)
    (le' : middle ≤ upper) : Reports dest directives lower upper (ranges ++ laterRanges) := by
  have disjoint : Disjoint (maximalBetween dest directives lower middle)
      (maximalBetween dest directives middle upper) := by
    rw [Finset.disjoint_left]
    intro segment early late
    rw [mem_maximalBetween] at early late
    omega
  have union : maximalBetween dest directives lower upper =
      (maximalBetween dest directives lower middle).disjUnion
        (maximalBetween dest directives middle upper) disjoint := by
    ext segment
    rw [Finset.mem_disjUnion, mem_maximalBetween, mem_maximalBetween, mem_maximalBetween,
      ← and_or_left]
    apply and_congr_right
    intro _
    omega
  rw [Reports] at reports later ⊢
  rw [union, Finset.disjUnion_val, Multiset.map_add, ← reports, ← later, Multiset.coe_add]

/-- A place whose opener begins no maximal segment can be left out at the front. -/
theorem skip_place (none : ∀ last, ¬Maximal dest directives lower last) (less : lower < upper)
    (reports : Reports dest directives (lower + 1) upper ranges) :
    Reports dest directives lower upper ranges := by
  have nothing : Reports dest directives lower (lower + 1) [] := by
    apply of_none
    intro first last atLeast atMost
    obtain rfl : first = lower := by omega
    exact none last
  simpa using nothing.append reports (Nat.le_succ lower) less

end Reports

section Reading

variable {dest : Arch} {read : List Directive} {directive : Directive} {lower upper : Nat}
  {ranges : List LineRange}

/-- A directive that flags no segment around a place leaves the maximal segments there as they
are. -/
theorem maximal_append (nothingNew : ∀ first < upper, ¬Flagged dest (read ++ [directive]) first
    read.length) {first last : Nat} (less : first < upper) :
    Maximal dest (read ++ [directive]) first last ↔ Maximal dest read first last := by
  constructor
  · rintro ⟨flagged, outermost⟩
    rcases lt_length_or_eq flagged.closed.inside with before | rfl
    · refine ⟨(flagged_append before).1 flagged, ?_⟩
      intro outerFirst outerLess outerLast outerInside outerAfter outerFlagged
      exact outermost outerFirst outerLess outerLast (by simp; omega) outerAfter
        ((flagged_append outerInside).2 outerFlagged)
    · exact absurd flagged (nothingNew first less)
  · rintro ⟨flagged, outermost⟩
    refine ⟨(flagged_append flagged.closed.inside).2 flagged, ?_⟩
    intro outerFirst outerLess outerLast outerInside outerAfter outerFlagged
    rcases lt_length_or_eq outerInside with before | rfl
    · exact outermost outerFirst outerLess outerLast before outerAfter
        ((flagged_append before).1 outerFlagged)
    · exact nothingNew outerFirst (outerLess.trans less) outerFlagged

theorem lineAt_append {place : Nat} (less : place < read.length) :
    lineAt (read ++ [directive]) place = lineAt read place := by
  rw [lineAt, List.getElem?_append_left less]
  rfl

theorem Reports.persist (reports : Reports dest read lower upper ranges)
    (nothingNew : ∀ first < upper, ¬Flagged dest (read ++ [directive]) first read.length) :
    Reports dest (read ++ [directive]) lower upper ranges := by
  have same : maximalBetween dest (read ++ [directive]) lower upper =
      maximalBetween dest read lower upper := by
    ext segment
    rw [mem_maximalBetween, mem_maximalBetween]
    apply and_congr_left
    rintro ⟨-, less⟩
    exact maximal_append nothingNew less
  rw [Reports] at reports ⊢
  rw [reports, same]
  apply Multiset.map_congr rfl
  intro segment segmentMem
  have closed := (mem_maximalBetween.1 segmentMem).1.flagged.closed
  rw [linesOf, linesOf, lineAt_append closed.inside,
    lineAt_append (closed.later.trans closed.inside)]

/-- No segment begins with the last directive, so the reports reach past it. -/
theorem Reports.extend (reports : Reports dest read lower read.length ranges)
    (le : lower ≤ read.length)
    (nothingNew : ∀ first < read.length,
      ¬Flagged dest (read ++ [directive]) first read.length) :
    Reports dest (read ++ [directive]) lower (read ++ [directive]).length ranges := by
  have nothing : Reports dest (read ++ [directive]) read.length
      (read ++ [directive]).length [] := by
    apply Reports.of_none
    intro first last atLeast _ maximal
    have closed := maximal.flagged.closed
    have later := closed.later
    have inside := closed.inside
    rw [List.length_append, List.length_singleton] at inside
    omega
  simpa using (reports.persist nothingNew).append nothing le (by simp)

end Reading

/--
Frames, innermost first, and the ranges outside of them account for the openers before a place. A
frame stands for an opener that is still open, with nothing but whole segments since then.
-/
inductive Accounts (dest : Arch) (read : List Directive) :
    Nat → List Frame → List LineRange → Prop where
  | outside {upper : Nat} {flagged : List LineRange}
      (noneOpen : ∀ place < upper, ¬IsOpen read place)
      (reports : Reports dest read 0 upper flagged) :
      Accounts dest read upper [] flagged
  | inside {upper place : Nat} {frame : Frame} {outer : List Frame} {flagged : List LineRange}
      (before : place < upper) (isOpen : IsOpen read place)
      (balanced : openers (part read (place + 1) upper) = ends (part read (place + 1) upper))
      (opener : read[place]? = some frame.opener)
      (later : frame.later = alternatives read place read.length)
      (reports : Reports dest read (place + 1) upper frame.nested)
      (accounts : Accounts dest read place outer flagged) :
      Accounts dest read upper (frame :: outer) flagged

namespace Accounts

variable {dest : Arch} {read : List Directive} {directive : Directive} {upper : Nat}
  {frames : List Frame} {flagged : List LineRange}

/--
Frames stay as they are when a directive is read that is deeper than all of them: it opens a
segment, or every open opener has passed more openers than `#endif`s.
-/
theorem persist (accounts : Accounts dest read upper frames flagged) (le : upper ≤ read.length)
    (deeper : ∀ place < upper, IsOpen read place → directive.kind.opens = true ∨
      ends (part read (place + 1) read.length) < openers (part read (place + 1) read.length)) :
    Accounts dest (read ++ [directive]) upper frames flagged := by
  have nothingNew : ∀ first < upper, ¬Flagged dest (read ++ [directive]) first read.length := by
    intro first less newlyFlagged
    rcases isOpen_of_closedBy_length newlyFlagged.closed with ⟨isOpen, ending⟩
    have atDepthZero := ((outnumbered_length_iff isOpen).1 newlyFlagged.closed.outnumbered).2
    rcases deeper first less isOpen with opens | more
    · simp [ending, DirectiveKind.opens] at opens
    · omega
  induction accounts with
  | outside noneOpen reports =>
      refine .outside ?_ (reports.persist nothingNew)
      intro place less isOpen
      exact noneOpen place less (isOpen.of_append (less.trans_le le))
  | @inside upper place frame outer flagged before isOpen balanced opener later reports
      accounts ih =>
      have placeInside := isOpen.lt_length
      have depth := deeper place before isOpen
      refine .inside before (isOpen.append ?_) ?_ ?_ ?_ (reports.persist nothingNew) ?_
      · rw [outnumbered_length_iff isOpen]
        rintro ⟨ending, atDepthZero⟩
        rcases depth with opens | more
        · simp [ending, DirectiveKind.opens] at opens
        · omega
      · rw [part_append le]
        exact balanced
      · rw [List.getElem?_append_left placeInside]
        exact opener
      · rw [later, alternatives_length, if_neg, List.append_nil]
        rintro ⟨-, alternative, atDepthZero⟩
        rcases depth with opens | more
        · simp [DirectiveKind.not_isAlternative_of_opens opens] at alternative
        · omega
      · apply ih (by omega)
        · intro outerPlace less
          exact deeper outerPlace (less.trans before)
        · intro first less
          exact nothingNew first (less.trans before)

/-- An opener becomes the innermost frame. -/
theorem push (accounts : Accounts dest read read.length frames flagged)
    (opens : directive.kind.opens = true) :
    Accounts dest (read ++ [directive]) (read ++ [directive]).length
      (⟨directive, [], []⟩ :: frames) flagged := by
  have persisted : Accounts dest (read ++ [directive]) read.length frames flagged :=
    accounts.persist le_rfl fun _ _ _ => Or.inl opens
  refine .inside (by simp) ⟨by simpa using opens, ?_⟩ ?_ (by simp) ?_ (Reports.of_none ?_) persisted
  · intro place inside after
    rw [List.length_append, List.length_singleton] at inside
    omega
  · rw [List.length_append, List.length_singleton, part_self]
    rfl
  · rw [alternatives_length, if_neg (by omega), List.append_nil]
    simp only [alternatives, List.nil_eq, List.filterMap_eq_nil_iff, List.mem_filter,
      List.mem_range, decide_eq_true_eq]
    omega
  · intro first last atLeast less
    rw [List.length_append, List.length_singleton] at less
    omega

/-- Without an open frame, a directive that opens nothing changes nothing. -/
theorem stray (accounts : Accounts dest read read.length [] flagged)
    (notOpening : directive.kind.opens = false) :
    Accounts dest (read ++ [directive]) (read ++ [directive]).length [] flagged := by
  cases accounts with
  | outside noneOpen reports =>
      refine .outside ?_ ?_
      · intro place _ isOpen
        rcases lt_length_or_eq isOpen.lt_length with less | rfl
        · exact noneOpen place less (isOpen.of_append less)
        · have opener := isOpen.opener
          simp [notOpening] at opener
      · apply reports.extend (Nat.zero_le _)
        intro first less newlyFlagged
        exact noneOpen first less (isOpen_of_closedBy_length newlyFlagged.closed).1

/-- An alternative is added to the innermost frame. -/
theorem addAlternative {top : Frame} {outer : List Frame}
    (accounts : Accounts dest read read.length (top :: outer) flagged)
    (alternative : directive.kind.isAlternative = true) :
    Accounts dest (read ++ [directive]) (read ++ [directive]).length
      ({ top with later := top.later ++ [directive] } :: outer) flagged := by
  have notOpening : directive.kind.opens = false := by
    cases kind : directive.kind <;> simp_all [DirectiveKind.isAlternative, DirectiveKind.opens]
  have notEnding : directive.kind ≠ .endIf := by
    cases kind : directive.kind <;> simp_all [DirectiveKind.isAlternative]
  have nothingNew : ∀ first < read.length,
      ¬Flagged dest (read ++ [directive]) first read.length := by
    intro first _ newlyFlagged
    exact notEnding (isOpen_of_closedBy_length newlyFlagged.closed).2
  cases accounts with
  | @inside _ place _ _ _ before isOpen balanced opener later reports accounts =>
      have le := Nat.add_one_le_of_lt before
      refine .inside ?_ (isOpen.append ?_) ?_ ?_ ?_ ?_ (accounts.persist before.le ?_)
      · simp only [List.length_append, List.length_singleton]
        omega
      · rw [outnumbered_length_iff isOpen]
        exact fun closes => notEnding closes.1
      · rw [List.length_append, List.length_singleton, openers_part_succ le, ends_part_succ le,
          opensAt_length, endsAt_length, part_append le_rfl]
        simp [notOpening, notEnding, balanced]
      · rw [List.getElem?_append_left before]
        exact opener
      · rw [alternatives_length, if_pos ⟨before, alternative, balanced⟩, later]
      · exact reports.extend le nothingNew
      · intro outerPlace less outerOpen
        exact Or.inr (outerOpen.ends_lt isOpen less before le_rfl)

/-- Whole segments after the places of the frames are reported to the innermost frame. -/
theorem report {state : State} {lower : Nat} {ranges : List LineRange}
    (accounts : Accounts dest read lower state.stack state.flagged) (le : lower ≤ upper)
    (noneOpen : ∀ place, lower ≤ place → place < upper → ¬IsOpen read place)
    (balanced : openers (part read lower upper) = ends (part read lower upper))
    (reports : Reports dest read lower upper ranges) :
    Accounts dest read upper (state.report ranges).stack (state.report ranges).flagged := by
  rcases state with ⟨stack, flagged, log⟩
  cases accounts with
  | outside noneOpen' reports' =>
      refine .outside ?_ (reports'.append reports (Nat.zero_le lower) le)
      intro place less
      by_cases early : place < lower
      · exact noneOpen' place early
      · exact noneOpen place (Nat.le_of_not_lt early) less
  | @inside _ place parent outer _ before isOpen balanced' opener later reports' accounts =>
      have reached := Nat.add_one_le_of_lt before
      refine .inside (before.trans_le le) isOpen ?_ opener later
        (reports'.append reports reached le) accounts
      rw [← part_append_part reached le, openers, ends, List.countP_append, List.countP_append]
      exact congrArg₂ (· + ·) balanced' balanced

end Accounts

/-- A closed segment is flagged if its own directives exclude the destination. -/
theorem flagged_iff_excludes {dest : Arch} {directives : List Directive} {first last : Nat}
    (closed : ClosedBy directives first last) :
    Flagged dest directives first last ↔
      excludes (ownDirectives directives first last) dest = true := by
  have iff : Flagged dest directives first last ↔
      (∃ own ∈ ownDirectives directives first last, own.tag ≠ none) ∧
        ∀ own ∈ ownDirectives directives first last, own.tag ≠ some dest :=
    ⟨fun flagged => ⟨flagged.names, flagged.omits⟩,
      fun ⟨names, omits⟩ => ⟨closed, names, omits⟩⟩
  rw [iff, excludes]
  simp [Option.isSome_iff_ne_none]

section Closing

variable {dest : Arch} {read : List Directive} {directive : Directive} {place : Nat}

/-- An `#endif` closes no other opener than the one that it finds at depth zero. -/
theorem eq_of_closedBy_length (isOpen : IsOpen read place)
    (balanced : openers (part read (place + 1) read.length) =
      ends (part read (place + 1) read.length))
    {first : Nat} (closed : ClosedBy (read ++ [directive]) first read.length) : first = place := by
  have firstOpen := (isOpen_of_closedBy_length closed).1
  rcases Nat.lt_trichotomy first place with less | equal | greater
  · have atDepthZero := ((outnumbered_length_iff firstOpen).1 closed.outnumbered).2
    have more := firstOpen.ends_lt isOpen less isOpen.lt_length le_rfl
    omega
  · exact equal
  · exact absurd firstOpen
      (isOpen.not_isOpen_of_balanced balanced le_rfl greater firstOpen.lt_length)

/-- Once its `#endif` is read, a frame holds the own directives of the segment that it closes. -/
theorem own_eq_ownDirectives {top : Frame} (opener : read[place]? = some top.opener)
    (later : top.later = alternatives read place read.length) :
    Frame.own { top with later := top.later ++ [directive] } =
      ownDirectives (read ++ [directive]) place read.length := by
  have inside := (List.getElem?_eq_some_iff.1 opener).1
  rw [ownDirectives, alternatives_append le_rfl, List.getElem?_append_left inside, opener, ← later]
  simp [Frame.own]

/-- A closed frame reports the maximal segments from its opener on: itself, or what is inside it. -/
theorem reports_reported {top : Frame} (isOpen : IsOpen read place)
    (balanced : openers (part read (place + 1) read.length) =
      ends (part read (place + 1) read.length))
    (opener : read[place]? = some top.opener)
    (later : top.later = alternatives read place read.length)
    (reports : Reports dest read (place + 1) read.length top.nested)
    (ending : directive.kind = .endIf) :
    Reports dest (read ++ [directive]) place (read ++ [directive]).length
      (Frame.reported { top with later := top.later ++ [directive] } dest) := by
  have closed : ClosedBy (read ++ [directive]) place read.length :=
    closedBy_length isOpen ending balanced
  rw [Frame.reported, own_eq_ownDirectives opener later]
  by_cases flagged : Flagged dest (read ++ [directive]) place read.length
  · rw [if_pos ((flagged_iff_excludes closed).1 flagged)]
    -- The new segment is maximal, and it encloses every other one behind its opener.
    have single : maximalBetween dest (read ++ [directive]) place (read ++ [directive]).length =
        {(place, read.length)} := by
      ext ⟨first, last⟩
      rw [mem_maximalBetween, Finset.mem_singleton, Prod.mk.injEq]
      constructor
      · rintro ⟨maximal, atLeast, -⟩
        rcases lt_length_or_eq maximal.flagged.closed.inside with less | rfl
        · rcases Nat.lt_or_eq_of_le atLeast with greater | rfl
          · exact absurd flagged (maximal.outermost place greater read.length (by simp) less)
          · exact ⟨rfl, maximal.flagged.closed.last_unique closed⟩
        · exact ⟨eq_of_closedBy_length isOpen balanced maximal.flagged.closed, rfl⟩
      · rintro ⟨rfl, rfl⟩
        refine ⟨⟨flagged, ?_⟩, le_rfl, closed.later.trans closed.inside⟩
        intro outerFirst _ outerLast outerInside outerAfter
        rw [List.length_append, List.length_singleton] at outerInside
        omega
    rw [Reports, single]
    simp [Frame.range, Frame.own, linesOf, lineAt, List.getElem?_append_left closed.later, opener]
  · have notExcluding := mt (flagged_iff_excludes closed).2 flagged
    rw [if_neg notExcluding]
    apply Reports.skip_place
    · intro last maximal
      rw [maximal.flagged.closed.last_unique closed] at maximal
      exact flagged maximal.flagged
    · exact closed.later.trans closed.inside
    · apply reports.extend (Nat.add_one_le_of_lt closed.later)
      intro first _ newlyFlagged
      rw [eq_of_closedBy_length isOpen balanced newlyFlagged.closed] at newlyFlagged
      exact flagged newlyFlagged

end Closing

@[simp]
theorem State.note_stack (state : State) (message : String) :
    (state.note message).stack = state.stack :=
  rfl

@[simp]
theorem State.note_flagged (state : State) (message : String) :
    (state.note message).flagged = state.flagged :=
  rfl

namespace Accounts

variable {dest : Arch} {read : List Directive}

/-- An `#endif` takes the innermost frame from the stack and hands on what it reports. -/
theorem close {state : State} {directive : Directive} {top : Frame} {outer : List Frame}
    (accounts : Accounts dest read read.length (top :: outer) state.flagged)
    (ending : directive.kind = .endIf) :
    Accounts dest (read ++ [directive]) (read ++ [directive]).length
      (State.close { state with stack := outer } dest
        { top with later := top.later ++ [directive] }).stack
      (State.close { state with stack := outer } dest
        { top with later := top.later ++ [directive] }).flagged := by
  cases accounts with
  | @inside _ place _ _ _ before isOpen balanced opener later reports accounts =>
      have closed : ClosedBy (read ++ [directive]) place read.length :=
        closedBy_length isOpen ending balanced
      have persisted : Accounts dest (read ++ [directive]) place outer state.flagged := by
        apply accounts.persist before.le
        intro outerPlace less outerOpen
        exact Or.inr (outerOpen.ends_lt isOpen less before le_rfl)
      have noneOpen : ∀ other, place ≤ other → other < (read ++ [directive]).length →
          ¬IsOpen (read ++ [directive]) other := by
        intro other atLeast inside otherOpen
        rcases lt_length_or_eq inside with less | rfl
        · rcases Nat.lt_or_eq_of_le atLeast with greater | rfl
          · exact isOpen.not_isOpen_of_balanced balanced le_rfl greater less
              (otherOpen.of_append less)
          · exact otherOpen.not_closedBy read.length closed
        · have opening := otherOpen.opener
          simp [ending, DirectiveKind.opens] at opening
      have balanced' : openers (part (read ++ [directive]) place (read ++ [directive]).length) =
          ends (part (read ++ [directive]) place (read ++ [directive]).length) := by
        have majority := closed.endsAt_last.2
        have sums :=
          counts_around_opener closed.opener le_rfl (show place < read.length + 1 by omega)
        rw [part_self] at sums
        simp only [openers, ends, List.countP_nil, List.length_append, List.length_singleton]
          at majority sums ⊢
        omega
      have reported := reports_reported isOpen balanced opener later reports ending
      rw [State.close]
      split <;> exact report (by simpa using persisted) (by simp; omega) noneOpen balanced' reported

/-- Reading one directive keeps the account. -/
theorem read_step {state : State}
    (accounts : Accounts dest read read.length state.stack state.flagged) (directive : Directive) :
    Accounts dest (read ++ [directive]) (read ++ [directive]).length
      (State.read dest state directive).stack (State.read dest state directive).flagged := by
  rcases state with ⟨stack, flagged, log⟩
  cases opening : directive.kind.opens with
  | true =>
      simp only [State.read, opening, if_true]
      exact accounts.push opening
  | false =>
      simp only [State.read, opening, Bool.false_eq_true, if_false]
      cases stack with
      | nil => exact accounts.stray opening
      | cons top outer =>
          by_cases ending : directive.kind = .endIf
          · simp only [ending, if_true]
            exact close accounts ending
          · simp only [ending, if_false]
            apply accounts.addAlternative
            cases kind : directive.kind <;>
              simp_all [DirectiveKind.opens, DirectiveKind.isAlternative]

/-- After any directives, the state accounts for all of them. -/
theorem readAll (dest : Arch) (directives : List Directive) :
    Accounts dest directives directives.length (State.readAll dest directives).stack
      (State.readAll dest directives).flagged := by
  induction directives using List.reverseRecOn with
  | nil =>
      refine .outside ?_ (Reports.of_none ?_)
      · intro place less
        exact absurd less (Nat.not_lt_zero place)
      · intro first last _ less
        exact absurd less (Nat.not_lt_zero first)
  | append_singleton read directive ih =>
      rw [State.readAll, List.foldl_append]
      exact ih.read_step directive

/-- Together the frames and the outside report every maximal segment once. -/
theorem reports_all {upper : Nat} {frames : List Frame} {flagged : List LineRange}
    (accounts : Accounts dest read upper frames flagged) :
    Reports dest read 0 upper (flagged ++ frames.reverse.flatMap Frame.nested) := by
  induction accounts with
  | outside noneOpen reports => simpa using reports
  | @inside upper place frame outer flagged before isOpen balanced opener later reports
      accounts ih =>
      have fromPlace : Reports dest read place upper frame.nested := by
        apply reports.skip_place _ before
        intro last maximal
        exact isOpen.not_closedBy last maximal.flagged.closed
      simpa using ih.append fromPlace (Nat.zero_le place) before.le

end Accounts

/-- The ranges at the end are those of the maximal segments, each once. -/
theorem finish_readAll (dest : Arch) (directives : List Directive) :
    ((State.readAll dest directives).finish : Multiset LineRange) =
      (maximalSegments dest directives).val.map (linesOf directives) := by
  have all : maximalBetween dest directives 0 directives.length =
      maximalSegments dest directives := by
    apply Finset.filter_true_of_mem
    intro segment segmentMem
    have closed := (mem_maximalSegments.1 segmentMem).flagged.closed
    exact ⟨Nat.zero_le _, closed.later.trans closed.inside⟩
  have reports := (Accounts.readAll dest directives).reports_all
  rw [Reports, all] at reports
  rw [← reports, Multiset.coe_eq_coe]
  exact List.mergeSort_perm _ _

end Segment

/-- The flagged segments are sorted by their first lines, then by their last. -/
theorem Segment.State.pairwise_finish (state : Segment.State) :
    state.finish.Pairwise fun range other => range.precedes other = true :=
  LineRange.pairwise_mergeSort _

/--
For every list of directives, balanced or not, the reported ranges are sorted, and they are the
lines of the maximal flagged closed segments, one range for each of these.
-/
theorem flaggedSegments_eq_maximalSegments (dest : Arch) (directives : List Directive) :
    ((flaggedSegments dest directives).value.Pairwise fun range other =>
        range.precedes other = true) ∧
      ((flaggedSegments dest directives).value : Multiset LineRange) =
        (Segment.maximalSegments dest directives).val.map (Segment.linesOf directives) :=
  ⟨Segment.State.pairwise_finish _, Segment.finish_readAll dest directives⟩

-- A stray `#endif` and an opener that is never closed do not hide the segment between them.
example :
    Segment.maximalSegments .arm64
      [⟨.endIf, 1, "#endif", none⟩, ⟨.ifDefined, 2, "#ifdef __x86_64__", some .x86_64⟩,
        ⟨.ifExpression, 3, "#if __mips__", some .mips64el⟩, ⟨.endIf, 4, "#endif", none⟩] =
      {(2, 3)} := by
  decide

end CrossArch
