import CrossArch.Proofs.Lists
import CrossArch.Regex.Match
import Mathlib.Data.List.Perm.Subperm
import Mathlib.Data.Nat.Init
import Mathlib.Tactic.Common

/-!
# Searching is exact

`Leads` says between which places of a text a match of an expression can lie, with no regard to how
a search finds it. The search follows all starts at once and cuts repetitions off after a number of
rounds that depends on the text. It reaches exactly the places to which the expression leads from
one of its starts: as many rounds as there are characters left, and one more, contain one that reads
nothing, and such a round can be left out or taken again.
-/

namespace CrossArch

namespace TextPlace

/-- Reading a word leads from one place of a text to another. -/
structure Reads (word : List Char) (start stop : TextPlace) : Prop where
  rest : start.rest = word ++ stop.rest
  index : stop.index = start.index + word.length
  before : stop.before = word.getLast?.or start.before

theorem reads_nil_iff {start stop : TextPlace} : Reads [] start stop ↔ start = stop := by
  rcases start with ⟨index, before, rest⟩
  rcases stop with ⟨index', before', rest'⟩
  constructor
  · rintro ⟨sameRest, sameIndex, sameBefore⟩
    rw [mk.injEq]
    exact ⟨sameIndex.symm, sameBefore.symm, sameRest⟩
  · rintro ⟨⟩
    exact ⟨rfl, rfl, rfl⟩

theorem Reads.append {word word' : List Char} {start middle stop : TextPlace}
    (reads : Reads word start middle) (reads' : Reads word' middle stop) :
    Reads (word ++ word') start stop := by
  refine ⟨?_, ?_, ?_⟩
  · rw [reads.rest, reads'.rest, List.append_assoc]
  · rw [reads'.index, reads.index, List.length_append, Nat.add_assoc]
  · rw [reads'.before, reads.before, List.getLast?_append, Option.or_assoc]

theorem exists_reads {word after : List Char} {start : TextPlace}
    (whole : start.rest = word ++ after) : ∃ stop, Reads word start stop ∧ stop.rest = after :=
  ⟨⟨start.index + word.length, word.getLast?.or start.before, after⟩, ⟨whole, rfl, rfl⟩, rfl⟩

theorem reads_append_iff {word word' : List Char} {start stop : TextPlace} :
    Reads (word ++ word') start stop ↔
      ∃ middle, Reads word start middle ∧ Reads word' middle stop := by
  constructor
  · intro reads
    rcases exists_reads (reads.rest.trans (List.append_assoc ..)) with ⟨middle, first, rest⟩
    refine ⟨middle, first, rest, ?_, ?_⟩
    · rw [reads.index, first.index, List.length_append, Nat.add_assoc]
    · rw [reads.before, first.before, List.getLast?_append, Option.or_assoc]
  · rintro ⟨middle, reads, reads'⟩
    exact reads.append reads'

theorem reads_cons_iff {c : Char} {word : List Char} {start stop : TextPlace} :
    Reads (c :: word) start stop ↔ ∃ middle, Reads [c] start middle ∧ Reads word middle stop :=
  @reads_append_iff [c] word start stop

theorem next?_eq_some_iff {set : CharSet} {start stop : TextPlace} :
    start.next? set = some stop ↔ ∃ c, set.contains c = true ∧ Reads [c] start stop := by
  rcases stop with ⟨index, before, rest⟩
  cases ahead : start.rest with
  | nil =>
      simp only [next?, ahead, reduceCtorEq, false_iff, not_exists, not_and]
      rintro c - reads
      simpa [ahead] using reads.rest
  | cons c later =>
      simp only [next?, ahead, Option.ite_none_right_eq_some, Option.some.injEq, mk.injEq]
      constructor
      · rintro ⟨contained, rfl, rfl, rfl⟩
        exact ⟨c, contained, ahead, rfl, rfl⟩
      · rintro ⟨d, contained, whole, rfl, rfl⟩
        rw [ahead, List.singleton_append, List.cons.injEq] at whole
        rcases whole with ⟨rfl, rfl⟩
        exact ⟨contained, rfl, rfl, rfl⟩

/-- A place of a text, at which its front has been read. -/
def IsIn (text : List Char) (place : TextPlace) : Prop :=
  ∃ front, Reads front ⟨0, none, text⟩ place

/-- Different places of a text, in any order. -/
structure AreIn (text : List Char) (places : List TextPlace) : Prop where
  nodup : places.Nodup
  isIn : ∀ place ∈ places, place.IsIn text

/-- A place of a text is known by the number of characters before it. -/
theorem IsIn.eq_of_index {text : List Char} {place other : TextPlace} (isIn : place.IsIn text)
    (isIn' : other.IsIn text) (same : place.index = other.index) : place = other := by
  rcases isIn with ⟨front, reads⟩
  rcases isIn' with ⟨front', reads'⟩
  have whole := reads.rest.symm.trans reads'.rest
  have length := reads.index
  have length' := reads'.index
  have parts := List.append_inj whole (by omega)
  rcases place with ⟨index, before, rest⟩
  rcases other with ⟨index', before', rest'⟩
  rw [mk.injEq]
  exact ⟨same, reads.before.trans (parts.1 ▸ reads'.before.symm), parts.2⟩

theorem mem_allFrom_iff {index : Nat} {before : Option Char} {text : List Char}
    {place : TextPlace} :
    place ∈ allFrom index before text ↔ ∃ front, Reads front ⟨index, before, text⟩ place := by
  induction text generalizing index before with
  | nil =>
      rw [allFrom, List.mem_singleton]
      constructor
      · rintro rfl
        exact ⟨[], reads_nil_iff.2 rfl⟩
      · rintro ⟨front, reads⟩
        have none : front = [] := (List.append_eq_nil_iff.1 reads.rest.symm).1
        rw [none, reads_nil_iff] at reads
        exact reads.symm
  | cons c later ih =>
      rw [allFrom, List.mem_cons, ih]
      constructor
      · rintro (rfl | ⟨front, reads⟩)
        · exact ⟨[], reads_nil_iff.2 rfl⟩
        · exact ⟨c :: front, reads_cons_iff.2 ⟨_, ⟨rfl, rfl, rfl⟩, reads⟩⟩
      · rintro ⟨front, reads⟩
        cases front with
        | nil => exact Or.inl (reads_nil_iff.1 reads).symm
        | cons d front =>
            rcases reads_cons_iff.1 reads with ⟨⟨index', before', rest'⟩, first, reads'⟩
            rcases first with ⟨whole, rfl, rfl⟩
            rw [List.singleton_append, List.cons.injEq] at whole
            rcases whole with ⟨rfl, rfl⟩
            exact Or.inr ⟨front, reads'⟩

theorem nodup_allFrom (index : Nat) (before : Option Char) (text : List Char) :
    (allFrom index before text).Nodup := by
  induction text generalizing index before with
  | nil => simp [allFrom]
  | cons c later ih =>
      rw [allFrom, List.nodup_cons]
      refine ⟨?_, ih (index + 1) (some c)⟩
      intro mem
      rcases mem_allFrom_iff.1 mem with ⟨front, reads⟩
      have further := reads.index
      simp only at further
      omega

theorem areIn_allFrom (text : List Char) : AreIn text (allFrom 0 none text) :=
  ⟨nodup_allFrom 0 none text, fun _ mem => mem_allFrom_iff.1 mem⟩

end TextPlace

namespace Regex

open TextPlace

/-- So many steps of a relation between places, one after the other. -/
def Rounds (round : TextPlace → TextPlace → Prop) : Nat → TextPlace → TextPlace → Prop
  | 0, start, stop => start = stop
  | count + 1, start, stop => ∃ middle, round start middle ∧ Rounds round count middle stop

/-- A match of an expression can start at one place and end at another. -/
def Leads : Regex → TextPlace → TextPlace → Prop
  | empty, start, stop => start = stop
  | char set, start, stop => start.next? set = some stop
  | assert assertion, start, stop => start = stop ∧ assertion.holds start = true
  | seq first second, start, stop => ∃ middle, first.Leads start middle ∧ second.Leads middle stop
  | alt first second, start, stop => first.Leads start stop ∨ second.Leads start stop
  | .repeat body least most _, start, stop =>
    ∃ more, (∀ bound ∈ most, more ≤ bound - least) ∧ Rounds body.Leads (least + more) start stop
  | group _ body, start, stop => body.Leads start stop

section Rounds

variable {round : TextPlace → TextPlace → Prop}

theorem rounds_add (count more : Nat) {start stop : TextPlace} :
    Rounds round (count + more) start stop ↔
      ∃ middle, Rounds round count start middle ∧ Rounds round more middle stop := by
  induction count generalizing start with
  | zero => simp [Rounds]
  | succ count ih =>
      rw [Nat.add_right_comm, Rounds]
      simp only [ih, Rounds]
      constructor
      · rintro ⟨first, step, middle, rounds, later⟩
        exact ⟨middle, ⟨first, step, rounds⟩, later⟩
      · rintro ⟨middle, ⟨first, step, rounds⟩, later⟩
        exact ⟨first, step, middle, rounds, later⟩

/-- A relation between places that reads on: a step stays where it is or leaves less to read. -/
def ReadsOn (round : TextPlace → TextPlace → Prop) : Prop :=
  ∀ start stop, round start stop → stop = start ∨ stop.rest.length < start.rest.length

theorem ReadsOn.rounds (readsOn : ReadsOn round) (count : Nat) : ReadsOn (Rounds round count) := by
  induction count with
  | zero =>
      rintro start stop rfl
      exact Or.inl rfl
  | succ count ih =>
      rintro start stop ⟨middle, step, rounds⟩
      rcases readsOn start middle step with rfl | shorter
      · exact ih middle stop rounds
      · rcases ih middle stop rounds with rfl | shorter'
        · exact Or.inr shorter
        · exact Or.inr (Nat.lt_trans shorter' shorter)

/-- With more rounds than there is to read, one of them reads nothing and may be taken once more. -/
theorem ReadsOn.rounds_succ_iff (readsOn : ReadsOn round) {count : Nat} {start stop : TextPlace}
    (many : start.rest.length < count) :
    Rounds round (count + 1) start stop ↔ Rounds round count start stop := by
  induction count generalizing start with
  | zero => omega
  | succ count ih =>
      constructor
      · rintro ⟨middle, step, rounds⟩
        rcases readsOn start middle step with rfl | shorter
        · exact rounds
        · exact ⟨middle, step, (ih (by omega)).1 rounds⟩
      · rintro ⟨middle, step, rounds⟩
        rcases readsOn start middle step with rfl | shorter
        · exact ⟨middle, step, middle, step, rounds⟩
        · exact ⟨middle, step, (ih (by omega)).2 rounds⟩

theorem ReadsOn.rounds_iff (readsOn : ReadsOn round) {count other : Nat} {start stop : TextPlace}
    (many : start.rest.length < count) (le : count ≤ other) :
    Rounds round other start stop ↔ Rounds round count start stop := by
  rcases Nat.exists_eq_add_of_le le with ⟨extra, rfl⟩
  clear le
  induction extra with
  | zero => rfl
  | succ extra ih => rw [← Nat.add_assoc, readsOn.rounds_succ_iff (by omega), ih]

end Rounds

/-- Matches read on. -/
theorem readsOn_leads (regex : Regex) : ReadsOn regex.Leads := by
  induction regex with
  | empty =>
      rintro start stop rfl
      exact Or.inl rfl
  | char set =>
      intro start stop moved
      rcases next?_eq_some_iff.1 moved with ⟨c, -, reads⟩
      right
      rw [reads.rest, List.singleton_append, List.length_cons]
      omega
  | assert assertion =>
      rintro start stop ⟨rfl, -⟩
      exact Or.inl rfl
  | seq first second ih ih' =>
      rintro start stop ⟨middle, leads, leads'⟩
      rcases ih start middle leads with rfl | shorter
      · exact ih' middle stop leads'
      · rcases ih' middle stop leads' with rfl | shorter'
        · exact Or.inr shorter
        · exact Or.inr (Nat.lt_trans shorter' shorter)
  | alt first second ih ih' =>
      rintro start stop (leads | leads)
      · exact ih start stop leads
      · exact ih' start stop leads
  | «repeat» body least most greedy ih =>
      rintro start stop ⟨more, -, rounds⟩
      exact ih.rounds _ start stop rounds
  | group name body ih => exact ih

/--
A search that follows a relation between the places of a text: from different places it reaches
different ones, and exactly those to which the relation leads.
-/
structure Follows (text : List Char) (search : List TextPlace → List TextPlace)
    (leads : TextPlace → TextPlace → Prop) : Prop where
  nodup : ∀ places, AreIn text places → (search places).Nodup
  mem : ∀ places, AreIn text places → ∀ stop,
    stop ∈ search places ↔ ∃ start ∈ places, leads start stop
  stays : ∀ start stop, start.IsIn text → leads start stop → stop.IsIn text

namespace Follows

variable {text : List Char} {search search' : List TextPlace → List TextPlace}
  {leads leads' : TextPlace → TextPlace → Prop}

theorem areIn (follows : Follows text search leads) {places : List TextPlace}
    (areIn : AreIn text places) : AreIn text (search places) := by
  refine ⟨follows.nodup places areIn, ?_⟩
  intro stop mem
  rcases (follows.mem places areIn stop).1 mem with ⟨start, startMem, leadsTo⟩
  exact follows.stays start stop (areIn.isIn start startMem) leadsTo

theorem refl : Follows text (fun places => places) Eq where
  nodup _ areIn := areIn.nodup
  mem places _ stop := by simp
  stays := by
    rintro start stop isIn rfl
    exact isIn

theorem comp (follows : Follows text search leads) (follows' : Follows text search' leads') :
    Follows text (fun places => search' (search places))
      (fun start stop => ∃ middle, leads start middle ∧ leads' middle stop) where
  nodup places areIn := follows'.nodup _ (follows.areIn areIn)
  mem := by
    intro places areIn stop
    rw [follows'.mem _ (follows.areIn areIn)]
    simp only [follows.mem places areIn]
    constructor
    · rintro ⟨middle, ⟨start, startMem, toMiddle⟩, toStop⟩
      exact ⟨start, startMem, middle, toMiddle, toStop⟩
    · rintro ⟨start, startMem, middle, toMiddle, toStop⟩
      exact ⟨middle, ⟨start, startMem, toMiddle⟩, toStop⟩
  stays := by
    rintro start stop isIn ⟨middle, toMiddle, toStop⟩
    exact follows'.stays middle stop (follows.stays start middle isIn toMiddle) toStop

theorem char (set : CharSet) :
    Follows text (List.filterMap (next? set)) (fun start stop => start.next? set = some stop) where
  nodup := by
    intro places areIn
    have apart := areIn.nodup.imp_of_mem fun mem mem' different =>
      (⟨different, areIn.isIn _ mem, areIn.isIn _ mem'⟩ : _ ∧ IsIn text _ ∧ IsIn text _)
    apply apart.filterMap
    rintro place other ⟨different, isIn, isIn'⟩ next moved next' moved' rfl
    rcases next?_eq_some_iff.1 moved with ⟨_, -, reads⟩
    rcases next?_eq_some_iff.1 moved' with ⟨_, -, reads'⟩
    have index := reads.index.symm.trans reads'.index
    exact different (isIn.eq_of_index isIn' (Nat.add_right_cancel index))
  mem places _ stop := List.mem_filterMap
  stays := by
    rintro start stop ⟨front, reads⟩ moved
    rcases next?_eq_some_iff.1 moved with ⟨c, -, next⟩
    exact ⟨front ++ [c], reads.append next⟩

theorem assert (assertion : Assertion) :
    Follows text (List.filter assertion.holds)
      (fun start stop => start = stop ∧ assertion.holds start = true) where
  nodup _ areIn := areIn.nodup.filter _
  mem := by
    intro places _ stop
    rw [List.mem_filter]
    constructor
    · rintro ⟨mem, holds⟩
      exact ⟨stop, mem, rfl, holds⟩
    · rintro ⟨start, mem, rfl, holds⟩
      exact ⟨mem, holds⟩
  stays := by
    rintro start stop isIn ⟨rfl, -⟩
    exact isIn

theorem alt (follows : Follows text search leads) (follows' : Follows text search' leads') :
    Follows text (fun places => (search places ++ search' places).eraseDups)
      (fun start stop => leads start stop ∨ leads' start stop) where
  nodup _ _ := nodup_eraseDups _
  mem := by
    intro places areIn stop
    rw [List.mem_eraseDups, List.mem_append, follows.mem places areIn, follows'.mem places areIn]
    constructor
    · rintro (⟨start, mem, leadsTo⟩ | ⟨start, mem, leadsTo⟩)
      · exact ⟨start, mem, Or.inl leadsTo⟩
      · exact ⟨start, mem, Or.inr leadsTo⟩
    · rintro ⟨start, mem, leadsTo | leadsTo⟩
      · exact Or.inl ⟨start, mem, leadsTo⟩
      · exact Or.inr ⟨start, mem, leadsTo⟩
  stays := by
    rintro start stop isIn (leadsTo | leadsTo)
    · exact follows.stays start stop isIn leadsTo
    · exact follows'.stays start stop isIn leadsTo

theorem rounds (follows : Follows text search leads) (count : Nat) :
    Follows text (Regex.rounds search count) (Rounds leads count) := by
  induction count with
  | zero => exact refl
  | succ count ih =>
      have stepped := follows.comp ih
      have same : Regex.rounds search (count + 1) =
          fun places => if places.isEmpty then [] else Regex.rounds search count (search places) :=
        rfl
      rw [same]
      refine ⟨?_, ?_, stepped.stays⟩
      · intro places areIn
        split
        · exact List.nodup_nil
        · exact stepped.nodup places areIn
      · intro places areIn stop
        split <;> rename_i none
        · simp [List.isEmpty_iff.1 none]
        · exact stepped.mem places areIn stop

/-- If a round adds no place to different ones, it leads to none but these. -/
theorem subset_of_length_eq (follows : Follows text search leads) {places : List TextPlace}
    (areIn : AreIn text places)
    (settled : (places ++ search places).eraseDups.length = places.length) :
    ∀ start ∈ places, ∀ stop, leads start stop → stop ∈ places := by
  have larger : places ⊆ (places ++ search places).eraseDups := by
    intro place mem
    exact List.mem_eraseDups.2 (List.mem_append_left _ mem)
  have same := (List.Nodup.subperm areIn.nodup larger).perm_of_length_le (by omega)
  intro start startMem stop leadsTo
  apply same.mem_iff.2
  apply List.mem_eraseDups.2
  exact List.mem_append_right _ ((follows.mem places areIn stop).2 ⟨start, startMem, leadsTo⟩)

theorem roundsUpTo (follows : Follows text search leads) (count : Nat) :
    Follows text (Regex.roundsUpTo search count)
      (fun start stop => ∃ taken ≤ count, Rounds leads taken start stop) := by
  induction count with
  | zero =>
      have none : ∀ start stop,
          (∃ taken ≤ 0, Rounds leads taken start stop) ↔ start = stop := by
        intro start stop
        constructor
        · rintro ⟨taken, le, rounds⟩
          rw [Nat.le_zero.1 le] at rounds
          exact rounds
        · intro same
          exact ⟨0, Nat.le_refl 0, same⟩
      simp only [none]
      exact refl
  | succ count ih =>
      refine ⟨?_, ?_, ?_⟩
      · intro places areIn
        have grown := (refl.alt follows).areIn areIn
        rw [Regex.roundsUpTo]
        split
        · exact areIn.nodup
        · exact ih.nodup _ grown
      · intro places areIn stop
        have grown := (refl.alt follows).areIn areIn
        rw [Regex.roundsUpTo]
        split <;> rename_i settled
        · constructor
          · intro mem
            exact ⟨stop, mem, 0, Nat.zero_le _, rfl⟩
          · rintro ⟨start, mem, taken, -, rounds⟩
            have closed := follows.subset_of_length_eq areIn settled
            clear settled
            induction taken generalizing start with
            | zero =>
                cases rounds
                exact mem
            | succ taken ih =>
                rcases rounds with ⟨middle, step, rounds⟩
                exact ih middle (closed start mem middle step) rounds
        · rw [ih.mem _ grown]
          constructor
          · rintro ⟨middle, mem, taken, le, rounds⟩
            rcases ((refl.alt follows).mem places areIn middle).1 mem with
              ⟨start, startMem, rfl | step⟩
            · exact ⟨start, startMem, taken, by omega, rounds⟩
            · exact ⟨start, startMem, taken + 1, by omega, middle, step, rounds⟩
          · rintro ⟨start, startMem, taken, le, rounds⟩
            cases taken with
            | zero =>
                refine ⟨start, ?_, 0, Nat.zero_le _, rounds⟩
                exact ((refl.alt follows).mem places areIn start).2 ⟨start, startMem, Or.inl rfl⟩
            | succ taken =>
                rcases rounds with ⟨middle, step, rounds⟩
                refine ⟨middle, ?_, taken, by omega, rounds⟩
                exact ((refl.alt follows).mem places areIn middle).2
                  ⟨start, startMem, Or.inr step⟩
      · rintro start stop isIn ⟨taken, -, rounds⟩
        exact (follows.rounds taken).stays start stop isIn rounds

end Follows

theorem lt_enoughRounds {places : List TextPlace} {place : TextPlace} (mem : place ∈ places) :
    place.rest.length < enoughRounds places := by
  have bounded : ∀ (later : List TextPlace) (most : Nat),
      most ≤ later.foldl (fun most place => max most (place.rest.length + 1)) most ∧
        ∀ other ∈ later, other.rest.length + 1 ≤
          later.foldl (fun most place => max most (place.rest.length + 1)) most := by
    intro later
    induction later with
    | nil => simp
    | cons first later ih =>
        intro most
        have start := (ih (max most (first.rest.length + 1))).1
        refine ⟨Nat.le_trans (Nat.le_max_left _ _) start, ?_⟩
        intro other otherMem
        rcases List.mem_cons.1 otherMem with rfl | laterMem
        · exact Nat.le_trans (Nat.le_max_right _ _) start
        · exact (ih _).2 other laterMem
  exact (bounded places 0).2 place mem

/--
Where rounds read on, enough of them stand for any number: the least number of rounds and the
further ones may both be cut off there.
-/
theorem ReadsOn.rounds_cut_iff {round : TextPlace → TextPlace → Prop} (readsOn : ReadsOn round)
    {least enough : Nat} {most : Option Nat} {start stop : TextPlace}
    (many : start.rest.length < enough) :
    (∃ more ≤ most.elim enough fun bound => min (bound - least) enough,
        Rounds round (min least enough + more) start stop) ↔
      ∃ more, (∀ bound ∈ most, more ≤ bound - least) ∧
        Rounds round (least + more) start stop := by
  constructor
  · rintro ⟨more, le, rounds⟩
    by_cases early : least ≤ enough
    · rw [Nat.min_eq_left early] at rounds
      refine ⟨more, ?_, rounds⟩
      rintro bound ⟨⟩
      exact Nat.le_trans le (Nat.min_le_left _ _)
    · rw [Nat.min_eq_right (by omega), readsOn.rounds_iff many (by omega)] at rounds
      refine ⟨0, fun bound _ => Nat.zero_le _, ?_⟩
      rwa [readsOn.rounds_iff many (by omega)]
  · rintro ⟨more, bounded, rounds⟩
    by_cases fits : least + more ≤ enough
    · refine ⟨more, ?_, ?_⟩
      · cases most with
        | none =>
            simp only [Option.elim_none]
            omega
        | some bound =>
            have := bounded bound rfl
            simp only [Option.elim_some]
            omega
      · rwa [Nat.min_eq_left (by omega)]
    · rw [readsOn.rounds_iff many (by omega)] at rounds
      by_cases early : least ≤ enough
      · refine ⟨enough - least, ?_, ?_⟩
        · cases most with
          | none =>
              simp only [Option.elim_none]
              omega
          | some bound =>
              have := bounded bound rfl
              simp only [Option.elim_some]
              omega
        · rwa [Nat.min_eq_left early, Nat.add_sub_cancel' early]
      · refine ⟨0, Nat.zero_le _, ?_⟩
        rwa [Nat.min_eq_right (by omega), Nat.add_zero]

/-- From the places of a text, a search reaches exactly the places to which the expression leads. -/
theorem follows_reach (text : List Char) (regex : Regex) :
    Follows text regex.reach regex.Leads := by
  induction regex with
  | empty => exact Follows.refl
  | char set => exact Follows.char set
  | assert assertion => exact Follows.assert assertion
  | seq first second ih ih' => exact ih.comp ih'
  | alt first second ih ih' => exact ih.alt ih'
  | «repeat» body least most greedy ih =>
      have cut : ∀ places, (Regex.repeat body least most greedy).reach places =
          Regex.roundsUpTo body.reach
            (most.elim (enoughRounds places) fun bound => min (bound - least) (enoughRounds places))
            (Regex.rounds body.reach (min least (enoughRounds places)) places) := by
        intro places
        cases most <;> rfl
      refine ⟨?_, ?_, ?_⟩
      · intro places areIn
        rw [cut]
        exact (ih.roundsUpTo _).nodup _ ((ih.rounds _).areIn areIn)
      · intro places areIn stop
        rw [cut, ((ih.rounds _).comp (ih.roundsUpTo _)).mem places areIn]
        apply exists_congr
        intro start
        apply and_congr_right
        intro mem
        rw [Leads, ← (readsOn_leads body).rounds_cut_iff (lt_enoughRounds mem)]
        simp only [rounds_add]
        constructor
        · rintro ⟨middle, rounds, more, le, later⟩
          exact ⟨more, le, middle, rounds, later⟩
        · rintro ⟨more, le, middle, rounds, later⟩
          exact ⟨middle, rounds, more, le, later⟩
      · rintro start stop isIn ⟨more, -, rounds⟩
        exact (ih.rounds _).stays start stop isIn rounds
  | group name body ih => exact ih

/-- An expression occurs in a text exactly if it leads from a place of the text to some place. -/
theorem occursIn_iff (regex : Regex) (text : List Char) :
    regex.occursIn text = true ↔
      ∃ start ∈ allFrom 0 none text, ∃ stop, regex.Leads start stop := by
  rw [occursIn, Bool.not_eq_true', List.isEmpty_eq_false_iff_exists_mem]
  simp only [(follows_reach text regex).mem _ (areIn_allFrom text)]
  constructor
  · rintro ⟨stop, start, mem, leads⟩
    exact ⟨start, mem, stop, leads⟩
  · rintro ⟨start, mem, stop, leads⟩
    exact ⟨stop, start, mem, leads⟩

end Regex

end CrossArch
