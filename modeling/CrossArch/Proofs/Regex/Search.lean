import CrossArch.Proofs.Lists
import CrossArch.Proofs.Regex.Sequence
import CrossArch.Proofs.Text.Bytes
import CrossArch.Regex.Search
import CrossArch.Text.Front

/-!
# What a search prefers

How a search runs through simple expressions. Words are read if they stand at the place. Of several
alternatives the first is taken that leads on. A repeated set is read as far as it goes, unless what
comes behind it can only go on earlier.
-/

namespace CrossArch

namespace TextPlace

/-- The place so many characters further on. -/
def skip (place : TextPlace) (count : Nat) : TextPlace :=
  ⟨place.index + count, (place.rest.take count).getLast?.or place.before, place.rest.drop count⟩

variable (place : TextPlace)

@[simp]
theorem skip_zero : place.skip 0 = place := by
  simp [skip]

theorem skip_skip (count more : Nat) :
    (place.skip count).skip more = place.skip (count + more) := by
  simp [skip, List.take_add, List.getLast?_append, Option.or_assoc, Nat.add_assoc]

@[simp]
theorem index_skip (count : Nat) : (place.skip count).index = place.index + count :=
  rfl

@[simp]
theorem rest_skip (count : Nat) : (place.skip count).rest = place.rest.drop count :=
  rfl

theorem next?_eq (set : CharSet) :
    place.next? set = if place.rest.head?.any set.contains then some (place.skip 1) else none := by
  rcases place with ⟨index, before, rest⟩
  cases rest <;> simp [next?, skip]

end TextPlace

namespace Regex

/-- The thread so many characters further on. -/
def Thread.skip (thread : Thread) (count : Nat) : Thread :=
  { thread with place := thread.place.skip count }

namespace Thread

variable (thread : Thread)

@[simp]
theorem skip_zero : thread.skip 0 = thread := by
  simp [skip]

@[simp]
theorem skip_skip (count more : Nat) :
    (thread.skip count).skip more = thread.skip (count + more) := by
  simp [skip, TextPlace.skip_skip]

@[simp]
theorem place_skip (count : Nat) : (thread.skip count).place = thread.place.skip count :=
  rfl

@[simp]
theorem captures_skip (count : Nat) : (thread.skip count).captures = thread.captures :=
  rfl

end Thread

/-- The thread at the place where `rest` is left of its text. -/
def Thread.upTo (thread : Thread) (rest : List Char) : Thread :=
  thread.skip (thread.place.rest.length - rest.length)

namespace Thread

variable {thread : Thread} {passed rest : List Char}

theorem upTo_eq_skip (whole : thread.place.rest = passed ++ rest) :
    thread.upTo rest = thread.skip passed.length := by
  rw [upTo, whole, List.length_append, Nat.add_sub_cancel]

theorem rest_upTo (whole : thread.place.rest = passed ++ rest) :
    (thread.upTo rest).place.rest = rest := by
  rw [upTo_eq_skip whole, place_skip, TextPlace.rest_skip, whole, List.drop_left]

theorem upTo_upTo {middle : List Char} (first : middle <:+ thread.place.rest)
    (second : rest <:+ middle) : (thread.upTo middle).upTo rest = thread.upTo rest := by
  rcases first with ⟨passed, whole⟩
  rcases second with ⟨more, rfl⟩
  have further : (thread.upTo (more ++ rest)).place.rest = more ++ rest := rest_upTo whole.symm
  have both : thread.place.rest = (passed ++ more) ++ rest := by
    rw [← whole, List.append_assoc]
  rw [upTo_eq_skip further, upTo_eq_skip whole.symm, upTo_eq_skip both, skip_skip,
    List.length_append]

/-- The thread with what a group has read. -/
def keep (thread : Thread) (capture : Capture) : Thread :=
  ⟨thread.place, capture :: thread.captures⟩

theorem capture_upTo (whole : thread.place.rest = passed ++ rest) (name : Option (List Char)) :
    (thread.upTo rest).capture name thread.place =
      (thread.upTo rest).keep ⟨name, thread.place.index, passed⟩ := by
  rw [upTo_eq_skip whole, capture, place_skip, TextPlace.index_skip, Nat.add_sub_cancel_left, whole,
    List.take_left]
  rfl

@[simp]
theorem upTo_rest : thread.upTo thread.place.rest = thread := by
  rw [upTo, Nat.sub_self, skip_zero]

end Thread

/-- What is left of a text whose first characters are in sets, one after the other. -/
def dropIn? : List CharSet → List Char → Option (List Char)
  | [], text => some text
  | _ :: _, [] => none
  | set :: sets, c :: rest => if set.contains c then dropIn? sets rest else none

theorem suffix_of_dropIn? {sets : List CharSet} {text rest : List Char}
    (dropped : dropIn? sets text = some rest) : rest <:+ text := by
  fun_induction dropIn? sets text with
  | case1 text => exact Option.some.inj dropped ▸ List.suffix_rfl
  | case2 => cases dropped
  | case3 set sets c text contained ih => exact (ih dropped).trans (List.suffix_cons c text)
  | case4 => cases dropped

section Run

variable {α : Type} {next : Thread → Option α} {thread : Thread}

theorem run_char (set : CharSet) :
    (char set).run thread next =
      if thread.place.rest.head?.any set.contains then next (thread.skip 1) else none := by
  simp only [run, TextPlace.next?_eq]
  split <;> rfl

theorem run_sequence_append (items later : List Regex) :
    (sequence (items ++ later)).run thread next =
      (sequence items).run thread fun middle => (sequence later).run middle next := by
  induction items generalizing thread with
  | nil => rfl
  | cons first items ih =>
      have step : ∀ items, (sequence (first :: items)).run thread next =
          first.run thread fun middle => (sequence items).run middle next := fun _ => rfl
      rw [List.cons_append, step]
      simp only [ih]
      rfl

theorem run_ofSets (sets : List CharSet) :
    (ofSets sets).run thread next =
      (dropIn? sets thread.place.rest).bind fun rest => next (thread.upTo rest) := by
  induction sets generalizing thread with
  | nil => simp [ofSets, run, dropIn?]
  | cons set sets ih =>
      have step : (ofSets (set :: sets)).run thread next =
          (char set).run thread fun middle => (ofSets sets).run middle next := rfl
      rw [step, run_char]
      simp only [ih]
      cases ahead : thread.place.rest with
      | nil => rfl
      | cons c rest =>
          have behind : (thread.skip 1).place.rest = rest := by simp [ahead]
          have one : thread.upTo rest = thread.skip [c].length := Thread.upTo_eq_skip ahead
          rw [List.head?_cons, Option.any_some, dropIn?, behind]
          split
          · cases dropped : dropIn? sets rest with
            | none => rfl
            | some after =>
                have further : (thread.upTo rest).upTo after = thread.upTo after :=
                  Thread.upTo_upTo (ahead ▸ List.suffix_cons c rest) (suffix_of_dropIn? dropped)
                rw [Option.bind_some, Option.bind_some, ← further, one]
                rfl
          · rfl

theorem run_anyOf (regexes : List Regex) :
    (anyOf regexes).run thread next = regexes.findSome? fun regex => regex.run thread next := by
  induction regexes with
  | nil => simp [anyOf, run_char, CharSet.contains]
  | cons first later ih =>
      cases later with
      | nil => simp [anyOf]
      | cons second later =>
          simp only [anyOf, run, ih, List.findSome?_cons]
          cases first.run thread next <;> rfl

/-- How far the characters of a text are in a set. -/
def lengthIn (set : CharSet) (text : List Char) : Nat :=
  (text.takeWhile set.contains).length

theorem runFurther_succ (round : Thread → (Thread → Option α) → Option α) (bound : Nat) :
    runFurther true round (bound + 1) thread next =
      ((round thread fun later =>
        if later.place.index = thread.place.index then none
        else runFurther true round bound later next) <|> next thread) :=
  rfl

/-- Further rounds of a set read as far as the set goes, if an earlier end leads nowhere else. -/
theorem runFurther_char {set : CharSet} {bound : Nat} (enough : thread.place.rest.length ≤ bound)
    (last : next (thread.skip (lengthIn set thread.place.rest)) = none →
      ∀ count < lengthIn set thread.place.rest, next (thread.skip count) = none) :
    runFurther true (fun start further => (char set).run start further) bound thread next =
      next (thread.skip (lengthIn set thread.place.rest)) := by
  induction bound generalizing thread with
  | zero =>
      have empty : thread.place.rest = [] := List.length_eq_zero_iff.1 (Nat.le_zero.1 enough)
      simp [runFurther, empty, lengthIn]
  | succ bound ih =>
      cases ahead : thread.place.rest with
      | nil => simp [runFurther, run_char, ahead, lengthIn]
      | cons c rest =>
          rw [ahead, List.length_cons] at enough
          rw [ahead] at last
          by_cases contained : set.contains c = true
          · have length : lengthIn set (c :: rest) = 1 + lengthIn set rest := by
              simp [lengthIn, contained, Nat.add_comm]
            have further : runFurther true (fun start further => (char set).run start further)
                bound (thread.skip 1) next = next (thread.skip (lengthIn set (c :: rest))) := by
              have ahead' : (thread.skip 1).place.rest = rest := by simp [ahead]
              rw [ih (by rw [ahead']; omega), ahead', Thread.skip_skip, length]
              intro none count less
              rw [ahead', Thread.skip_skip, ← length] at none
              rw [ahead'] at less
              rw [Thread.skip_skip]
              exact last none (1 + count) (by omega)
            have moved : ¬(thread.skip 1).place.index = thread.place.index := by simp
            rw [runFurther_succ, run_char, ahead, List.head?_cons, Option.any_some,
              if_pos contained, if_neg moved, further]
            cases found : next (thread.skip (lengthIn set (c :: rest))) with
            | some result => rfl
            | none => simpa using last found 0 (by omega)
          · have length : lengthIn set (c :: rest) = 0 := by
              simp [lengthIn, contained]
            simp [runFurther, run_char, ahead, contained, length]

/-- A set that is repeated is read as far as it goes, if an earlier end leads nowhere else. -/
theorem run_star {set : CharSet}
    (last : next (thread.skip (lengthIn set thread.place.rest)) = none →
      ∀ count < lengthIn set thread.place.rest, next (thread.skip count) = none) :
    (Regex.repeat (char set) 0 none true).run thread next =
      next (thread.skip (lengthIn set thread.place.rest)) :=
  runFurther_char (Nat.le_refl _) last

theorem run_plus {set : CharSet}
    (last : next (thread.skip (lengthIn set thread.place.rest)) = none →
      ∀ count < lengthIn set thread.place.rest, next (thread.skip count) = none) :
    (Regex.repeat (char set) 1 none true).run thread next =
      if thread.place.rest.head?.any set.contains then
        next (thread.skip (lengthIn set thread.place.rest))
      else none := by
  have step : (Regex.repeat (char set) 1 none true).run thread next =
      (char set).run thread fun middle =>
        (Regex.repeat (char set) 0 none true).run middle next := rfl
  rw [step, run_char]
  split <;> rename_i first
  · cases ahead : thread.place.rest with
    | nil => simp [ahead] at first
    | cons c rest =>
        rw [ahead, List.head?_cons, Option.any_some] at first
        have ahead' : (thread.skip 1).place.rest = rest := by simp [ahead]
        have length : lengthIn set (c :: rest) = 1 + lengthIn set rest := by
          simp [lengthIn, first, Nat.add_comm]
        rw [ahead, length] at last
        rw [run_star, ahead', Thread.skip_skip, length]
        intro none count less
        rw [ahead', Thread.skip_skip] at none
        rw [ahead'] at less
        rw [Thread.skip_skip]
        exact last none (1 + count) (by omega)
  · rfl

theorem head?_drop_of_lt_lengthIn {set : CharSet} {text : List Char} {count : Nat}
    (less : count < lengthIn set text) : (text.drop count).head?.any set.contains = true := by
  induction text generalizing count with
  | nil => simp [lengthIn] at less
  | cons c rest ih =>
      by_cases contained : set.contains c = true
      · cases count with
        | zero => simp [contained]
        | succ count =>
            rw [List.drop_succ_cons]
            apply ih
            simpa [lengthIn, contained] using less
      · simp [lengthIn, contained] at less

theorem drop_lengthIn (set : CharSet) (text : List Char) :
    text.drop (lengthIn set text) = text.dropWhile set.contains := by
  have dropped : (text.takeWhile set.contains ++ text.dropWhile set.contains).drop
      (lengthIn set text) = text.dropWhile set.contains := List.drop_left
  rwa [List.takeWhile_append_dropWhile] at dropped

theorem skip_lengthIn (set : CharSet) :
    thread.skip (lengthIn set thread.place.rest) =
      thread.upTo (thread.place.rest.dropWhile set.contains) :=
  (Thread.upTo_eq_skip List.takeWhile_append_dropWhile.symm).symm

/-- What can only go on where a set has ended does not go on earlier. -/
theorem none_of_stops {set : CharSet}
    (stops : ∀ later : Thread, later.place.rest.head?.any set.contains = true → next later = none) :
    ∀ count < lengthIn set thread.place.rest, next (thread.skip count) = none := by
  intro count less
  exact stops _ (head?_drop_of_lt_lengthIn less)

theorem run_star_of_stops {set : CharSet}
    (stops : ∀ later : Thread, later.place.rest.head?.any set.contains = true → next later = none) :
    (Regex.repeat (char set) 0 none true).run thread next =
      next (thread.skip (lengthIn set thread.place.rest)) :=
  run_star fun _ => none_of_stops stops

theorem run_plus_of_stops {set : CharSet}
    (stops : ∀ later : Thread, later.place.rest.head?.any set.contains = true → next later = none) :
    (Regex.repeat (char set) 1 none true).run thread next =
      if thread.place.rest.head?.any set.contains then
        next (thread.skip (lengthIn set thread.place.rest))
      else none :=
  run_plus fun _ => none_of_stops stops

end Run

section Search

variable {regex : Regex} {index offset : Nat} {before : Option Char} {c : Char} {rest : List Char}

theorem searchFrom_cons_covered (covered : Nat) :
    regex.searchFrom index offset before (covered + 1) (c :: rest) =
      regex.searchFrom (index + 1) (offset + c.utf8Size) (some c) covered rest :=
  rfl

theorem searchFrom_cons_of_none
    (nothing : regex.foundAt? offset ⟨index, before, c :: rest⟩ = none) :
    regex.searchFrom index offset before 0 (c :: rest) =
      regex.searchFrom (index + 1) (offset + c.utf8Size) (some c) 0 rest := by
  simp only [searchFrom, nothing]

theorem searchFrom_cons_of_some {found : Found}
    (matched : regex.foundAt? offset ⟨index, before, c :: rest⟩ = some found) :
    regex.searchFrom index offset before 0 (c :: rest) =
      found :: regex.searchFrom (index + 1) (offset + c.utf8Size) (some c)
        (found.read.length - 1) rest := by
  simp only [searchFrom, matched]

/-- What a match covers is passed over. -/
theorem searchFrom_append (passed : List Char) :
    regex.searchFrom index offset before passed.length (passed ++ rest) =
      regex.searchFrom (index + passed.length) (offset + Text.byteLength passed)
        (passed.getLast?.or before) 0 rest := by
  induction passed generalizing index offset before with
  | nil => rfl
  | cons c passed ih =>
      have last : (c :: passed).getLast?.or before = passed.getLast?.or (some c) :=
        getLast?_append_or (List.cons_ne_nil c []) passed before
      rw [List.length_cons, List.cons_append, searchFrom_cons_covered, ih, last,
        Text.byteLength_cons, Nat.add_assoc index, Nat.add_comm 1, Nat.add_assoc offset]

/-- Behind a match the search goes on with what is left. -/
theorem searchFrom_of_some {text : List Char} {found : Found} (whole : text = found.read ++ rest)
    (nonempty : found.read ≠ [])
    (matched : regex.foundAt? offset ⟨index, before, text⟩ = some found) :
    regex.searchFrom index offset before 0 text =
      found :: regex.searchFrom (index + found.read.length)
        (offset + Text.byteLength found.read) found.read.getLast? 0 rest := by
  cases read : found.read with
  | nil => exact absurd read nonempty
  | cons c passed =>
      rw [read, List.cons_append] at whole
      subst whole
      have last : (c :: passed).getLast? = passed.getLast?.or (some c) := by
        simpa using getLast?_append_or (List.cons_ne_nil c []) passed none
      rw [searchFrom_cons_of_some matched, read, List.length_cons, Nat.add_sub_cancel,
        searchFrom_append, last, Text.byteLength_cons, Nat.add_assoc index, Nat.add_comm 1,
        Nat.add_assoc offset]

end Search

theorem contains_single (w c : Char) : (CharSet.single w).contains c = (c == w) := by
  rw [Bool.eq_iff_iff, beq_iff_eq]
  simp only [CharSet.single, CharSet.contains, Bool.and_eq_true, decide_eq_true_eq]
  constructor
  · rintro ⟨low, high⟩
    exact Char.le_antisymm high low
  · rintro rfl
    exact ⟨Char.le_refl c, Char.le_refl c⟩

theorem dropIn?_single (word text : List Char) :
    dropIn? (word.map .single) text = Text.after? word text := by
  induction word generalizing text with
  | nil => rfl
  | cons w word ih =>
      cases text with
      | nil => rfl
      | cons c text =>
          rw [List.map_cons, dropIn?, contains_single, ih, Text.after?]
          by_cases same : w = c
          · simp [same]
          · simp [same, Ne.symm same]

/-- Sets of one character each read a word that stands at the place. -/
theorem run_word {α : Type} {thread : Thread} {next : Thread → Option α} (word : List Char) :
    (ofSets (word.map .single)).run thread next =
      (Text.after? word thread.place.rest).bind fun rest => next (thread.upTo rest) := by
  rw [run_ofSets, dropIn?_single]

theorem dropIn?_anyCase {word : List Char} (ascii : ∀ w ∈ word, 0 < w.toNat ∧ w.toNat < 128)
    (text : List Char) :
    dropIn? (word.map fun c => .anyCase (.single c)) text = Unicode.dropFolded? word text := by
  induction word generalizing text with
  | nil => rfl
  | cons w word ih =>
      rw [List.forall_mem_cons] at ascii
      cases text with
      | nil => rfl
      | cons c text =>
          rw [List.map_cons, dropIn?, CharSet.contains_anyCase_single ascii.1.1 ascii.1.2,
            ih ascii.2, Unicode.dropFolded?]

/-- The letters of an ASCII word read it in any case. -/
theorem run_letters {α : Type} {thread : Thread} {next : Thread → Option α} {word : List Char}
    (ascii : ∀ w ∈ word, 0 < w.toNat ∧ w.toNat < 128) :
    (sequence (letters word)).run thread next =
      (Unicode.dropFolded? word thread.place.rest).bind fun rest => next (thread.upTo rest) := by
  have asSets : sequence (letters word) = ofSets (word.map fun c => .anyCase (.single c)) := by
    rw [ofSets_eq_sequence, List.map_map]
    rfl
  rw [asSets, run_ofSets, dropIn?_anyCase ascii]

end Regex

end CrossArch
