import CrossArch.Proofs.Regex.Reach
import Mathlib.Data.List.Forall2
import Mathlib.Data.List.Infix
import Mathlib.Tactic.Common

/-!
# Words, sequences and alternatives

What simple expressions lead over, in terms of the words that they read. One set of characters after
another reads a word with its characters in these sets; a repeated set reads a word with all of its
characters in the set. Up to case, a set of one ASCII character holds the characters that are the
same letter; a punctuation mark is the only one that folds to it.
-/

namespace CrossArch

namespace Unicode

theorem foldRuns_stay_high : ∀ run ∈ foldRuns, 107 ≤ (run.first : Int) + run.offset := by
  decide +kernel

/-- A character beyond ASCII folds to `k` or to a character behind it. -/
theorem le_foldCode {code : Nat} (beyond : 128 ≤ code) : 107 ≤ foldCode code := by
  rw [foldCode, if_neg (by omega)]
  split
  · rename_i run found
    have high := foldRuns_stay_high run (List.mem_of_find?_eq_some found)
    have covered := List.find?_some found
    simp only [FoldRun.covers, Bool.and_eq_true, decide_eq_true_eq] at covered
    omega
  · omega

/-- Only the character zero stands for more than one number. -/
theorem eq_toNat_of_ofNat_eq {code : Nat} {c : Char} (positive : 0 < c.toNat)
    (same : Char.ofNat code = c) : code = c.toNat := by
  subst same
  by_cases valid : code.isValidChar
  · rw [Char.ofNat, dif_pos valid]
    rfl
  · rw [Char.ofNat, dif_neg valid] at positive
    exact absurd positive (by decide)

/-- An ASCII character before the small letters that is no capital is the only one that folds to
it. -/
theorem fold_eq_iff {c w : Char} (positive : 0 < w.toNat) (small : w.toNat < 97)
    (notCapital : w.toNat < 65 ∨ 90 < w.toNat) : fold c = w ↔ c = w := by
  constructor
  · intro folds
    have code := eq_toNat_of_ofNat_eq positive folds
    apply Char.toNat_inj.1
    by_cases beyond : 128 ≤ c.toNat
    · have high := le_foldCode beyond
      omega
    · rw [foldCode, if_pos (by omega)] at code
      split at code
      · rename_i capital
        simp only [Bool.and_eq_true, decide_eq_true_eq] at capital
        omega
      · exact code
  · rintro rfl
    have same : foldCode c.toNat = c.toNat := by
      rw [foldCode, if_pos (by omega), if_neg]
      simp only [Bool.and_eq_true, decide_eq_true_eq]
      omega
    rw [fold, same, Char.ofNat_toNat]

/-- Folding leads to no capital. -/
theorem not_capital_foldCode (code : Nat) : foldCode code < 65 ∨ 90 < foldCode code := by
  by_cases beyond : 128 ≤ code
  · have high := le_foldCode beyond
    omega
  · rw [foldCode, if_pos (by omega)]
    split
    · rename_i capital
      simp only [Bool.and_eq_true, decide_eq_true_eq] at capital
      omega
    · rename_i notCapital
      simp only [Bool.and_eq_true, decide_eq_true_eq] at notCapital
      omega

/-- An ASCII character stands for itself and, as a capital, for its small letter. -/
theorem foldCode_of_ascii {code : Nat} (ascii : code < 128) :
    foldCode code = if 65 ≤ code ∧ code ≤ 90 then code + 32 else code := by
  rw [foldCode, if_pos ascii]
  simp only [Bool.and_eq_true, decide_eq_true_eq]

theorem toNat_fold_of_ascii {w : Char} (ascii : w.toNat < 128) :
    (fold w).toNat = foldCode w.toNat := by
  have small : foldCode w.toNat < 128 := by
    rw [foldCode_of_ascii ascii]
    split <;> omega
  have valid : (foldCode w.toNat).isValidChar := Or.inl (by omega)
  rw [fold, Char.ofNat, dif_pos valid]
  rfl

theorem fold_of_notCapital {w : Char} (ascii : w.toNat < 128)
    (notCapital : w.toNat < 65 ∨ 90 < w.toNat) : fold w = w := by
  rw [fold, foldCode_of_ascii ascii, if_neg (by omega), Char.ofNat_toNat]

/-- An ASCII code unfolds from the code that it folds to. -/
theorem mem_unfoldCode_iff {code : Nat} (ascii : code < 128) (other : Nat) :
    code ∈ unfoldCode (foldCode other) ↔ foldCode other = foldCode code := by
  have notCapital := not_capital_foldCode other
  simp only [unfoldCode, List.mem_cons, List.mem_append, List.mem_filterMap]
  rw [foldCode_of_ascii ascii]
  constructor
  · rintro (same | capital | ⟨run, -, sent⟩)
    · rw [if_neg (by omega), same]
    · split at capital
      · rename_i letter
        simp only [Bool.and_eq_true, decide_eq_true_eq] at letter
        rw [List.mem_singleton] at capital
        rw [if_pos (by omega)]
        omega
      · simp at capital
    · split at sent
      · rename_i covered
        simp only [Bool.and_eq_true, decide_eq_true_eq] at covered
        have := Option.some.inj sent
        omega
      · cases sent
  · intro same
    split at same
    · right
      left
      rw [if_pos (by simp only [Bool.and_eq_true, decide_eq_true_eq]; omega), List.mem_singleton]
      omega
    · exact Or.inl same.symm

/-- The case variants of a character hold the ASCII characters that fold as it does. -/
theorem mem_caseVariants_iff {c w : Char} (positive : 0 < w.toNat) (ascii : w.toNat < 128) :
    w ∈ caseVariants c ↔ fold c = fold w := by
  have foldedPositive : 0 < (fold w).toNat := by
    rw [toNat_fold_of_ascii ascii, foldCode_of_ascii ascii]
    split <;> omega
  have sameCode : fold c = fold w ↔ foldCode c.toNat = foldCode w.toNat := by
    constructor
    · intro same
      rw [eq_toNat_of_ofNat_eq foldedPositive same, toNat_fold_of_ascii ascii]
    · intro same
      rw [fold, same, fold]
  rw [sameCode, ← mem_unfoldCode_iff ascii, caseVariants, List.mem_map]
  constructor
  · rintro ⟨code, mem, same⟩
    rwa [← eq_toNat_of_ofNat_eq positive same]
  · intro mem
    exact ⟨w.toNat, mem, Char.ofNat_toNat w⟩

/-- Two words are the same up to case. -/
def SameLetters (word read : List Char) : Prop :=
  List.Forall₂ (fun w c => sameLetter w c = true) word read

theorem dropFolded?_eq_some_iff {word text after : List Char} :
    dropFolded? word text = some after ↔ ∃ read, SameLetters word read ∧ text = read ++ after := by
  induction word generalizing text with
  | nil => simp [dropFolded?, SameLetters]
  | cons w word ih =>
      cases text with
      | nil =>
          simp only [dropFolded?, reduceCtorEq, List.nil_eq, List.append_eq_nil_iff, false_iff,
            not_exists, not_and]
          rintro read same rfl
          cases same
      | cons c text =>
          simp only [dropFolded?, Option.ite_none_right_eq_some, ih]
          constructor
          · rintro ⟨letter, read, same, rfl⟩
            exact ⟨c :: read, .cons letter same, rfl⟩
          · rintro ⟨read, same, whole⟩
            rcases List.forall₂_cons_left_iff.1 same with ⟨d, later, letter, sameLater, rfl⟩
            rw [List.cons_append, List.cons.injEq] at whole
            rcases whole with ⟨rfl, rfl⟩
            exact ⟨letter, later, sameLater, rfl⟩

end Unicode

namespace CharSet

/-- Up to case, a set of one ASCII character holds the characters that are the same letter. -/
theorem contains_anyCase_single {c w : Char} (positive : 0 < w.toNat) (ascii : w.toNat < 128) :
    (anyCase (single w)).contains c = Unicode.sameLetter w c := by
  rw [Bool.eq_iff_iff, Unicode.sameLetter, beq_iff_eq, @eq_comm _ (Unicode.fold w),
    ← Unicode.mem_caseVariants_iff positive ascii]
  simp only [contains, single, List.any_eq_true, Bool.and_eq_true, decide_eq_true_eq]
  constructor
  · rintro ⟨variant, mem, low, high⟩
    rwa [Char.le_antisymm low high]
  · intro mem
    exact ⟨w, mem, Char.le_refl w, Char.le_refl w⟩

/-- The same for a character that is no capital. -/
theorem contains_anyCase_single_iff {c w : Char} (positive : 0 < w.toNat) (ascii : w.toNat < 128)
    (notCapital : w.toNat < 65 ∨ 90 < w.toNat) :
    (anyCase (single w)).contains c = true ↔ Unicode.fold c = w := by
  rw [contains_anyCase_single positive ascii, Unicode.sameLetter, beq_iff_eq,
    Unicode.fold_of_notCapital ascii notCapital, eq_comm]

end CharSet

namespace Regex

/-- The expression of one set of characters after another. -/
def ofSets (sets : List CharSet) : Regex :=
  sets.foldr (fun set rest => .seq (.char set) rest) .empty

/-- A word whose characters are in sets, one after the other. -/
abbrev InSets (sets : List CharSet) (word : List Char) : Prop :=
  List.Forall₂ (fun set c => set.contains c = true) sets word

theorem leads_ofSets_iff {sets : List CharSet} {start stop : TextPlace} :
    (ofSets sets).Leads start stop ↔
      ∃ word, InSets sets word ∧ TextPlace.Reads word start stop := by
  induction sets generalizing start with
  | nil =>
      simp only [List.forall₂_nil_left_iff, exists_eq_left, TextPlace.reads_nil_iff]
      rfl
  | cons set sets ih =>
      have step : (ofSets (set :: sets)).Leads start stop ↔
          ∃ middle, start.next? set = some middle ∧ (ofSets sets).Leads middle stop :=
        Iff.rfl
      simp only [step, ih, TextPlace.next?_eq_some_iff]
      constructor
      · rintro ⟨middle, ⟨c, contained, first⟩, word, inSets, reads⟩
        exact ⟨c :: word, .cons contained inSets, TextPlace.reads_cons_iff.2 ⟨middle, first, reads⟩⟩
      · rintro ⟨word, inSets, reads⟩
        rcases List.forall₂_cons_left_iff.1 inSets with ⟨c, later, contained, inLater, rfl⟩
        rcases TextPlace.reads_cons_iff.1 reads with ⟨middle, first, reads'⟩
        exact ⟨middle, ⟨c, contained, first⟩, later, inLater, reads'⟩

/-- A sequence of sets occurs in a text that has a word in these sets. -/
theorem occursIn_ofSets_iff (sets : List CharSet) (text : List Char) :
    (ofSets sets).occursIn text = true ↔ ∃ word, word <:+: text ∧ InSets sets word := by
  simp only [occursIn_iff, leads_ofSets_iff, TextPlace.mem_allFrom_iff]
  constructor
  · rintro ⟨start, ⟨front, reads⟩, stop, word, inSets, reads'⟩
    refine ⟨word, ⟨front, stop.rest, ?_⟩, inSets⟩
    rw [← (reads.append reads').rest]
  · rintro ⟨word, ⟨front, back, rfl⟩, inSets⟩
    refine ⟨⟨front.length, front.getLast?, word ++ back⟩, ⟨front, ?_⟩,
      ⟨front.length + word.length, word.getLast?.or front.getLast?, back⟩, word, inSets,
      rfl, rfl, rfl⟩
    exact ⟨List.append_assoc _ _ _, (Nat.zero_add _).symm, Option.or_none.symm⟩

/-- The expression of several ones after another. -/
def sequence (items : List Regex) : Regex :=
  items.foldr .seq .empty

/-- The expression of several alternatives; without any, nothing matches. -/
def anyOf : List Regex → Regex
  | [] => .char .none
  | [only] => only
  | first :: second :: later => .alt first (anyOf (second :: later))

theorem ofSets_eq_sequence (sets : List CharSet) : ofSets sets = sequence (sets.map .char) := by
  rw [ofSets, sequence, List.foldr_map]

variable {start stop : TextPlace}

theorem leads_sequence_cons_iff {first : Regex} {later : List Regex} :
    (sequence (first :: later)).Leads start stop ↔
      ∃ middle, first.Leads start middle ∧ (sequence later).Leads middle stop :=
  Iff.rfl

theorem leads_sequence_append_iff {items later : List Regex} :
    (sequence (items ++ later)).Leads start stop ↔
      ∃ middle, (sequence items).Leads start middle ∧ (sequence later).Leads middle stop := by
  induction items generalizing start with
  | nil =>
      constructor
      · intro leads
        exact ⟨start, rfl, leads⟩
      · rintro ⟨_, rfl, leads⟩
        exact leads
  | cons first items ih =>
      simp only [List.cons_append, leads_sequence_cons_iff, ih]
      constructor
      · rintro ⟨middle, toMiddle, next, toNext, toStop⟩
        exact ⟨next, ⟨middle, toMiddle, toNext⟩, toStop⟩
      · rintro ⟨next, ⟨middle, toMiddle, toNext⟩, toStop⟩
        exact ⟨middle, toMiddle, next, toNext, toStop⟩

theorem leads_sequence_singleton_iff {only : Regex} :
    (sequence [only]).Leads start stop ↔ only.Leads start stop := by
  rw [leads_sequence_cons_iff]
  constructor
  · rintro ⟨_, leads, rfl⟩
    exact leads
  · intro leads
    exact ⟨stop, leads, rfl⟩

theorem leads_anyOf_iff {regexes : List Regex} :
    (anyOf regexes).Leads start stop ↔ ∃ regex ∈ regexes, regex.Leads start stop := by
  induction regexes with
  | nil =>
      have nothing : start.next? .none ≠ some stop := by
        intro moved
        rcases TextPlace.next?_eq_some_iff.1 moved with ⟨c, contained, -⟩
        simp [CharSet.contains] at contained
      simpa [anyOf, Leads] using nothing
  | cons first later ih =>
      cases later with
      | nil => simp [anyOf]
      | cons second later =>
          rw [anyOf, Leads, ih]
          simp

theorem rounds_char_iff {set : CharSet} {count : Nat} :
    Rounds (Regex.char set).Leads count start stop ↔
      ∃ word, word.length = count ∧ (∀ c ∈ word, set.contains c = true) ∧
        TextPlace.Reads word start stop := by
  induction count generalizing start with
  | zero =>
      simp only [List.length_eq_zero_iff, exists_eq_left, List.not_mem_nil, false_imp_iff,
        implies_true, true_and, TextPlace.reads_nil_iff]
      rfl
  | succ count ih =>
      constructor
      · rintro ⟨middle, moved, rounds⟩
        rcases TextPlace.next?_eq_some_iff.1 moved with ⟨c, contained, first⟩
        rcases ih.1 rounds with ⟨word, length, members, reads⟩
        refine ⟨c :: word, by rw [List.length_cons, length], ?_,
          TextPlace.reads_cons_iff.2 ⟨middle, first, reads⟩⟩
        exact List.forall_mem_cons.2 ⟨contained, members⟩
      · rintro ⟨word, length, members, reads⟩
        cases word with
        | nil => cases length
        | cons c word =>
            rcases TextPlace.reads_cons_iff.1 reads with ⟨middle, first, reads'⟩
            rcases List.forall_mem_cons.1 members with ⟨contained, members'⟩
            exact ⟨middle, TextPlace.next?_eq_some_iff.2 ⟨c, contained, first⟩,
              ih.2 ⟨word, Nat.succ.inj length, members', reads'⟩⟩

/-- A set that is repeated reads a word of its members. -/
theorem leads_repeat_char_iff {set : CharSet} {greedy : Bool} :
    (Regex.repeat (.char set) 0 none greedy).Leads start stop ↔
      ∃ word, (∀ c ∈ word, set.contains c = true) ∧ TextPlace.Reads word start stop := by
  constructor
  · rintro ⟨more, -, rounds⟩
    rcases rounds_char_iff.1 rounds with ⟨word, -, members, reads⟩
    exact ⟨word, members, reads⟩
  · rintro ⟨word, members, reads⟩
    refine ⟨word.length, by simp, ?_⟩
    rw [Nat.zero_add]
    exact rounds_char_iff.2 ⟨word, rfl, members, reads⟩

/-- The expressions of the letters of a word, each up to case. -/
def letters (word : List Char) : List Regex :=
  word.map fun c => .char (.anyCase (.single c))

/-- The letters of an ASCII word read the words with the same letters. -/
theorem leads_letters_iff {word : List Char}
    (ascii : ∀ w ∈ word, 0 < w.toNat ∧ w.toNat < 128) :
    (sequence (letters word)).Leads start stop ↔
      ∃ read, Unicode.SameLetters word read ∧ TextPlace.Reads read start stop := by
  have asSets : sequence (letters word) = ofSets (word.map fun c => .anyCase (.single c)) := by
    rw [ofSets_eq_sequence, List.map_map]
    rfl
  rw [asSets, leads_ofSets_iff]
  apply exists_congr
  intro read
  apply and_congr_left
  intro _
  rw [InSets, List.forall₂_map_left_iff]
  constructor
  · intro inSets
    apply ((List.forall₂_and_left word read).2 ⟨ascii, inSets⟩).imp
    rintro w c ⟨⟨positive, small⟩, contained⟩
    rwa [CharSet.contains_anyCase_single positive small] at contained
  · intro same
    apply ((List.forall₂_and_left word read).2 ⟨ascii, same⟩).imp
    rintro w c ⟨⟨positive, small⟩, sameLetter⟩
    rwa [CharSet.contains_anyCase_single positive small]

end Regex

end CrossArch
