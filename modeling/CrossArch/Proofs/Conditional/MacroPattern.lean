import CrossArch.Architecture
import CrossArch.Proofs.Regex.Sequence
import CrossArch.Regex.Parser
import Mathlib.Tactic.Common

/-!
# The pattern of the macro names

The macro names of an architecture are written as one regular expression, `Arch.macroPattern`, and a
condition is compared with them by a scanner of their own, `Arch.mentionedIn`. The scanner finds a
name in exactly the texts that the expression matches: for each form of a name, the scanner accepts
the places from which the expression of that name leads anywhere.
-/

namespace CrossArch

namespace MacroName

/-- The letters of a name, without what has to stand around them. -/
def letters : MacroName → List Char
  | anywhere text | wholeWord text | stem text => text.toList

/-- The expressions that the pattern of a name is a sequence of. -/
def items : MacroName → List Regex
  | anywhere text => Regex.letters text.toList
  | wholeWord text =>
    .assert (.wordBoundary .word) ::
      (Regex.letters text.toList ++ [.assert (.wordBoundary .word)])
  | stem text =>
    Regex.letters text.toList ++
      .repeat (.char .word) 0 none true :: Regex.letters ['_', '_']

/-- A name has letters, and all of them are visible ASCII characters. -/
structure IsPlain (name : MacroName) : Prop where
  ne_nil : name.letters ≠ []
  ascii : ∀ w ∈ name.letters, 32 < w.toNat ∧ w.toNat < 128

theorem IsPlain.positive {name : MacroName} (plain : name.IsPlain) :
    ∀ w ∈ name.letters, 0 < w.toNat ∧ w.toNat < 128 := by
  intro w mem
  have bounds := plain.ascii w mem
  omega

theorem closesStem_iff {text : List Char} :
    closesStem text = true ↔
      ∃ word after, (∀ c ∈ word, Unicode.isWord c = true) ∧ text = word ++ '_' :: '_' :: after := by
  fun_induction closesStem text with
  | case1 after =>
      simp only [true_iff]
      exact ⟨[], after, by simp, rfl⟩
  | case2 c rest noClose ih =>
      rw [Bool.and_eq_true, ih]
      constructor
      · rintro ⟨isWord, word, after, members, rfl⟩
        exact ⟨c :: word, after, List.forall_mem_cons.2 ⟨isWord, members⟩, rfl⟩
      · rintro ⟨word, after, members, whole⟩
        cases word with
        | nil =>
            rw [List.nil_append, List.cons.injEq] at whole
            exact absurd whole.2 (noClose after whole.1)
        | cons d word =>
            rw [List.cons_append, List.cons.injEq] at whole
            rcases whole with ⟨rfl, rfl⟩
            rcases List.forall_mem_cons.1 members with ⟨isWord, members'⟩
            exact ⟨isWord, word, after, members', rfl⟩
  | case3 => simp

/-- Only underscores are the same letters as underscores. -/
theorem sameLetters_underscores {read : List Char} :
    Unicode.SameLetters ['_', '_'] read ↔ read = ['_', '_'] := by
  have underscore : ∀ c, Unicode.sameLetter '_' c = true ↔ c = '_' := by
    intro c
    rw [Unicode.sameLetter, beq_iff_eq, eq_comm]
    exact Unicode.fold_eq_iff (by decide) (by decide) (by decide)
  simp only [Unicode.SameLetters, List.forall₂_cons_left_iff, List.forall₂_nil_left_iff, underscore]
  constructor
  · rintro ⟨_, _, rfl, ⟨_, _, rfl, rfl, rfl⟩, rfl⟩
    rfl
  · rintro rfl
    exact ⟨'_', ['_'], rfl, ⟨'_', [], rfl, rfl, rfl⟩, rfl⟩

section Forms

variable {text : String} {start stop : TextPlace}

theorem leads_wholeWord_iff (ascii : ∀ w ∈ text.toList, 0 < w.toNat ∧ w.toNat < 128) :
    (Regex.sequence (wholeWord text).items).Leads start stop ↔
      Unicode.atWordBoundary start.before start.rest.head? = true ∧
        (∃ read, Unicode.SameLetters text.toList read ∧ TextPlace.Reads read start stop) ∧
          Unicode.atWordBoundary stop.before stop.rest.head? = true := by
  rw [items, Regex.leads_sequence_cons_iff, ← Regex.leads_letters_iff ascii]
  simp only [Regex.leads_sequence_append_iff, Regex.leads_sequence_singleton_iff]
  constructor
  · rintro ⟨_, ⟨rfl, boundary⟩, _, leads, rfl, boundary'⟩
    exact ⟨boundary, leads, boundary'⟩
  · rintro ⟨boundary, leads, boundary'⟩
    exact ⟨start, ⟨rfl, boundary⟩, stop, leads, rfl, boundary'⟩

theorem leads_stem_iff (ascii : ∀ w ∈ text.toList, 0 < w.toNat ∧ w.toNat < 128) :
    (Regex.sequence (stem text).items).Leads start stop ↔
      ∃ read word, Unicode.SameLetters text.toList read ∧ (∀ c ∈ word, Unicode.isWord c = true) ∧
        TextPlace.Reads (read ++ (word ++ ['_', '_'])) start stop := by
  have underscores : ∀ w ∈ ['_', '_'], 0 < w.toNat ∧ w.toNat < 128 := by
    intro w mem
    obtain rfl : w = '_' := by simpa using mem
    decide
  rw [items, Regex.leads_sequence_append_iff]
  simp only [Regex.leads_sequence_cons_iff, Regex.leads_letters_iff ascii,
    Regex.leads_letters_iff underscores, Regex.leads_repeat_char_iff, sameLetters_underscores,
    exists_eq_left, TextPlace.reads_append_iff]
  constructor
  · rintro ⟨middle, ⟨read, same, reads⟩, next, ⟨word, members, reads'⟩, reads''⟩
    exact ⟨read, word, same, members, middle, reads, next, reads', reads''⟩
  · rintro ⟨read, word, same, members, middle, reads, next, reads', reads''⟩
    exact ⟨middle, ⟨read, same, reads⟩, next, ⟨word, members, reads'⟩, reads''⟩

/-- Behind a word that has letters, the character to the left is the last one that was read. -/
theorem before_of_reads {read : List Char} (letters : text.toList ≠ [])
    (same : Unicode.SameLetters text.toList read) (reads : TextPlace.Reads read start stop) :
    stop.before = (start.rest.take text.length).getLast? := by
  have length : read.length = text.length := by
    rw [← same.length_eq, String.length_toList]
  rw [reads.before, reads.rest, ← length, List.take_left]
  cases read with
  | nil => exact absurd (List.forall₂_nil_right_iff.1 same) letters
  | cons c read => simp [List.getLast?_cons]

end Forms

/-- The scanner accepts a name at a place exactly if the expression of the name leads on from it. -/
theorem occursAt_iff_leads {name : MacroName} (plain : name.IsPlain) {start : TextPlace} :
    name.occursAt start.before start.rest = true ↔
      ∃ stop, (Regex.sequence name.items).Leads start stop := by
  cases name with
  | anywhere text =>
      have ascii : ∀ w ∈ text.toList, 0 < w.toNat ∧ w.toNat < 128 := plain.positive
      rw [occursAt, Option.isSome_iff_exists]
      simp only [items, Unicode.dropFolded?_eq_some_iff, Regex.leads_letters_iff ascii]
      constructor
      · rintro ⟨after, read, same, whole⟩
        rcases TextPlace.exists_reads whole with ⟨stop, reads, -⟩
        exact ⟨stop, read, same, reads⟩
      · rintro ⟨stop, read, same, reads⟩
        exact ⟨stop.rest, read, same, reads.rest⟩
  | wholeWord text =>
      simp only [leads_wholeWord_iff plain.positive]
      constructor
      · intro occurs
        rw [occursAt] at occurs
        split at occurs
        · cases occurs
        · rename_i after dropped
          rcases Unicode.dropFolded?_eq_some_iff.1 dropped with ⟨read, same, whole⟩
          rcases TextPlace.exists_reads whole with ⟨stop, reads, rfl⟩
          rw [Bool.and_eq_true, ← before_of_reads plain.ne_nil same reads] at occurs
          exact ⟨stop, occurs.1, ⟨read, same, reads⟩, occurs.2⟩
      · rintro ⟨stop, boundary, ⟨read, same, reads⟩, boundary'⟩
        have dropped := Unicode.dropFolded?_eq_some_iff.2 ⟨read, same, reads.rest⟩
        simp only [occursAt, dropped, ← before_of_reads plain.ne_nil same reads, boundary,
          boundary', Bool.and_self]
  | stem text =>
      simp only [leads_stem_iff plain.positive]
      constructor
      · intro occurs
        rw [occursAt] at occurs
        split at occurs
        · cases occurs
        · rename_i after dropped
          rcases Unicode.dropFolded?_eq_some_iff.1 dropped with ⟨read, same, whole⟩
          rcases closesStem_iff.1 occurs with ⟨word, later, members, rfl⟩
          have parts : start.rest = read ++ (word ++ ['_', '_']) ++ later := by
            simpa using whole
          rcases TextPlace.exists_reads parts with ⟨stop, reads, -⟩
          exact ⟨stop, read, word, same, members, reads⟩
      · rintro ⟨stop, read, word, same, members, reads⟩
        have whole : start.rest = read ++ (word ++ '_' :: '_' :: stop.rest) := by
          simpa using reads.rest
        have dropped := Unicode.dropFolded?_eq_some_iff.2 ⟨read, same, whole⟩
        simp only [occursAt, dropped]
        exact closesStem_iff.2 ⟨word, stop.rest, members, rfl⟩

theorem occursFrom_iff {name : MacroName} (index : Nat) {before : Option Char} {text : List Char} :
    name.occursFrom before text = true ↔
      ∃ start ∈ TextPlace.allFrom index before text,
        name.occursAt start.before start.rest = true := by
  induction text generalizing index before with
  | nil => simp [occursFrom, TextPlace.allFrom]
  | cons c later ih =>
      rw [occursFrom, Bool.or_eq_true, ih (index + 1), TextPlace.allFrom]
      simp

end MacroName

namespace Arch

/-- The expression that the pattern of an architecture stands for. -/
def macroRegex (arch : Arch) : Regex :=
  .sequence [.anyOf (arch.macroNames.map fun name => .sequence name.items)]

theorem parse_macroPattern (arch : Arch) :
    Regex.parse? Regex.caseful arch.macroPattern.toList = some arch.macroRegex := by
  cases arch <;> decide +kernel

theorem isPlain_of_mem_macroNames {arch : Arch} {name : MacroName} (mem : name ∈ arch.macroNames) :
    name.IsPlain := by
  have checked : ∀ arch : Arch, (arch.macroNames.all fun name =>
      !name.letters.isEmpty && name.letters.all fun w => 32 < w.toNat && w.toNat < 128) = true := by
    intro arch
    cases arch <;> decide +kernel
  have plain := List.all_eq_true.1 (checked arch) name mem
  simp only [Bool.and_eq_true, List.all_eq_true, decide_eq_true_eq] at plain
  refine ⟨?_, plain.2⟩
  simpa using plain.1

/-- Whether the pattern of an architecture matches somewhere in a text. -/
def patternFits (arch : Arch) (text : List Char) : Bool :=
  (Regex.parse? Regex.caseful arch.macroPattern.toList).any fun regex => regex.occursIn text

/-- The scanner for macro names finds one exactly if the pattern of the names matches. -/
theorem mentionedIn_eq_patternFits (arch : Arch) (text : List Char) :
    arch.mentionedIn text = arch.patternFits text := by
  rw [patternFits, parse_macroPattern, Option.any_some, Bool.eq_iff_iff, Regex.occursIn_iff]
  simp only [mentionedIn, List.any_eq_true, MacroName.occursIn, MacroName.occursFrom_iff 0,
    macroRegex, Regex.leads_sequence_singleton_iff, Regex.leads_anyOf_iff, List.mem_map]
  constructor
  · rintro ⟨name, mem, start, isStart, occurs⟩
    rcases (MacroName.occursAt_iff_leads (isPlain_of_mem_macroNames mem)).1 occurs with
      ⟨stop, leads⟩
    exact ⟨start, isStart, stop, _, ⟨name, mem, rfl⟩, leads⟩
  · rintro ⟨start, isStart, stop, _, ⟨name, mem, rfl⟩, leads⟩
    have occurs := (MacroName.occursAt_iff_leads (isPlain_of_mem_macroNames mem)).2 ⟨stop, leads⟩
    exact ⟨name, mem, start, isStart, occurs⟩

end Arch

end CrossArch
