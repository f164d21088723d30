import CrossArch.Conditional.Directive
import CrossArch.Proofs.Conditional.MacroPattern
import CrossArch.Proofs.Text.LineEnding
import Mathlib.Data.List.TakeWhile
import Mathlib.Tactic.Common

/-!
# Directives line by line

The directive of a line can be read off the line alone: its indentation is dropped, then `#` and the
blanks behind it, and the word that stands there then tells whether the line is a directive. Nothing
of this changes when a carriage return is put at the end of the line, and what stands on further
lines is not looked at.
-/

namespace CrossArch

namespace MacroName

theorem closesStem_append_return (text : List Char) :
    closesStem (text ++ ['\r']) = closesStem text := by
  fun_induction closesStem text with
  | case1 after => rfl
  | case2 c rest noClose ih =>
      have noClose' : ∀ tail, c = '_' → rest ++ ['\r'] = '_' :: tail → False := by
        intro tail first whole
        cases rest with
        | nil => simp at whole
        | cons d rest =>
            rw [List.cons_append, List.cons.injEq] at whole
            exact noClose rest first (by rw [whole.1])
      rw [List.cons_append, closesStem.eq_2 _ _ noClose', ih]
  | case3 => rfl

section Return

variable {name : MacroName}

theorem IsPlain.foreign_return (plain : name.IsPlain) :
    ∀ w ∈ name.letters, ∀ c ∈ ['\r'].head?, Unicode.sameLetter w c = false := by
  rintro w mem _ ⟨⟩
  have visible := (plain.ascii w mem).1
  rw [Unicode.sameLetter, beq_eq_false_iff_ne]
  intro same
  have isReturn : w = '\r' :=
    (Unicode.fold_eq_iff (by decide) (by decide) (by decide)).1 (same.trans (by decide))
  rw [isReturn] at visible
  exact absurd visible (by decide)

theorem occursAt_append_return (plain : name.IsPlain) (before : Option Char) (text : List Char) :
    name.occursAt before (text ++ ['\r']) = name.occursAt before text := by
  have dropped := Unicode.dropFolded?_append_of_foreign plain.foreign_return text
  cases name with
  | anywhere word =>
      rw [letters] at dropped
      rw [occursAt, occursAt, dropped, Option.isSome_map]
  | wholeWord word =>
      rw [letters] at dropped
      cases found : Unicode.dropFolded? word.toList text with
      | none => simp [occursAt, dropped, found]
      | some after =>
          rcases Unicode.dropFolded?_eq_some_iff.1 found with ⟨read, same, whole⟩
          have enough : word.length ≤ text.length := by
            rw [whole, List.length_append, ← same.length_eq, String.length_toList]
            omega
          simp only [occursAt, dropped, found, Option.map_some, Unicode.atWordBoundary,
            Unicode.touchesWord_head?_append_return, List.take_append_of_le_length enough]
  | stem word =>
      rw [letters] at dropped
      cases found : Unicode.dropFolded? word.toList text with
      | none => simp [occursAt, dropped, found]
      | some after =>
          simp only [occursAt, dropped, found, Option.map_some, closesStem_append_return]

theorem occursAt_nil (plain : name.IsPlain) (before : Option Char) :
    name.occursAt before [] = false := by
  have nothing : Unicode.dropFolded? name.letters [] = none := by
    cases letters : name.letters with
    | nil => exact absurd letters plain.ne_nil
    | cons w word => rfl
  cases name <;> simp_all [occursAt, letters]

theorem occursFrom_append_return (plain : name.IsPlain) (before : Option Char) (text : List Char) :
    name.occursFrom before (text ++ ['\r']) = name.occursFrom before text := by
  induction text generalizing before with
  | nil =>
      have atReturn := occursAt_append_return plain before []
      rw [List.nil_append] at atReturn
      rw [List.nil_append, occursFrom, occursFrom, occursFrom, atReturn, occursAt_nil plain,
        occursAt_nil plain, Bool.or_self]
  | cons c text ih =>
      have here := occursAt_append_return plain before (c :: text)
      rw [List.cons_append] at here
      rw [List.cons_append, occursFrom, occursFrom, here, ih]

end Return

end MacroName

theorem Arch.mentionedIn_append_return (arch : Arch) (text : List Char) :
    arch.mentionedIn (text ++ ['\r']) = arch.mentionedIn text := by
  rw [Bool.eq_iff_iff, mentionedIn, mentionedIn, List.any_eq_true, List.any_eq_true]
  apply exists_congr
  intro name
  apply and_congr_right
  intro mem
  rw [MacroName.occursIn, MacroName.occursIn,
    MacroName.occursFrom_append_return (isPlain_of_mem_macroNames mem)]

namespace Directive

/-- The words of directives. -/
def words : List (List Char) :=
  ["ifdef", "ifndef", "if", "elifdef", "elifndef", "elif", "else", "endif"].map String.toList

/-- Whether a character may indent a directive. -/
def isIndent (c : Char) : Bool :=
  c == ' ' || c == '\t' || c == '\r' || c == '\x0B' || c == '\x0C'

/-- Whether a character may stand between `#` and the word. -/
def isGap (c : Char) : Bool :=
  c == ' ' || c == '\t'

/-- The word after the `#` of a line and the text after the word, if the line has the form of a
directive. -/
def word? (line : List Char) : Option (List Char × List Char) :=
  match line.dropWhile isIndent with
  | '#' :: rest =>
    let start := rest.dropWhile isGap
    some (start.takeWhile Unicode.isWord, start.dropWhile Unicode.isWord)
  | _ => none

/-- The directive on a line, if there is one. -/
def ofLine? (line : List Char) (number : Nat) : Option Directive :=
  (word? line).bind fun parts =>
    if parts.1 ∈ words then
      let kind := DirectiveKind.ofWord parts.1 parts.2
      some ⟨kind, number, String.ofList (Unicode.trim line), tagOf kind line⟩
    else none

/-- A line that is cut where its indentation ends and where its word starts and ends. -/
structure LineForm (line indent gap word after : List Char) : Prop where
  parts : line = indent ++ '#' :: (gap ++ (word ++ after))
  indentation : ∀ c ∈ indent, c ∈ [' ', '\t', '\r', '\x0B', '\x0C']
  blanks : ∀ c ∈ gap, c = ' ' ∨ c = '\t'
  isWord : ∀ c ∈ word, Unicode.isWord c = true
  maximal : ∀ c ∈ after.head?, Unicode.isWord c = false

theorem isIndent_iff {c : Char} : isIndent c = true ↔ c ∈ [' ', '\t', '\r', '\x0B', '\x0C'] := by
  simp [isIndent, or_assoc]

theorem lineForm_of_word? {line word after : List Char} (found : word? line = some (word, after)) :
    ∃ indent gap, LineForm line indent gap word after := by
  rw [word?] at found
  split at found
  · rename_i rest dropped
    cases found
    refine ⟨line.takeWhile isIndent, rest.takeWhile isGap, ?_, ?_, ?_, ?_, ?_⟩
    · rw [List.takeWhile_append_dropWhile, List.takeWhile_append_dropWhile, ← dropped,
        List.takeWhile_append_dropWhile]
    · intro c mem
      exact isIndent_iff.1 (List.mem_takeWhile_imp mem)
    · intro c mem
      simpa [isGap] using List.mem_takeWhile_imp mem
    · intro c mem
      exact List.mem_takeWhile_imp mem
    · intro c first
      have stopped := List.head?_dropWhile_not Unicode.isWord (rest.dropWhile isGap)
      simpa only [Option.mem_def.1 first] using stopped
  · cases found

theorem LineForm.word? {line indent gap word after : List Char}
    (form : LineForm line indent gap word after) (nonempty : word ≠ []) :
    word? line = some (word, after) := by
  have dropped : line.dropWhile isIndent = '#' :: (gap ++ (word ++ after)) := by
    rw [form.parts]
    apply Text.dropWhile_append_of_stops
    · intro c mem
      exact isIndent_iff.2 (form.indentation c mem)
    · rintro c ⟨⟩
      decide
  have skipped : (gap ++ (word ++ after)).dropWhile isGap = word ++ after := by
    apply Text.dropWhile_append_of_stops
    · intro c mem
      simpa [isGap] using form.blanks c mem
    · intro c first
      have isWord : Unicode.isWord c = true := by
        cases word with
        | nil => exact absurd rfl nonempty
        | cons d word =>
            cases first
            exact form.isWord _ List.mem_cons_self
      rw [Bool.eq_false_iff, Ne, isGap, Bool.or_eq_true, beq_iff_eq, beq_iff_eq]
      rintro (rfl | rfl) <;> exact absurd isWord (by decide)
  have read : (word ++ after).dropWhile Unicode.isWord = after :=
    Text.dropWhile_append_of_stops form.isWord form.maximal
  have kept : (word ++ after).takeWhile Unicode.isWord = word :=
    Text.takeWhile_append_of_stops form.isWord form.maximal
  simp only [Directive.word?, dropped, skipped, read, kept]

/-- Reading stops at a character that belongs to none of the parts of a directive. -/
theorem word?_append {c : Char} {back : List Char} (notWord : Unicode.isWord c = false)
    (notGap : isGap c = false) (nothing : word? (c :: back) = none) (line : List Char) :
    word? (line ++ c :: back) =
      (word? line).map fun parts => (parts.1, parts.2 ++ c :: back) := by
  cases unindented : line.dropWhile isIndent with
  | nil =>
      have skipped : (line ++ c :: back).dropWhile isIndent = (c :: back).dropWhile isIndent := by
        rw [List.dropWhile_append, unindented]
        rfl
      have blank : word? line = none := by
        simp [word?, unindented]
      rw [word?, skipped, ← word?, nothing, blank]
      rfl
  | cons d rest =>
      have longer : (line ++ c :: back).dropWhile isIndent = d :: (rest ++ c :: back) := by
        rw [List.dropWhile_append, unindented]
        rfl
      by_cases hash : d = '#'
      · subst d
        simp only [word?, unindented, longer, Text.dropWhile_append_stop notGap,
          Text.dropWhile_append_stop notWord, Text.takeWhile_append_stop notWord, Option.map_some]
      · simp [word?, unindented, longer, hash]

theorem word?_append_return (line : List Char) :
    word? (line ++ ['\r']) = (word? line).map fun parts => (parts.1, parts.2 ++ ['\r']) :=
  word?_append (by decide) (by decide) (by decide) line

theorem word?_append_newline (line back : List Char) :
    word? (line ++ '\n' :: back) =
      (word? line).map fun parts => (parts.1, parts.2 ++ '\n' :: back) :=
  word?_append (by decide) (by decide) rfl line

theorem ofWord_append_return (word after : List Char) :
    DirectiveKind.ofWord word (after ++ ['\r']) = DirectiveKind.ofWord word after := by
  have blank : Unicode.isBlank '\r' = true := by decide
  simp only [DirectiveKind.ofWord, List.all_append, List.all_cons, List.all_nil, blank,
    Bool.and_true]

theorem ofLine?_append_return (line : List Char) (number : Nat) :
    ofLine? (line ++ ['\r']) number = ofLine? line number := by
  have sameTag : ∀ kind, tagOf kind (line ++ ['\r']) = tagOf kind line := by
    intro kind
    simp only [tagOf, Arch.mentionedIn_append_return]
  cases found : word? line with
  | none => simp [ofLine?, word?_append_return, found]
  | some parts =>
      simp only [ofLine?, word?_append_return, found, Option.map_some, Option.bind_some,
        ofWord_append_return, Unicode.trim_append_return, sameTag]

theorem word?_append_returns (line : List Char) (count : Nat) :
    word? (line ++ List.replicate count '\r') =
      (word? line).map fun parts => (parts.1, parts.2 ++ List.replicate count '\r') := by
  induction count with
  | zero => simp
  | succ count ih =>
      rw [List.replicate_succ', ← List.append_assoc, word?_append_return, ih, Option.map_map]
      simp [Function.comp_def]

theorem ofLine?_append_returns (line : List Char) (count number : Nat) :
    ofLine? (line ++ List.replicate count '\r') number = ofLine? line number := by
  induction count with
  | zero => rw [List.replicate_zero, List.append_nil]
  | succ count ih =>
      rw [List.replicate_succ', ← List.append_assoc, ofLine?_append_return, ih]

end Directive

end CrossArch
