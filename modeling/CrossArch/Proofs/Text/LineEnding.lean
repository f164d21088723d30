import CrossArch.Proofs.Text.Line
import CrossArch.Unicode.Blank
import CrossArch.Unicode.CaseFold
import CrossArch.Unicode.Word
import Mathlib.Data.List.Forall2
import Mathlib.Data.List.TakeWhile
import Mathlib.Tactic.Common

/-!
# Line endings

A text whose lines end in carriage return and newline has the lines of the text whose lines end in a
newline only, up to a carriage return at the end. What does not look at that carriage return reads
the same from both texts: trimming drops it, it is no word character, and a word that does not
contain it cannot be read across it.
-/

namespace CrossArch

namespace Text

/-- A line is its text up to the carriage returns at its end, and these. -/
theorem exists_returns (line : List Char) :
    ∃ count, line = dropReturns line ++ List.replicate count '\r' := by
  have whole : line = dropReturns line ++ (line.reverse.takeWhile (· == '\r')).reverse := by
    rw [dropReturns, ← List.reverse_append, List.takeWhile_append_dropWhile, List.reverse_reverse]
  have returns : ∀ c ∈ (line.reverse.takeWhile (· == '\r')).reverse, c = '\r' := by
    intro c mem
    simpa using List.mem_takeWhile_imp (List.mem_reverse.1 mem)
  exact ⟨_, by rwa [← List.eq_replicate_of_mem returns]⟩

/-- A text with a carriage return added before each newline. -/
def withReturns (text : List Char) : List Char :=
  text.flatMap fun c => if c = '\n' then ['\r', '\n'] else [c]

@[simp]
theorem withReturns_newline_cons (rest : List Char) :
    withReturns ('\n' :: rest) = '\r' :: '\n' :: withReturns rest :=
  rfl

theorem withReturns_cons {c : Char} (notNewline : c ≠ '\n') (rest : List Char) :
    withReturns (c :: rest) = c :: withReturns rest := by
  simp [withReturns, notNewline]

/-- A line is another one, perhaps with a carriage return added. -/
def MayReturn (line line' : List Char) : Prop :=
  line' = line ∨ line' = line ++ ['\r']

theorem lines_withReturns (text : List Char) :
    List.Forall₂ MayReturn (lines text) (lines (withReturns text)) := by
  induction text with
  | nil => exact .cons (Or.inl rfl) .nil
  | cons c rest ih =>
      by_cases newline : c = '\n'
      · subst c
        rw [withReturns_newline_cons, lines_newline_cons,
          lines_cons (by decide) (lines_newline_cons _)]
        exact .cons (Or.inr rfl) ih
      · rcases exists_lines_eq_cons rest with ⟨line, later, same⟩
        rcases exists_lines_eq_cons (withReturns rest) with ⟨line', later', same'⟩
        rw [same, same', List.forall₂_cons] at ih
        rw [withReturns_cons newline, lines_cons newline same, lines_cons newline same']
        refine .cons ?_ ih.2
        rcases ih.1 with rfl | rfl
        · exact Or.inl rfl
        · exact Or.inr rfl

section Numbered

variable {α : Type} {read : List Char × Nat → Option α}

theorem filterMap_zipIdx_of_mayReturn
    (ignores : ∀ line number, read (line ++ ['\r'], number) = read (line, number))
    {lines lines' : List (List Char)} (related : List.Forall₂ MayReturn lines lines')
    (number : Nat) :
    (lines'.zipIdx number).filterMap read = (lines.zipIdx number).filterMap read := by
  induction related generalizing number with
  | nil => rfl
  | cons first others ih =>
      simp only [List.zipIdx_cons, List.filterMap_cons, ih]
      rcases first with rfl | rfl
      · rfl
      · rw [ignores]

/-- What is read from numbered lines, with no regard to a carriage return at the end of a line, does
not depend on the line ending. -/
theorem filterMap_numberedLines_withReturns
    (ignores : ∀ line number, read (line ++ ['\r'], number) = read (line, number))
    (text : List Char) :
    (numberedLines (withReturns text)).filterMap read = (numberedLines text).filterMap read :=
  filterMap_zipIdx_of_mayReturn ignores (lines_withReturns text) 1

end Numbered

end Text

namespace Unicode

/-- A word that cannot go on with what follows a text is dropped from the text alone. -/
theorem dropFolded?_append_of_foreign {word back : List Char}
    (foreign : ∀ w ∈ word, ∀ c ∈ back.head?, sameLetter w c = false) (text : List Char) :
    dropFolded? word (text ++ back) = (dropFolded? word text).map (· ++ back) := by
  induction word generalizing text with
  | nil => rfl
  | cons w word ih =>
      cases text with
      | nil =>
          cases back with
          | nil => rfl
          | cons c back => simp [dropFolded?, foreign w List.mem_cons_self c rfl]
      | cons c text =>
          simp only [List.cons_append, dropFolded?]
          split
          · exact ih (fun w' mem => foreign w' (List.mem_cons_of_mem w mem)) text
          · rfl

theorem touchesWord_head?_append_return (text : List Char) :
    touchesWord (text ++ ['\r']).head? = touchesWord text.head? := by
  have notWord : isWord '\r' = false := by decide
  cases text <;> simp [touchesWord, notWord]

theorem trimEnd_append_blanks (text : List Char) {after : List Char}
    (blank : ∀ c ∈ after, isBlank c = true) : trimEnd (text ++ after) = trimEnd text := by
  rw [trimEnd, List.reverse_append, List.dropWhile_append_of_pos (by simpa using blank), trimEnd]

/-- Trimming drops the blanks around a text. -/
theorem trim_append_blanks {before after : List Char} (blankBefore : ∀ c ∈ before, isBlank c = true)
    (blankAfter : ∀ c ∈ after, isBlank c = true) (text : List Char) :
    trim (before ++ text ++ after) = trim text := by
  rw [trim, trimStart, List.append_assoc, List.dropWhile_append_of_pos blankBefore,
    List.dropWhile_append]
  split <;> rename_i empty
  · have nothing : after.dropWhile isBlank = [] := List.dropWhile_eq_nil_iff.2 blankAfter
    rw [nothing, trim, trimStart, List.isEmpty_iff.1 empty]
  · rw [trimEnd_append_blanks _ blankAfter]
    rfl

theorem trim_append_return (text : List Char) : trim (text ++ ['\r']) = trim text := by
  have blank : isBlank '\r' = true := by decide
  exact trim_append_blanks (List.forall_mem_nil _) (by simp [blank]) text

end Unicode

end CrossArch
