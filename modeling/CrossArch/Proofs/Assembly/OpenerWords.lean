import CrossArch.Assembly.Opener
import CrossArch.Proofs.Regex.Sequence
import CrossArch.Proofs.Text.Line
import CrossArch.Proofs.Unicode.Word
import Mathlib.Data.List.TakeWhile

/-!
# The words of an opener

An opener is made of words, the keyword and the qualifiers, with blanks between them and a bracket
at the end. The words are compared up to case, and what is read for one of their letters is always a
word character, even where it lies beyond ASCII. So the words of an opener are words of the text,
and an ASCII identifier that is read for one of them has its letters up to ASCII case.
-/

namespace CrossArch

namespace Unicode

/-- Whether a character is a small letter of ASCII or the underscore. -/
def isPlainLetter (c : Char) : Bool :=
  c.toNat == 95 || (97 ≤ c.toNat && c.toNat ≤ 122)

/-- Beyond ASCII only single word characters fold into ASCII. -/
theorem foldRuns_into_ascii : ∀ run ∈ foldRuns, (run.first : Int) + run.offset ≤ 122 →
    run.last = run.first ∧ isWord (Char.ofNat run.first) = true := by
  decide +kernel

theorem isAsciiWord_of_letter {c : Char} (letter : c.toNat = 95 ∨ 97 ≤ c.toNat ∧ c.toNat ≤ 122 ∨
    65 ≤ c.toNat ∧ c.toNat ≤ 90) : isAsciiWord c = true := by
  delta isAsciiWord Char.isAlphanum Char.isAlpha Char.isUpper Char.isLower Char.isDigit
  simp only [Bool.or_eq_true, Bool.and_eq_true, decide_eq_true_eq, beq_iff_eq, ge_iff_le,
    UInt32.le_iff_toNat_le]
  rcases letter with underscore | small | capital
  · right
    exact Char.toNat_inj.1 underscore
  · left
    left
    right
    exact small
  · left
    left
    left
    exact capital

section PlainLetter

variable {w c : Char}

theorem bounds_of_isPlainLetter (plain : isPlainLetter w = true) :
    w.toNat = 95 ∨ 97 ≤ w.toNat ∧ w.toNat ≤ 122 := by
  simpa [isPlainLetter] using plain

/-- A plain letter stands for its case variants. -/
theorem foldCode_of_sameLetter (plain : isPlainLetter w = true) (same : sameLetter w c = true) :
    foldCode c.toNat = w.toNat := by
  have bounds := bounds_of_isPlainLetter plain
  rw [sameLetter, beq_iff_eq, fold_of_notCapital (by omega) (by omega)] at same
  exact eq_toNat_of_ofNat_eq (by omega) same.symm

theorem isWord_of_sameLetter (plain : isPlainLetter w = true) (same : sameLetter w c = true) :
    isWord c = true := by
  have bounds := bounds_of_isPlainLetter plain
  have folded := foldCode_of_sameLetter plain same
  by_cases ascii : c.toNat < 128
  · rw [foldCode_of_ascii ascii] at folded
    apply isWord_of_isAsciiWord
    apply isAsciiWord_of_letter
    split at folded <;> omega
  · rw [foldCode, if_neg ascii] at folded
    split at folded
    · rename_i run found
      have covered := List.find?_some found
      simp only [FoldRun.covers, Bool.and_eq_true, decide_eq_true_eq] at covered
      rcases foldRuns_into_ascii run (List.mem_of_find?_eq_some found) (by omega) with
        ⟨single, word⟩
      have here : c.toNat = run.first := by omega
      rwa [← here, Char.ofNat_toNat] at word
    · omega

/-- An ASCII character that is read for a plain letter is that letter or its capital. -/
theorem toLower_of_sameLetter (plain : isPlainLetter w = true) (same : sameLetter w c = true)
    (ascii : isAsciiWord c = true) : c.toLower = w := by
  have bounds := bounds_of_isAsciiWord ascii
  have folded := foldCode_of_sameLetter plain same
  rw [foldCode_of_ascii (by omega)] at folded
  apply Char.toNat_inj.1
  rw [← folded, toNat_toLower]

end PlainLetter

end Unicode

namespace Assembly

/-- A keyword or a qualifier as it is written, in any case. -/
def OpenerWord (read : List Char) : Prop :=
  ∃ word ∈ keywords ++ qualifiers, Unicode.SameLetters word read

theorem openerWords_plain : ∀ word ∈ keywords ++ qualifiers,
    word ≠ [] ∧ word.all Unicode.isPlainLetter = true := by
  decide

namespace OpenerWord

variable {read : List Char}

theorem ne_nil (word : OpenerWord read) : read ≠ [] := by
  rcases word with ⟨word, mem, same⟩
  rintro rfl
  exact (openerWords_plain word mem).1 (List.forall₂_nil_right_iff.1 same)

/-- What is read for a word is related to it letter by letter, and its letters are plain. -/
theorem exists_plain (word : OpenerWord read) :
    ∃ word ∈ keywords ++ qualifiers, List.Forall₂ (fun w c =>
      Unicode.isPlainLetter w = true ∧ Unicode.sameLetter w c = true) word read := by
  rcases word with ⟨word, mem, same⟩
  have plain := List.all_eq_true.1 (openerWords_plain word mem).2
  exact ⟨word, mem, (List.forall₂_and_left word read).2 ⟨plain, same⟩⟩

theorem isWord (word : OpenerWord read) : ∀ c ∈ read, Unicode.isWord c = true := by
  rcases word.exists_plain with ⟨word, -, same⟩
  clear * - same
  induction same with
  | nil => simp
  | cons letter _ ih =>
      exact List.forall_mem_cons.2 ⟨Unicode.isWord_of_sameLetter letter.1 letter.2, ih⟩

/-- An ASCII identifier that is read for a word of an opener is that word up to case. -/
theorem toLower_mem (word : OpenerWord read) (ascii : ∀ c ∈ read, Unicode.isAsciiWord c = true) :
    read.map Char.toLower ∈ keywords ++ qualifiers := by
  rcases word.exists_plain with ⟨word, mem, same⟩
  have lower : read.map Char.toLower = word := by
    clear * - same ascii
    induction same with
    | nil => rfl
    | cons letter _ ih =>
        rw [List.forall_mem_cons] at ascii
        rw [List.map_cons, Unicode.toLower_of_sameLetter letter.1 letter.2 ascii.1, ih ascii.2]
  rwa [lower]

end OpenerWord

section Parts

variable {text rest : List Char}

theorem parts_of_dropQualifier? (found : dropQualifier? text = some rest) :
    ∃ c blanks read, text = c :: blanks ++ (read ++ rest) ∧
      (∀ d ∈ c :: blanks, Unicode.isBlank d = true) ∧ OpenerWord read := by
  cases text with
  | nil => simp [dropQualifier?] at found
  | cons c text =>
      simp only [dropQualifier?] at found
      split at found <;> rename_i blank
      · rcases List.exists_of_findSome?_eq_some found with ⟨word, mem, dropped⟩
        rcases Unicode.dropFolded?_eq_some_iff.1 dropped with ⟨read, same, whole⟩
        refine ⟨c, text.takeWhile Unicode.isBlank, read, ?_, ?_, word,
          List.mem_append_right keywords mem, same⟩
        · rw [← whole, List.cons_append, List.takeWhile_append_dropWhile]
        · exact List.forall_mem_cons.2 ⟨blank, fun d mem => List.mem_takeWhile_imp mem⟩
      · simp at found

/-- The spaces and tabs at the front of a text are blanks. -/
theorem exists_spaces (text : List Char) :
    ∃ spaces, text = spaces ++ text.dropWhile (fun c => c == ' ' || c == '\t') ∧
      ∀ c ∈ spaces, Unicode.isBlank c = true := by
  refine ⟨_, List.takeWhile_append_dropWhile.symm, ?_⟩
  intro c mem
  have space := List.mem_takeWhile_imp mem
  rw [Bool.or_eq_true, beq_iff_eq, beq_iff_eq] at space
  rcases space with rfl | rfl <;> decide

/-- Spaces and a bracket are no word characters; without either, a line ends. -/
theorem parts_of_dropBracket? (found : dropBracket? text = some rest) :
    ∃ piece, text = piece ++ rest ∧ (∀ c ∈ piece, Unicode.isWord c = false) ∧
      (piece = [] → Text.endsLine rest = true) := by
  rcases exists_spaces text with ⟨spaces, whole, areBlank⟩
  have notWords : ∀ c ∈ spaces, Unicode.isWord c = false :=
    fun c mem => Unicode.not_isWord_of_isBlank (areBlank c mem)
  unfold dropBracket? at found
  split at found
  · rename_i nothing
    rw [nothing] at whole
    cases found
    exact ⟨spaces, whole, notWords, fun _ => rfl⟩
  · rename_i c after same
    rw [same] at whole
    split_ifs at found with bracket newline
    · cases found
      refine ⟨spaces ++ [c], by rw [whole, List.append_assoc, List.singleton_append], ?_, by simp⟩
      intro d mem
      rcases List.mem_append.1 mem with isSpace | isBracket
      · exact notWords d isSpace
      · rw [List.mem_singleton.1 isBracket]
        rcases bracket with rfl | rfl <;> decide
    · cases found
      exact ⟨spaces, whole, notWords, fun _ => by simp [Text.endsLine, newline]⟩

theorem not_touchesWord_of_dropBracket? (found : dropBracket? text = some rest) :
    Unicode.touchesWord text.head? = false := by
  rcases parts_of_dropBracket? found with ⟨piece, rfl, notWords, ends⟩
  cases piece with
  | nil =>
      rcases Text.endsLine_cases (ends rfl) with rfl | ⟨later, rfl⟩
      · rfl
      · have newline : Unicode.isWord '\n' = false := by decide
        exact newline
  | cons c piece => exact notWords c List.mem_cons_self

/-- Behind a keyword or a qualifier the word ends. -/
theorem not_touchesWord_of_tail? (found : tail? text = some rest) :
    Unicode.touchesWord text.head? = false := by
  rw [tail?] at found
  split at found
  · rename_i after qualified
    rcases parts_of_dropQualifier? qualified with ⟨c, blanks, read, rfl, areBlank, -⟩
    exact Unicode.not_isWord_of_isBlank (areBlank c List.mem_cons_self)
  · exact not_touchesWord_of_dropBracket? found

theorem Opener.parts_of_ofFront? {opener : Opener} (found : Opener.ofFront? text = some opener) :
    OpenerWord opener.keyword ∧ text = opener.keyword ++ opener.afterKeyword ∧
      tail? opener.afterKeyword = some opener.rest := by
  rcases List.exists_of_findSome?_eq_some found with ⟨keyword, mem, read⟩
  simp only [Option.bind_eq_bind, Option.bind_eq_some_iff, Option.pure_def,
    Option.some.injEq] at read
  rcases read with ⟨afterKeyword, dropped, rest, ended, rfl⟩
  rcases Unicode.dropFolded?_eq_some_iff.1 dropped with ⟨letters, same, rfl⟩
  have written : (letters ++ afterKeyword).take keyword.length = letters := by
    rw [same.length_eq, List.take_left]
  refine ⟨⟨keyword, List.mem_append_left qualifiers mem, ?_⟩, ?_, ended⟩
  · rwa [written]
  · rw [written]

end Parts

namespace Opener

variable {text : List Char} {opener : Opener}

theorem at?_cons (lineStart : Bool) (c : Char) (rest : List Char) :
    at? lineStart (c :: rest) =
      (if lineStart then ofFront? (c :: rest) else none).or
        (if Unicode.isWord c then none else ofFront? rest) := by
  simp only [at?, Option.orElse_eq_orElse, Option.orElse_eq_or]

/-- The first opener of a text begins at the start of a line or behind a character that is no word
character. -/
theorem exists_front_of_find? {lineStart : Bool} (found : find? lineStart text = some opener) :
    ∃ front back, text = front ++ back ∧ ofFront? back = some opener ∧
      (lineStart = true ∧ front = [] ∨
        ∃ c, front.getLast? = some c ∧ Unicode.isWord c = false) := by
  induction text generalizing lineStart with
  | nil => simpa using length_find? found
  | cons c rest ih =>
      simp only [find?, at?_cons, Option.orElse_eq_orElse, Option.orElse_eq_or,
        Option.or_eq_some_iff] at found
      rcases found with (here | ⟨-, behind⟩) | ⟨-, later⟩
      · split at here <;> rename_i starts
        · exact ⟨[], c :: rest, rfl, here, Or.inl ⟨starts, rfl⟩⟩
        · simp at here
      · split at behind <;> rename_i isWord
        · simp at behind
        · exact ⟨[c], rest, rfl, behind, Or.inr ⟨c, rfl, Bool.eq_false_iff.2 isWord⟩⟩
      · rcases ih later with ⟨front, back, rfl, opens, place⟩
        refine ⟨c :: front, back, rfl, opens, Or.inr ?_⟩
        rcases place with ⟨newline, rfl⟩ | ⟨d, last, notWord⟩
        · rw [beq_iff_eq] at newline
          subst newline
          exact ⟨'\n', rfl, by decide⟩
        · exact ⟨d, by simp [List.getLast?_cons, last], notWord⟩

/-- What follows the keyword of an opener stands at the end of the text. -/
theorem suffix_find? {lineStart : Bool} (found : find? lineStart text = some opener) :
    opener.afterKeyword <:+ text := by
  rcases exists_front_of_find? found with ⟨front, back, rfl, opens, -⟩
  rcases parts_of_ofFront? opens with ⟨-, rfl, -⟩
  exact ⟨front ++ opener.keyword, List.append_assoc _ _ _⟩

end Opener

end Assembly

end CrossArch
