import CrossArch.Assembly.Block
import CrossArch.Proofs.Hit.Search
import CrossArch.Proofs.Text.LineEnding
import Mathlib.Tactic.Common

/-!
# Openers in lines and in whole texts

The scanner for inline assembly looks for openers line by line; the search for hits looks for them
in the whole text, where qualifiers may follow on later lines and where rule keys are read on the
way. This file shows that the search does not miss what the scanner finds. An opener in a line is
still one when the next line follows, and if all keys are made of word characters, no key can be
read across the place where an opener begins.
-/

namespace CrossArch

namespace Unicode

/-- A word without a newline is dropped from a line as it is from the line and what follows. -/
theorem dropFolded?_append {word : List Char} (noNewline : ∀ w ∈ word, sameLetter w '\n' = false)
    (text : List Char) {back : List Char} (ends : Text.endsLine back = true) :
    dropFolded? word (text ++ back) = (dropFolded? word text).map (· ++ back) := by
  apply dropFolded?_append_of_foreign
  intro w mem c first
  rcases Text.endsLine_cases ends with rfl | ⟨rest, rfl⟩
  · cases first
  · cases first
    exact noNewline w mem

end Unicode

namespace Assembly

/-- No letter of a word an opener is made of is read as a newline. -/
theorem openerWords_noNewline : ∀ word ∈ keywords ++ qualifiers, ∀ w ∈ word,
    Unicode.sameLetter w '\n' = false := by
  -- Decided on the words themselves: a bounded statement about `Char` would try every character.
  have checked : ((keywords ++ qualifiers).all fun word =>
      word.all fun w => !Unicode.sameLetter w '\n') = true := by
    decide
  simpa only [List.all_eq_true, Bool.not_eq_true'] using checked

/-- Dropping one of several words from a line does not depend on what follows the line. -/
theorem dropAnyFolded?_append {words : List (List Char)}
    (noNewline : ∀ word ∈ words, ∀ w ∈ word, Unicode.sameLetter w '\n' = false)
    (text : List Char) {back : List Char} (ends : Text.endsLine back = true) :
    dropAnyFolded? words (text ++ back) = (dropAnyFolded? words text).map (· ++ back) := by
  induction words with
  | nil => rfl
  | cons word words ih =>
      have wordDropped := Unicode.dropFolded?_append (noNewline word List.mem_cons_self) text ends
      have laterDropped := ih fun later mem => noNewline later (List.mem_cons_of_mem word mem)
      simp only [dropAnyFolded?, List.findSome?_cons] at laterDropped ⊢
      rw [wordDropped, laterDropped]
      cases Unicode.dropFolded? word text <;> rfl

/-- A qualifier of a line is still one when the next line follows. -/
theorem dropQualifier?_append {text rest back : List Char} (ends : Text.endsLine back = true)
    (found : dropQualifier? text = some rest) :
    dropQualifier? (text ++ back) = some (rest ++ back) := by
  cases text with
  | nil => simp [dropQualifier?] at found
  | cons c text =>
      simp only [dropQualifier?] at found
      split at found <;> rename_i blank
      · have notAllBlank : text.dropWhile Unicode.isBlank ≠ [] := by
          intro allBlank
          have none : dropAnyFolded? qualifiers [] = none := rfl
          rw [allBlank, none] at found
          simp at found
        have skipped : (text ++ back).dropWhile Unicode.isBlank =
            text.dropWhile Unicode.isBlank ++ back := by
          rw [List.dropWhile_append, if_neg (by simpa using notAllBlank)]
        have noNewline : ∀ word ∈ qualifiers, ∀ w ∈ word, Unicode.sameLetter w '\n' = false :=
          fun word mem => openerWords_noNewline word (List.mem_append_right keywords mem)
        rw [List.cons_append, dropQualifier?, if_pos blank, skipped,
          dropAnyFolded?_append noNewline _ ends, found]
        rfl
      · simp at found

/-- A bracket or the end of a line is still there when the next line follows. -/
theorem isSome_dropBracket?_append {text back : List Char} (ends : Text.endsLine back = true)
    (found : (dropBracket? text).isSome = true) :
    (dropBracket? (text ++ back)).isSome = true := by
  unfold dropBracket? at found ⊢
  rw [List.dropWhile_append]
  cases skipped : text.dropWhile fun c => c == ' ' || c == '\t' with
  | nil =>
      rcases Text.endsLine_cases ends with rfl | ⟨rest, rfl⟩
      · rfl
      · simp
  | cons c rest =>
      rw [skipped] at found
      rw [if_neg (by simp)]
      simp only [List.cons_append] at found ⊢
      split_ifs at found ⊢ <;> simp_all

theorem tail?_of_qualified {text rest : List Char} (qualified : dropQualifier? text = some rest) :
    tail? text = (tail? rest).or (dropBracket? text) := by
  rw [tail?]
  split <;> simp_all

theorem tail?_of_unqualified {text : List Char} (unqualified : dropQualifier? text = none) :
    tail? text = dropBracket? text := by
  rw [tail?]
  split <;> simp_all

/-- Qualifiers are optional, so a bracket or the end of the line is enough. -/
theorem isSome_tail?_of_dropBracket? {text : List Char}
    (bracket : (dropBracket? text).isSome = true) : (tail? text).isSome = true := by
  cases qualified : dropQualifier? text with
  | none => rwa [tail?_of_unqualified qualified]
  | some rest => simp [tail?_of_qualified qualified, bracket]

/-- The end of an opener in a line is still one when the next line follows. -/
theorem isSome_tail?_append {text back : List Char} (ends : Text.endsLine back = true)
    (found : (tail? text).isSome = true) : (tail? (text ++ back)).isSome = true := by
  fun_induction tail? text with
  | case1 text rest qualified ih =>
      simp only [Option.orElse_eq_orElse, Option.orElse_eq_or, Option.isSome_or,
        Bool.or_eq_true] at found
      rcases found with later | bracket
      · simp [tail?_of_qualified (dropQualifier?_append ends qualified), ih later]
      · exact isSome_tail?_of_dropBracket? (isSome_dropBracket?_append ends bracket)
  | case2 text qualified =>
      exact isSome_tail?_of_dropBracket? (isSome_dropBracket?_append ends found)

/-- An opener at the front of a line is still one when the next line follows. -/
theorem isSome_ofFront?_append {text back : List Char} (ends : Text.endsLine back = true)
    (found : (Opener.ofFront? text).isSome = true) :
    (Opener.ofFront? (text ++ back)).isSome = true := by
  rw [Opener.ofFront?, List.isSome_findSome?, List.any_eq_true] at found ⊢
  rcases found with ⟨keyword, keywordMem, read⟩
  refine ⟨keyword, keywordMem, ?_⟩
  have noNewline := openerWords_noNewline keyword (List.mem_append_left qualifiers keywordMem)
  rw [Unicode.dropFolded?_append noNewline text ends]
  cases dropped : Unicode.dropFolded? keyword text with
  | none => simp [dropped] at read
  | some after =>
      have ended : (tail? after).isSome = true := by
        cases ended : tail? after <;> simp_all
      rcases Option.isSome_iff_exists.1 (isSome_tail?_append ends ended) with ⟨rest, ended'⟩
      simp [ended']

end Assembly

/-- Somewhere in a text that follows the character `before`, an opener begins. -/
inductive OpenerAhead : Option Char → List Char → Prop where
  | here {before : Option Char} {text : List Char}
      (opens : (openerAt? before text).isSome = true) : OpenerAhead before text
  | later {before : Option Char} {c : Char} {rest : List Char}
      (ahead : OpenerAhead (some c) rest) : OpenerAhead before (c :: rest)

/-- The opener at a place of a line is an opener at that place of the text. -/
theorem isSome_openerAt?_append {before : Option Char} {text back : List Char}
    (ends : Text.endsLine back = true)
    (found : (Assembly.Opener.at? (startsLine before) text).isSome = true) :
    (openerAt? before (text ++ back)).isSome = true := by
  simp only [Assembly.Opener.at?, Option.orElse_eq_orElse, Option.orElse_eq_or, Option.isSome_or,
    Bool.or_eq_true] at found
  simp only [openerAt?, Option.orElse_eq_orElse, Option.orElse_eq_or, Option.isSome_or,
    Bool.or_eq_true]
  rcases found with front | afterOther
  · left
    split at front <;> rename_i start
    · simpa [start] using Assembly.isSome_ofFront?_append ends front
    · simp at front
  · right
    cases text with
    | nil => simp at afterOther
    | cons c rest =>
        simp only [List.cons_append] at afterOther ⊢
        split at afterOther <;> rename_i isWord
        · simp at afterOther
        · simpa [isWord] using Assembly.isSome_ofFront?_append ends afterOther

namespace OpenerAhead

/-- An opener that is found in a line lies ahead at the start of the line. -/
theorem of_find? {before : Option Char} {line back : List Char} (ends : Text.endsLine back = true)
    (found : (Assembly.Opener.find? (startsLine before) line).isSome = true) :
    OpenerAhead before (line ++ back) := by
  induction line generalizing before with
  | nil => exact .here (isSome_openerAt?_append ends found)
  | cons c rest ih =>
      simp only [Assembly.Opener.find?, Option.orElse_eq_orElse, Option.orElse_eq_or,
        Option.isSome_or, Bool.or_eq_true] at found
      rcases found with here | later
      · exact .here (isSome_openerAt?_append ends here)
      · exact .later (ih later)

theorem append_newline {before : Option Char} {rest : List Char} (front : List Char)
    (ahead : OpenerAhead (some '\n') rest) : OpenerAhead before (front ++ '\n' :: rest) := by
  induction front generalizing before with
  | nil => exact .later ahead
  | cons c front ih => exact .later ih

/-- An opener that is found in some line lies ahead at the start of the text. -/
theorem of_mem_lines {text line : List Char} (mem : line ∈ Text.lines text)
    (found : (Assembly.Opener.find? true line).isSome = true) : OpenerAhead none text := by
  rcases Text.exists_lines_eq_cons text with ⟨first, later, same⟩
  rcases Text.lines_stand same with ⟨⟨back, whole, ends⟩, stand⟩
  rw [same] at mem
  rcases List.mem_cons.1 mem with rfl | laterMem
  · rw [whole]
    exact of_find? ends found
  · rcases stand line laterMem with ⟨front, back, whole, ends⟩
    rw [whole]
    exact append_newline front (of_find? ends found)

/-- Word characters cannot be the beginning of an opener, once a word has begun. -/
theorem skip_word {before : Char} {word rest : List Char} (isWord : Unicode.isWord before = true)
    (areWords : ∀ c ∈ word, Unicode.isWord c = true)
    (ahead : OpenerAhead (some before) (word ++ rest)) :
    OpenerAhead (before :: word).getLast? rest := by
  induction word generalizing before with
  | nil => exact ahead
  | cons c word ih =>
      have nextIsWord := areWords c List.mem_cons_self
      rw [List.getLast?_cons_cons]
      apply ih nextIsWord (fun d mem => areWords d (List.mem_cons_of_mem c mem))
      rcases ahead with opens | ahead
      · have notNewline : before ≠ '\n' := by
          rintro rfl
          simp [Unicode.isWord, Unicode.isAsciiWord] at isWord
        simp [openerAt?, startsLine, notNewline, nextIsWord] at opens
      · exact ahead

theorem not_nil {before : Option Char} : ¬OpenerAhead before [] := by
  intro ahead
  rcases ahead with opens | _
  rcases Option.isSome_iff_exists.1 opens with ⟨found, front⟩
  have shorter := (openerAt?_isFrontOf front).length_rest_lt
  simp at shorter

/-- If all keys are words, the search reads an opener when one lies ahead. -/
theorem exists_assembly_match {keys : List (List Char)} {before : Option Char} {text : List Char}
    (areWords : ∀ key ∈ keys, ∀ c ∈ key, Unicode.isWord c = true) (line : Nat)
    (ahead : OpenerAhead before text) :
    ∃ placed ∈ (sourceMatcher keys).matchesFrom before line text,
      placed.found.kind = .assembly := by
  fun_induction Matcher.matchesFrom (sourceMatcher keys) before line text with
  | case1 => exact absurd ahead not_nil
  | case2 before line c rest found front ih =>
      have isFront := (sourceMatcher keys).isFront front
      simp only [sourceMatcher, Option.orElse_eq_orElse, Option.orElse_eq_or,
        Option.or_eq_some_iff] at front
      rcases front with opener | ⟨noOpener, rule⟩
      · exact ⟨_, List.mem_cons_self, kind_of_openerAt? opener⟩
      · -- A rule key is read: the opener can only begin behind it.
        rcases eq_of_sourceRuleAt? rule with ⟨key, keyMem, after, rfl⟩
        rcases ahead with opens | ahead
        · simp [noOpener] at opens
        · rcases isFront with ⟨whole, nonempty⟩
          simp only [Match.read, List.nil_append, List.append_nil] at whole nonempty ih ⊢
          rcases List.exists_cons_of_ne_nil nonempty with ⟨first, word, rfl⟩
          rw [List.cons_append, List.cons.injEq] at whole
          rcases whole with ⟨rfl, rfl⟩
          have keyIsWord := areWords (c :: word) keyMem
          have behind := ahead.skip_word (keyIsWord c List.mem_cons_self)
            (fun d mem => keyIsWord d (List.mem_cons_of_mem c mem))
          rcases ih behind with ⟨placed, placedMem, kind⟩
          exact ⟨placed, List.mem_cons_of_mem _ placedMem, kind⟩
  | case3 before line c rest front ih =>
      simp only [sourceMatcher, Option.orElse_eq_orElse, Option.orElse_eq_or,
        Option.or_eq_none_iff] at front
      rcases ahead with opens | ahead
      · simp [front.1] at opens
      · exact ih ahead

end OpenerAhead

end CrossArch
