import CrossArch.Proofs.Assembly.Awaiting
import CrossArch.Proofs.Assembly.OpenerWords
import CrossArch.Proofs.Hit.Opener

/-!
# Openers before a carriage return

An opener ends with a bracket or with its line. A carriage return at the end of the line is nothing
to an opener with a bracket, since the line only goes on behind it. An opener that ends with its
line is no longer one: the carriage return is neither a space nor the end of the line. So of the
openers of a line, those remain that have a bracket on it.
-/

namespace CrossArch.Assembly

/-- Whether a character is no quote and opens no bracket. -/
def isPlain (c : Char) : Bool :=
  c != '"' && c != '(' && c != '\x7b'

theorem isPlain_iff {c : Char} : isPlain c = true ↔ c ≠ '"' ∧ c ≠ '(' ∧ c ≠ '\x7b' := by
  simp [isPlain, and_assoc]

theorem isPlain_of_isWord {c : Char} (word : Unicode.isWord c = true) : isPlain c = true := by
  rw [isPlain_iff]
  refine ⟨?_, ?_, ?_⟩
  all_goals
    rintro rfl
    exact absurd word (by decide)

theorem isPlain_of_isBlank {c : Char} (blank : Unicode.isBlank c = true) : isPlain c = true := by
  rw [isPlain_iff]
  refine ⟨?_, ?_, ?_⟩
  all_goals
    rintro rfl
    exact absurd blank (by decide)

/-- Plain characters open no bracket and hide none. -/
theorem opensBracket_append_of_plain {piece : List Char} (plain : ∀ c ∈ piece, isPlain c = true)
    (text : List Char) : opensBracket (piece ++ text) = opensBracket text := by
  induction piece with
  | nil => rfl
  | cons c piece ih =>
      rw [List.forall_mem_cons, isPlain_iff] at plain
      rcases plain with ⟨⟨notQuote, notRound, notCurly⟩, plain⟩
      rw [List.cons_append, opensBracket_cons notQuote, ih plain]
      simp [notRound, notCurly]

theorem opensBracket_of_plain {text : List Char} (plain : ∀ c ∈ text, isPlain c = true) :
    opensBracket text = false := by
  rw [← List.append_nil text, opensBracket_append_of_plain plain, opensBracket_nil]

section Return

variable {text rest : List Char}

/-- No word of an opener goes on with a carriage return. -/
theorem dropFolded?_append_return {word : List Char} (mem : word ∈ keywords ++ qualifiers)
    (text : List Char) :
    Unicode.dropFolded? word (text ++ ['\r']) =
      (Unicode.dropFolded? word text).map (· ++ ['\r']) := by
  apply Unicode.dropFolded?_append_of_foreign
  rintro w letterMem c ⟨⟩
  rw [← Bool.not_eq_true]
  intro same
  have plain := List.all_eq_true.1 (openerWords_plain word mem).2 w letterMem
  exact absurd (Unicode.isWord_of_sameLetter plain same) (by decide)

theorem dropQualifier?_append_return (text : List Char) :
    dropQualifier? (text ++ ['\r']) = (dropQualifier? text).map (· ++ ['\r']) := by
  have nothing : dropAnyFolded? qualifiers [] = none := rfl
  have blank : Unicode.isBlank '\r' = true := by decide
  cases text with
  | nil => rfl
  | cons c text =>
      rw [List.cons_append, dropQualifier?, dropQualifier?]
      split
      · rw [List.dropWhile_append, List.dropWhile_cons_of_pos blank]
        split <;> rename_i allBlank
        · rw [List.isEmpty_iff.1 allBlank]
          rfl
        · apply findSome?_eq_map
          intro word mem
          exact dropFolded?_append_return (List.mem_append_right keywords mem) _
      · rfl

/-- What can follow a keyword and its qualifiers in a line: the end of the line, a bracket, or
neither. Only a bracket is still found before a carriage return. -/
theorem dropBracket?_cases (noNewline : '\n' ∉ text) :
    ((∀ c ∈ text, isPlain c = true) ∧ dropBracket? text = some [] ∧
        dropBracket? (text ++ ['\r']) = none) ∨
      (∃ after, opensBracket text = true ∧ dropBracket? text = some after ∧
        dropBracket? (text ++ ['\r']) = some (after ++ ['\r'])) ∨
      dropBracket? text = none ∧ dropBracket? (text ++ ['\r']) = none := by
  rcases exists_spaces text with ⟨spaces, whole, areBlank⟩
  have plain : ∀ c ∈ spaces, isPlain c = true := fun c mem => isPlain_of_isBlank (areBlank c mem)
  unfold dropBracket?
  rw [List.dropWhile_append]
  cases tail : text.dropWhile fun c => c == ' ' || c == '\t' with
  | nil =>
      left
      rw [tail, List.append_nil] at whole
      rw [whole]
      exact ⟨plain, rfl, rfl⟩
  | cons c after =>
      rw [tail] at whole
      have notNewline : c ≠ '\n' := by
        rintro rfl
        exact noNewline (whole ▸ List.mem_append_right spaces List.mem_cons_self)
      right
      by_cases bracket : c = '(' ∨ c = '\x7b'
      · left
        refine ⟨after, ?_, if_pos bracket, if_pos bracket⟩
        have notQuote : c ≠ '"' := by
          rcases bracket with rfl | rfl <;> decide
        rw [whole, opensBracket_append_of_plain plain, opensBracket_cons notQuote,
          decide_eq_true bracket, Bool.true_or]
      · right
        simp [bracket, notNewline]

theorem dropBracket?_append_return (noNewline : '\n' ∉ text) :
    dropBracket? (text ++ ['\r']) =
      if opensBracket text then (dropBracket? text).map (· ++ ['\r']) else none := by
  rcases dropBracket?_cases noNewline with
    ⟨plain, -, gone⟩ | ⟨after, opens, here, there⟩ | ⟨no, no'⟩
  · rw [gone, opensBracket_of_plain plain]
    rfl
  · rw [there, opens, here]
    rfl
  · rw [no', no]
    simp

/-- A qualifier and the blanks before it neither open nor hide a bracket. -/
theorem plain_of_dropQualifier? {after : List Char} (qualified : dropQualifier? text = some after) :
    ∃ piece, text = piece ++ after ∧ ∀ c ∈ piece, isPlain c = true := by
  rcases parts_of_dropQualifier? qualified with ⟨c, blanks, read, rfl, areBlank, word⟩
  refine ⟨c :: blanks ++ read, (List.append_assoc _ _ _).symm, ?_⟩
  intro d mem
  rcases List.mem_append.1 mem with isBlank | isWord
  · exact isPlain_of_isBlank (areBlank d isBlank)
  · exact isPlain_of_isWord (word.isWord d isWord)

/-- Behind a keyword, a carriage return at the end of the line leaves only brackets. -/
theorem tail?_append_return (noNewline : '\n' ∉ text) :
    tail? (text ++ ['\r']) =
      if opensBracket text then (tail? text).map (· ++ ['\r']) else none := by
  have qualified' := dropQualifier?_append_return text
  have bracket' := dropBracket?_append_return noNewline
  fun_induction tail? text with
  | case1 text after qualified ih =>
      rcases plain_of_dropQualifier? qualified with ⟨piece, rfl, plain⟩
      have noNewline' : '\n' ∉ after := fun mem => noNewline (List.mem_append_right piece mem)
      rw [qualified, Option.map_some] at qualified'
      rw [tail?_of_qualified qualified', bracket',
        ih noNewline' (dropQualifier?_append_return after) (dropBracket?_append_return noNewline'),
        opensBracket_append_of_plain plain, Option.orElse_eq_orElse, Option.orElse_eq_or]
      cases opensBracket after with
      | false => rfl
      | true => cases tail? after <;> rfl
  | case2 text unqualified =>
      rw [unqualified, Option.map_none] at qualified'
      rw [tail?_of_unqualified qualified', bracket']

theorem plain_of_dropBracket? (noNewline : '\n' ∉ text) (found : dropBracket? text = some rest)
    (noBracket : opensBracket text = false) : ∀ c ∈ text, isPlain c = true := by
  rcases dropBracket?_cases noNewline with ⟨plain, -⟩ | ⟨after, opens, -⟩ | ⟨none, -⟩
  · exact plain
  · simp [noBracket] at opens
  · simp [none] at found

/-- An opener that ends with its line consists of plain characters. -/
theorem plain_of_tail? (noNewline : '\n' ∉ text) (found : tail? text = some rest)
    (noBracket : opensBracket text = false) : ∀ c ∈ text, isPlain c = true := by
  fun_induction tail? text with
  | case1 text after qualified ih =>
      simp only [Option.orElse_eq_orElse, Option.orElse_eq_or, Option.or_eq_some_iff] at found
      rcases found with later | ⟨-, bracket⟩
      · rcases plain_of_dropQualifier? qualified with ⟨piece, rfl, plain⟩
        rw [opensBracket_append_of_plain plain] at noBracket
        have plain' := ih (fun mem => noNewline (List.mem_append_right piece mem)) later noBracket
        intro c mem
        rcases List.mem_append.1 mem with here | behind
        · exact plain c here
        · exact plain' c behind
      · exact plain_of_dropBracket? noNewline bracket noBracket
  | case2 text unqualified => exact plain_of_dropBracket? noNewline found noBracket

end Return

namespace Opener

/-- An opener with a carriage return added to what follows it. -/
def addReturn (opener : Opener) : Opener :=
  ⟨opener.keyword, opener.afterKeyword ++ ['\r'], opener.rest ++ ['\r']⟩

/-- What is left of an opener when its line ends in a carriage return. -/
def beforeReturn? (opener : Opener) : Option Opener :=
  if opensBracket opener.afterKeyword then some opener.addReturn else none

variable {text : List Char} {opener : Opener}

theorem opensBracket_of_ofFront? (found : ofFront? text = some opener) :
    opensBracket opener.afterKeyword = opensBracket text := by
  rcases parts_of_ofFront? found with ⟨word, whole, -⟩
  rw [whole, opensBracket_append_of_plain fun c mem => isPlain_of_isWord (word.isWord c mem)]

/-- Reading an opener for one keyword, before a carriage return. -/
theorem readKeyword_append_return {keyword : List Char} (mem : keyword ∈ keywords)
    (noNewline : '\n' ∉ text) :
    (do
      let afterKeyword ← Unicode.dropFolded? keyword (text ++ ['\r'])
      let rest ← tail? afterKeyword
      return (⟨(text ++ ['\r']).take keyword.length, afterKeyword, rest⟩ : Opener)) =
    if opensBracket text then
      (do
        let afterKeyword ← Unicode.dropFolded? keyword text
        let rest ← tail? afterKeyword
        return (⟨text.take keyword.length, afterKeyword, rest⟩ : Opener)).map addReturn
    else none := by
  have isWord : keyword ∈ keywords ++ qualifiers := List.mem_append_left qualifiers mem
  rw [dropFolded?_append_return isWord]
  cases dropped : Unicode.dropFolded? keyword text with
  | none => simp
  | some after =>
      rcases Unicode.dropFolded?_eq_some_iff.1 dropped with ⟨read, same, rfl⟩
      have word : OpenerWord read := ⟨keyword, isWord, same⟩
      have noNewline' : '\n' ∉ after := fun mem => noNewline (List.mem_append_right read mem)
      have taken : (read ++ after ++ ['\r']).take keyword.length =
          (read ++ after).take keyword.length := by
        rw [same.length_eq, List.append_assoc, List.take_left, List.take_left]
      rw [opensBracket_append_of_plain fun c mem => isPlain_of_isWord (word.isWord c mem), taken]
      simp only [Option.map_some, Option.bind_eq_bind, Option.bind_some,
        tail?_append_return noNewline']
      cases opensBracket after with
      | false => rfl
      | true => cases tail? after <;> rfl

theorem ofFront?_append_return (noNewline : '\n' ∉ text) :
    ofFront? (text ++ ['\r']) = (ofFront? text).bind beforeReturn? := by
  have kept : (ofFront? text).bind beforeReturn? =
      if opensBracket text then (ofFront? text).map addReturn else none := by
    cases found : ofFront? text with
    | none => simp
    | some opener =>
        rw [Option.bind_some, beforeReturn?, opensBracket_of_ofFront? found]
        rfl
  rw [kept]
  cases opens : opensBracket text with
  | false =>
      apply List.findSome?_eq_none_iff.2
      intro keyword mem
      rw [readKeyword_append_return mem noNewline, opens]
      rfl
  | true =>
      apply findSome?_eq_map
      intro keyword mem
      rw [readKeyword_append_return mem noNewline, opens]
      rfl

/-- Without brackets nothing is left of the openers of a text. -/
theorem ofFront?_return_of_plain (noNewline : '\n' ∉ text) (plain : ∀ c ∈ text, isPlain c = true) :
    ofFront? (text ++ ['\r']) = none := by
  rw [ofFront?_append_return noNewline]
  cases found : ofFront? text with
  | none => rfl
  | some opener =>
      rw [Option.bind_some, beforeReturn?, opensBracket_of_ofFront? found,
        opensBracket_of_plain plain]
      rfl

theorem find?_return_of_plain (lineStart : Bool) (noNewline : '\n' ∉ text)
    (plain : ∀ c ∈ text, isPlain c = true) : find? lineStart (text ++ ['\r']) = none := by
  induction text generalizing lineStart with
  | nil => cases lineStart <;> rfl
  | cons c rest ih =>
      have front := ofFront?_return_of_plain noNewline plain
      rw [List.forall_mem_cons] at plain
      rw [List.mem_cons, not_or] at noNewline
      rw [List.cons_append] at front ⊢
      rw [find?, at?_cons, front, ofFront?_return_of_plain noNewline.2 plain.2, ite_self, ite_self,
        ih _ noNewline.2 plain.2]
      rfl

/-- An opener that is lost before a carriage return ends with its line, so no bracket opens in
it. -/
theorem plain_of_ofFront? (noNewline : '\n' ∉ text) (found : ofFront? text = some opener)
    (lost : opener.beforeReturn? = none) : ∀ c ∈ text, isPlain c = true := by
  rcases parts_of_ofFront? found with ⟨word, rfl, tail⟩
  have noBracket : opensBracket opener.afterKeyword = false := by
    rw [beforeReturn?] at lost
    split at lost
    · simp at lost
    · rename_i noBracket
      exact Bool.eq_false_iff.2 noBracket
  intro c mem
  rcases List.mem_append.1 mem with inKeyword | behind
  · exact isPlain_of_isWord (word.isWord c inKeyword)
  · exact plain_of_tail? (fun mem => noNewline (List.mem_append_right _ mem)) tail noBracket c
      behind

/-- An opener at a place that is lost before a carriage return leaves only plain characters
behind. -/
theorem plain_of_at? {lineStart : Bool} {c : Char} {rest : List Char} (noNewline : '\n' ∉ c :: rest)
    (found : at? lineStart (c :: rest) = some opener) (lost : opener.beforeReturn? = none) :
    ∀ d ∈ rest, isPlain d = true := by
  rw [at?_cons, Option.or_eq_some_iff] at found
  rcases found with front | ⟨-, behind⟩
  · split at front
    · intro d mem
      exact plain_of_ofFront? noNewline front lost d (List.mem_cons_of_mem c mem)
    · simp at front
  · split at behind
    · simp at behind
    · exact plain_of_ofFront? (fun mem => noNewline (List.mem_cons_of_mem c mem)) behind lost

theorem at?_append_return (lineStart : Bool) {c : Char} {rest : List Char}
    (noNewline : '\n' ∉ c :: rest) :
    at? lineStart (c :: rest ++ ['\r']) = (at? lineStart (c :: rest)).bind beforeReturn? := by
  have noNewline' : '\n' ∉ rest := fun mem => noNewline (List.mem_cons_of_mem c mem)
  have front := ofFront?_append_return noNewline
  rw [List.cons_append] at front ⊢
  rw [at?_cons, at?_cons, front]
  cases lineStart with
  | false =>
      rw [ofFront?_append_return noNewline']
      cases Unicode.isWord c <;> rfl
  | true =>
      cases found : ofFront? (c :: rest) with
      | none =>
          rw [ofFront?_append_return noNewline']
          cases Unicode.isWord c <;> rfl
      | some opener =>
          cases kept : opener.beforeReturn? with
          | some _ => simp [kept]
          | none =>
              have plain := plain_of_ofFront? noNewline found kept
              rw [List.forall_mem_cons] at plain
              rw [ofFront?_return_of_plain noNewline' plain.2]
              simp [kept]

/-- Of the openers of a line, those are found before a carriage return that have a bracket. -/
theorem find?_append_return (lineStart : Bool) (noNewline : '\n' ∉ text) :
    find? lineStart (text ++ ['\r']) = (find? lineStart text).bind beforeReturn? := by
  induction text generalizing lineStart with
  | nil => cases lineStart <;> rfl
  | cons c rest ih =>
      have here := at?_append_return lineStart noNewline
      have noNewline' : '\n' ∉ rest := fun mem => noNewline (List.mem_cons_of_mem c mem)
      rw [List.cons_append] at here ⊢
      simp only [find?, here, Option.orElse_eq_orElse, Option.orElse_eq_or]
      cases found : at? lineStart (c :: rest) with
      | none => exact ih _ noNewline'
      | some opener =>
          rw [Option.bind_some, Option.some_or, Option.bind_some]
          cases kept : opener.beforeReturn? with
          | some _ => rfl
          | none => exact find?_return_of_plain _ noNewline' (plain_of_at? noNewline found kept)

end Opener

end CrossArch.Assembly
