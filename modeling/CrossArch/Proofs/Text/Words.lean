import CrossArch.Proofs.Text.Line
import CrossArch.Unicode.Word

/-!
# The words of a text

A word is a maximal run of word characters: it begins where a word character follows a character
that is none, or the start of the text, and it goes on as long as word characters follow. Words are
read off the places of a text. Passing over a piece of the text then means that no word begins in
it, or that it is a word of its own.
-/

namespace CrossArch.Text

/-- A maximal run of word characters, with the number of its line. -/
structure Word where
  letters : List Char
  line : Nat

/-- The word that begins between two parts of a text. -/
def Word.between? (front back : List Char) : Option Word :=
  if !Unicode.touchesWord front.getLast? && Unicode.touchesWord back.head? then
    some ⟨back.takeWhile Unicode.isWord, newlines front + 1⟩
  else none

/-- The words that begin behind `front`, in order. -/
def wordsBehind (front back : List Char) : List Word :=
  (List.range back.length).filterMap fun place =>
    Word.between? (front ++ back.take place) (back.drop place)

/-- The words of a text, in order. -/
def words (text : List Char) : List Word :=
  wordsBehind [] text

/-- The words from a place on are the one that begins there and those that begin later. -/
theorem wordsBehind_cons (front : List Char) (c : Char) (rest : List Char) :
    wordsBehind front (c :: rest) =
      (Word.between? front (c :: rest)).toList ++ wordsBehind (front ++ [c]) rest := by
  have later : ((List.range rest.length).map Nat.succ).filterMap (fun place =>
      Word.between? (front ++ (c :: rest).take place) ((c :: rest).drop place)) =
        wordsBehind (front ++ [c]) rest := by
    rw [List.filterMap_map, wordsBehind]
    apply List.filterMap_congr
    intro place _
    simp
  rw [wordsBehind, List.length_cons, List.range_succ_eq_map, List.filterMap_cons, later,
    List.take_zero, List.drop_zero, List.append_nil]
  cases Word.between? front (c :: rest) <;> rfl

/-- A word begins with a word character. -/
theorem touchesWord_head?_of_mem {word : Word} {front back : List Char}
    (mem : word ∈ wordsBehind front back) : Unicode.touchesWord word.letters.head? = true := by
  rcases List.mem_filterMap.1 mem with ⟨place, -, begins⟩
  rw [Word.between?] at begins
  split at begins <;> rename_i edges
  · cases begins
    rw [Bool.and_eq_true] at edges
    cases rest : back.drop place with
    | nil => simp [rest, Unicode.touchesWord] at edges
    | cons c rest' =>
        rw [rest] at edges
        have isWord : Unicode.isWord c = true := edges.2
        simp [Unicode.touchesWord, isWord]
  · simp at begins

section Passing

variable {front : List Char}

/-- No word begins at a character that is no word character. -/
theorem wordsBehind_of_not_isWord {piece : List Char}
    (notWords : ∀ c ∈ piece, Unicode.isWord c = false) (rest : List Char) :
    wordsBehind front (piece ++ rest) = wordsBehind (front ++ piece) rest := by
  induction piece generalizing front with
  | nil => simp
  | cons c piece ih =>
      rw [List.forall_mem_cons] at notWords
      have nothing : Word.between? front (c :: (piece ++ rest)) = none := by
        simp [Word.between?, Unicode.touchesWord, notWords.1]
      rw [List.cons_append, wordsBehind_cons, nothing, ih notWords.2]
      simp

/-- No word begins inside a word. -/
theorem wordsBehind_of_inside {piece : List Char}
    (inside : Unicode.touchesWord front.getLast? = true)
    (areWords : ∀ c ∈ piece, Unicode.isWord c = true) (rest : List Char) :
    wordsBehind front (piece ++ rest) = wordsBehind (front ++ piece) rest := by
  induction piece generalizing front with
  | nil => simp
  | cons c piece ih =>
      rw [List.forall_mem_cons] at areWords
      have nothing : Word.between? front (c :: (piece ++ rest)) = none := by
        simp [Word.between?, inside]
      have inside' : Unicode.touchesWord (front ++ [c]).getLast? = true := by
        simp [Unicode.touchesWord, areWords.1]
      rw [List.cons_append, wordsBehind_cons, nothing, ih inside' areWords.2]
      simp

/-- Word characters between characters that are none are one word. -/
theorem wordsBehind_of_word {piece rest : List Char}
    (outside : Unicode.touchesWord front.getLast? = false) (nonempty : piece ≠ [])
    (areWords : ∀ c ∈ piece, Unicode.isWord c = true)
    (stops : Unicode.touchesWord rest.head? = false) :
    wordsBehind front (piece ++ rest) =
      ⟨piece, newlines front + 1⟩ :: wordsBehind (front ++ piece) rest := by
  have letters : (piece ++ rest).takeWhile Unicode.isWord = piece := by
    rw [List.takeWhile_append_of_pos areWords]
    cases rest with
    | nil => simp
    | cons c rest =>
        have notWord : Unicode.isWord c = false := stops
        simp [notWord]
  cases piece with
  | nil => contradiction
  | cons c piece =>
      rw [List.forall_mem_cons] at areWords
      have begins : Word.between? front (c :: (piece ++ rest)) =
          some ⟨c :: piece, newlines front + 1⟩ := by
        rw [← List.cons_append, Word.between?, letters, outside]
        simp [Unicode.touchesWord, areWords.1]
      have inside : Unicode.touchesWord (front ++ [c]).getLast? = true := by
        simp [Unicode.touchesWord, areWords.1]
      rw [List.cons_append, wordsBehind_cons, begins, wordsBehind_of_inside inside areWords.2]
      simp

end Passing

end CrossArch.Text
