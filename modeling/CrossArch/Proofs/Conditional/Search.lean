import CrossArch.Proofs.Conditional.LineParse
import CrossArch.Proofs.Regex.Search
import CrossArch.Proofs.Text.Bytes

/-!
# The search for directives

The directives of a text are found by one search through all of it, and the results are the same as
if each line were read by itself. The pattern matches only where a line starts, and there it reads
what the line alone has: indentation, blanks and words end before a newline. Of the words, at most
one can stand at a place and end there at a word boundary, whatever the order in which they are
tried. The lines that are counted from match to match are those on which the matches start.
-/

namespace CrossArch.Directive

open Regex

/-- The characters that may indent a directive. -/
def indentSet : CharSet :=
  .unionAll [.single ' ', .single '\t', .single '\r', .single '\x0B', .single '\x0C']

/-- The characters that may stand between `#` and the word. -/
def gapSet : CharSet :=
  .unionAll [.single ' ', .single '\t']

/-- The expression of a word. -/
def wordRegex (word : List Char) : Regex :=
  .ofSets (word.map .single)

/-- What the pattern has from the word on. -/
def wordItems : List Regex :=
  [.group none (.anyOf (words.map wordRegex)), .assert (.wordBoundary .word)]

/-- The expression that the pattern of directives stands for. -/
def directiveRegex : Regex :=
  .sequence (.assert .lineStart :: .repeat (.char indentSet) 0 none true ::
    .char (.single '#') :: .repeat (.char gapSet) 0 none true :: wordItems)

theorem regex?_eq : regex? = some directiveRegex := by
  decide +kernel

theorem contains_indentSet : indentSet.contains = isIndent := by
  funext c
  simp [indentSet, CharSet.unionAll, CharSet.contains, contains_single, isIndent, Bool.or_assoc]

theorem contains_gapSet : gapSet.contains = isGap := by
  funext c
  simp [gapSet, CharSet.unionAll, CharSet.contains, contains_single, isGap]

section Word

variable {word start after : List Char}

theorem isWord_of_mem_words (mem : word ∈ words) : ∀ c ∈ word, Unicode.isWord c = true := by
  have checked : (words.all fun word => word.all Unicode.isWord) = true := by decide +kernel
  exact List.all_eq_true.1 (List.all_eq_true.1 checked word mem)

theorem ne_nil_of_mem_words (mem : word ∈ words) : word ≠ [] := by
  rintro rfl
  exact absurd mem (by decide)

/-- Behind a word there is a word boundary unless another word character follows. -/
theorem holds_wordBoundary_skip {place : TextPlace} (whole : place.rest = word ++ after)
    (mem : word ∈ words) :
    (Assertion.wordBoundary .word).holds (place.skip word.length) =
      !after.head?.any Unicode.isWord := by
  have isWord := isWord_of_mem_words mem
  have last : word.getLast?.any Unicode.isWord = true := by
    rw [List.getLast?_eq_some_getLast (ne_nil_of_mem_words mem), Option.any_some]
    exact isWord _ (List.getLast_mem _)
  have before : ((word.getLast?).or place.before).any Unicode.isWord = true := by
    rw [List.getLast?_eq_some_getLast (ne_nil_of_mem_words mem), Option.some_or] at *
    exact last
  simp only [Assertion.holds, TextPlace.skip, whole, List.take_left, List.drop_left]
  have sameSet : CharSet.word.contains = Unicode.isWord := rfl
  rw [sameSet, before]
  cases after.head?.any Unicode.isWord <;> rfl

end Word

/-- A word of a directive can be read where the word characters are just those of the word. -/
theorem run_wordRegex {thread : Thread} {word : List Char} (mem : word ∈ words) :
    ((wordRegex word).run thread fun closed =>
      (Regex.assert (.wordBoundary .word)).run (closed.capture none thread.place) some) =
      if word = thread.place.rest.takeWhile Unicode.isWord then
        some ((thread.skip word.length).capture none thread.place)
      else none := by
  rw [wordRegex, run_word]
  cases found : Text.after? word thread.place.rest with
  | some after =>
      have whole := Text.after?_eq_some_iff.1 found
      have holds := holds_wordBoundary_skip whole mem
      have place : ((thread.skip word.length).capture none thread.place).place =
          thread.place.skip word.length := rfl
      rw [Option.bind_some, Thread.upTo_eq_skip whole, Regex.run, place, holds]
      congr 1
      rw [Bool.not_eq_true', eq_iff_iff]
      constructor
      · intro ends
        have stops : ∀ c ∈ after.head?, Unicode.isWord c = false := by
          intro c first
          simpa [Option.mem_def.1 first] using ends
        rw [whole, Text.takeWhile_append_of_stops (isWord_of_mem_words mem) stops]
      · intro same
        rw [whole, List.takeWhile_append_of_pos (isWord_of_mem_words mem),
          List.self_eq_append_right] at same
        cases after with
        | nil => rfl
        | cons c after =>
            rw [List.head?_cons, Option.any_some, Bool.eq_false_iff]
            intro isWord
            simp [isWord] at same
  | none =>
      rw [Option.bind_none, if_neg]
      intro same
      have stands : Text.after? word thread.place.rest = some _ :=
        Text.after?_eq_some_iff.2 (same ▸ List.takeWhile_append_dropWhile.symm)
      rw [found] at stands
      cases stands

theorem run_wordItems (thread : Thread) :
    (sequence wordItems).run thread some =
      if thread.place.rest.takeWhile Unicode.isWord ∈ words then
        some ((thread.skip (thread.place.rest.takeWhile Unicode.isWord).length).capture none
          thread.place)
      else none := by
  have step : (sequence wordItems).run thread some =
      (anyOf (words.map wordRegex)).run thread fun closed =>
        (Regex.assert (.wordBoundary .word)).run (closed.capture none thread.place) some := rfl
  rw [step, run_anyOf, List.findSome?_map]
  apply findSome?_of_unique
  intro word mem
  rw [Function.comp_apply, run_wordRegex mem]
  split <;> rename_i same
  · rw [same]
  · rfl

/-- The blanks behind `#` are read as far as they go, since no word starts with a blank. -/
theorem run_gap (thread : Thread) :
    (Regex.repeat (char gapSet) 0 none true).run thread
        (fun middle => (sequence wordItems).run middle some) =
      (sequence wordItems).run (thread.skip (lengthIn gapSet thread.place.rest)) some := by
  apply run_star_of_stops
  intro later blank
  rw [run_wordItems, if_neg]
  have noWord : later.place.rest.takeWhile Unicode.isWord = [] := by
    cases ahead : later.place.rest with
    | nil => rfl
    | cons c rest =>
        rw [ahead, List.head?_cons, Option.any_some, contains_gapSet, isGap, Bool.or_eq_true,
          beq_iff_eq, beq_iff_eq] at blank
        have notWord : Unicode.isWord c = false := by
          rcases blank with rfl | rfl <;> decide
        simp [notWord]
  rw [noWord]
  decide

/-- What the pattern reads once a line has started. -/
theorem run_indent (thread : Thread) :
    (Regex.repeat (char indentSet) 0 none true).run thread (fun middle =>
        (char (.single '#')).run middle fun hash =>
          (Regex.repeat (char gapSet) 0 none true).run hash
            fun middle => (sequence wordItems).run middle some) =
      let hash := thread.skip (lengthIn indentSet thread.place.rest)
      if hash.place.rest.head? = some '#' then
        let behind := hash.skip 1
        (sequence wordItems).run (behind.skip (lengthIn gapSet behind.place.rest)) some
      else none := by
  have step : ∀ middle : Thread, ((char (.single '#')).run middle fun hash =>
      (Regex.repeat (char gapSet) 0 none true).run hash
        fun middle => (sequence wordItems).run middle some) =
      if middle.place.rest.head? = some '#' then
        let behind := middle.skip 1
        (sequence wordItems).run (behind.skip (lengthIn gapSet behind.place.rest)) some
      else none := by
    intro middle
    rw [run_char, run_gap]
    cases middle.place.rest with
    | nil => rfl
    | cons c rest => simp [contains_single]
  simp only [step]
  apply run_star_of_stops
  intro later indents
  rw [if_neg]
  intro hash
  rw [hash] at indents
  exact absurd indents (by decide)

/-- Where a word of a directive stands, the match ends behind it. -/
theorem run_ended (thread : Thread) {front word after : List Char}
    (whole : thread.place.rest = front ++ (word ++ after))
    (isWord : word = (word ++ after).takeWhile Unicode.isWord) :
    (sequence wordItems).run (thread.skip front.length) some =
      if word ∈ words then
        let ended := thread.skip (front ++ word).length
        some { ended with
          captures := ⟨none, thread.place.index + front.length, word⟩ :: thread.captures }
      else none := by
  have ahead : (thread.skip front.length).place.rest = word ++ after := by
    simp [whole]
  rw [run_wordItems, ahead, ← isWord]
  simp [Thread.capture, whole, ← Nat.add_assoc]

/-- The match of a line, if the line is a directive. So many characters and bytes stand before. -/
def lineFound? (index offset : Nat) (line : List Char) : Option Found :=
  (word? line).bind fun parts =>
    if words.contains parts.1 then
      let read := line.take (line.length - parts.2.length)
      some ⟨index, offset, read, [⟨none, index + (read.length - parts.1.length), parts.1⟩]⟩
    else none

theorem lineFound?_of_cut {index offset : Nat} {front word after : List Char}
    (parts : word? (front ++ (word ++ after)) = some (word, after)) :
    lineFound? index offset (front ++ (word ++ after)) =
      if word ∈ words then
        some ⟨index, offset, front ++ word, [⟨none, index + front.length, word⟩]⟩
      else none := by
  have length : (front ++ (word ++ after)).length - after.length = (front ++ word).length := by
    simp only [List.length_append]
    omega
  have start : (front ++ word).length - word.length = front.length := by simp
  simp only [lineFound?, parts, Option.bind_some, length]
  rw [← List.append_assoc, List.take_left, start]
  by_cases mem : word ∈ words <;> simp [mem]

theorem exists_cut_of_hash {text rest : List Char}
    (dropped : text.dropWhile isIndent = '#' :: rest) :
    ∃ front word after, text = front ++ (word ++ after) ∧
      word = (word ++ after).takeWhile Unicode.isWord ∧
      word? text = some (word, after) ∧
      lengthIn indentSet text + 1 + lengthIn gapSet rest = front.length := by
  have split : (rest.dropWhile isGap).takeWhile Unicode.isWord ++
      (rest.dropWhile isGap).dropWhile Unicode.isWord = rest.dropWhile isGap :=
    List.takeWhile_append_dropWhile
  refine ⟨text.takeWhile isIndent ++ '#' :: rest.takeWhile isGap,
    (rest.dropWhile isGap).takeWhile Unicode.isWord,
    (rest.dropWhile isGap).dropWhile Unicode.isWord, ?_, ?_, ?_, ?_⟩
  · rw [split, List.append_assoc, List.cons_append, List.takeWhile_append_dropWhile, ← dropped,
      List.takeWhile_append_dropWhile]
  · rw [split]
  · simp only [word?, dropped]
  · simp only [lengthIn, contains_indentSet, contains_gapSet, List.length_append, List.length_cons]
    omega

/-- Where a line starts, the pattern matches what the line has, and it matches nowhere else. -/
theorem foundAt?_eq (index offset : Nat) (before : Option Char) (text : List Char) :
    directiveRegex.foundAt? offset ⟨index, before, text⟩ =
      if before.all (· == '\n') then lineFound? index offset text else none := by
  have start : directiveRegex.matchAt? ⟨index, before, text⟩ =
      if before.all (· == '\n') then
        (Regex.repeat (char indentSet) 0 none true).run ⟨⟨index, before, text⟩, []⟩ fun middle =>
          (char (.single '#')).run middle fun hash =>
            (Regex.repeat (char gapSet) 0 none true).run hash
              fun middle => (sequence wordItems).run middle some
      else none := rfl
  rw [foundAt?, start]
  by_cases atStart : before.all (· == '\n') = true
  · rw [if_pos atStart, if_pos atStart, run_indent]
    simp only [Thread.skip_skip, Thread.place_skip, TextPlace.rest_skip, drop_lengthIn,
      contains_indentSet]
    cases dropped : text.dropWhile isIndent with
    | nil => simp [lineFound?, word?, dropped]
    | cons c rest =>
        by_cases hash : c = '#'
        · subst c
          have behind : text.drop (lengthIn indentSet text + 1) = rest := by
            rw [← List.drop_drop, drop_lengthIn, contains_indentSet, dropped]
            rfl
          rcases exists_cut_of_hash dropped with ⟨front, word, after, rfl, isWord, parts, length⟩
          have ended := run_ended ⟨⟨index, before, front ++ (word ++ after)⟩, []⟩ rfl isWord
          simp only [List.head?_cons, if_true, behind, length, ended, lineFound?_of_cut parts]
          by_cases mem : word ∈ words
          · have nonempty : (front ++ word).isEmpty = false := by
              simp [ne_nil_of_mem_words mem]
            simp only [if_pos mem, Option.bind_some, Thread.place_skip, TextPlace.index_skip,
              Nat.add_sub_cancel_left, ← List.append_assoc front, List.take_left, nonempty]
            rfl
          · rw [if_neg mem, if_neg mem]
            rfl
        · simp [lineFound?, word?, dropped, hash]
  · rw [if_neg atStart, if_neg atStart]
    rfl

theorem lineFound?_append_newline (index offset : Nat) (line back : List Char) :
    lineFound? index offset (line ++ '\n' :: back) = lineFound? index offset line := by
  rw [lineFound?, lineFound?, word?_append_newline]
  cases found : word? line with
  | none => rfl
  | some parts =>
      rcases lineForm_of_word? found with ⟨indent, gap, form⟩
      have fits : line.length = (line.length - parts.2.length) + parts.2.length := by
        simp only [form.parts, List.length_append, List.length_cons]
        omega
      have length : (line ++ '\n' :: back).length - (parts.2 ++ '\n' :: back).length =
          line.length - parts.2.length := by
        simp only [List.length_append]
        omega
      simp only [Option.map_some, Option.bind_some, length]
      rw [List.take_append_of_le_length (by omega)]

/-- The first line alone decides what the pattern matches at the start of a text. -/
theorem lineFound?_of_lines {text line : List Char} {later : List (List Char)}
    (same : Text.lines text = line :: later) (index offset : Nat) :
    lineFound? index offset text = lineFound? index offset line := by
  rcases (Text.lines_stand same).1 with ⟨back, rfl, ends⟩
  rcases Text.endsLine_cases ends with rfl | ⟨rest, rfl⟩
  · rw [List.append_nil]
  · exact lineFound?_append_newline index offset line rest

theorem length_read_le {index offset : Nat} {line : List Char} {found : Found}
    (matched : lineFound? index offset line = some found) : found.read.length ≤ line.length := by
  rw [lineFound?, Option.bind_eq_some_iff] at matched
  rcases matched with ⟨parts, -, inWords⟩
  split at inWords
  · cases inWords
    exact List.length_take_le' _ _
  · cases inWords

/-- The matches of lines. So many characters and bytes stand before the first line. -/
def lineMatches (index offset : Nat) : List (List Char) → List Found
  | [] => []
  | line :: later =>
    (lineFound? index offset line).toList ++
      lineMatches (index + line.length + 1) (offset + Text.byteLength line + 1) later

section Step

variable {index offset : Nat} {before : Option Char} {c : Char} {rest next : List Char}
  {after : List Found}

/-- No directive is found at a newline. -/
theorem searchFrom_newline :
    directiveRegex.searchFrom index offset before 0 ('\n' :: rest) =
      directiveRegex.searchFrom (index + 1) (offset + 1) (some '\n') 0 rest := by
  apply searchFrom_cons_of_none
  rw [foundAt?_eq]
  split <;> rfl

/-- At the start of a line the directive of the line is found, and the search goes on inside it. -/
theorem searchFrom_line (atStart : before.all (· == '\n') = true)
    (decided : lineFound? index offset (c :: rest) = lineFound? index offset (c :: next))
    (further : ∀ covered ≤ next.length,
      directiveRegex.searchFrom (index + 1) (offset + c.utf8Size) (some c) covered rest = after) :
    directiveRegex.searchFrom index offset before 0 (c :: rest) =
      (lineFound? index offset (c :: next)).toList ++ after := by
  have matched : directiveRegex.foundAt? offset ⟨index, before, c :: rest⟩ =
      lineFound? index offset (c :: next) := by
    rw [foundAt?_eq, if_pos atStart, decided]
  cases found : lineFound? index offset (c :: next) with
  | none =>
      rw [searchFrom_cons_of_none (matched.trans found), further 0 (Nat.zero_le _)]
      rfl
  | some read =>
      have inLine := length_read_le found
      rw [List.length_cons] at inLine
      rw [searchFrom_cons_of_some (matched.trans found), further _ (by omega)]
      rfl

/-- Inside a line nothing is found. -/
theorem searchFrom_inside (inside : before.all (· == '\n') = false)
    (further : ∀ covered ≤ next.length,
      directiveRegex.searchFrom (index + 1) (offset + c.utf8Size) (some c) covered rest = after) :
    ∀ covered ≤ (c :: next).length,
      directiveRegex.searchFrom index offset before covered (c :: rest) = after := by
  intro covered inLine
  cases covered with
  | zero =>
      have nothing : directiveRegex.foundAt? offset ⟨index, before, c :: rest⟩ = none := by
        rw [foundAt?_eq, inside]
        rfl
      rw [searchFrom_cons_of_none nothing, further 0 (Nat.zero_le _)]
  | succ covered =>
      rw [searchFrom_cons_covered, further covered (Nat.le_of_succ_le_succ inLine)]

end Step

/-- A search that is at the start of a line finds the matches of the lines. One that is inside a
line, with a match that does not reach over its end, goes on with the next line. -/
theorem searchFrom_eq {text line : List Char} {later : List (List Char)}
    (same : Text.lines text = line :: later) (index offset : Nat) (before : Option Char) :
    (before.all (· == '\n') = true →
      directiveRegex.searchFrom index offset before 0 text =
        lineMatches index offset (line :: later)) ∧
    (before.all (· == '\n') = false → ∀ covered ≤ line.length,
      directiveRegex.searchFrom index offset before covered text =
        lineMatches (index + line.length + 1) (offset + Text.byteLength line + 1) later) := by
  induction text generalizing line later index offset before with
  | nil =>
      rw [Text.lines_nil] at same
      cases same
      constructor
      · intro _
        rfl
      · intro _ covered _
        rfl
  | cons c rest ih =>
      rcases Text.exists_lines_eq_cons rest with ⟨next, others, sameRest⟩
      by_cases newline : c = '\n'
      · subst newline
        rw [Text.lines_newline_cons, sameRest] at same
        cases same
        have further : directiveRegex.searchFrom index offset before 0 ('\n' :: rest) =
            lineMatches (index + 1) (offset + 1) (next :: others) := by
          rw [searchFrom_newline]
          exact (ih sameRest (index + 1) (offset + 1) (some '\n')).1 rfl
        constructor
        · intro _
          exact further
        · intro _ covered inLine
          rw [Nat.le_zero.1 inLine]
          exact further
      · have decided := lineFound?_of_lines (Text.lines_cons newline sameRest) index offset
        rw [Text.lines_cons newline sameRest] at same
        cases same
        have further : ∀ covered ≤ next.length,
            directiveRegex.searchFrom (index + 1) (offset + c.utf8Size) (some c) covered rest =
              lineMatches (index + (c :: next).length + 1)
                (offset + Text.byteLength (c :: next) + 1) later := by
          intro covered inLine
          rw [(ih sameRest (index + 1) (offset + c.utf8Size) (some c)).2 (by simpa using newline)
            covered inLine, List.length_cons, Text.byteLength_cons, Nat.add_assoc index,
            Nat.add_comm 1, Nat.add_assoc offset]
        constructor
        · intro atStart
          exact searchFrom_line atStart decided further
        · intro inside
          exact searchFrom_inside inside further

theorem search_eq (text : List Char) :
    directiveRegex.search text = lineMatches 0 0 (Text.lines text) := by
  rcases Text.exists_lines_eq_cons text with ⟨line, later, same⟩
  rw [same]
  exact (searchFrom_eq same 0 0 none).1 rfl

theorem isSome_lineFound? (index offset number : Nat) (line : List Char) :
    (lineFound? index offset line).isSome = (ofLine? line number).isSome := by
  rw [lineFound?, ofLine?]
  cases word? line with
  | none => rfl
  | some parts =>
      rw [Option.bind_some, Option.bind_some]
      by_cases mem : parts.1 ∈ words <;> simp [mem]

theorem offset_of_lineFound? {index offset : Nat} {line : List Char} {found : Found}
    (matched : lineFound? index offset line = some found) : found.offset = offset := by
  rw [lineFound?, Option.bind_eq_some_iff] at matched
  rcases matched with ⟨parts, -, inWords⟩
  split at inWords
  · cases inWords
    rfl
  · cases inWords

/-- The directive of a match is the one that its line has. -/
theorem ofFound?_eq {lines : List (List Char)} {index offset number : Nat} {line : List Char}
    {found : Found} (atLine : lines[number - 1]? = some line)
    (matched : lineFound? index offset line = some found) :
    ofFound? lines number found = ofLine? line number := by
  rcases Text.exists_returns line with ⟨count, whole⟩
  generalize plain_eq : Text.dropReturns line = plain at whole
  cases read : word? plain with
  | none => simp [lineFound?, whole, word?_append_returns, read] at matched
  | some parts =>
      rcases parts with ⟨word, after⟩
      rcases lineForm_of_word? read with ⟨indent, gap, form⟩
      have cut : plain = (indent ++ '#' :: gap) ++ (word ++ after) := by
        simp [form.parts]
      generalize indent ++ '#' :: gap = front at cut
      have cutLine : line = front ++ (word ++ (after ++ List.replicate count '\r')) := by
        simp [whole, cut]
      have readLine : word? (front ++ (word ++ (after ++ List.replicate count '\r'))) =
          some (word, after ++ List.replicate count '\r') := by
        rw [← cutLine, whole, word?_append_returns, read]
        rfl
      rw [cutLine, lineFound?_of_cut readLine] at matched
      split at matched <;> rename_i mem
      · cases matched
        have dropped : Text.dropBytes? (Text.byteLength (front ++ word)) plain = some after := by
          rw [cut, ← List.append_assoc, Text.dropBytes?_append]
        rw [whole, ofLine?_append_returns]
        simp only [ofFound?, Found.group?, atLine, plain_eq, ofLine?, read, if_pos mem, dropped,
          Option.getD_some, Option.bind_some]
        rfl
      · cases matched

/-- The match on a line gives the directive of the line, and counting goes on there. -/
theorem ofMatches?_cons {text line : List Char} {counted between later : List (List Char)}
    (whole : Text.lines text = counted ++ between ++ line :: later) {index : Nat} {found : Found}
    (matched : lineFound? index (Text.byteLength (Text.ended (counted ++ between))) line =
      some found) (others : List Found) :
    ofMatches? text (1 + counted.length) (Text.byteLength (Text.ended counted))
        (found :: others) =
      (ofLine? line (1 + (counted ++ between).length)).bind fun directive =>
        (ofMatches? text (1 + (counted ++ between).length)
          (Text.byteLength (Text.ended (counted ++ between))) others).map (directive :: ·) := by
  have passed : Text.slice? (Text.byteLength (Text.ended counted)) found.offset text =
      some (Text.ended between) := by
    rcases Text.exists_back_of_lines whole with ⟨back, rfl⟩
    rw [offset_of_lineFound? matched, Text.ended_append, Text.slice?_append]
  have number : 1 + counted.length + Text.newlines (Text.ended between) =
      1 + (counted ++ between).length := by
    rw [Text.newlines_ended, List.length_append, Nat.add_assoc]
    intro other mem
    have isLine : other ∈ Text.lines text := by simp [whole, mem]
    exact Text.not_mem_of_mem_splitAt isLine
  have atLine : (Text.lines text)[1 + (counted ++ between).length - 1]? = some line := by
    rw [whole, Nat.add_sub_cancel_left, List.getElem?_append_right (Nat.le_refl _), Nat.sub_self]
    rfl
  rw [ofMatches?, passed]
  simp only [Option.bind_eq_bind, Option.bind_some, number, ofFound?_eq atLine matched,
    offset_of_lineFound? matched, Option.map_eq_bind]
  rfl

/-- The directives of the matches of lines are those that the lines have, wherever the lines before
have been counted to. -/
theorem ofMatches?_lineMatches {text : List Char} {counted between later : List (List Char)}
    (whole : Text.lines text = counted ++ between ++ later) (index : Nat) :
    ofMatches? text (1 + counted.length) (Text.byteLength (Text.ended counted))
        (lineMatches index (Text.byteLength (Text.ended (counted ++ between))) later) =
      some ((later.zipIdx (1 + (counted ++ between).length)).filterMap
        fun line => ofLine? line.1 line.2) := by
  induction later generalizing counted between index with
  | nil => rfl
  | cons line later ih =>
      have offset : Text.byteLength (Text.ended (counted ++ between)) + Text.byteLength line + 1 =
          Text.byteLength (Text.ended (counted ++ between ++ [line])) := by
        have newline : '\n'.utf8Size = 1 := rfl
        simp [Text.ended, newline, Nat.add_assoc]
      have number : 1 + (counted ++ between).length + 1 =
          1 + (counted ++ between ++ [line]).length := by
        simp [Nat.add_assoc]
      have whole' : Text.lines text = counted ++ between ++ [line] ++ later := by
        rw [whole, List.append_assoc _ [line], List.singleton_append]
      have both := isSome_lineFound? index (Text.byteLength (Text.ended (counted ++ between)))
        (1 + (counted ++ between).length) line
      rw [lineMatches, offset, List.zipIdx_cons, number, List.filterMap_cons]
      cases found : lineFound? index (Text.byteLength (Text.ended (counted ++ between))) line with
      | none =>
          rw [found, Option.isSome_none, eq_comm, Option.isSome_eq_false_iff,
            Option.isNone_iff_eq_none] at both
          simp only [both, Option.toList_none, List.nil_append]
          rw [List.append_assoc counted] at whole' ⊢
          exact ih whole' _
      | some found' =>
          rw [found, Option.isSome_some, eq_comm, Option.isSome_iff_exists] at both
          rcases both with ⟨directive, ofLine⟩
          rw [Option.toList_some, List.singleton_append, ofMatches?_cons whole found, ofLine,
            ih whole']
          rfl

theorem all?_eq (text : List Char) :
    all? text = some ((Text.numberedLines text).filterMap fun line => ofLine? line.1 line.2) := by
  have counted : Text.lines text = [] ++ [] ++ Text.lines text := rfl
  rw [all?, regex?_eq, Option.bind_some, search_eq]
  exact ofMatches?_lineMatches counted 0

/-- The search gives the directives of the lines. -/
theorem all_eq (text : List Char) :
    all text = (Text.numberedLines text).filterMap fun line => ofLine? line.1 line.2 := by
  rw [all, all?_eq, Option.getD_some]

end CrossArch.Directive
