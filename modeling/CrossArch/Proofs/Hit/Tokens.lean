import CrossArch.Proofs.Assembly.OpenerWords
import CrossArch.Proofs.Hit.AddedRule
import CrossArch.Proofs.Scan.Gate
import CrossArch.Proofs.Text.Words

/-!
# Identifier tables and the words of a text

For a table of identifiers the search of source files is a tokenizer: its rule hits are the words of
the text that are keys, none missed and none extra. Openers are read before keys and may take
characters that belong to words, but they take whole words only, and these are no keys unless a key
is a keyword or a qualifier itself.
-/

namespace CrossArch

/-- Keys that are identifiers and no words of an opener. -/
structure IdentifierKeys (keys : List (List Char)) : Prop where
  nonempty : [] ∉ keys
  ascii : ∀ key ∈ keys, ∀ c ∈ key, Unicode.isAsciiWord c = true
  apart : ∀ key ∈ keys, key.map Char.toLower ∉ Assembly.keywords ++ Assembly.qualifiers

/-- The hit of a rule table that a word makes. -/
def Text.Word.hit (word : Text.Word) : Hit :=
  ⟨word.letters, .rule, ⟨word.line, word.line⟩⟩

/-- The words behind `front` that are keys. -/
def keyWordsBehind (keys : List (List Char)) (front back : List Char) : List Text.Word :=
  (Text.wordsBehind front back).filter fun word => keys.contains word.letters

/-- An opener is read behind at most one character, and no word goes on at its keyword. -/
theorem parts_of_openerAt? {before : Option Char} {text : List Char} {found : Match}
    (read : openerAt? before text = some found) :
    ∃ lead rest opener, text = lead ++ rest ∧ (∀ c ∈ lead, Unicode.isWord c = false) ∧
      Unicode.touchesWord (lead.getLast?.or before) = false ∧
      Assembly.Opener.ofFront? rest = some opener ∧ found = openerMatch lead opener := by
  simp only [openerAt?, Option.orElse_eq_orElse, Option.orElse_eq_or, Option.or_eq_some_iff] at read
  rcases read with atStart | ⟨-, behind⟩
  · split at atStart <;> rename_i starts
    · rcases Option.map_eq_some_iff.1 atStart with ⟨opener, opens, rfl⟩
      refine ⟨[], text, opener, rfl, by simp, ?_, opens, rfl⟩
      cases before with
      | none => rfl
      | some c =>
          rw [startsLine, Option.all_some, beq_iff_eq] at starts
          subst starts
          decide
    · simp at atStart
  · split at behind
    · simp at behind
    · rename_i c rest
      split at behind <;> rename_i isWord
      · simp at behind
      · rcases Option.map_eq_some_iff.1 behind with ⟨opener, opens, rfl⟩
        refine ⟨[c], rest, opener, rfl, by simpa using isWord, ?_, opens, rfl⟩
        simpa [Unicode.touchesWord] using isWord

namespace SearchKey

/-- An ASCII key is bounded where a word could be. -/
theorem isBounded_of_ascii {key : List Char} {before after : Option Char}
    (ascii : ∀ c ∈ key, Unicode.isAsciiWord c = true)
    (begins : Unicode.touchesWord before = false) (stops : Unicode.touchesWord after = false) :
    isBounded key before after = true := by
  rw [isBounded, Bool.and_eq_true]
  constructor
  · cases first : key.head? with
    | none => rfl
    | some c =>
        rw [(boundary_of_isAsciiWord (ascii c (List.mem_of_head? first)) before).1, begins]
        exact Bool.or_true _
  · cases last : key.getLast? with
    | none => rfl
    | some c =>
        rw [(boundary_of_isAsciiWord (ascii c (List.mem_of_getLast? last)) after).2, stops]
        exact Bool.or_true _

end SearchKey

/-- No key begins at a character that is no word character. -/
theorem keyWordsBehind_of_not_isWord {keys : List (List Char)} {piece : List Char}
    (notWords : ∀ c ∈ piece, Unicode.isWord c = false) (front rest : List Char) :
    keyWordsBehind keys front (piece ++ rest) = keyWordsBehind keys (front ++ piece) rest := by
  rw [keyWordsBehind, Text.wordsBehind_of_not_isWord notWords, keyWordsBehind]

namespace IdentifierKeys

variable {keys : List (List Char)} {front text : List Char}

/-- A word of an opener is a word of the text but no key. -/
theorem pass_openerWord (identifiers : IdentifierKeys keys) {read rest : List Char}
    (word : Assembly.OpenerWord read) (outside : Unicode.touchesWord front.getLast? = false)
    (stops : Unicode.touchesWord rest.head? = false) :
    keyWordsBehind keys front (read ++ rest) = keyWordsBehind keys (front ++ read) rest := by
  have notKey : read ∉ keys := by
    intro keyMem
    exact identifiers.apart read keyMem (word.toLower_mem (identifiers.ascii read keyMem))
  rw [keyWordsBehind, Text.wordsBehind_of_word outside word.ne_nil word.isWord stops,
    List.filter_cons_of_neg (by simpa using notKey), keyWordsBehind]

theorem pass_dropBracket? {rest : List Char} (front : List Char)
    (found : Assembly.dropBracket? text = some rest) :
    ∃ trail, text = trail ++ rest ∧
      keyWordsBehind keys front text = keyWordsBehind keys (front ++ trail) rest := by
  rcases Assembly.parts_of_dropBracket? found with ⟨piece, rfl, notWords, -⟩
  exact ⟨piece, rfl, keyWordsBehind_of_not_isWord notWords front rest⟩

/-- What an opener reads behind its keyword holds no key. -/
theorem pass_tail? (identifiers : IdentifierKeys keys) {rest : List Char} (front : List Char)
    (found : Assembly.tail? text = some rest) :
    ∃ trail, text = trail ++ rest ∧
      keyWordsBehind keys front text = keyWordsBehind keys (front ++ trail) rest := by
  fun_induction Assembly.tail? text generalizing front with
  | case1 text after qualified ih =>
      simp only [Option.orElse_eq_orElse, Option.orElse_eq_or, Option.or_eq_some_iff] at found
      rcases found with later | ⟨-, bracket⟩
      · rcases Assembly.parts_of_dropQualifier? qualified with
          ⟨c, blanks, read, rfl, areBlank, word⟩
        have notWords : ∀ d ∈ c :: blanks, Unicode.isWord d = false :=
          fun d mem => Unicode.not_isWord_of_isBlank (areBlank d mem)
        have outside : Unicode.touchesWord (front ++ c :: blanks).getLast? = false := by
          rw [List.getLast?_append_of_ne_nil _ (List.cons_ne_nil c blanks),
            List.getLast?_eq_some_getLast (List.cons_ne_nil c blanks)]
          exact notWords _ (List.getLast_mem _)
        rcases ih (front ++ c :: blanks ++ read) later with ⟨trail, rfl, passed⟩
        refine ⟨c :: blanks ++ (read ++ trail), by simp only [List.append_assoc], ?_⟩
        rw [keyWordsBehind_of_not_isWord notWords,
          identifiers.pass_openerWord word outside (Assembly.not_touchesWord_of_tail? later),
          passed]
        simp only [List.append_assoc]
      · exact pass_dropBracket? front bracket
  | case2 text qualified => exact pass_dropBracket? front found

/-- An opener holds no key. -/
theorem pass_ofFront? (identifiers : IdentifierKeys keys) {opener : Assembly.Opener}
    (outside : Unicode.touchesWord front.getLast? = false)
    (found : Assembly.Opener.ofFront? text = some opener) :
    ∃ piece, text = piece ++ opener.rest ∧
      keyWordsBehind keys front text = keyWordsBehind keys (front ++ piece) opener.rest := by
  rcases Assembly.Opener.parts_of_ofFront? found with ⟨word, whole, tail⟩
  rcases identifiers.pass_tail? (front ++ opener.keyword) tail with ⟨trail, trailed, passed⟩
  refine ⟨opener.keyword ++ trail, by rw [whole, trailed, List.append_assoc], ?_⟩
  rw [whole, identifiers.pass_openerWord word outside (Assembly.not_touchesWord_of_tail? tail),
    passed, List.append_assoc]

/-- The match of an opener is passed over without a key. -/
theorem pass_openerAt? (identifiers : IdentifierKeys keys) {found : Match}
    (read : openerAt? front.getLast? text = some found) :
    keyWordsBehind keys front text = keyWordsBehind keys (front ++ found.read) found.rest := by
  rcases parts_of_openerAt? read with ⟨lead, rest, opener, rfl, notWords, outside, opens, rfl⟩
  rw [← List.getLast?_append] at outside
  rcases identifiers.pass_ofFront? outside opens with ⟨piece, whole, passed⟩
  have parts := (openerMatch_isFrontOf lead opens).1
  rw [whole, ← List.append_assoc] at parts
  have same : (openerMatch lead opener).read = lead ++ piece :=
    (List.append_cancel_right parts).symm
  rw [keyWordsBehind_of_not_isWord notWords, passed, same, List.append_assoc]
  rfl

theorem newlines_key (identifiers : IdentifierKeys keys) {key : List Char} (keyMem : key ∈ keys) :
    Text.newlines key = 0 := by
  apply Text.newlines_eq_zero
  intro newlineMem
  have ascii := identifiers.ascii key keyMem '\n' newlineMem
  exact absurd ascii (by decide)

/-- A key that is read is a word of the text. -/
theorem keyWordsBehind_of_boundedAt? (identifiers : IdentifierKeys keys) {key rest : List Char}
    (found : SearchKey.boundedAt? keys front.getLast? text = some (key, rest)) :
    keyWordsBehind keys front text =
      ⟨key, Text.newlines front + 1⟩ :: keyWordsBehind keys (front ++ key) rest := by
  rcases SearchKey.parts_of_boundedAt? found with ⟨keyMem, rfl, bounded⟩
  have nonempty : key ≠ [] := fun empty => identifiers.nonempty (empty ▸ keyMem)
  have ascii := identifiers.ascii key keyMem
  rcases SearchKey.word_ends_of_isBounded bounded with ⟨begins, stops⟩
  have outside := begins _ (List.head?_eq_some_head nonempty) (ascii _ (List.head_mem nonempty))
  have stops' :=
    stops _ (List.getLast?_eq_some_getLast nonempty) (ascii _ (List.getLast_mem nonempty))
  have areWords : ∀ c ∈ key, Unicode.isWord c = true :=
    fun c mem => Unicode.isWord_of_isAsciiWord (ascii c mem)
  rw [keyWordsBehind, Text.wordsBehind_of_word outside nonempty areWords stops',
    List.filter_cons_of_pos (by simpa using keyMem), keyWordsBehind]

/-- Where no key is read, no word that is a key begins. -/
theorem keyWordsBehind_of_boundedAt?_eq_none (identifiers : IdentifierKeys keys) {c : Char}
    {rest : List Char} (nothing : SearchKey.boundedAt? keys front.getLast? (c :: rest) = none) :
    keyWordsBehind keys front (c :: rest) = keyWordsBehind keys (front ++ [c]) rest := by
  have notKey : ∀ word, Text.Word.between? front (c :: rest) = some word →
      word.letters ∉ keys := by
    intro word begins keyMem
    rw [Text.Word.between?] at begins
    split at begins <;> rename_i edges
    · rw [Bool.and_eq_true, Bool.not_eq_true'] at edges
      cases begins
      have stops : Unicode.touchesWord ((c :: rest).dropWhile Unicode.isWord).head? = false := by
        have notWord := List.head?_dropWhile_not Unicode.isWord (c :: rest)
        cases next : ((c :: rest).dropWhile Unicode.isWord).head? with
        | none => rfl
        | some d => rwa [next] at notWord
      have unbounded := SearchKey.boundedAt?_eq_none_iff.1 nothing _ keyMem _
        List.takeWhile_append_dropWhile.symm
      rw [SearchKey.isBounded_of_ascii (identifiers.ascii _ keyMem) edges.1 stops] at unbounded
      contradiction
    · simp at begins
  rw [keyWordsBehind, Text.wordsBehind_cons, List.filter_append, keyWordsBehind]
  cases begins : Text.Word.between? front (c :: rest) with
  | none => rfl
  | some word => simp [notKey word begins]

/-- The rule hits behind what was passed are the words there that are keys. -/
theorem ruleHits_matchesFrom (identifiers : IdentifierKeys keys) (front text : List Char)
    {before : Option Char} {line : Nat} (last : before = front.getLast?)
    (number : line = Text.newlines front + 1) :
    ruleHits (((sourceMatcher keys).matchesFrom before line text).map PlacedMatch.hit) =
      (keyWordsBehind keys front text).map Text.Word.hit := by
  fun_induction Matcher.matchesFrom (sourceMatcher keys) before line text generalizing front with
  | case1 => rfl
  | case2 before line c rest found read ih =>
      have isFront := (sourceMatcher keys).isFront read
      have last' : found.read.getLast? = (front ++ found.read).getLast? := by
        rw [List.getLast?_append, List.getLast?_eq_some_getLast isFront.read_ne_nil, Option.some_or]
      have later := ih (front ++ found.read) last' (by rw [number, Text.newlines_append]; omega)
      rw [last] at read
      rw [List.map_cons]
      simp only [sourceMatcher, Option.orElse_eq_orElse, Option.orElse_eq_or,
        Option.or_eq_some_iff] at read
      rcases read with opener | ⟨-, rule⟩
      · have notRule : (PlacedMatch.mk found (line + Text.newlines found.lead)).hit.kind ≠
            .rule := by
          rw [PlacedMatch.hit, kind_of_openerAt? opener]
          simp
        rw [identifiers.pass_openerAt? opener, ← later, ruleHits,
          List.filter_cons_of_neg (by simpa using notRule), ruleHits]
      · rcases sourceRuleAt?_eq_some_iff.1 rule with ⟨key, rest', standing, nonempty, rfl⟩
        have keyMem := (SearchKey.parts_of_boundedAt? standing).1
        have oneLine := identifiers.newlines_key keyMem
        have sameHit : (PlacedMatch.mk ⟨.rule, [], key, [], rest'⟩ (line + Text.newlines [])).hit =
            Text.Word.hit ⟨key, Text.newlines front + 1⟩ := by
          simp [PlacedMatch.hit, Text.Word.hit, oneLine, number]
        rw [identifiers.keyWordsBehind_of_boundedAt? standing, List.map_cons, ← sameHit, ruleHits,
          List.filter_cons_of_pos rfl]
        simp only [Match.read, List.nil_append, List.append_nil] at later ⊢
        rw [← later, ruleHits]
  | case3 before line c rest nothing ih =>
      have last' : some c = (front ++ [c]).getLast? := by simp
      refine (ih (front ++ [c]) last' (by
        rw [dite_eq_ite, Text.line_behind, number, Text.newlines_append]
        exact Nat.add_right_comm _ _ _)).trans ?_
      simp only [sourceMatcher, Option.orElse_eq_orElse, Option.orElse_eq_or,
        Option.or_eq_none_iff, last] at nothing
      rw [identifiers.keyWordsBehind_of_boundedAt?_eq_none]
      cases standing : SearchKey.boundedAt? keys front.getLast? (c :: rest) with
      | none => rfl
      | some found =>
          have keyMem := (SearchKey.parts_of_boundedAt? standing).1
          have nonempty : found.1 ≠ [] := fun empty => identifiers.nonempty (empty ▸ keyMem)
          have read := sourceRuleAt?_eq_some_iff.2 ⟨found.1, found.2, standing, nonempty, rfl⟩
          rw [nothing.2] at read
          contradiction

end IdentifierKeys

/-- No key of a table that is not reserved is a keyword or a qualifier of an opener, up to ASCII
case. -/
def RuleTable.AvoidsOpenerWords (table : RuleTable) : Prop :=
  ∀ key ∈ table.keys, key ∉ reservedKeys →
    key.toList.map Char.toLower ∉ Assembly.keywords ++ Assembly.qualifiers

instance (table : RuleTable) : Decidable table.AvoidsOpenerWords :=
  inferInstanceAs (Decidable (∀ key ∈ table.keys, key ∉ reservedKeys →
    key.toList.map Char.toLower ∉ Assembly.keywords ++ Assembly.qualifiers))

/-- Whether a word is a key of a table that is not reserved. -/
def RuleTable.hasWord (table : RuleTable) (word : Text.Word) : Bool :=
  let key := String.ofList word.letters
  table.keys.contains key && !reservedKeys.contains key

section Table

variable {table : RuleTable}

theorem identifierKeys_searchTexts (identifiers : table.HasIdentifierKeys)
    (apart : table.AvoidsOpenerWords) : IdentifierKeys table.searchTexts where
  nonempty := nil_not_mem_searchTexts
  ascii := by
    intro key keyMem
    rcases List.mem_map.1 keyMem with ⟨name, nameMem, rfl⟩
    exact List.all_eq_true.1 (identifiers name (SearchKey.mem_ofTable.1 nameMem).1
      (SearchKey.not_mem_reservedKeys nameMem))
  apart := by
    intro key keyMem
    rcases List.mem_map.1 keyMem with ⟨name, nameMem, rfl⟩
    exact apart name (SearchKey.mem_ofTable.1 nameMem).1 (SearchKey.not_mem_reservedKeys nameMem)

/-- A word is never blank, so it is searched for if it is a key and not reserved. -/
theorem contains_searchTexts {word : Text.Word} {text : List Char} (mem : word ∈ Text.words text) :
    table.searchTexts.contains word.letters = table.hasWord word := by
  have notBlank : (String.ofList word.letters).toList.all Unicode.isBlank = false := by
    have begins := Text.touchesWord_head?_of_mem mem
    rw [String.toList_ofList]
    cases letters : word.letters with
    | nil => simp [letters, Unicode.touchesWord] at begins
    | cons c rest =>
        rw [letters] at begins
        have isWord : Unicode.isWord c = true := begins
        cases blank : Unicode.isBlank c with
        | false => simp [blank]
        | true => simp [Unicode.not_isWord_of_isBlank blank] at isWord
  have searched : table.hasWord word = true ↔
      String.ofList word.letters ∈ SearchKey.ofTable table := by
    rw [SearchKey.mem_ofTable, RuleTable.hasWord, SearchKey.isSearched, notBlank]
    simp
  rw [Bool.eq_iff_iff, searched, List.contains_iff_mem, RuleTable.searchTexts, List.mem_map]
  constructor
  · rintro ⟨name, nameMem, same⟩
    rwa [← same, String.ofList_toList]
  · intro nameMem
    exact ⟨_, nameMem, String.toList_ofList⟩

end Table

/--
For a table of identifiers the search of source texts is a tokenizer. If no key is a keyword or a
qualifier of an opener, the rule hits are the words of the text that are keys and not reserved, in
order and each on its line.
-/
theorem ruleHits_eq_words (table : RuleTable) (identifiers : table.HasIdentifierKeys)
    (apart : table.AvoidsOpenerWords) (text : List Char) :
    ruleHits (sourceHits table text) =
      ((Text.words text).filter table.hasWord).map Text.Word.hit := by
  have keyWords : keyWordsBehind table.searchTexts [] text =
      (Text.words text).filter table.hasWord :=
    List.filter_congr fun word mem => contains_searchTexts mem
  rw [← keyWords]
  exact (identifierKeys_searchTexts identifiers apart).ruleHits_matchesFrom [] text rfl rfl

/-- A table of identifiers, one of them the beginning of another one. -/
def identifierTable : RuleTable :=
  ⟨⟨[("__assembles__", ⟨"", .empty⟩), ("_mm", ⟨"", .empty⟩), ("_mm_pause", ⟨"", .empty⟩)]⟩⟩

/-- An opener with a qualifier on the next line stands between words, some of which only contain
keys. -/
theorem ruleHits_identifierTable :
    identifierTable.HasIdentifierKeys ∧ identifierTable.AvoidsOpenerWords ∧
      ruleHits
        (sourceHits identifierTable "_mm_pause asm\n GOTO (_mm x_mm) __assembles__ _mm".toList) =
        [⟨"_mm_pause".toList, .rule, ⟨1, 1⟩⟩, ⟨"_mm".toList, .rule, ⟨2, 2⟩⟩,
          ⟨"_mm".toList, .rule, ⟨2, 2⟩⟩] := by
  have identifiers : identifierTable.HasIdentifierKeys := by decide
  have apart : identifierTable.AvoidsOpenerWords := by decide
  refine ⟨identifiers, apart, ?_⟩
  rw [ruleHits_eq_words identifierTable identifiers apart]
  decide +kernel

end CrossArch
