import CrossArch.Proofs.Assembly.OpenerWords
import CrossArch.Proofs.Lists
import CrossArch.Proofs.Regex.Reading
import CrossArch.Proofs.Regex.Search

/-!
# The pattern of openers

The pattern of openers denotes an expression, and a search with it finds the openers. What stands
before the keyword, the keyword and the end can each be read in one way at most. The qualifiers are
read as far as they go, and fewer of them only where more lead nowhere.
-/

namespace CrossArch.Assembly

open Regex

/-- The flags of a search that regards case. -/
def searchFlags (multiLine : Bool) : Flags :=
  { caseful with multiLine := multiLine }

/-- The same, in a part that does not regard case. -/
def wordFlags (multiLine : Bool) : Flags :=
  { searchFlags multiLine with ignoreCase := true }

/-! ## Reading the pattern -/

section Read

variable (multiLine : Bool)

/-- What stands before a keyword. -/
def startPart : Part :=
  Part.anyOf [[⟨Regex.lineStart (searchFlags multiLine), 0⟩],
    [⟨.char (.complement (.unionAll [.word])), 1⟩]]

/-- Several words as alternatives. -/
def wordsPart (words : List (List Char)) : Part :=
  Part.anyOf (words.map (literals (wordFlags multiLine)))

/-- A qualifier after blanks. -/
def qualifierPart : Part :=
  Part.anyOf [[⟨.repeat (.char .blank) 1 none true, 1⟩, (wordsPart multiLine qualifiers).inGroup]]

/-- Where an opener ends. -/
def endPart : Part :=
  Part.anyOf [[⟨.char (.unionAll [.single '(', .single '\x7b']), 1⟩],
    [⟨Regex.lineEnd (searchFlags multiLine), 0⟩]]

theorem spells_start :
    Spells (searchFlags multiLine) "(?:^|[^\\w])".toList [(startPart multiLine).inGroup] := by
  have spells : ∀ piece ∈ [(['^'], [⟨Regex.lineStart (searchFlags multiLine), 0⟩]),
      ("[^\\w]".toList, [⟨.char (.complement (.unionAll [.word])), 1⟩])],
      Spells (searchFlags multiLine) piece.1 piece.2 := by
    rw [List.forall_mem_cons, List.forall_mem_singleton]
    exact ⟨.lineStart rfl, .bracket rfl fun _ => rfl⟩
  exact .group rfl "?:".toList (fun _ => rfl) rfl (by simp) spells

theorem spells_end :
    Spells (searchFlags multiLine) "(?:[(\x7b]|$)".toList [(endPart multiLine).inGroup] := by
  have spells :
      ∀ piece ∈ [("[(\x7b]".toList, [⟨.char (.unionAll [.single '(', .single '\x7b']), 1⟩]),
      (['$'], [⟨Regex.lineEnd (searchFlags multiLine), 0⟩])],
      Spells (searchFlags multiLine) piece.1 piece.2 := by
    rw [List.forall_mem_cons, List.forall_mem_singleton]
    exact ⟨.bracket rfl fun _ => rfl, .lineEnd rfl⟩
  exact .group rfl "?:".toList (fun _ => rfl) rfl (by simp) spells

/-- The text of several words as alternatives in a group. -/
def wordsText (mark : List Char) (words : List (List Char)) : List Char :=
  '(' :: (mark ++ (List.intercalate ['|'] words ++ [')']))

theorem spells_words {flags : Flags} {words : List (List Char)} (plain : flags.verbose = false)
    (mark : List Char)
    (starts : ∀ rest, groupStart? flags (mark ++ rest) =
      some (.group (wordFlags multiLine) .plain, rest))
    (some : words ≠ []) (noMeta : ∀ word ∈ words, word.any SearchKey.isMeta = false) :
    Spells flags (wordsText mark words) [(wordsPart multiLine words).inGroup] := by
  have spells : ∀ piece ∈ words.map (fun word => (word, literals (wordFlags multiLine) word)),
      Spells (wordFlags multiLine) piece.1 piece.2 := by
    simp only [List.forall_mem_map]
    intro word mem
    exact .word rfl (noMeta word mem)
  have grouped := Spells.group plain mark starts rfl (by simpa using some) spells
  rwa [List.map_map, List.map_map, Function.comp_def, Function.comp_def, List.map_id'] at grouped

theorem spells_keyword :
    Spells (searchFlags multiLine) "(?i:__asm__|__asm|_asm|asm)".toList
      [(wordsPart multiLine keywords).inGroup] :=
  spells_words multiLine rfl "?i:".toList (fun _ => rfl) (by decide) (by decide)

theorem spells_qualifiers :
    Spells (searchFlags multiLine)
      "(?i:\\s+(?:__volatile__|_volatile_|volatile|inline|goto))*".toList
      [⟨.repeat (qualifierPart multiLine).regex 0 none true,
        (qualifierPart multiLine).inGroup.depth + 1⟩] := by
  have blank : Spells (wordFlags multiLine) "\\s".toList [⟨.char .blank, 0⟩] :=
    .escapeItem rfl fun _ _ => rfl
  have blanks : Spells (wordFlags multiLine) "\\s+".toList
      [⟨.repeat (.char .blank) 1 none true, 1⟩] :=
    .repeated rfl blank rfl (by decide)
  have words : Spells (wordFlags multiLine) (wordsText "?:".toList qualifiers)
      [(wordsPart multiLine qualifiers).inGroup] :=
    spells_words multiLine rfl _ (fun _ => rfl) (by decide) (by decide)
  have both : ∀ piece ∈ [("\\s+".toList ++ wordsText "?:".toList qualifiers,
      [⟨.repeat (.char .blank) 1 none true, 1⟩, (wordsPart multiLine qualifiers).inGroup])],
      Spells (wordFlags multiLine) piece.1 piece.2 := by
    rw [List.forall_mem_singleton]
    exact blanks.append words (mayFollow_cons (by decide) (by decide) _)
  have grouped : Spells (searchFlags multiLine)
      (wordsText "?i:".toList ["\\s+".toList ++ wordsText "?:".toList qualifiers])
      [(qualifierPart multiLine).inGroup] := .group rfl _ (fun _ => rfl) rfl (by simp) both
  have text : "(?i:\\s+(?:__volatile__|_volatile_|volatile|inline|goto))*".toList =
      wordsText "?i:".toList ["\\s+".toList ++ wordsText "?:".toList qualifiers] ++ ['*'] := by
    cbv
  rw [text]
  exact .repeated rfl grouped rfl (by decide)

/-- The characters that may stand before the bracket. -/
def gapSet : CharSet :=
  .unionAll [.single ' ', .single '\t']

theorem spells_gap :
    Spells (searchFlags multiLine) "[ \\t]*".toList
      [⟨.repeat (.char gapSet) 0 none true, 2⟩] := by
  have one : Spells (searchFlags multiLine) "[ \\t]".toList [⟨.char gapSet, 1⟩] :=
    .bracket rfl fun _ => rfl
  exact .repeated rfl one rfl (by decide)

/-- The name of the group that holds the keyword. -/
def groupName : List Char :=
  "asm".toList

/-- The items of the pattern of openers. -/
def openerParts : List Part :=
  [(startPart multiLine).inGroup,
    (Part.anyOf [[(wordsPart multiLine keywords).inGroup]]).kept groupName,
    ⟨.repeat (qualifierPart multiLine).regex 0 none true,
      (qualifierPart multiLine).inGroup.depth + 1⟩,
    ⟨.repeat (.char gapSet) 0 none true, 2⟩, (endPart multiLine).inGroup]

/-- The pattern of openers is read as its items, and the name of its group is taken. -/
theorem readsAs_opener {nested : Bool} {progress : Progress} {rest : List Char}
    {result : Progress × List Char} (same : progress.flags = searchFlags multiLine)
    (fresh : groupName ∉ progress.names) (follows : MayFollow rest)
    (later : ReadsAs nested ({ progress with names := groupName :: progress.names }.pushAll
      (openerParts multiLine)) rest result) :
    ReadsAs nested progress (openerPattern.toList ++ rest) result := by
  have tail : Spells (searchFlags multiLine)
      ("(?i:\\s+(?:__volatile__|_volatile_|volatile|inline|goto))*".toList ++
        ("[ \\t]*".toList ++ "(?:[(\x7b]|$)".toList)) ((openerParts multiLine).drop 2) :=
    (spells_qualifiers multiLine).append
      ((spells_gap multiLine).append (spells_end multiLine)
        (mayFollow_cons (by decide) (by decide) _))
      (mayFollow_cons (by decide) (by decide) _)
  have text : openerPattern.toList = "(?:^|[^\\w])".toList ++
      ('(' :: '?' :: 'P' :: '<' :: (groupName ++ '>' ::
        (List.intercalate ['|'] ["(?i:__asm__|__asm|_asm|asm)".toList] ++ ')' ::
          ("(?i:\\s+(?:__volatile__|_volatile_|volatile|inline|goto))*".toList ++
            ("[ \\t]*".toList ++ "(?:[(\x7b]|$)".toList))))) := by
    cbv
  have keyword : ∀ piece ∈ [("(?i:__asm__|__asm|_asm|asm)".toList,
      [(wordsPart multiLine keywords).inGroup])],
        Spells (searchFlags multiLine) piece.1 piece.2 := by
    rw [List.forall_mem_singleton]
    exact spells_keyword multiLine
  have same' : (progress.pushAll [(startPart multiLine).inGroup]).flags =
      searchFlags multiLine := same
  simp only [text, List.append_assoc, List.cons_append]
  apply spells_start multiLine nested progress _ result same
    (mayFollow_cons (by decide) (by decide) _)
  apply ReadsAs.namedGroup same' rfl (fun _ => rfl) fresh (List.cons_ne_nil _ _) keyword
  rw [← List.append_assoc "[ \\t]*".toList, ← List.append_assoc]
  apply tail nested _ rest result _ follows
  · exact later
  · exact same

/-- The expression that the pattern of openers denotes. -/
def openerRegex : Regex :=
  Regex.sequence ((openerParts multiLine).map Part.regex)

theorem parse_openerPattern :
    parse? (searchFlags multiLine) openerPattern.toList = some (openerRegex multiLine) := by
  have reads : ReadsAs false ⟨searchFlags multiLine, [], [], []⟩ openerPattern.toList
      (Progress.pushAll ⟨searchFlags multiLine, [groupName], [], []⟩ (openerParts multiLine),
        []) := by
    rw [← List.append_nil openerPattern.toList]
    apply readsAs_opener multiLine rfl List.not_mem_nil (by simp [MayFollow])
    exact .finish rfl
  exact parse?_of_readsAs reads (by cases multiLine <;> decide)

end Read

/-! ## Searching with the pattern -/

/-- Whether newlines count: lines start and end at them, or there are none. -/
def Within (multiLine : Bool) (text : List Char) : Prop :=
  multiLine = true ∨ '\n' ∉ text

theorem Within.suffix {multiLine : Bool} {text rest : List Char} (within : Within multiLine text)
    (isEnd : rest <:+ text) : Within multiLine rest :=
  within.imp_right fun inLine mem => inLine (isEnd.mem mem)

section Run

variable {multiLine : Bool} {thread : Thread}

theorem contains_gapSet : gapSet.contains = fun c => c == ' ' || c == '\t' := by
  funext c
  simp [gapSet, CharSet.unionAll, CharSet.contains, contains_single]

theorem run_lineEnd {next : Thread → Option Thread}
    (inLine : multiLine = true ∨ thread.place.rest.head? ≠ some '\n') :
    (Regex.lineEnd (searchFlags multiLine)).run thread next =
      if thread.place.rest.head?.all (· == '\n') then next thread else none := by
  cases multiLine with
  | true => rfl
  | false =>
      have step : (Regex.lineEnd (searchFlags false)).run thread next =
          if thread.place.rest.head?.isNone then next thread else none := rfl
      rw [step]
      cases ahead : thread.place.rest.head? with
      | none => rfl
      | some c =>
          have notNewline : c ≠ '\n' := by simpa [ahead] using inLine
          simp [notNewline]

/-- An opener ends with a bracket or at the end of its line. -/
theorem run_end (inLine : multiLine = true ∨ thread.place.rest.head? ≠ some '\n') :
    (endPart multiLine).regex.run thread some =
      if thread.place.rest.head?.any (fun c => c == '(' || c == '\x7b') then some (thread.skip 1)
      else if thread.place.rest.head?.all (· == '\n') then some thread
      else none := by
  have step : (endPart multiLine).regex.run thread some =
      ((char (.unionAll [.single '(', .single '\x7b'])).run thread some <|>
        (Regex.lineEnd (searchFlags multiLine)).run thread some) := rfl
  have set : (CharSet.unionAll [.single '(', .single '\x7b']).contains =
      fun c => c == '(' || c == '\x7b' := by
    funext c
    simp [CharSet.unionAll, CharSet.contains, contains_single]
  rw [step, run_char, run_lineEnd inLine, set]
  split <;> rfl

/-- The spaces before the end are read as far as they go, since no opener ends at a space. -/
theorem run_gap (within : Within multiLine thread.place.rest) :
    (Regex.repeat (char gapSet) 0 none true).run thread
        (fun middle => (endPart multiLine).regex.run middle some) =
      (dropBracket? thread.place.rest).map thread.upTo := by
  rw [run_star_of_stops, skip_lengthIn, contains_gapSet]
  · rcases List.dropWhile_suffix (fun c => c == ' ' || c == '\t') with ⟨passed, whole⟩
    have within' := within.suffix ⟨passed, whole⟩
    rw [dropBracket?]
    generalize thread.place.rest.dropWhile (fun c => c == ' ' || c == '\t') = rest at whole within'
    have left := Thread.rest_upTo whole.symm
    have inLine : multiLine = true ∨ (thread.upTo rest).place.rest.head? ≠ some '\n' := by
      rw [left]
      exact within'.imp_right fun absent first => absent (List.mem_of_head? first)
    rw [run_end inLine, left]
    cases rest with
    | nil => rfl
    | cons c rest =>
        have behind : (thread.upTo (c :: rest)).skip [c].length = thread.upTo rest := by
          rw [← Thread.upTo_eq_skip left,
            Thread.upTo_upTo ⟨passed, whole⟩ (List.suffix_cons c rest)]
        by_cases bracket : c = '(' ∨ c = '\x7b'
        · rw [List.length_singleton] at behind
          simp [bracket, behind]
        · by_cases newline : c = '\n' <;> simp [bracket, newline]
  · intro later space
    rw [contains_gapSet] at space
    cases ahead : later.place.rest.head? with
    | none => simp [ahead] at space
    | some c =>
        have isSpace : c = ' ' ∨ c = '\t' := by simpa [ahead] using space
        have notNewline : later.place.rest.head? ≠ some '\n' := by
          rcases isSpace with rfl | rfl <;> simp [ahead]
        rw [run_end (Or.inr notNewline), ahead]
        rcases isSpace with rfl | rfl <;> rfl

theorem ascii_of_mem_words {word : List Char} (mem : word ∈ keywords ++ qualifiers) :
    ∀ w ∈ word, 0 < w.toNat ∧ w.toNat < 128 := by
  intro w letter
  have plain := List.all_eq_true.1 (openerWords_plain word mem).2 w letter
  have bounds := Unicode.bounds_of_isPlainLetter plain
  omega

/-- Words of an opener are tried one after the other. -/
theorem run_words {words : List (List Char)} (each : words ⊆ keywords ++ qualifiers)
    {next : Thread → Option Thread} :
    (wordsPart multiLine words).regex.run thread next =
      words.findSome? fun word =>
        (Unicode.dropFolded? word thread.place.rest).bind fun rest => next (thread.upTo rest) := by
  have regex : (wordsPart multiLine words).regex =
      anyOf (words.map fun word => Regex.sequence (letters word)) := by
    simp only [wordsPart, Part.anyOf, Part.sequence, List.map_map, Function.comp_def, literals,
      letters]
    rfl
  rw [regex, run_anyOf, List.findSome?_map]
  apply findSome?_congr
  intro word mem
  exact run_letters (ascii_of_mem_words (each mem))

/-- Whether two words differ at a place that both have. -/
def clash : List Char → List Char → Bool
  | w :: word, v :: other => !Unicode.sameLetter w v || clash word other
  | _, _ => false

/-- Words that clash cannot both be read at one place. -/
theorem dropFolded?_of_clash {word other text : List Char} (clashes : clash word other = true)
    (found : (Unicode.dropFolded? word text).isSome = true) :
    Unicode.dropFolded? other text = none := by
  induction word generalizing other text with
  | nil => simp [clash] at clashes
  | cons w word ih =>
      cases other with
      | nil => simp [clash] at clashes
      | cons v other =>
          cases text with
          | nil => rfl
          | cons c text =>
              rw [Unicode.dropFolded?] at found ⊢
              split at found <;> rename_i same
              · split <;> rename_i same'
                · apply ih _ found
                  have alike : Unicode.sameLetter w v = true := by
                    rw [Unicode.sameLetter, beq_iff_eq] at *
                    exact same.trans same'.symm
                  simpa [clash, alike] using clashes
                · rfl
              · cases found

theorem qualifiers_clash : qualifiers.Pairwise fun word other => clash word other = true := by
  decide

/-- At most one qualifier can be read at a place. -/
theorem run_qualifiers {text : List Char} (behind : text <:+ thread.place.rest)
    {next : Thread → Option Thread} :
    (wordsPart multiLine qualifiers).regex.run (thread.upTo text) next =
      (dropAnyFolded? qualifiers text).bind fun rest => next (thread.upTo rest) := by
  rcases behind with ⟨passed, whole⟩
  rw [run_words (List.subset_append_right _ _), Thread.rest_upTo whole.symm,
    findSome?_bind_of_pairwise, ← dropAnyFolded?]
  · apply Option.bind_congr
    intro rest found
    rcases List.exists_of_findSome?_eq_some found with ⟨word, -, dropped⟩
    rw [Thread.upTo_upTo ⟨passed, whole⟩ ⟨_, (suffix_dropFolded? dropped).symm⟩]
  · apply qualifiers_clash.imp
    intro word other clashes found
    exact dropFolded?_of_clash clashes found

/-- No word of an opener starts with a blank. -/
theorem dropFolded?_of_blank {word text : List Char} (mem : word ∈ keywords ++ qualifiers)
    (blank : text.head?.any Unicode.isBlank = true) : Unicode.dropFolded? word text = none := by
  cases found : Unicode.dropFolded? word text with
  | none => rfl
  | some rest =>
      rcases Unicode.dropFolded?_eq_some_iff.1 found with ⟨read, same, rfl⟩
      have isWord : OpenerWord read := ⟨word, mem, same⟩
      cases read with
      | nil => exact absurd rfl isWord.ne_nil
      | cons c read =>
          rw [List.cons_append, List.head?_cons, Option.any_some] at blank
          have notWord := Unicode.not_isWord_of_isBlank blank
          rw [isWord.isWord c List.mem_cons_self] at notWord
          cases notWord

/-- A round reads blanks and a qualifier. -/
theorem run_qualifier {next : Thread → Option Thread} :
    (qualifierPart multiLine).regex.run thread next =
      (dropQualifier? thread.place.rest).bind fun rest => next (thread.upTo rest) := by
  have step : (qualifierPart multiLine).regex.run thread next =
      (Regex.repeat (char .blank) 1 none true).run thread
        fun middle => (wordsPart multiLine qualifiers).regex.run middle next := rfl
  have isBlank : CharSet.blank.contains = Unicode.isBlank := rfl
  rw [step, run_plus_of_stops, skip_lengthIn, isBlank]
  · cases ahead : thread.place.rest with
    | nil => rfl
    | cons c text =>
        rw [List.head?_cons, Option.any_some, dropQualifier?, List.dropWhile_cons]
        split <;> rename_i blank
        · have behind : text.dropWhile Unicode.isBlank <:+ thread.place.rest := by
            rw [ahead]
            exact (List.dropWhile_suffix _).trans (List.suffix_cons c text)
          exact run_qualifiers behind
        · rfl
  · intro later blank
    rw [run_words (List.subset_append_right _ _), List.findSome?_eq_none_iff]
    intro word mem
    rw [dropFolded?_of_blank (List.mem_append_right _ mem) blank, Option.bind_none]

/-- What the pattern has behind the qualifiers. -/
def bracketRun (multiLine : Bool) (thread : Thread) : Option Thread :=
  (Regex.repeat (char gapSet) 0 none true).run thread
    fun middle => (endPart multiLine).regex.run middle some

theorem runFurther_qualifier {bound : Nat} (enough : thread.place.rest.length ≤ bound)
    (within : Within multiLine thread.place.rest) :
    runFurther true (fun start further => (qualifierPart multiLine).regex.run start further) bound
        thread (bracketRun multiLine) =
      (tail? thread.place.rest).map thread.upTo := by
  induction bound generalizing thread with
  | zero =>
      have empty : thread.place.rest = [] := List.length_eq_zero_iff.1 (Nat.le_zero.1 enough)
      rw [runFurther, bracketRun, run_gap within, empty, tail?]
      rfl
  | succ bound ih =>
      rw [runFurther_succ, bracketRun, run_gap within, run_qualifier, tail?]
      split <;> rename_i qualified
      · rename_i rest
        have shorter := length_dropQualifier? qualified
        have isEnd := suffix_dropQualifier? qualified
        have left : (thread.upTo rest).place.rest = rest := Thread.rest_upTo isEnd.choose_spec.symm
        have moved : ¬(thread.upTo rest).place.index = thread.place.index := by
          rw [Thread.upTo, Thread.place_skip, TextPlace.index_skip]
          omega
        have enough' : (thread.upTo rest).place.rest.length ≤ bound := by
          rw [left]
          omega
        have within' : Within multiLine (thread.upTo rest).place.rest := by
          rw [left]
          exact within.suffix isEnd
        have same : (tail? rest).map (thread.upTo rest).upTo = (tail? rest).map thread.upTo := by
          apply Option.map_congr
          intro last ends
          exact Thread.upTo_upTo isEnd (suffix_tail? ends)
        rw [qualified, Option.bind_some, if_neg moved, ih enough' within', left, same]
        cases tail? rest <;> rfl
      · rw [qualified]
        rfl

/-- As many qualifiers are read as possible, and fewer only where more lead nowhere. -/
theorem run_tail (within : Within multiLine thread.place.rest) :
    (Regex.repeat (qualifierPart multiLine).regex 0 none true).run thread (bracketRun multiLine) =
      (tail? thread.place.rest).map thread.upTo :=
  runFurther_qualifier (Nat.le_refl _) within

/-- The thread behind an opener whose keyword starts at its place. -/
def behindOpener (thread : Thread) (opener : Opener) : Thread :=
  (thread.upTo opener.rest).keep ⟨some groupName, thread.place.index, opener.keyword⟩

/-- What the pattern has from the keyword on. -/
def keywordRun (multiLine : Bool) (thread : Thread) : Option Thread :=
  (wordsPart multiLine keywords).regex.run thread fun closed =>
    (Regex.repeat (qualifierPart multiLine).regex 0 none true).run
      (closed.capture (some groupName) thread.place) (bracketRun multiLine)

theorem run_keyword (within : Within multiLine thread.place.rest) :
    keywordRun multiLine thread =
      (Opener.ofFront? thread.place.rest).map (behindOpener thread) := by
  rw [keywordRun, run_words (List.subset_append_left _ _), Opener.ofFront?]
  apply findSome?_eq_map
  intro keyword mem
  cases dropped : Unicode.dropFolded? keyword thread.place.rest with
  | none => rfl
  | some afterKeyword =>
      have whole := suffix_dropFolded? dropped
      have left : ∀ capture, ((thread.upTo afterKeyword).keep capture).place.rest = afterKeyword :=
        fun _ => Thread.rest_upTo whole
      have within' : ∀ capture,
          Within multiLine ((thread.upTo afterKeyword).keep capture).place.rest := by
        intro capture
        rw [left]
        exact within.suffix ⟨_, whole.symm⟩
      rw [Option.bind_some, Thread.capture_upTo whole, run_tail (within' _), left]
      cases ended : tail? afterKeyword with
      | none => simp [ended]
      | some rest =>
          have further : (thread.upTo afterKeyword).upTo rest = thread.upTo rest :=
            Thread.upTo_upTo ⟨_, whole.symm⟩ (suffix_tail? ended)
          simp only [ended, Option.bind_eq_bind, Option.bind_some, Option.map_some,
            Option.pure_def, behindOpener, ← further]
          rfl

theorem run_lineStart {next : Thread → Option Thread}
    (atStart : multiLine = true ∨ thread.place.before ≠ some '\n') :
    (Regex.lineStart (searchFlags multiLine)).run thread next =
      if thread.place.before.all (· == '\n') then next thread else none := by
  cases multiLine with
  | true => rfl
  | false =>
      have step : (Regex.lineStart (searchFlags false)).run thread next =
          if thread.place.before.isNone then next thread else none := rfl
      rw [step]
      cases before : thread.place.before with
      | none => rfl
      | some c =>
          have notNewline : c ≠ '\n' := by simpa [before] using atStart
          simp [notNewline]

/-- The pattern reads the keyword where a line starts, or else behind a character that ends no
word. -/
theorem run_opener (within : Within multiLine thread.place.rest)
    (atStart : multiLine = true ∨ thread.place.before ≠ some '\n') :
    (openerRegex multiLine).run thread some =
      ((if thread.place.before.all (· == '\n') then
        (Opener.ofFront? thread.place.rest).map (behindOpener thread) else none) <|>
      if thread.place.rest.head?.any (fun c => !Unicode.isWord c) then
        (Opener.ofFront? (thread.skip 1).place.rest).map (behindOpener (thread.skip 1))
      else none) := by
  have step : (openerRegex multiLine).run thread some =
      ((Regex.lineStart (searchFlags multiLine)).run thread (keywordRun multiLine) <|>
        (char (.complement (.unionAll [.word]))).run thread (keywordRun multiLine)) := rfl
  have set : (CharSet.complement (.unionAll [.word])).contains = fun c => !Unicode.isWord c := by
    funext c
    simp [CharSet.unionAll, CharSet.contains]
  have within' : Within multiLine (thread.skip 1).place.rest :=
    within.suffix (List.drop_suffix 1 _)
  rw [step, run_lineStart atStart, run_char, set, run_keyword within, run_keyword within']

end Run

end CrossArch.Assembly
