import CrossArch.Proofs.Hit.Makefile
import CrossArch.Proofs.Hit.SourcePattern

/-!
# The pattern of Makefiles

The pattern of Makefiles begins where a line starts or with a character that leads a token. Behind
that come the library references and, if the table has any, its keys. It denotes an expression, and
a search with it has the hits of the table.
-/

namespace CrossArch

open Regex

/-! ## Reading the pattern -/

/-- The characters that lead a token. -/
def leadSet : CharSet :=
  .unionAll [.blank, .single '"', .single '\'', .single '=', .single '(', .single ',', .single ';']

/-- The characters of a library name. -/
def librarySet : CharSet :=
  .unionAll [.word, .single '+', .single '.', .single ':', .single '-']

/-- What stands before a reference or a key. -/
def leadPart : Part :=
  Part.anyOf [[⟨Regex.lineStart (Assembly.searchFlags true), 0⟩], [⟨.char leadSet, 1⟩]]

/-- The items of a library reference. -/
def libraryParts : List Part :=
  literals (Assembly.searchFlags true) ['-', 'l'] ++ [⟨.repeat (.char librarySet) 1 none true, 2⟩]

/-- A library reference. -/
def libraryPart : Part :=
  (Part.anyOf [libraryParts]).kept HitKind.library.groupName

/-- The keys of a table. -/
def plainRulesPart : List (List Char) → Part :=
  SearchKey.rulesPart (literals (Assembly.searchFlags true))

/-- What can stand behind a lead. -/
def optionPart (keys : List (List Char)) : Part :=
  if keys = [] then libraryPart else (Part.anyOf [[libraryPart], [plainRulesPart keys]]).inGroup

/-- The expression that the pattern of Makefiles denotes. -/
def makefileRegex (keys : List (List Char)) : Regex :=
  (Part.sequence [leadPart.inGroup, optionPart keys]).regex

theorem spells_lead :
    Spells (Assembly.searchFlags true) "(?:^|[\\s\"'=(,;])".toList [leadPart.inGroup] := by
  have spells : ∀ piece ∈ [(['^'], [⟨Regex.lineStart (Assembly.searchFlags true), 0⟩]),
      ("[\\s\"'=(,;]".toList, [⟨.char leadSet, 1⟩])],
      Spells (Assembly.searchFlags true) piece.1 piece.2 := by
    rw [List.forall_mem_cons, List.forall_mem_singleton]
    exact ⟨.lineStart rfl, .bracket rfl fun _ => rfl⟩
  exact .group rfl "?:".toList (fun _ => rfl) rfl (by simp) spells

theorem spells_library :
    Spells (Assembly.searchFlags true) "-l[\\w+.:\\-]+".toList libraryParts := by
  have dash : Spells (Assembly.searchFlags true) ['-'] (literals _ ['-']) :=
    .literal rfl (by decide)
  have letter : Spells (Assembly.searchFlags true) ['l'] (literals _ ['l']) :=
    .literal rfl (by decide)
  have one : Spells (Assembly.searchFlags true) "[\\w+.:\\-]".toList [⟨.char librarySet, 1⟩] :=
    .bracket rfl fun _ => rfl
  have name : Spells (Assembly.searchFlags true) "[\\w+.:\\-]+".toList
      [⟨.repeat (.char librarySet) 1 none true, 2⟩] := .repeated rfl one rfl (by decide)
  exact (dash.append letter (mayFollow_cons (by decide) (by decide) _)).append name
    (mayFollow_cons (by decide) (by decide) _)

/-- The text of a library reference. -/
def libraryText : List Char :=
  '(' :: '?' :: 'P' :: '<' :: (HitKind.library.groupName ++ '>' ::
    (List.intercalate ['|'] ["-l[\\w+.:\\-]+".toList] ++ [')']))

theorem readsAs_library {nested : Bool} {progress : Progress} {rest : List Char}
    {result : Progress × List Char} (same : progress.flags = Assembly.searchFlags true)
    (fresh : HitKind.library.groupName ∉ progress.names)
    (later : ReadsAs nested ({ progress with
      names := HitKind.library.groupName :: progress.names }.push (some libraryPart)) rest result) :
    ReadsAs nested progress (libraryText ++ rest) result := by
  have spells : ∀ piece ∈ [("-l[\\w+.:\\-]+".toList, libraryParts)],
      Spells (Assembly.searchFlags true) piece.1 piece.2 := by
    rw [List.forall_mem_singleton]
    exact spells_library
  simp only [libraryText, List.append_assoc, List.cons_append, List.nil_append]
  exact ReadsAs.namedGroup same rfl (fun _ => rfl) fresh (List.cons_ne_nil _ _) spells later

/-- The text behind a lead. -/
def optionText (keys : List (List Char)) : List Char :=
  if keys = [] then libraryText
  else '(' :: '?' :: ':' ::
    (libraryText ++ '|' :: (SearchKey.rulesText SearchKey.escape keys ++ [')']))

theorem toList_makefilePattern (table : RuleTable) :
    (makefilePattern table).toList = '(' :: '?' :: 'm' :: ')' ::
      ("(?:^|[\\s\"'=(,;])".toList ++
        optionText ((SearchKey.ofTable table).map String.toList)) := by
  have written : ((SearchKey.ofTable table).map fun key =>
      String.ofList (SearchKey.escape key.toList)).map String.toList =
      ((SearchKey.ofTable table).map String.toList).map SearchKey.escape := by
    simp
  have start : "(?m)(?:^|[\\s\"'=(,;])".toList =
      '(' :: '?' :: 'm' :: ')' :: "(?:^|[\\s\"'=(,;])".toList := by
    cbv
  have opened : "|(?P<rule>".toList =
      '|' :: '(' :: '?' :: 'P' :: '<' :: (HitKind.rule.groupName ++ ['>']) := by
    cbv
  have library : "(?P<lib>-l[\\w+.:\\-]+)".toList = libraryText := by cbv
  have bar : "|".toList = ['|'] := by cbv
  have group : "(?:".toList = ['(', '?', ':'] := by cbv
  have closed : "))".toList = [')', ')'] := by cbv
  unfold makefilePattern optionText SearchKey.rulesText
  simp only [List.isEmpty_iff, List.map_eq_nil_iff]
  split
  · simp only [String.toList_append, start, library, List.cons_append]
  · simp only [String.toList_append, String.toList_intercalate, written, start, library, opened,
      bar, group, closed, List.cons_append, List.append_assoc, List.nil_append]

/-- What stands behind a lead is read as one item. -/
theorem readsAs_option (keys : List (List Char)) {progress : Progress}
    (same : progress.flags = Assembly.searchFlags true) (fresh : progress.names = []) :
    ∃ names, ReadsAs false progress (optionText keys)
      ({ progress with names := names }.push (some (optionPart keys)), []) := by
  have plain : progress.flags.verbose = false := by
    rw [same]
    rfl
  have absent : ∀ name, name ∉ progress.names := by simp [fresh]
  rw [optionText, optionPart]
  split <;> rename_i noKeys
  · refine ⟨HitKind.library.groupName :: progress.names, ?_⟩
    rw [← List.append_nil libraryText]
    exact readsAs_library same (absent _) (.finish plain)
  · have starts : ∀ rest, groupStart? progress.flags ('?' :: ':' :: rest) =
        some (.group progress.flags .plain, rest) := by
      intro rest
      rw [same]
      rfl
    let names := HitKind.rule.groupName :: HitKind.library.groupName :: progress.names
    have inside : ReadsAs true ⟨progress.flags, progress.names, [], []⟩
        (libraryText ++ '|' :: (SearchKey.rulesText SearchKey.escape keys ++ [')']))
        (⟨progress.flags, names, [Part.sequence [libraryPart]], [some (plainRulesPart keys)]⟩,
          []) := by
      have same' : (⟨progress.flags, progress.names, [], []⟩ : Progress).flags =
          Assembly.searchFlags true := same
      apply readsAs_library same' (absent _)
      apply ReadsAs.bar
      · exact plain
      · apply SearchKey.readsAs_rules (fun key => .escape rfl key) noKeys
        · exact same
        · exact List.not_mem_cons_of_ne_of_not_mem (by decide) (absent _)
        · exact .close plain
    refine ⟨names, ReadsAs.group plain (starts _) rfl inside ?_ (Nat.zero_le _) (.finish plain)⟩
    simp only [List.length_cons]
    omega

theorem depth_optionPart_le (keys : List (List Char)) : (optionPart keys).depth ≤ 9 := by
  have library : libraryPart.depth ≤ 6 := by decide
  have flat : ∀ key, ∀ part ∈ literals (Assembly.searchFlags true) key, part.depth ≤ 0 := by
    simp [literals]
  have rule : (plainRulesPart keys).depth ≤ 6 :=
    (SearchKey.depth_rulesPart_le flat).trans (by decide)
  rw [optionPart]
  split
  · omega
  · have both : ∀ parts ∈ [[libraryPart], [plainRulesPart keys]], ∀ part ∈ parts,
        part.depth ≤ 6 := by
      simp [library, rule]
    have shallow := Part.depth_anyOf_le both
    simp only [Part.inGroup]
    omega

theorem parse_makefilePattern (table : RuleTable) :
    parse? caseful (makefilePattern table).toList =
      some (makefileRegex ((SearchKey.ofTable table).map String.toList)) := by
  rw [toList_makefilePattern]
  generalize (SearchKey.ofTable table).map String.toList = keys
  have flagged : ∀ rest, groupStart? caseful ('?' :: 'm' :: ')' :: rest) =
      some (.flags (Assembly.searchFlags true), rest) := fun _ => rfl
  let led : Progress := ⟨Assembly.searchFlags true, [], [], [some leadPart.inGroup, none]⟩
  have follows : MayFollow (optionText keys) := by
    rw [optionText]
    split <;> exact mayFollow_cons (by decide) (by decide) _
  have same : led.flags = Assembly.searchFlags true := rfl
  rcases readsAs_option keys same rfl with ⟨names, option⟩
  have reads : ReadsAs false ⟨caseful, [], [], []⟩
      ('(' :: '?' :: 'm' :: ')' :: ("(?:^|[\\s\"'=(,;])".toList ++ optionText keys))
      ({ led with names := names }.push (some (optionPart keys)), []) := by
    apply ReadsAs.flags rfl (flagged _)
    · simp only [List.length_cons]
      omega
    · exact spells_lead false _ _ _ rfl follows option
  have shallow : ({ led with names := names }.push (some (optionPart keys))).whole.depth ≤ 11 := by
    have items : depthOf [(optionPart keys).depth, leadPart.inGroup.depth, 0] ≤ 10 := by
      apply depthOf_le
      have lead : leadPart.inGroup.depth ≤ 9 := by decide
      simp [depth_optionPart_le, lead]
    apply depthOf_le
    exact List.forall_mem_singleton.2 items
  exact parse?_of_readsAs reads (shallow.trans (by decide))

/-! ## Searching with the pattern -/

theorem contains_leadSet : leadSet.contains = leadsToken := by
  funext c
  simp [leadSet, leadsToken, CharSet.unionAll, CharSet.contains, contains_single, Bool.or_assoc]

theorem contains_librarySet : librarySet.contains = isLibraryChar := by
  funext c
  simp [librarySet, isLibraryChar, CharSet.unionAll, CharSet.contains, contains_single,
    Bool.or_assoc]

section Run

variable {keys : List (List Char)} {thread : Thread} (lead : List Char)

/-- A library reference is read as far as its name goes. -/
theorem run_library :
    libraryPart.regex.run thread some =
      (libraryAt? lead thread.place.rest).map fun found => found.behindKey thread := by
  have step : libraryPart.regex.run thread some =
      (ofSets (['-', 'l'].map .single)).run thread fun start =>
        (Regex.repeat (char librarySet) 1 none true).run start fun closed =>
          some (closed.capture (some HitKind.library.groupName) thread.place) := rfl
  rw [step, run_word]
  cases dropped : Text.after? ['-', 'l'] thread.place.rest with
  | none =>
      cases read : libraryAt? lead thread.place.rest with
      | none => rfl
      | some found =>
          rcases libraryAt?_eq_some_iff.1 read with ⟨rest, whole, -⟩
          rw [whole] at dropped
          simp [Text.after?] at dropped
  | some rest =>
      have whole := Text.after?_eq_some_iff.1 dropped
      have left := Thread.rest_upTo whole
      have name : thread.place.rest = ('-' :: 'l' :: rest.takeWhile isLibraryChar) ++
          rest.dropWhile isLibraryChar := by
        simp [whole]
      have further : (thread.upTo rest).upTo (rest.dropWhile isLibraryChar) =
          thread.upTo (rest.dropWhile isLibraryChar) :=
        Thread.upTo_upTo ⟨_, whole.symm⟩ (List.dropWhile_suffix _)
      rw [Option.bind_some, run_plus, skip_lengthIn, contains_librarySet, left, further,
        Thread.capture_upTo name, whole]
      · cases rest with
        | nil => rfl
        | cons c rest =>
            by_cases contained : isLibraryChar c = true
            · simp [libraryAt?, contained, Match.behindKey]
            · simp [libraryAt?, contained]
      · intro nothing
        cases nothing

/-- The first key that stands there is kept. -/
theorem run_plainRules (nonempty : [] ∉ keys) :
    (plainRulesPart keys).regex.run thread some =
      (makefileRuleAt? keys lead thread.place.rest).map fun found => found.behindKey thread := by
  have whole : ∀ key rest, Text.after? key thread.place.rest = some rest →
      thread.place.rest = key ++ rest := fun _ _ => Text.after?_eq_some_iff.1
  have runs : ∀ key (next : Thread → Option Thread),
      (Part.sequence (literals (Assembly.searchFlags true) key)).regex.run thread next =
        (Text.after? key thread.place.rest).bind fun rest => next (thread.upTo rest) := by
    intro key next
    rw [SearchKey.sequence_literals, run_word]
  have rule : makefileRuleAt? keys lead thread.place.rest =
      (SearchKey.plainAt? keys thread.place.rest).map fun found =>
        ⟨.rule, lead, found.1, [], found.2⟩ := by
    rw [makefileRuleAt?, Option.map_eq_bind]
    apply Option.bind_congr
    intro found front
    rw [if_neg]
    · rfl
    · intro empty
      exact nonempty (empty ▸ SearchKey.mem_of_plainAt? front)
  rw [plainRulesPart, SearchKey.run_rules whole runs lead, rule, Option.map_map]
  rfl

/-- Where a reference and a key could be read, the reference is. -/
theorem run_option (nonempty : [] ∉ keys) :
    (optionPart keys).regex.run thread some =
      (optionAt? keys lead thread.place.rest).map fun found => found.behindKey thread := by
  rw [optionAt?, Option.orElse_eq_orElse, Option.orElse_eq_or, Option.map_or, ← run_library lead,
    ← run_plainRules lead nonempty, optionPart]
  split <;> rename_i noKeys
  · have nothing : (plainRulesPart keys).regex.run thread some = none := by
      rw [run_plainRules lead nonempty, noKeys]
      rfl
    rw [nothing, Option.or_none]
  · exact Option.orElse_eq_or

theorem run_makefileRegex (nonempty : [] ∉ keys) :
    (makefileRegex keys).run thread some =
      ((makefileMatcher keys).at? thread.place.before thread.place.rest).map
        fun found => found.behind thread := by
  have step : (makefileRegex keys).run thread some =
      ((Regex.lineStart (Assembly.searchFlags true)).run thread
          (fun start => (optionPart keys).regex.run start some) <|>
        (char leadSet).run thread fun start => (optionPart keys).regex.run start some) := rfl
  have here : (optionPart keys).regex.run thread some =
      (optionAt? keys [] thread.place.rest).map fun found => found.behind thread := by
    rw [run_option [] nonempty]
    apply Option.map_congr
    intro found read
    rw [Match.behind, (parts_of_optionAt? read).1]
    rfl
  rw [step, Assembly.run_lineStart (Or.inl rfl), here, run_char, contains_leadSet, ← startsLine]
  cases ahead : thread.place.rest with
  | nil => simp [makefileMatcher, makefileAt?_nil]
  | cons c rest =>
      have left : (thread.skip 1).place.rest = rest := by simp [ahead]
      have behind : (optionPart keys).regex.run (thread.skip 1) some =
          (optionAt? keys [c] rest).map fun found => found.behind thread := by
        rw [run_option [c] nonempty, left]
        apply Option.map_congr
        intro found read
        have front : found.IsFrontOf thread.place.rest := ahead ▸ optionAt?_isFrontOf [c] read
        have moved := Match.behindKey_skip front
        rwa [(parts_of_optionAt? read).1] at moved
      rw [List.head?_cons, Option.any_some, behind]
      simp only [makefileMatcher, makefileAt?_cons, Option.map_or, Option.orElse_eq_orElse,
        Option.orElse_eq_or]
      congr 1
      · cases startsLine thread.place.before <;> rfl
      · cases leadsToken c <;> rfl

theorem makefileRegex_imitates (nonempty : [] ∉ keys) :
    (makefileRegex keys).Imitates (makefileMatcher keys) := by
  intro index offset before text
  apply foundAt?_of_run (run_makefileRegex nonempty)
  intro found front
  exact (makefileMatcher keys).isFront front

end Run

/-- The hits of a table in a Makefile are those of its pattern, and a line counter that is asked for
the places of their keys, in order, tells their lines. -/
theorem patternHits?_makefilePattern (table : RuleTable) (text : List Char) :
    patternHits? true (makefilePattern table) text = some (makefileHits table text) := by
  have bare : ∀ before rest found,
      (makefileMatcher ((SearchKey.ofTable table).map String.toList)).at? before rest = some found →
        found.kind = .rule → found.trail = [] := by
    intro before rest found read _
    exact (parts_of_makefileAt? read).2.1
  rw [patternHits?_eq (parse_makefilePattern table)
    (makefileRegex_imitates (SearchKey.nil_not_mem_ofTable table)) bare, makefileHits]
  simp

end CrossArch
