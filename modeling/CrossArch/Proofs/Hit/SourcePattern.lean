import CrossArch.Proofs.Assembly.OpenerPattern
import CrossArch.Proofs.Hit.Pattern

/-!
# The pattern of source files

The pattern of a rule table denotes an expression whatever the keys of the table are: they are
escaped, and the marks for word boundaries stand where no repetition can be mistaken for a part of
them. A search with it reads an opener where there is one, and else the first key that is bounded as
it has to be. So it has the hits of the table. On a single line, the pattern of openers alone finds
the first opener.
-/

namespace CrossArch

open Regex

section Opener

variable {multiLine : Bool} {thread : Thread}

theorem run_openerAt? (within : Assembly.Within multiLine thread.place.rest)
    (atStart : multiLine = true ∨ thread.place.before ≠ some '\n') :
    (Assembly.openerRegex multiLine).run thread some =
      (openerAt? thread.place.before thread.place.rest).map fun found => found.behind thread := by
  have here : (Assembly.Opener.ofFront? thread.place.rest).map (Assembly.behindOpener thread) =
      ((Assembly.Opener.ofFront? thread.place.rest).map (openerMatch [])).map
        fun found => found.behind thread := by
    rw [Option.map_map]
    rfl
  rw [Assembly.run_opener within atStart, here, ← startsLine]
  cases ahead : thread.place.rest with
  | nil =>
      have nothing : Assembly.Opener.ofFront? [] = none := by decide
      simp [openerAt?, nothing]
  | cons c rest =>
      have behind : (Assembly.Opener.ofFront? rest).map (Assembly.behindOpener (thread.skip 1)) =
          ((Assembly.Opener.ofFront? rest).map (openerMatch [c])).map
            fun found => found.behind thread := by
        rw [Option.map_map]
        apply Option.map_congr
        intro opener found
        have front : (openerMatch [c] opener).IsFrontOf thread.place.rest :=
          ahead ▸ openerMatch_isFrontOf [c] found
        exact Match.behindKey_skip front
      have left : (thread.skip 1).place.rest = rest := by simp [ahead]
      rw [List.head?_cons, Option.any_some, left, behind]
      simp only [openerAt?, Option.orElse_eq_orElse, Option.orElse_eq_or, Option.map_or]
      congr 1
      · cases startsLine thread.place.before <;> rfl
      · cases Unicode.isWord c <;> rfl

/-- Apart from what stands before it, the opener at a place of a line is that at the place of a
text. -/
theorem map_openerAt? (before : Option Char) (text : List Char) :
    (openerAt? before text).map (fun found => (found.key, found.trail ++ found.rest)) =
      (Assembly.Opener.at? (startsLine before) text).map
        fun opener => (opener.keyword, opener.afterKeyword) := by
  have each : ∀ lead rest, ((Assembly.Opener.ofFront? rest).map (openerMatch lead)).map
      (fun found => (found.key, found.trail ++ found.rest)) =
      (Assembly.Opener.ofFront? rest).map fun opener => (opener.keyword, opener.afterKeyword) := by
    intro lead rest
    rw [Option.map_map]
    apply Option.map_congr
    intro opener found
    rcases (Assembly.Opener.eq_append_of_ofFront? found).2.1 with ⟨trail, whole⟩
    simp [openerMatch, ← whole]
  simp only [openerAt?, Assembly.Opener.at?, Option.orElse_eq_orElse, Option.orElse_eq_or,
    Option.map_or]
  congr 1
  · cases startsLine before
    · rfl
    · exact each [] text
  · cases text with
    | nil => rfl
    | cons c rest =>
        simp only
        split
        · rfl
        · exact each [c] rest

/-- The keyword of the first match in a line, and what stands behind the keyword. -/
def keywordOf? (line : List Char) (found : List Found) : Option (List Char × List Char) :=
  (found.head?.bind (·.group? (some Assembly.groupName))).map fun capture =>
    (capture.text, line.drop (capture.start + capture.text.length))

theorem keywordOf?_toFound {line front rest : List Char} {before : Option Char} {found : Match}
    (opens : openerAt? before rest = some found) (whole : line = front ++ rest) (offset : Nat)
    (later : List Found) :
    keywordOf? line (found.toFound front.length offset :: later) =
      some (found.key, found.trail ++ found.rest) := by
  have behind : line.drop (front.length + found.lead.length + found.key.length) =
      found.trail ++ found.rest := by
    have split : line = (front ++ found.lead ++ found.key) ++ (found.trail ++ found.rest) := by
      simp [whole, (openerAt?_isFrontOf opens).1, Match.read]
    rw [split, ← List.length_append, ← List.length_append, List.drop_left]
  have group : (found.toFound front.length offset).group? (some Assembly.groupName) =
      some ⟨some Assembly.groupName, front.length + found.lead.length, found.key⟩ := by
    simp [Match.toFound, Found.group?, kind_of_openerAt? opens, HitKind.groupName,
      Assembly.groupName]
  simp only [keywordOf?, List.head?_cons, Option.bind_some, group, Option.map_some, behind]

theorem keywordOf?_searchFrom {line : List Char} (rest : List Char) (inLine : '\n' ∉ rest) :
    ∀ front before, line = front ++ rest → before ≠ some '\n' →
      keywordOf? line ((Assembly.openerRegex false).searchFrom front.length (Text.byteLength front)
          before 0 rest) =
        (Assembly.Opener.find? (startsLine before) rest).map
          fun opener => (opener.keyword, opener.afterKeyword) := by
  induction rest with
  | nil =>
      intro front before whole atStart
      have nothing : ∀ lineStart, Assembly.Opener.find? lineStart [] = none := by decide
      rw [nothing]
      rfl
  | cons c rest ih =>
      intro front before whole atStart
      have runs : (Assembly.openerRegex false).foundAt? (Text.byteLength front)
          ⟨front.length, before, c :: rest⟩ = (openerAt? before (c :: rest)).map
            fun found => found.toFound front.length (Text.byteLength front) :=
        foundAt?_of_run (run_openerAt? (Or.inr inLine) (Or.inr atStart))
          (fun _ => openerAt?_isFrontOf) _
      have same := map_openerAt? before (c :: rest)
      rw [List.mem_cons, not_or] at inLine
      cases opens : openerAt? before (c :: rest) with
      | none =>
          rw [opens] at same runs
          have nothing := Option.map_eq_none_iff.1 same.symm
          have length : front.length + 1 = (front ++ [c]).length := by simp
          have offset : Text.byteLength front + c.utf8Size = Text.byteLength (front ++ [c]) := by
            simp
          rw [searchFrom_cons_of_none runs, Assembly.Opener.find?, nothing, length, offset]
          apply ih inLine.2
          · rw [whole, List.append_assoc, List.singleton_append]
          · simpa using Ne.symm inLine.1
      | some found =>
          rw [opens] at same runs
          rcases Option.map_eq_some_iff.1 same.symm with ⟨opener, atPlace, read⟩
          rw [searchFrom_cons_of_some runs, Assembly.Opener.find?, atPlace,
            keywordOf?_toFound opens whole]
          exact congrArg some read.symm

/-- The first opener of a line is the first match of the pattern of openers. -/
theorem find?_eq_search {line : List Char} (inLine : '\n' ∉ line) :
    (Assembly.Opener.find? true line).map (fun opener => (opener.keyword, opener.afterKeyword)) =
      (parse? caseful Assembly.openerPattern.toList).bind
        fun regex => keywordOf? line (regex.search line) := by
  have parses : parse? caseful Assembly.openerPattern.toList =
      some (Assembly.openerRegex false) := Assembly.parse_openerPattern false
  rw [parses, Option.bind_some]
  exact (keywordOf?_searchFrom line inLine [] none rfl (by simp)).symm

end Opener

namespace SearchKey

/-- The items of a boundary mark. -/
def markParts (edge : Option Char) : List Part :=
  if edge.any isWordEdge then [⟨.assert (.wordBoundary .word), 0⟩] else []

/-- The items of a key with its boundary marks. -/
def boundedParts (multiLine : Bool) (key : List Char) : List Part :=
  markParts key.head? ++ literals (Assembly.searchFlags multiLine) key ++ markParts key.getLast?

theorem spells_bounded (multiLine : Bool) (key : List Char) :
    Spells (Assembly.searchFlags multiLine) (boundedPattern key) (boundedParts multiLine key) := by
  have follows : ∀ edge, MayFollow (boundaryMark edge) := by
    intro edge
    rw [boundaryMark]
    split
    · exact mayFollow_cons (by decide) (by decide) _
    · simp [MayFollow]
  have word : Spells (Assembly.searchFlags multiLine) (escape key) (literals _ key) :=
    .escape rfl key
  have front := (Spells.boundaryMark rfl key.head?).append word (mayFollow_escape key)
  exact front.append (.boundaryMark rfl key.getLast?) (follows _)

section Run

variable {α : Type} {thread : Thread} {next : Thread → Option α}

theorem run_mark (edge : Option Char) :
    (Part.sequence (markParts edge)).regex.run thread next =
      if !edge.any isWordEdge ||
          Unicode.atWordBoundary thread.place.before thread.place.rest.head? then
        next thread
      else none := by
  rw [markParts]
  split <;> rename_i isEdge
  · rw [isEdge]
    rfl
  · rw [Bool.eq_false_iff.2 isEdge]
    rfl

theorem sequence_literals (multiLine : Bool) (key : List Char) :
    (Part.sequence (literals (Assembly.searchFlags multiLine) key)).regex =
      ofSets (key.map .single) := by
  simp only [ofSets_eq_sequence, Part.sequence, literals, List.map_map]
  rfl

/-- A key is read where it stands and is bounded. -/
theorem run_bounded (multiLine : Bool) (key : List Char) :
    (Part.sequence (boundedParts multiLine key)).regex.run thread next =
      (Text.after? key thread.place.rest).bind fun rest =>
        if isBounded key thread.place.before rest.head? then next (thread.upTo rest) else none := by
  have parts : (Part.sequence (boundedParts multiLine key)).regex.run thread next =
      (Part.sequence (markParts key.head?)).regex.run thread fun start =>
        (ofSets (key.map .single)).run start fun behind =>
          (Part.sequence (markParts key.getLast?)).regex.run behind next := by
    rw [← sequence_literals multiLine]
    simp only [Part.sequence, boundedParts, List.map_append, run_sequence_append]
  rw [parts, run_mark, run_word]
  simp only [run_mark]
  cases found : Text.after? key thread.place.rest with
  | none => simp
  | some rest =>
      have whole := Text.after?_eq_some_iff.1 found
      have left := Thread.rest_upTo whole
      cases key with
      | nil => simp [isBounded]
      | cons c key =>
          have first : thread.place.rest.head? = (c :: key).head? := by rw [whole]; rfl
          have last : (thread.upTo rest).place.before = (c :: key).getLast? := by
            rw [Thread.upTo_eq_skip whole, Thread.place_skip, TextPlace.skip, whole, List.take_left,
              List.getLast?_cons, Option.some_or]
          simp only [first, Option.bind_some, left, last, isBounded, Bool.and_eq_true, ite_and]

end Run

theorem flat_boundedParts (multiLine : Bool) (key : List Char) :
    ∀ part ∈ boundedParts multiLine key, part.depth ≤ 0 := by
  intro part mem
  simp only [boundedParts, markParts, literals, List.mem_append, List.mem_map] at mem
  rcases mem with (mem | ⟨c, -, rfl⟩) | mem
  · split at mem <;> simp_all
  · exact Nat.le_refl 0
  · split at mem <;> simp_all

/-! ## Keys as alternatives -/

/-- The text of keys that are kept as a rule. -/
def rulesText (write : List Char → List Char) (keys : List (List Char)) : List Char :=
  '(' :: '?' :: 'P' :: '<' :: (HitKind.rule.groupName ++ '>' ::
    (List.intercalate ['|'] (keys.map write) ++ [')']))

/-- Keys that are kept as a rule. -/
def rulesPart (items : List Char → List Part) (keys : List (List Char)) : Part :=
  (Part.anyOf (keys.map items)).kept HitKind.rule.groupName

section Rules

variable {write : List Char → List Char} {items : List Char → List Part} {keys : List (List Char)}

theorem readsAs_rules {nested : Bool} {progress : Progress} {rest : List Char}
    {result : Progress × List Char}
    (spells : ∀ key, Spells (Assembly.searchFlags true) (write key) (items key))
    (nonempty : keys ≠ []) (same : progress.flags = Assembly.searchFlags true)
    (fresh : HitKind.rule.groupName ∉ progress.names)
    (later : ReadsAs nested ({ progress with
      names := HitKind.rule.groupName :: progress.names }.push (some (rulesPart items keys)))
      rest result) :
    ReadsAs nested progress (rulesText write keys ++ rest) result := by
  let pieces := keys.map fun key => (write key, items key)
  have texts : pieces.map Prod.fst = keys.map write := by
    rw [List.map_map]
    rfl
  have parts : pieces.map Prod.snd = keys.map items := by
    rw [List.map_map]
    rfl
  have spells' : ∀ piece ∈ pieces, Spells (Assembly.searchFlags true) piece.1 piece.2 := by
    simp only [pieces, List.forall_mem_map]
    intro key _
    exact spells key
  simp only [rulesText, ← texts, List.append_assoc, List.cons_append, List.nil_append]
  apply ReadsAs.namedGroup same rfl (fun _ => rfl) fresh (by simpa [pieces] using nonempty) spells'
  rw [parts]
  exact later

theorem depth_rulesPart_le (flat : ∀ key, ∀ part ∈ items key, part.depth ≤ 0) :
    (rulesPart items keys).depth ≤ 3 := by
  have each : ∀ parts ∈ keys.map items, ∀ part ∈ parts, part.depth ≤ 0 := by
    simp only [List.forall_mem_map]
    intro key _
    exact flat key
  exact Nat.succ_le_succ (Part.depth_anyOf_le each)

/-- The first key that can be read is kept, whatever stands before it. -/
theorem run_rules {thread : Thread} {behind? : List Char → Option (List Char)}
    (whole : ∀ key rest, behind? key = some rest → thread.place.rest = key ++ rest)
    (runs : ∀ key (next : Thread → Option Thread),
      (Part.sequence (items key)).regex.run thread next =
        (behind? key).bind fun rest => next (thread.upTo rest)) (lead : List Char) :
    (rulesPart items keys).regex.run thread some =
      (keys.findSome? fun key => (behind? key).map (key, ·)).map fun found =>
        Match.behindKey ⟨.rule, lead, found.1, [], found.2⟩ thread := by
  have step : (rulesPart items keys).regex.run thread some =
      (Part.anyOf (keys.map items)).regex.run thread fun closed =>
        some (closed.capture (some HitKind.rule.groupName) thread.place) := rfl
  rw [step, Part.anyOf, List.map_map, run_anyOf, List.findSome?_map]
  apply findSome?_eq_map
  intro key mem
  rw [Function.comp_apply, Function.comp_apply, runs]
  cases found : behind? key with
  | none => rfl
  | some rest =>
      rw [Option.bind_some, Thread.capture_upTo (whole key rest found)]
      rfl

end Rules

/-- The first key that stands there and is bounded is kept. -/
theorem run_boundedRules (keys : List (List Char)) {thread : Thread} :
    (rulesPart (boundedParts true) keys).regex.run thread some =
      (boundedAt? keys thread.place.before thread.place.rest).map fun found =>
        Match.behind ⟨.rule, [], found.1, [], found.2⟩ thread := by
  let behind? (key : List Char) : Option (List Char) :=
    (Text.after? key thread.place.rest).filter fun rest =>
      isBounded key thread.place.before rest.head?
  have whole : ∀ key rest, behind? key = some rest → thread.place.rest = key ++ rest := by
    intro key rest found
    exact Text.after?_eq_some_iff.1 (Option.filter_eq_some_iff.1 found).1
  have runs : ∀ key (next : Thread → Option Thread),
      (Part.sequence (boundedParts true key)).regex.run thread next =
        (behind? key).bind fun rest => next (thread.upTo rest) := by
    intro key next
    rw [run_bounded]
    cases found : Text.after? key thread.place.rest with
    | none => simp [behind?, found]
    | some rest =>
        simp only [behind?, found, Option.bind_some, Option.filter_some]
        split <;> rfl
  have first : boundedAt? keys thread.place.before thread.place.rest =
      keys.findSome? fun key => (behind? key).map (key, ·) := by
    apply findSome?_congr
    intro key _
    cases found : Text.after? key thread.place.rest with
    | none => simp [behind?, found]
    | some rest =>
        simp only [behind?, found, Option.filter_some, Option.bind_eq_bind, Option.bind_some]
        split <;> rfl
  rw [run_rules whole runs [], first]
  rfl

theorem nil_not_mem_ofTable (table : RuleTable) : [] ∉ (ofTable table).map String.toList := by
  intro mem
  rcases List.mem_map.1 mem with ⟨key, keyMem, empty⟩
  have searched := (mem_ofTable.1 keyMem).2
  rw [isSearched, empty] at searched
  cases searched

end SearchKey

/-- The expression that the pattern of source files denotes. -/
def sourceRegex (keys : List (List Char)) : Regex :=
  if keys = [] then Assembly.openerRegex true
  else anyOf [Assembly.openerRegex true,
    (Part.sequence [SearchKey.rulesPart (SearchKey.boundedParts true) keys]).regex]

theorem toList_sourcePattern (table : RuleTable) :
    (sourcePattern table).toList =
      let keys := (SearchKey.ofTable table).map String.toList
      '(' :: '?' :: 'm' :: ')' :: (Assembly.openerPattern.toList ++
        if keys = [] then [] else '|' :: SearchKey.rulesText SearchKey.boundedPattern keys) := by
  have written : ((SearchKey.ofTable table).map fun key =>
      String.ofList (SearchKey.boundedPattern key.toList)).map String.toList =
      ((SearchKey.ofTable table).map String.toList).map SearchKey.boundedPattern := by
    simp
  by_cases none : SearchKey.ofTable table = []
  · simp [sourcePattern, none]
  · simp only [sourcePattern, List.isEmpty_iff, List.map_eq_nil_iff, none, if_false,
      String.toList_append, String.toList_intercalate, written, HitKind.groupName,
      SearchKey.rulesText]
    simp

/-- How far the pattern is read with the opener behind it. -/
def openerProgress : Progress :=
  Progress.pushAll ⟨Assembly.searchFlags true, [Assembly.groupName], [], [none]⟩
    (Assembly.openerParts true)

theorem readsAs_openerProgress {rest : List Char} {progress : Progress} (follows : MayFollow rest)
    (later : ReadsAs false openerProgress rest (progress, [])) :
    ReadsAs false ⟨caseful, [], [], []⟩
      ('(' :: '?' :: 'm' :: ')' :: (Assembly.openerPattern.toList ++ rest)) (progress, []) := by
  have flagged : ∀ rest, groupStart? caseful ('?' :: 'm' :: ')' :: rest) =
      some (.flags (Assembly.searchFlags true), rest) := fun _ => rfl
  apply ReadsAs.flags rfl (flagged _)
  · simp only [List.length_cons]
    omega
  · exact Assembly.readsAs_opener true rfl List.not_mem_nil follows later

/-- How far the pattern is read with the keys behind it. -/
def rulesProgress (keys : List (List Char)) : Progress :=
  { openerProgress.nextAlternative with
    names := [HitKind.rule.groupName, Assembly.groupName]
    items := [some (SearchKey.rulesPart (SearchKey.boundedParts true) keys)] }

theorem depth_rulesProgress_le (keys : List (List Char)) :
    (rulesProgress keys).whole.depth ≤ 10 := by
  have opener : openerProgress.sequence.depth ≤ 9 := by decide
  have rules : (rulesProgress keys).sequence.depth ≤ 4 := by
    apply depthOf_le
    exact List.forall_mem_singleton.2
      (SearchKey.depth_rulesPart_le (SearchKey.flat_boundedParts true))
  apply depthOf_le
  simp only [List.forall_mem_map]
  intro part mem
  rcases List.mem_append.1 mem with mem | mem
  · rw [List.eq_of_mem_singleton mem]
    exact opener
  · rw [List.eq_of_mem_singleton mem]
    omega

theorem parse_sourcePattern (table : RuleTable) :
    parse? caseful (sourcePattern table).toList =
      some (sourceRegex ((SearchKey.ofTable table).map String.toList)) := by
  rw [toList_sourcePattern]
  generalize (SearchKey.ofTable table).map String.toList = keys
  rw [sourceRegex]
  split <;> rename_i noKeys
  · simp only [noKeys, if_true]
    have reads := readsAs_openerProgress (by simp [MayFollow]) (.finish rfl)
    exact parse?_of_readsAs reads (by decide)
  · simp only [noKeys, if_false]
    have reads : ReadsAs false openerProgress
        ('|' :: SearchKey.rulesText SearchKey.boundedPattern keys) (rulesProgress keys, []) := by
      apply ReadsAs.bar rfl
      rw [← List.append_nil (SearchKey.rulesText _ _)]
      exact SearchKey.readsAs_rules (SearchKey.spells_bounded true) noKeys rfl (by decide)
        (.finish rfl)
    have follows : MayFollow ('|' :: SearchKey.rulesText SearchKey.boundedPattern keys) :=
      mayFollow_cons (by decide) (by decide) _
    exact parse?_of_readsAs (readsAs_openerProgress follows reads)
      ((depth_rulesProgress_le keys).trans (by decide))

section Search

variable {keys : List (List Char)}

/-- Behind the opener, the pattern has the rule keys. -/
theorem run_sourceRegex (nonempty : [] ∉ keys) {thread : Thread} :
    (sourceRegex keys).run thread some =
      ((sourceMatcher keys).at? thread.place.before thread.place.rest).map
        fun found => found.behind thread := by
  have opener : (Assembly.openerRegex true).run thread some =
      (openerAt? thread.place.before thread.place.rest).map fun found => found.behind thread :=
    run_openerAt? (Or.inl rfl) (Or.inl rfl)
  have rule : sourceRuleAt? keys thread.place.before thread.place.rest =
      (SearchKey.boundedAt? keys thread.place.before thread.place.rest).map fun found =>
        ⟨.rule, [], found.1, [], found.2⟩ := by
    rw [sourceRuleAt?, Option.map_eq_bind]
    apply Option.bind_congr
    intro found front
    rw [if_neg]
    · rfl
    · intro empty
      exact nonempty (empty ▸ SearchKey.mem_of_boundedAt? front)
  have both : ((sourceMatcher keys).at? thread.place.before thread.place.rest).map
      (fun found => found.behind thread) =
      ((openerAt? thread.place.before thread.place.rest).map fun found => found.behind thread).or
        ((sourceRuleAt? keys thread.place.before thread.place.rest).map
          fun found => found.behind thread) := by
    simp only [sourceMatcher, Option.orElse_eq_orElse, Option.orElse_eq_or, Option.map_or]
  rw [both, sourceRegex]
  split <;> rename_i noKeys
  · have nothing : sourceRuleAt? keys thread.place.before thread.place.rest = none := by
      rw [noKeys]
      rfl
    rw [nothing, opener, Option.map_none, Option.or_none]
  · have step : (anyOf [Assembly.openerRegex true,
        (Part.sequence [SearchKey.rulesPart (SearchKey.boundedParts true) keys]).regex]).run thread
          some =
        ((Assembly.openerRegex true).run thread some <|>
          (SearchKey.rulesPart (SearchKey.boundedParts true) keys).regex.run thread some) := rfl
    rw [step, opener, SearchKey.run_boundedRules, rule, Option.map_map]
    exact Option.orElse_eq_or

theorem sourceRegex_imitates (nonempty : [] ∉ keys) :
    (sourceRegex keys).Imitates (sourceMatcher keys) := by
  intro index offset before text
  apply foundAt?_of_run (run_sourceRegex nonempty)
  intro found front
  exact (sourceMatcher keys).isFront front

end Search

/-- The hits of a table in a source text are those of its pattern, and a line counter that is asked
for the places of their keys, in order, tells their lines. -/
theorem patternHits?_sourcePattern (table : RuleTable) (text : List Char) :
    patternHits? false (sourcePattern table) text = some (sourceHits table text) := by
  have bare : ∀ before rest found, (sourceMatcher ((SearchKey.ofTable table).map String.toList)).at?
      before rest = some found → found.kind = .rule → found.trail = [] := by
    intro before rest found read kind
    rcases eq_of_sourceMatcher_rule read kind with ⟨key, -, after, rfl⟩
    rfl
  rw [patternHits?_eq (parse_sourcePattern table)
    (sourceRegex_imitates (SearchKey.nil_not_mem_ofTable table)) bare, sourceHits]
  simp

end CrossArch
