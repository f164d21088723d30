import CrossArch.Hit.Makefile
import CrossArch.Proofs.Hit.Key
import Mathlib.Data.List.TakeWhile

/-!
# The search in Makefiles

When the keys contain no newline, the search in a Makefile goes line by line: what is found on later
lines does not depend on where in an earlier line the search stands. Two searches with different
keys can then be compared from any place at which both of them stand.
-/

namespace CrossArch

/-- The hits of a Makefile from a place on. -/
def makefileHitsFrom (keys : List (List Char)) (before : Option Char) (line : Nat)
    (text : List Char) : List Hit :=
  (((makefileMatcher keys).matchesFrom before line text).filter
    fun placed => placed.found.isMakefileHit).map PlacedMatch.hit

/-- A library reference in front of a text: `-l` and all the characters of a name that follow. -/
structure IsReference (reference back : List Char) : Prop where
  named : ∃ name, reference = '-' :: 'l' :: name ∧ name ≠ [] ∧ ∀ c ∈ name, isLibraryChar c = true
  ends : ∀ c ∈ back.head?, isLibraryChar c = false

/-- The keys of a table that are searched for, as texts. -/
def RuleTable.searchTexts (table : RuleTable) : List (List Char) :=
  (SearchKey.ofTable table).map String.toList

/-- A table with rules for some keys. -/
def RuleTable.ofKeys (keys : List String) : RuleTable :=
  ⟨.ofList (keys.map fun key => (key, ⟨"", .empty⟩))⟩

theorem makefileHits_eq (table : RuleTable) (text : List Char) :
    makefileHits table text = makefileHitsFrom table.searchTexts none 1 text :=
  rfl

section Steps

variable {keys : List (List Char)} {before : Option Char}

@[simp]
theorem makefileHitsFrom_nil (line : Nat) : makefileHitsFrom keys before line [] = [] := by
  simp [makefileHitsFrom, Matcher.matchesFrom]

theorem makefileHitsFrom_of_some {text : List Char} {found : Match}
    (read : makefileAt? keys before text = some found) (line : Nat) :
    makefileHitsFrom keys before line text =
      (if found.isMakefileHit then [PlacedMatch.hit ⟨found, line + Text.newlines found.lead⟩]
        else []) ++
        makefileHitsFrom keys found.read.getLast? (line + Text.newlines found.read) found.rest := by
  have step : (makefileMatcher keys).at? before text = some found := read
  rw [makefileHitsFrom, Matcher.matchesFrom_of_some step, List.filter_cons]
  split <;> rfl

theorem makefileHitsFrom_of_none {c : Char} {rest : List Char}
    (read : makefileAt? keys before (c :: rest) = none) (line : Nat) :
    makefileHitsFrom keys before line (c :: rest) =
      makefileHitsFrom keys (some c) (line + Text.newlines [c]) rest := by
  have step : (makefileMatcher keys).at? before (c :: rest) = none := read
  rw [makefileHitsFrom, Matcher.matchesFrom_of_none step]
  rfl

/-- The hits from a place on lie on lines of the text. -/
theorem makefileHitsFrom_bounds {line : Nat} {text : List Char} {hit : Hit}
    (mem : hit ∈ makefileHitsFrom keys before line text) :
    line ≤ hit.range.first ∧ hit.range.last ≤ line + Text.newlines text := by
  rcases List.mem_map.1 mem with ⟨placed, placedMem, rfl⟩
  exact Matcher.line_bounds_of_mem (List.mem_of_mem_filter placedMem)

end Steps

section Parts

variable {keys : List (List Char)} {lead text : List Char} {found : Match}

theorem makefileRuleAt?_eq_some_iff :
    makefileRuleAt? keys lead text = some found ↔
      ∃ key rest, SearchKey.plainAt? keys text = some (key, rest) ∧ key ≠ [] ∧
        found = ⟨.rule, lead, key, [], rest⟩ := by
  rw [makefileRuleAt?, Option.bind_eq_some_iff]
  constructor
  · rintro ⟨⟨key, rest⟩, standing, same⟩
    split at same
    · simp at same
    · rename_i nonempty
      exact ⟨key, rest, standing, nonempty, (Option.some.inj same).symm⟩
  · rintro ⟨key, rest, standing, nonempty, rfl⟩
    exact ⟨(key, rest), standing, if_neg nonempty⟩

theorem isLibraryChar_newline : isLibraryChar '\n' = false := by
  decide

/-- A reference consists of `-l` and all the characters of a name that follow. -/
theorem libraryAt?_eq_some_iff :
    libraryAt? lead text = some found ↔
      ∃ rest, text = '-' :: 'l' :: rest ∧ rest.takeWhile isLibraryChar ≠ [] ∧
        found = ⟨.library, lead, '-' :: 'l' :: rest.takeWhile isLibraryChar, [],
          rest.dropWhile isLibraryChar⟩ := by
  constructor
  · intro read
    unfold libraryAt? at read
    split at read
    · rename_i rest
      simp only at read
      split at read
      · simp at read
      · rename_i nonempty
        exact ⟨rest, rfl, by simpa using nonempty, (Option.some.inj read).symm⟩
    · simp at read
  · rintro ⟨rest, rfl, nonempty, rfl⟩
    simp [libraryAt?, nonempty]

theorem optionAt?_eq_some_iff :
    optionAt? keys lead text = some found ↔
      libraryAt? lead text = some found ∨
        libraryAt? lead text = none ∧ makefileRuleAt? keys lead text = some found := by
  rw [optionAt?, Option.orElse_eq_orElse, Option.orElse_eq_or, Option.or_eq_some_iff]

theorem IsReference.inLine {reference back : List Char} (isReference : IsReference reference back) :
    '\n' ∉ reference := by
  rcases isReference.named with ⟨name, rfl, -, nameChars⟩
  simp only [List.mem_cons, Char.reduceEq, false_or]
  intro newline
  have nameChar := nameChars '\n' newline
  simp [isLibraryChar_newline] at nameChar

theorem isReference_of_libraryAt? (read : libraryAt? lead text = some found) :
    IsReference found.key found.rest := by
  rcases libraryAt?_eq_some_iff.1 read with ⟨rest, -, nonempty, rfl⟩
  refine ⟨⟨_, rfl, nonempty, fun c mem => List.mem_takeWhile_imp mem⟩, ?_⟩
  intro c head
  have stops := List.head?_dropWhile_not isLibraryChar rest
  rw [Option.mem_def] at head
  simpa [head] using stops

/-- A match has the given lead and no trail, and it is a reference or one of the keys. -/
theorem parts_of_optionAt? (read : optionAt? keys lead text = some found) :
    found.lead = lead ∧ found.trail = [] ∧
      (found.kind = .library ∧ IsReference found.key found.rest ∨
        found.kind = .rule ∧ found.key ∈ keys) := by
  rcases optionAt?_eq_some_iff.1 read with library | ⟨-, rule⟩
  · have isReference := isReference_of_libraryAt? library
    rcases libraryAt?_eq_some_iff.1 library with ⟨rest, -, -, rfl⟩
    exact ⟨rfl, rfl, Or.inl ⟨rfl, isReference⟩⟩
  · rcases makefileRuleAt?_eq_some_iff.1 rule with ⟨key, rest, standing, -, rfl⟩
    exact ⟨rfl, rfl, Or.inr ⟨rfl, SearchKey.mem_of_plainAt? standing⟩⟩

@[simp]
theorem optionAt?_nil : optionAt? keys lead [] = none := by
  by_contra found
  rcases Option.ne_none_iff_exists'.1 found with ⟨found, read⟩
  rcases optionAt?_isFrontOf lead read with ⟨whole, nonempty⟩
  rw [Match.read, (parts_of_optionAt? read).1] at whole
  simp_all

theorem makefileAt?_nil (before : Option Char) : makefileAt? keys before [] = none := by
  simp [makefileAt?]

theorem makefileAt?_cons (before : Option Char) (c : Char) (rest : List Char) :
    makefileAt? keys before (c :: rest) =
      (if startsLine before then optionAt? keys [] (c :: rest) else none).or
        (if leadsToken c then optionAt? keys [c] rest else none) := by
  simp [makefileAt?]

/-- A key stands at the start of a line, or behind a character that leads a token. -/
theorem parts_of_makefileAt? {before : Option Char}
    (read : makefileAt? keys before text = some found) :
    (found.lead = [] ∧ startsLine before = true ∨ ∃ c, found.lead = [c] ∧ leadsToken c = true) ∧
      found.trail = [] ∧
      (found.kind = .library ∧ IsReference found.key found.rest ∨
        found.kind = .rule ∧ found.key ∈ keys) := by
  cases text with
  | nil =>
      rw [makefileAt?_nil] at read
      simp at read
  | cons c rest =>
      rw [makefileAt?_cons, Option.or_eq_some_iff] at read
      rcases read with atStart | ⟨-, behind⟩
      · split at atStart <;> rename_i starts
        · have parts := parts_of_optionAt? atStart
          exact ⟨Or.inl ⟨parts.1, starts⟩, parts.2⟩
        · simp at atStart
      · split at behind <;> rename_i leads
        · have parts := parts_of_optionAt? behind
          exact ⟨Or.inr ⟨c, parts.1, leads⟩, parts.2⟩
        · simp at behind

/-- A rule match is one of the key that is found behind its lead. -/
theorem plainAt?_of_makefileAt? {before : Option Char}
    (read : makefileAt? keys before text = some found) (rule : found.kind = .rule) :
    SearchKey.plainAt? keys (found.key ++ found.rest) = some (found.key, found.rest) := by
  have atKey : ∀ {lead text : List Char}, optionAt? keys lead text = some found →
      SearchKey.plainAt? keys (found.key ++ found.rest) = some (found.key, found.rest) := by
    intro lead text readHere
    have whole := (optionAt?_isFrontOf lead readHere).1
    rcases optionAt?_eq_some_iff.1 readHere with library | ⟨-, ruleHere⟩
    · rcases libraryAt?_eq_some_iff.1 library with ⟨rest, -, -, rfl⟩
      simp at rule
    · rcases makefileRuleAt?_eq_some_iff.1 ruleHere with ⟨key, rest, standing, -, rfl⟩
      have same : text = key ++ rest := by simpa [Match.read] using whole
      rwa [same] at standing
  cases text with
  | nil =>
      rw [makefileAt?_nil] at read
      simp at read
  | cons c rest =>
      rw [makefileAt?_cons, Option.or_eq_some_iff] at read
      rcases read with atStart | ⟨-, behind⟩
      · split at atStart
        · exact atKey atStart
        · simp at atStart
      · split at behind
        · exact atKey behind
        · simp at behind

theorem leadsToken_of_startsLine {before : Option Char} (starts : startsLine before = true) :
    before.all leadsToken = true := by
  cases before with
  | none => rfl
  | some c =>
      have newline : c = '\n' := by simpa [startsLine] using starts
      rw [newline]
      rfl

theorem startsToken_of_makefileAt? {before : Option Char}
    (read : makefileAt? keys before text = some found) :
    (found.lead.getLast?.or before).all leadsToken = true := by
  rcases (parts_of_makefileAt? read).1 with ⟨none, starts⟩ | ⟨c, one, leads⟩
  · rw [none]
    exact leadsToken_of_startsLine starts
  · simp [one, leads]

end Parts

/-- A match in a longer text. -/
def Match.extend (found : Match) (more : List Char) : Match :=
  { found with rest := found.rest ++ more }

/-- A match with another lead. -/
def Match.withLead (found : Match) (lead : List Char) : Match :=
  { found with lead := lead }

section LineEnd

theorem takeWhile_isLibraryChar_append (text more : List Char) :
    (text ++ '\n' :: more).takeWhile isLibraryChar = text.takeWhile isLibraryChar := by
  induction text with
  | nil => simp [isLibraryChar_newline]
  | cons c rest ih => simp [List.takeWhile_cons, ih]

theorem dropWhile_isLibraryChar_append (text more : List Char) :
    (text ++ '\n' :: more).dropWhile isLibraryChar =
      text.dropWhile isLibraryChar ++ '\n' :: more := by
  induction text with
  | nil => simp [isLibraryChar_newline]
  | cons c rest ih =>
      simp only [List.cons_append, List.dropWhile_cons, ih]
      split <;> rfl

theorem libraryAt?_append_newline (lead text more : List Char) :
    libraryAt? lead (text ++ '\n' :: more) =
      (libraryAt? lead text).map fun found => found.extend ('\n' :: more) := by
  match text with
  | [] => rfl
  | [c] =>
      unfold libraryAt?
      split <;> simp_all
  | c :: d :: rest =>
      by_cases opens : c = '-' ∧ d = 'l'
      · rcases opens with ⟨rfl, rfl⟩
        simp only [List.cons_append, libraryAt?, takeWhile_isLibraryChar_append,
          dropWhile_isLibraryChar_append]
        split <;> rfl
      · unfold libraryAt?
        split <;> simp_all

variable {keys : List (List Char)} (oneLine : ∀ key ∈ keys, '\n' ∉ key)
include oneLine

theorem plainAt?_append_newline (text more : List Char) :
    SearchKey.plainAt? keys (text ++ '\n' :: more) =
      (SearchKey.plainAt? keys text).map fun found => (found.1, found.2 ++ '\n' :: more) := by
  rw [SearchKey.plainAt?, SearchKey.plainAt?]
  induction keys with
  | nil => rfl
  | cons key keys ih =>
      rw [List.forall_mem_cons] at oneLine
      rw [List.findSome?_cons, List.findSome?_cons, Text.after?_append_newline oneLine.1]
      cases Text.after? key text with
      | none => exact ih oneLine.2
      | some rest => rfl

theorem optionAt?_append_newline (lead text more : List Char) :
    optionAt? keys lead (text ++ '\n' :: more) =
      (optionAt? keys lead text).map fun found => found.extend ('\n' :: more) := by
  have rule : makefileRuleAt? keys lead (text ++ '\n' :: more) =
      (makefileRuleAt? keys lead text).map fun found => found.extend ('\n' :: more) := by
    rw [makefileRuleAt?, makefileRuleAt?, plainAt?_append_newline oneLine]
    cases SearchKey.plainAt? keys text with
    | none => rfl
    | some found =>
        simp only [Option.map_some, Option.bind_some]
        split <;> rfl
  simp only [optionAt?, Option.orElse_eq_orElse, Option.orElse_eq_or,
    libraryAt?_append_newline, rule, Option.map_or]

theorem makefileAt?_append_newline (before : Option Char) (c : Char) (rest more : List Char) :
    makefileAt? keys before (c :: rest ++ '\n' :: more) =
      (makefileAt? keys before (c :: rest)).map fun found => found.extend ('\n' :: more) := by
  rw [List.cons_append, makefileAt?_cons, makefileAt?_cons, Option.map_or, ← List.cons_append,
    optionAt?_append_newline oneLine, optionAt?_append_newline oneLine]
  split <;> split <;> rfl

end LineEnd

theorem isMakefileHit_extend (found : Match) (more : List Char) :
    (found.extend ('\n' :: more)).isMakefileHit = found.isMakefileHit := by
  have ends : endsToken (found.rest ++ '\n' :: more) = endsToken found.rest := by
    cases found.rest <;> rfl
  rw [Match.isMakefileHit, Match.isMakefileHit, ← ends]
  rfl

theorem optionAt?_eq_map_withLead (keys : List (List Char)) (lead text : List Char) :
    optionAt? keys lead text = (optionAt? keys [] text).map fun found => found.withLead lead := by
  have library : libraryAt? lead text =
      (libraryAt? [] text).map fun found => found.withLead lead := by
    unfold libraryAt?
    split
    · simp only
      split <;> rfl
    · rfl
  have rule : makefileRuleAt? keys lead text =
      (makefileRuleAt? keys [] text).map fun found => found.withLead lead := by
    rw [makefileRuleAt?, makefileRuleAt?]
    cases SearchKey.plainAt? keys text with
    | none => rfl
    | some found =>
        simp only [Option.bind_some]
        split <;> rfl
  simp only [optionAt?, Option.orElse_eq_orElse, Option.orElse_eq_or, library, rule, Option.map_or]

/-- Nothing is found where `given` is nothing, and `given` itself is found where it is of a sort. -/
def FindsSame (ofSort : Match → Prop) (given other : Option Match) : Prop :=
  (given = none → other = none) ∧ ∀ found, given = some found → ofSort found → other = some found

namespace FindsSame

variable {ofSort : Match → Prop} {keys keys' : List (List Char)}

theorem refl (given : Option Match) : FindsSame ofSort given given :=
  ⟨id, fun _ same _ => same⟩

theorem or {given given' other other' : Option Match} (first : FindsSame ofSort given other)
    (second : FindsSame ofSort given' other') :
    FindsSame ofSort (given.or given') (other.or other') := by
  constructor
  · intro nothing
    rw [Option.or_eq_none_iff] at nothing ⊢
    exact ⟨first.1 nothing.1, second.1 nothing.2⟩
  · intro found same sorted
    rw [Option.or_eq_some_iff] at same ⊢
    rcases same with here | ⟨nothing, there⟩
    · exact Or.inl (first.2 found here sorted)
    · exact Or.inr ⟨first.1 nothing, second.2 found there sorted⟩

theorem optionAt? {lead text : List Char}
    (rules : FindsSame ofSort (makefileRuleAt? keys lead text) (makefileRuleAt? keys' lead text)) :
    FindsSame ofSort (optionAt? keys lead text) (CrossArch.optionAt? keys' lead text) := by
  simp only [CrossArch.optionAt?, Option.orElse_eq_orElse, Option.orElse_eq_or]
  exact (refl _).or rules

/-- Searches that agree on the rule keys agree at every place. -/
theorem makefileAt? (rules : ∀ lead text, FindsSame ofSort (makefileRuleAt? keys lead text)
      (makefileRuleAt? keys' lead text)) (before : Option Char) (text : List Char) :
    FindsSame ofSort (makefileAt? keys before text) (CrossArch.makefileAt? keys' before text) := by
  cases text with
  | nil =>
      rw [makefileAt?_nil, makefileAt?_nil]
      exact refl none
  | cons c rest =>
      rw [makefileAt?_cons, makefileAt?_cons]
      apply FindsSame.or
      · split
        · exact optionAt? (rules [] (c :: rest))
        · exact refl none
      · split
        · exact optionAt? (rules [c] rest)
        · exact refl none

end FindsSame

section LineByLine

variable {keys : List (List Char)} (oneLine : ∀ key ∈ keys, '\n' ∉ key)
include oneLine

/-- A newline leads a token just as the start of a line does, so the search may start behind it. -/
theorem makefileHitsFrom_newline_cons (before : Option Char) (line : Nat) (rest : List Char) :
    makefileHitsFrom keys before line ('\n' :: rest) =
      makefileHitsFrom keys (some '\n') (line + 1) rest := by
  have notAtNewline : optionAt? keys [] ('\n' :: rest) = none := by
    simpa using optionAt?_append_newline oneLine [] [] rest
  have read : makefileAt? keys before ('\n' :: rest) = optionAt? keys ['\n'] rest := by
    rw [makefileAt?_cons, notAtNewline, ite_self, Option.none_or]
    rfl
  rw [optionAt?_eq_map_withLead] at read
  cases atStart : optionAt? keys [] rest with
  | none =>
      rw [atStart] at read
      exact makefileHitsFrom_of_none read line
  | some found =>
      rw [atStart] at read
      have next : makefileAt? keys (some '\n') rest = some found := by
        cases rest with
        | nil => simp at atStart
        | cons c rest =>
            rw [makefileAt?_cons, atStart]
            rfl
      have lead := (parts_of_optionAt? atStart).1
      have nonempty := (optionAt?_isFrontOf [] atStart).read_ne_nil
      have readBoth : (found.withLead ['\n']).read = ['\n'] ++ found.read := by
        simp [Match.read, Match.withLead, lead]
      have last : (['\n'] ++ found.read).getLast? = found.read.getLast? := by
        rw [List.getLast?_append, List.getLast?_eq_some_getLast nonempty, Option.some_or]
      have lines : line + Text.newlines (['\n'] ++ found.read) =
          line + 1 + Text.newlines found.read := by
        rw [Text.newlines_append, Text.newlines_newline_cons, Text.newlines_nil]
        omega
      have line' : line + Text.newlines (found.withLead ['\n']).lead =
          line + 1 + Text.newlines found.lead := by
        simp [Match.withLead, lead]
      rw [makefileHitsFrom_of_some read, makefileHitsFrom_of_some next, readBoth, last, lines,
        line']
      rfl

/-- The hits of a joined text are those of its first part, then those of the second. -/
theorem makefileHitsFrom_append_newline (before : Option Char) (line : Nat)
    (text more : List Char) :
    makefileHitsFrom keys before line (text ++ '\n' :: more) =
      makefileHitsFrom keys before line text ++
        makefileHitsFrom keys (some '\n') (line + Text.newlines text + 1) more := by
  fun_induction Matcher.matchesFrom (makefileMatcher keys) before line text with
  | case1 before line => simpa using makefileHitsFrom_newline_cons oneLine before line more
  | case2 before line c rest found read ih =>
      have whole := ((makefileMatcher keys).isFront read).1
      have read' : makefileAt? keys before (c :: rest ++ '\n' :: more) =
          some (found.extend ('\n' :: more)) := by
        rw [makefileAt?_append_newline oneLine]
        exact congrArg _ read
      have lines : line + Text.newlines (c :: rest) =
          line + Text.newlines found.read + Text.newlines found.rest := by
        rw [whole, Text.newlines_append, Nat.add_assoc]
      rw [makefileHitsFrom_of_some read', makefileHitsFrom_of_some read, isMakefileHit_extend,
        List.append_assoc, lines, ← ih]
      rfl
  | case3 before line c rest read ih =>
      have read' : makefileAt? keys before (c :: (rest ++ '\n' :: more)) = none := by
        rw [← List.cons_append, makefileAt?_append_newline oneLine]
        exact congrArg _ read
      simp only [dite_eq_ite, Text.line_behind] at ih
      rw [List.cons_append, makefileHitsFrom_of_none read', makefileHitsFrom_of_none read, ih,
        Text.newlines_cons_eq c rest, Nat.add_assoc line]

/-- What is found on later lines does not depend on where in an earlier line the search stands. -/
theorem mem_makefileHitsFrom_of_later_line {before before' : Option Char} {line : Nat}
    {front back : List Char} {hit : Hit}
    (mem : hit ∈ makefileHitsFrom keys before line (front ++ back))
    (later : line + Text.newlines front < hit.range.last) :
    hit ∈ makefileHitsFrom keys before' (line + Text.newlines front) back := by
  by_cases newline : '\n' ∈ back
  · rcases List.eq_append_cons_of_mem newline with ⟨ofLine, more, rfl, inLine⟩
    have lines : Text.newlines (front ++ ofLine) = Text.newlines front := by
      rw [Text.newlines_append, Text.newlines_eq_zero inLine, Nat.add_zero]
    rw [← List.append_assoc, makefileHitsFrom_append_newline oneLine, List.mem_append, lines] at mem
    rcases mem with earlier | mem
    · have bounds := (makefileHitsFrom_bounds earlier).2
      omega
    · rw [makefileHitsFrom_append_newline oneLine, Text.newlines_eq_zero inLine, Nat.add_zero]
      exact List.mem_append_right _ mem
  · have bounds := (makefileHitsFrom_bounds mem).2
    rw [Text.newlines_append, Text.newlines_eq_zero newline] at bounds
    omega

end LineByLine

end CrossArch
