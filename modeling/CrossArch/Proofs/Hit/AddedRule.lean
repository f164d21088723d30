import CrossArch.Proofs.Hit.Makefile

/-!
# Adding a rule to a Makefile table

A rule that is added to a table may win a place from a shorter key. If its key is then glued to what
follows, the match is dropped, and the shorter key is not tried again. This is the only way in which
a line can lose its hits, as long as the keys of the table contain no newline: on a line that the
new key does not touch both searches find the same, and where the new key is a hit it covers its
lines.
-/

namespace CrossArch

/-- A table with a rule put into it. -/
def RuleTable.withRule (table : RuleTable) (key : String) (entry : RuleEntry) : RuleTable :=
  ⟨table.rules.insert key entry⟩

/-- Whether a rule was hit on a line. -/
def RuleHitOn (hits : List Hit) (line : Nat) : Prop :=
  ∃ hit ∈ hits, hit.kind = .rule ∧ hit.range.first ≤ line ∧ line ≤ hit.range.last

instance (hits : List Hit) (line : Nat) : Decidable (RuleHitOn hits line) :=
  inferInstanceAs (Decidable (∃ hit ∈ hits,
    hit.kind = .rule ∧ hit.range.first ≤ line ∧ line ≤ hit.range.last))

/-- Whether a key between two texts starts a token that goes on behind it, on lines around
`line`. -/
def isGlued (front key rest : List Char) (line : Nat) : Bool :=
  front.getLast?.all leadsToken && Text.newlines front + 1 ≤ line &&
    line ≤ Text.newlines front + 1 + Text.newlines key && key.getLast? != some '=' &&
      !endsToken rest

/-- A key stands on a line at the start of a token, but the token goes on behind it. -/
def GluedOn (key text : List Char) (line : Nat) : Prop :=
  Text.StandsBetween (fun front rest => isGlued front key rest line) key text

instance (key text : List Char) (line : Nat) : Decidable (GluedOn key text line) :=
  inferInstanceAs (Decidable (Text.StandsBetween _ key text))

theorem Dictionary.mem_keys_insert {α : Type} {dictionary : Dictionary α} {key other : String}
    {value : α} :
    other ∈ (dictionary.insert key value).keys ↔ other = key ∨ other ∈ dictionary.keys := by
  simp only [insert, keys]
  induction dictionary.entries with
  | nil => simp [insertEntry]
  | cons entry rest ih =>
      rw [insertEntry]
      split
      · simp
      · split
        · rename_i same
          simp [same]
        · simp only [List.map_cons, List.mem_cons, ih]
          tauto

section Keys

variable {table : RuleTable}

theorem nil_not_mem_searchTexts : [] ∉ table.searchTexts := by
  intro mem
  rcases List.mem_map.1 mem with ⟨key, keyMem, empty⟩
  have searched := (SearchKey.mem_ofTable.1 keyMem).2
  simp [SearchKey.isSearched, empty] at searched

theorem mem_searchTexts_withRule {key : String} {entry : RuleEntry} {text : List Char}
    (mem : text ∈ (table.withRule key entry).searchTexts) :
    text ∈ table.searchTexts ∨ text = key.toList := by
  rcases List.mem_map.1 mem with ⟨name, nameMem, rfl⟩
  rcases SearchKey.mem_ofTable.1 nameMem with ⟨isKey, searched⟩
  rcases Dictionary.mem_keys_insert.1 isKey with rfl | old
  · exact Or.inr rfl
  · exact Or.inl (List.mem_map_of_mem (SearchKey.mem_ofTable.2 ⟨old, searched⟩))

theorem searchTexts_subset_withRule (key : String) (entry : RuleEntry) {text : List Char}
    (mem : text ∈ table.searchTexts) : text ∈ (table.withRule key entry).searchTexts := by
  rcases List.mem_map.1 mem with ⟨name, nameMem, rfl⟩
  rcases SearchKey.mem_ofTable.1 nameMem with ⟨isKey, searched⟩
  apply List.mem_map_of_mem
  exact SearchKey.mem_ofTable.2 ⟨Dictionary.mem_keys_insert.2 (Or.inr isKey), searched⟩

theorem oneLine_searchTexts (oneLine : table.HasOneLineKeys) :
    ∀ text ∈ table.searchTexts, '\n' ∉ text := by
  intro text mem
  rcases List.mem_map.1 mem with ⟨name, nameMem, rfl⟩
  exact oneLine name (SearchKey.mem_ofTable.1 nameMem).1

end Keys

section Comparison

/-- The keys `more` are the keys `keys` and at most one other, all of them tried longest first. -/
structure AddsKey (keys more : List (List Char)) (added : List Char) : Prop where
  kept : ∀ key ∈ keys, key ∈ more
  onlyAdded : ∀ key ∈ more, key ∈ keys ∨ key = added
  longestFirst : SearchKey.LongestFirst keys
  longestFirst' : SearchKey.LongestFirst more
  nonempty : [] ∉ more

variable {keys more : List (List Char)} {added : List Char}

theorem addsKey_withRule (table : RuleTable) (key : String) (entry : RuleEntry) :
    AddsKey table.searchTexts (table.withRule key entry).searchTexts key.toList where
  kept _ mem := searchTexts_subset_withRule key entry mem
  onlyAdded _ mem := mem_searchTexts_withRule mem
  longestFirst := SearchKey.longestFirst_ofTable table
  longestFirst' := SearchKey.longestFirst_ofTable (table.withRule key entry)
  nonempty := nil_not_mem_searchTexts

/-- Where the added key is not found, the others are found as before. -/
theorem AddsKey.findsSame (adds : AddsKey keys more added) (lead text : List Char) :
    FindsSame (fun found => ¬(found.kind = .rule ∧ found.key = added))
      (makefileRuleAt? more lead text) (makefileRuleAt? keys lead text) := by
  constructor
  · intro nothing
    by_contra something
    rcases Option.ne_none_iff_exists'.1 something with ⟨found, read⟩
    rcases makefileRuleAt?_eq_some_iff.1 read with ⟨key, rest, standing, nonempty, -⟩
    rcases (SearchKey.plainAt?_eq_some_iff adds.longestFirst).1 standing with ⟨keyMem, whole, -⟩
    cases found' : SearchKey.plainAt? more text with
    | none =>
        exact SearchKey.plainAt?_eq_none_iff.1 found' key (adds.kept key keyMem) ⟨rest, whole.symm⟩
    | some pair =>
        have keyMem' := (SearchKey.longest_of_plainAt? adds.longestFirst' found').1
        have isSome : makefileRuleAt? more lead text = some ⟨.rule, lead, pair.1, [], pair.2⟩ :=
          makefileRuleAt?_eq_some_iff.2 ⟨pair.1, pair.2, found',
            fun empty => adds.nonempty (empty ▸ keyMem'), rfl⟩
        simp [nothing] at isSome
  · intro found read notAdded
    rcases makefileRuleAt?_eq_some_iff.1 read with ⟨key, rest, standing, nonempty, rfl⟩
    rcases SearchKey.longest_of_plainAt? adds.longestFirst' standing with ⟨keyMem, whole, longest⟩
    have isOld : key ∈ keys := by
      rcases adds.onlyAdded key keyMem with old | isAdded
      · exact old
      · exact absurd ⟨rfl, isAdded⟩ notAdded
    refine makefileRuleAt?_eq_some_iff.2 ⟨key, rest, ?_, nonempty, rfl⟩
    refine (SearchKey.plainAt?_eq_some_iff adds.longestFirst).2 ⟨isOld, whole, ?_⟩
    intro other otherMem
    exact longest other (adds.kept other otherMem)

variable {before : Option Char} {line : Nat} {text : List Char} {hit : Hit}

/-- A hit of a key without newlines lies on one line. -/
theorem last_eq_first_of_ruleHit (oneLine : ∀ key ∈ keys, '\n' ∉ key)
    (mem : hit ∈ makefileHitsFrom keys before line text) (rule : hit.kind = .rule) :
    hit.range.last = hit.range.first := by
  rcases List.mem_map.1 mem with ⟨placed, placedMem, rfl⟩
  rcases Matcher.exists_at?_of_mem (List.mem_of_mem_filter placedMem) with ⟨before', rest, read⟩
  rcases (parts_of_makefileAt? read).2.2 with ⟨library, -⟩ | ⟨-, keyMem⟩
  · simp_all [PlacedMatch.hit]
  · simp [PlacedMatch.hit, Text.newlines_eq_zero (oneLine _ keyMem)]

/-- Behind a newline all hits lie on later lines. -/
theorem line_behind_lead_le {lead back : List Char} (oneLine : ∀ key ∈ keys, '\n' ∉ key)
    (short : lead = [] ∨ ∃ c, lead = [c])
    (mem : hit ∈ makefileHitsFrom keys before line (lead ++ back)) :
    line + Text.newlines lead ≤ hit.range.first := by
  have bound := (makefileHitsFrom_bounds mem).1
  rcases short with rfl | ⟨c, rfl⟩
  · exact bound
  · by_cases newline : c = '\n'
    · subst newline
      rw [List.singleton_append, makefileHitsFrom_newline_cons oneLine] at mem
      exact (makefileHitsFrom_bounds mem).1
    · rwa [Text.newlines_cons newline, Text.newlines_nil, Nat.add_zero]

/--
Where the search without the added key has a hit, the search with it has a match that covers the
lines of the hit, and this match is a hit or one of the added key.
-/
theorem AddsKey.exists_match (adds : AddsKey keys more added) (oneLine : ∀ key ∈ keys, '\n' ∉ key)
    (mem : hit ∈ makefileHitsFrom keys before line text) (rule : hit.kind = .rule) :
    ∃ placed ∈ (makefileMatcher more).matchesFrom before line text,
      placed.found.kind = .rule ∧ placed.hit.range.first ≤ hit.range.first ∧
        hit.range.last ≤ placed.hit.range.last ∧
        (placed.found.isMakefileHit = true ∨ placed.found.key = added) := by
  -- Both searches stand at the same place until the added key is found; they meet again on the
  -- next line that the added key does not touch.
  fun_induction Matcher.matchesFrom (makefileMatcher more) before line text with
  | case1 => simp at mem
  | case2 before line c rest found read ih =>
      have whole := ((makefileMatcher more).isFront read).1
      by_cases isAdded : found.kind = .rule ∧ found.key = added
      · rcases parts_of_makefileAt? read with ⟨lead, trail, -⟩
        have lines : Text.newlines found.read =
            Text.newlines found.lead + Text.newlines found.key := by
          simp [Match.read, trail]
        by_cases later : line + Text.newlines found.read < hit.range.last
        · rw [whole] at mem
          rcases ih (mem_makefileHitsFrom_of_later_line oneLine mem later) with
            ⟨placed, placedMem, covers⟩
          exact ⟨placed, List.mem_cons_of_mem _ placedMem, covers⟩
        · refine ⟨_, List.mem_cons_self, isAdded.1, ?_, ?_, Or.inr isAdded.2⟩
          · rw [whole, Match.read, List.append_assoc, List.append_assoc] at mem
            have shortLead : found.lead = [] ∨ ∃ c, found.lead = [c] := by
              rcases lead with ⟨empty, -⟩ | ⟨c, same, -⟩
              · exact Or.inl empty
              · exact Or.inr ⟨c, same⟩
            exact line_behind_lead_le oneLine shortLead mem
          · simp only [PlacedMatch.hit]
            omega
      · have readOld :=
          (FindsSame.makefileAt? adds.findsSame before (c :: rest)).2 found read isAdded
        rw [makefileHitsFrom_of_some readOld, List.mem_append] at mem
        rcases mem with here | mem
        · split at here <;> rename_i accepted
          · rw [List.mem_singleton] at here
            subst here
            exact ⟨_, List.mem_cons_self, rule, le_rfl, le_rfl, Or.inl accepted⟩
          · simp at here
        · rcases ih mem with ⟨placed, placedMem, covers⟩
          exact ⟨placed, List.mem_cons_of_mem _ placedMem, covers⟩
  | case3 before line c rest read ih =>
      have readOld := (FindsSame.makefileAt? adds.findsSame before (c :: rest)).1 read
      rw [makefileHitsFrom_of_none readOld] at mem
      simp only [dite_eq_ite, Text.line_behind] at ih
      rw [Text.line_behind]
      exact ih mem

end Comparison

/-- A match of a key that is no hit stands at the start of a token that goes on behind the key. -/
theorem gluedOn_of_not_hit {keys : List (List Char)} {text : List Char} {placed : PlacedMatch}
    (mem : placed ∈ (makefileMatcher keys).matches text)
    (dropped : placed.found.isMakefileHit = false) {line : Nat}
    (first : placed.hit.range.first ≤ line) (last : line ≤ placed.hit.range.last) :
    GluedOn placed.found.key text line := by
  rcases Matcher.exists_place_of_mem mem with ⟨front, whole, place, read⟩
  have trail := (parts_of_makefileAt? read).2.1
  simp only [Match.isMakefileHit, Bool.or_eq_false_iff, beq_eq_false_iff_ne] at dropped
  simp only [PlacedMatch.hit, place] at first last
  have startsToken := startsToken_of_makefileAt? read
  rw [Option.or_none, ← List.getLast?_append] at startsToken
  refine ⟨front ++ placed.found.lead, placed.found.rest, ?_, ?_⟩
  · rw [whole]
    simp [Match.read, trail]
  · simp only [isGlued, Bool.and_eq_true, decide_eq_true_eq, bne_iff_ne, Bool.not_eq_true']
    exact ⟨⟨⟨⟨startsToken, by omega⟩, by omega⟩, dropped.1.2⟩, dropped.2⟩

/--
If the keys of a table contain no newline, a line on which a rule is hit keeps a hit when a rule is
added, unless the key of the added rule stands on the line glued to what follows.
-/
theorem added_rule_keeps_hit_line (table : RuleTable) (oneLine : table.HasOneLineKeys)
    (key : String) (entry : RuleEntry) (text : List Char) (line : Nat)
    (hitOn : RuleHitOn (makefileHits table text) line) :
    RuleHitOn (makefileHits (table.withRule key entry) text) line ∨
      GluedOn key.toList text line := by
  rcases hitOn with ⟨hit, mem, rule, first, last⟩
  have oneLine' := oneLine_searchTexts oneLine
  have single := last_eq_first_of_ruleHit oneLine' mem rule
  rcases (addsKey_withRule table key entry).exists_match oneLine' mem rule with
    ⟨placed, placedMem, isRule, before, after, hitOrAdded⟩
  by_cases accepted : placed.found.isMakefileHit = true
  · left
    refine ⟨placed.hit, ?_, isRule, by omega, by omega⟩
    exact List.mem_map_of_mem (List.mem_filter.2 ⟨placedMem, accepted⟩)
  · right
    have isAdded := hitOrAdded.resolve_left accepted
    rw [← isAdded]
    exact gluedOn_of_not_hit placedMem (by simpa using accepted) (by omega) (by omega)

/-- The added key starts on the line before the hit and ends on the line of the hit. -/
theorem added_rule_keeps_hit_line_march :
    (RuleTable.ofKeys ["-march="]).HasOneLineKeys ∧
      RuleHitOn (makefileHits (.ofKeys ["-march="]) "A=-O2\n-march=x".toList) 2 ∧
      (RuleHitOn (makefileHits ((RuleTable.ofKeys ["-march="]).withRule "-O2\n-march="
          ⟨"", .empty⟩) "A=-O2\n-march=x".toList) 2 ∨
        GluedOn "-O2\n-march=".toList "A=-O2\n-march=x".toList 2) := by
  have oneLine : (RuleTable.ofKeys ["-march="]).HasOneLineKeys := by
    decide +kernel
  have hitOn : RuleHitOn (makefileHits (.ofKeys ["-march="]) "A=-O2\n-march=x".toList) 2 := by
    decide +kernel
  exact ⟨oneLine, hitOn, added_rule_keeps_hit_line _ oneLine "-O2\n-march=" ⟨"", .empty⟩ _ 2 hitOn⟩

/--
An added rule may silence a line. It does if its key is glued to what follows, and a table with a
key that contains a newline may lose a line even if the added key is not glued.
-/
theorem added_rule_silences_line :
    (¬∀ (table : RuleTable) (key : String) (entry : RuleEntry) (text : List Char) (line : Nat),
        table.HasOneLineKeys → SearchKey.isSearched key = true →
        RuleHitOn (makefileHits table text) line →
        RuleHitOn (makefileHits (table.withRule key entry) text) line) ∧
      ¬∀ (table : RuleTable) (key : String) (entry : RuleEntry) (text : List Char) (line : Nat),
        SearchKey.isSearched key = true → ¬GluedOn key.toList text line →
        RuleHitOn (makefileHits table text) line →
        RuleHitOn (makefileHits (table.withRule key entry) text) line := by
  constructor
  · intro keeps
    have hitOn := keeps (.ofKeys ["-march="]) "-march=arm" ⟨"", .empty⟩ "-march=armv8".toList 1
      (by decide +kernel) (by decide +kernel) (by decide +kernel)
    have longestFirst : SearchKey.ofTable ((RuleTable.ofKeys ["-march="]).withRule "-march=arm"
        ⟨"", .empty⟩) = ["-march=arm", "-march="] := by
      apply SearchKey.ofTable_eq_of_sorted <;> decide +kernel
    rw [makefileHits_eq, RuleTable.searchTexts, longestFirst] at hitOn
    revert hitOn
    decide +kernel
  · intro keeps
    have hitOn := keeps (.ofKeys ["-a\n-b"]) "-x -a" ⟨"", .empty⟩ "-x -a\n-b".toList 2
      (by decide +kernel) (by decide +kernel) (by decide +kernel)
    have longestFirst : SearchKey.ofTable ((RuleTable.ofKeys ["-a\n-b"]).withRule "-x -a"
        ⟨"", .empty⟩) = ["-a\n-b", "-x -a"] := by
      apply SearchKey.ofTable_eq_of_sorted <;> decide +kernel
    rw [makefileHits_eq, RuleTable.searchTexts, longestFirst] at hitOn
    revert hitOn
    decide +kernel

end CrossArch
