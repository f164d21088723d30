import CrossArch.Proofs.Hit.Makefile
import CrossArch.Proofs.Text.Bytes
import CrossArch.Scan.Source

/-!
# Where rule hits stand

The search goes through a text once, so its hits can be given places: the keys stand there one after
the other without overlap, and the lines of a hit count the newlines before its place. At its place
a key is the longest one that could have been read. What else has to hold around a key is different
in source files, where words have to end, and in Makefiles, where a key is a token.
-/

namespace CrossArch

/-- A condition on a key that stands between two texts. -/
abbrev KeySurroundings :=
  (front key back : List Char) → Prop

/--
A key of a table stands between two texts, and no longer key of the table could be read there: none
is verbatim at the place with surroundings that make it eligible.
-/
structure RuleTable.LongestAt (table : RuleTable) (eligible : KeySurroundings)
    (front key back : List Char) : Prop where
  isKey : String.ofList key ∈ table.keys
  isSearched : SearchKey.isSearched (String.ofList key) = true
  longest : ∀ other ∈ table.keys, SearchKey.isSearched other = true →
    Text.byteLength key < other.utf8ByteSize →
    ∀ rest, key ++ back = other.toList ++ rest → ¬eligible front other.toList rest

/--
The hits of a table can be placed in a text: they have byte offsets, ascending and without overlap,
such that the key of each hit stands at its offset, with the lines of the hit, as the longest
eligible key and in surroundings that fit.
-/
def RuleTable.Placed (table : RuleTable) (eligible fits : KeySurroundings) (text : List Char)
    (hits : List Hit) : Prop :=
  ∃ spots : List (Hit × Nat),
    spots.map Prod.fst = hits ∧
      spots.Pairwise (fun spot later =>
        spot.2 < later.2 ∧ spot.2 + Text.byteLength spot.1.key ≤ later.2) ∧
      ∀ spot ∈ spots, ∃ front back, text = front ++ spot.1.key ++ back ∧
        Text.byteLength front = spot.2 ∧
        spot.1.range =
          ⟨Text.newlines front + 1, Text.newlines front + 1 + Text.newlines spot.1.key⟩ ∧
        table.LongestAt eligible front spot.1.key back ∧ fits front spot.1.key back

/-- The key respects the word boundaries that it needs. -/
def BoundedBetween : KeySurroundings := fun front key back =>
  SearchKey.isBounded key front.getLast? back.head? = true

/-- Next to an edge that is an ASCII word character stands no word character. -/
def WordEdges : KeySurroundings := fun front key back =>
  (∀ c ∈ key.head?, Unicode.isAsciiWord c = true → Unicode.touchesWord front.getLast? = false) ∧
    ∀ c ∈ key.getLast?, Unicode.isAsciiWord c = true → Unicode.touchesWord back.head? = false

/-- The key starts a line or stands behind a character that leads a token, and it ends its token
unless it ends with `=`. -/
def TokenEdges : KeySurroundings := fun front key back =>
  (startsLine front.getLast? = true ∨ ∃ c, front.getLast? = some c ∧ leadsToken c = true) ∧
    (key.getLast? = some '=' ∨ endsToken back = true)

namespace Matcher

/-- A match stands in a text with `front` before its key. -/
structure StandsIn (matcher : Matcher) (text front : List Char) (placed : PlacedMatch) : Prop where
  line : placed.line = Text.newlines front + 1
  place : ∃ ahead, front = ahead ++ placed.found.lead ∧
    text = ahead ++ (placed.found.read ++ placed.found.rest) ∧
    matcher.at? ahead.getLast? (placed.found.read ++ placed.found.rest) = some placed.found

variable {matcher : Matcher}

/-- The matches behind what was passed have places, one after the other. -/
theorem exists_fronts (passed text : List Char) {before : Option Char} {line : Nat}
    (last : before = passed.getLast?) (number : line = Text.newlines passed + 1) :
    ∃ spots : List (List Char × PlacedMatch),
      spots.map Prod.snd = matcher.matchesFrom before line text ∧
        spots.Pairwise (fun spot later => spot.1 ++ spot.2.found.key <+: later.1) ∧
        ∀ spot ∈ spots, passed <+: spot.1 ∧ StandsIn matcher (passed ++ text) spot.1 spot.2 := by
  fun_induction matchesFrom matcher before line text generalizing passed with
  | case1 => exact ⟨[], rfl, .nil, by simp⟩
  | case2 before line c rest found read ih =>
      have front := matcher.isFront read
      have last' : found.read.getLast? = (passed ++ found.read).getLast? := by
        rw [List.getLast?_append, List.getLast?_eq_some_getLast front.read_ne_nil, Option.some_or]
      rcases ih (passed ++ found.read) last' (by rw [number, Text.newlines_append]; omega) with
        ⟨spots, same, apart, stand⟩
      have whole : passed ++ c :: rest = passed ++ found.read ++ found.rest := by
        rw [front.1, List.append_assoc]
      refine ⟨(passed ++ found.lead, ⟨found, line + Text.newlines found.lead⟩) :: spots,
        by rw [List.map_cons, same], .cons ?_ apart, ?_⟩
      · intro later laterMem
        refine List.IsPrefix.trans ?_ (stand later laterMem).1
        exact ⟨found.trail, by simp [Match.read]⟩
      · intro spot spotMem
        rcases List.mem_cons.1 spotMem with rfl | laterMem
        · refine ⟨List.prefix_append _ _, ?_, passed, rfl, by rw [front.1], ?_⟩
          · rw [number, Text.newlines_append]
            exact Nat.add_right_comm _ _ _
          · rw [← last, ← front.1]
            exact read
        · rcases stand spot laterMem with ⟨behind, standsIn⟩
          rw [whole]
          exact ⟨(List.prefix_append _ _).trans behind, standsIn⟩
  | case3 before line c rest read ih =>
      have last' : some c = (passed ++ [c]).getLast? := by simp
      rcases ih (passed ++ [c]) last' (by
        rw [dite_eq_ite, Text.line_behind, number, Text.newlines_append]
        exact Nat.add_right_comm _ _ _) with ⟨spots, same, apart, stand⟩
      refine ⟨spots, same, apart, ?_⟩
      intro spot spotMem
      rcases stand spot spotMem with ⟨behind, standsIn⟩
      rw [List.append_assoc] at standsIn
      exact ⟨(List.prefix_append _ _).trans behind, standsIn⟩

end Matcher

section Placed

variable {table : RuleTable} {eligible fits : KeySurroundings}

/-- If every rule match that is kept has its key in the right surroundings, the rule hits can be
placed. -/
theorem placed_of_matches {matcher : Matcher} (keeps : Match → Bool) {text : List Char}
    (each : ∀ ahead found, matcher.at? ahead.getLast? (found.read ++ found.rest) = some found →
      found.kind = .rule → keeps found = true →
      found.trail = [] ∧ table.LongestAt eligible (ahead ++ found.lead) found.key found.rest ∧
        fits (ahead ++ found.lead) found.key found.rest) :
    table.Placed eligible fits text
      (ruleHits (((matcher.matches text).filter fun placed => keeps placed.found).map
        PlacedMatch.hit)) := by
  rcases matcher.exists_fronts [] text rfl rfl with ⟨spots, same, apart, stand⟩
  refine ⟨(spots.filter fun spot => spot.2.found.kind == .rule && keeps spot.2.found).map
    fun spot => (spot.2.hit, Text.byteLength spot.1), ?_, ?_, ?_⟩
  · have same' : matcher.matches text = spots.map Prod.snd := same.symm
    simp only [same', ruleHits, List.filter_map, List.map_map, List.filter_filter]
    rfl
  · rw [List.pairwise_map]
    refine List.Pairwise.imp_of_mem ?_ (apart.sublist List.filter_sublist)
    intro spot later spotMem _ behind
    rcases (stand spot (List.mem_of_mem_filter spotMem)).2.place with ⟨ahead, -, -, read⟩
    have positive := Text.byteLength_pos (matcher.isFront read).2
    have size := Text.byteLength_le_of_front behind
    rw [Text.byteLength_append] at size
    exact ⟨by omega, size⟩
  · intro spot spotMem
    rcases List.mem_map.1 spotMem with ⟨⟨front, placed⟩, keptMem, rfl⟩
    rcases List.mem_filter.1 keptMem with ⟨mem, kept⟩
    rw [Bool.and_eq_true, beq_iff_eq] at kept
    have standsIn : matcher.StandsIn text front placed := (stand _ mem).2
    rcases standsIn with ⟨line, ahead, rfl, whole, read⟩
    rcases each ahead placed.found read kept.1 kept.2 with ⟨trail, longest, fitting⟩
    refine ⟨ahead ++ placed.found.lead, placed.found.rest, ?_, rfl, ?_, longest, fitting⟩
    · simp [whole, Match.read, trail, PlacedMatch.hit]
    · rw [PlacedMatch.hit, line]

/-- The longest of the keys that are searched for is the longest of the table. -/
theorem longestAt_of_searchTexts {front key back : List Char} (keyMem : key ∈ table.searchTexts)
    (longest : ∀ other ∈ table.searchTexts, ∀ rest, key ++ back = other ++ rest →
      eligible front other rest → other <+: key) :
    table.LongestAt eligible front key back := by
  rcases List.mem_map.1 keyMem with ⟨name, nameMem, rfl⟩
  rcases SearchKey.mem_ofTable.1 nameMem with ⟨isKey, isSearched⟩
  refine ⟨by simpa using isKey, by simpa using isSearched, ?_⟩
  intro other otherKey otherSearched longer rest whole isEligible
  have otherMem : other.toList ∈ table.searchTexts :=
    List.mem_map_of_mem (SearchKey.mem_ofTable.2 ⟨otherKey, otherSearched⟩)
  have size := Text.byteLength_le_of_front (longest _ otherMem rest whole isEligible)
  rw [Text.byteLength, String.ofList_toList] at size
  omega

theorem placed_sourceHits (table : RuleTable) (text : List Char) :
    table.Placed BoundedBetween WordEdges text (ruleHits (sourceHits table text)) := by
  have kept : sourceHits table text =
      ((((sourceMatcher table.searchTexts).matches text).filter fun _ => true).map
        PlacedMatch.hit) := by
    rw [List.filter_true]
    rfl
  rw [kept]
  apply placed_of_matches fun _ => true
  intro ahead found read rule _
  rcases sourceRuleAt?_eq_some_iff.1 (sourceRuleAt?_of_sourceMatcher read rule) with
    ⟨key, rest, standing, -, rfl⟩
  rcases SearchKey.longest_of_boundedAt? (SearchKey.longestFirst_ofTable table) standing with
    ⟨keyMem, -, bounded, longest⟩
  simp only [Match.read, List.nil_append, List.append_nil] at longest ⊢
  exact ⟨trivial, longestAt_of_searchTexts keyMem longest, SearchKey.word_ends_of_isBounded bounded⟩

theorem placed_makefileHits (table : RuleTable) (text : List Char) :
    table.Placed (fun _ _ _ => True) TokenEdges text (ruleHits (makefileHits table text)) := by
  apply placed_of_matches Match.isMakefileHit
  intro ahead found read rule hit
  rcases parts_of_makefileAt? read with ⟨lead, trail, -⟩
  rcases SearchKey.longest_of_plainAt? (SearchKey.longestFirst_ofTable table)
    (plainAt?_of_makefileAt? read rule) with ⟨keyMem, -, longest⟩
  refine ⟨trail, longestAt_of_searchTexts keyMem ?_, ?_, ?_⟩
  · intro other otherMem rest whole _
    exact longest other otherMem ⟨rest, whole.symm⟩
  · rcases lead with ⟨none, starts⟩ | ⟨c, one, leads⟩
    · left
      rwa [none, List.append_nil]
    · right
      exact ⟨c, by simp [one], leads⟩
  · simpa [Match.isMakefileHit, rule] using hit

end Placed

/--
The rule hits of a table are sound, and longer keys win. In source texts and in Makefiles they can
be placed one after the other, each with its key verbatim at its place and on the lines of the hit,
and no longer key of the table is eligible there. In source texts words end around a key, in
Makefiles tokens do.
-/
theorem ruleHits_placed (table : RuleTable) (text : List Char) :
    table.Placed BoundedBetween WordEdges text (ruleHits (sourceHits table text)) ∧
      table.Placed (fun _ _ _ => True) TokenEdges text (ruleHits (makefileHits table text)) :=
  ⟨placed_sourceHits table text, placed_makefileHits table text⟩

end CrossArch
