import CrossArch.Hit.Source
import CrossArch.Proofs.Lists
import CrossArch.Proofs.Text.Line

/-!
# The search for hits

The search counts newlines as it goes. What it has read and what is still to be read always make up
the text, so a hit lies on lines of the text, and a hit ends no later than the next one begins. In
source files, a hit of a rule table has one of the keys that are searched for.
-/

namespace CrossArch

theorem Match.IsFrontOf.read_ne_nil {found : Match} {text : List Char}
    (front : found.IsFrontOf text) : found.read ≠ [] := by
  simp [Match.read, front.2]

namespace Matcher

variable {matcher : Matcher}

/-- After a match the search goes on behind it. -/
theorem matchesFrom_of_some {before : Option Char} {text : List Char} {found : Match}
    (read : matcher.at? before text = some found) (line : Nat) :
    matcher.matchesFrom before line text =
      ⟨found, line + Text.newlines found.lead⟩ ::
        matcher.matchesFrom found.read.getLast? (line + Text.newlines found.read) found.rest := by
  cases text with
  | nil => simpa using (matcher.isFront read).length_rest_lt
  | cons c rest =>
      rw [matchesFrom]
      split <;> simp_all

/-- Without a match the search goes on behind the first character. -/
theorem matchesFrom_of_none {before : Option Char} {c : Char} {rest : List Char}
    (read : matcher.at? before (c :: rest) = none) (line : Nat) :
    matcher.matchesFrom before line (c :: rest) =
      matcher.matchesFrom (some c) (line + Text.newlines [c]) rest := by
  rw [matchesFrom]
  split
  · simp_all
  · rw [← Text.line_behind]

/-- A match that starts on a line or later ends within the text. -/
theorem line_bounds_of_mem {before : Option Char} {line : Nat} {text : List Char}
    {placed : PlacedMatch} (mem : placed ∈ matcher.matchesFrom before line text) :
    line ≤ placed.line ∧
      placed.line + Text.newlines placed.found.key ≤ line + Text.newlines text := by
  fun_induction matchesFrom matcher before line text with
  | case1 => simp at mem
  | case2 before line c rest found front ih =>
      have whole := (matcher.isFront front).1
      rw [whole, Text.newlines_append]
      rcases List.mem_cons.1 mem with rfl | later
      · simp only [Match.read, Text.newlines_append]
        omega
      · have bounds := ih later
        omega
  | case3 before line c rest front ih =>
      have bounds := ih mem
      by_cases newline : c = '\n'
      · subst newline
        rw [dif_pos rfl] at bounds
        rw [Text.newlines_newline_cons]
        omega
      · rw [dif_neg newline] at bounds
        rw [Text.newlines_cons newline]
        exact bounds

/-- A match ends on the line on which the next one starts, or before it. -/
theorem pairwise_matchesFrom (before : Option Char) (line : Nat) (text : List Char) :
    (matcher.matchesFrom before line text).Pairwise fun placed other =>
      placed.line + Text.newlines placed.found.key ≤ other.line := by
  fun_induction matchesFrom matcher before line text with
  | case1 => exact .nil
  | case2 before line c rest found front ih =>
      refine .cons ?_ ih
      intro other otherMem
      have bounds := (line_bounds_of_mem otherMem).1
      simp only [Match.read, Text.newlines_append] at bounds ⊢
      omega
  | case3 before line c rest front ih => exact ih

/-- Every match was read at a place of the text, and its line counts the newlines before its key. -/
theorem exists_place_of_mem {before : Option Char} {line : Nat} {text : List Char}
    {placed : PlacedMatch} (mem : placed ∈ matcher.matchesFrom before line text) :
    ∃ front, text = front ++ (placed.found.read ++ placed.found.rest) ∧
      placed.line = line + Text.newlines (front ++ placed.found.lead) ∧
      matcher.at? (front.getLast?.or before) (placed.found.read ++ placed.found.rest) =
        some placed.found := by
  fun_induction matchesFrom matcher before line text with
  | case1 => simp at mem
  | case2 before line c rest found front ih =>
      have whole := (matcher.isFront front).1
      rcases List.mem_cons.1 mem with rfl | later
      · exact ⟨[], whole, rfl, whole ▸ front⟩
      · rcases ih later with ⟨between, same, lines, read⟩
        refine ⟨found.read ++ between, ?_, ?_, ?_⟩
        · rw [whole, same, List.append_assoc]
        · rw [lines, List.append_assoc, Text.newlines_append found.read, Nat.add_assoc]
        · rw [getLast?_append_or (matcher.isFront front).read_ne_nil, read]
  | case3 before line c rest front ih =>
      rcases ih mem with ⟨between, same, lines, read⟩
      refine ⟨c :: between, by rw [same, List.cons_append], ?_, ?_⟩
      · rw [lines, dite_eq_ite, Text.line_behind, List.cons_append,
          Text.newlines_cons_eq c (_ ++ _), Nat.add_assoc]
      · rw [← List.singleton_append, getLast?_append_or (List.cons_ne_nil c [])]
        exact read

theorem exists_at?_of_mem {before : Option Char} {line : Nat} {text : List Char}
    {placed : PlacedMatch} (mem : placed ∈ matcher.matchesFrom before line text) :
    ∃ before' rest, matcher.at? before' rest = some placed.found := by
  rcases exists_place_of_mem mem with ⟨front, -, -, read⟩
  exact ⟨_, _, read⟩

end Matcher

/-- No key of a table contains a newline. -/
def RuleTable.HasOneLineKeys (table : RuleTable) : Prop :=
  ∀ key ∈ table.keys, '\n' ∉ key.toList

instance (table : RuleTable) : Decidable table.HasOneLineKeys :=
  inferInstanceAs (Decidable (∀ key ∈ table.keys, '\n' ∉ key.toList))

namespace SearchKey

theorem mem_ofTable {table : RuleTable} {key : String} :
    key ∈ ofTable table ↔ key ∈ table.keys ∧ isSearched key = true := by
  rw [ofTable, List.mem_mergeSort, List.mem_filter]

/-- A key that is searched for is not reserved. -/
theorem not_mem_reservedKeys {table : RuleTable} {key : String} (mem : key ∈ ofTable table) :
    key ∉ reservedKeys := by
  have searched := (mem_ofTable.1 mem).2
  simp only [isSearched, Bool.and_eq_true, Bool.not_eq_true', List.contains_eq_mem,
    decide_eq_false_iff_not] at searched
  exact searched.2

/-- Only keys are read as keys. -/
theorem mem_of_boundedAt? {keys : List (List Char)} {before : Option Char} {text : List Char}
    {found : List Char × List Char} (front : boundedAt? keys before text = some found) :
    found.1 ∈ keys := by
  rcases List.exists_of_findSome?_eq_some front with ⟨key, keyMem, read⟩
  rcases Option.bind_eq_some_iff.1 read with ⟨after, -, bounded⟩
  split at bounded
  · rw [← Option.some.inj bounded]
    exact keyMem
  · simp at bounded

theorem mem_of_plainAt? {keys : List (List Char)} {text : List Char}
    {found : List Char × List Char} (front : plainAt? keys text = some found) : found.1 ∈ keys := by
  rcases List.exists_of_findSome?_eq_some front with ⟨key, keyMem, read⟩
  rcases Option.map_eq_some_iff.1 read with ⟨after, -, rfl⟩
  exact keyMem

end SearchKey

/-- The match of an opener is no match of a rule table. -/
theorem kind_of_openerAt? {before : Option Char} {text : List Char} {found : Match}
    (front : openerAt? before text = some found) : found.kind = .assembly := by
  simp only [openerAt?, Option.orElse_eq_orElse, Option.orElse_eq_or, Option.or_eq_some_iff]
    at front
  rcases front with front | ⟨-, front⟩
  · split at front
    · rcases Option.map_eq_some_iff.1 front with ⟨opener, -, rfl⟩
      rfl
    · simp at front
  · split at front
    · simp at front
    · split at front
      · simp at front
      · rcases Option.map_eq_some_iff.1 front with ⟨opener, -, rfl⟩
        rfl

theorem sourceRuleAt?_eq_some_iff {keys : List (List Char)} {before : Option Char}
    {text : List Char} {found : Match} :
    sourceRuleAt? keys before text = some found ↔
      ∃ key rest, SearchKey.boundedAt? keys before text = some (key, rest) ∧ key ≠ [] ∧
        found = ⟨.rule, [], key, [], rest⟩ := by
  rw [sourceRuleAt?, Option.bind_eq_some_iff]
  constructor
  · rintro ⟨⟨key, rest⟩, standing, same⟩
    split at same
    · simp at same
    · rename_i nonempty
      exact ⟨key, rest, standing, nonempty, (Option.some.inj same).symm⟩
  · rintro ⟨key, rest, standing, nonempty, rfl⟩
    exact ⟨(key, rest), standing, if_neg nonempty⟩

/-- The match of a rule table is one of its keys, without anything before or after it. -/
theorem eq_of_sourceRuleAt? {keys : List (List Char)} {before : Option Char} {text : List Char}
    {found : Match} (front : sourceRuleAt? keys before text = some found) :
    ∃ key ∈ keys, ∃ rest, found = ⟨.rule, [], key, [], rest⟩ := by
  rcases sourceRuleAt?_eq_some_iff.1 front with ⟨key, rest, standing, -, same⟩
  exact ⟨key, SearchKey.mem_of_boundedAt? standing, rest, same⟩

/-- A rule key is read only where no opener is. -/
theorem sourceRuleAt?_of_sourceMatcher {keys : List (List Char)} {before : Option Char}
    {text : List Char} {found : Match} (read : (sourceMatcher keys).at? before text = some found)
    (kind : found.kind = .rule) : sourceRuleAt? keys before text = some found := by
  simp only [sourceMatcher, Option.orElse_eq_orElse, Option.orElse_eq_or,
    Option.or_eq_some_iff] at read
  rcases read with opener | ⟨-, rule⟩
  · rw [kind_of_openerAt? opener] at kind
    simp at kind
  · exact rule

/-- A rule match in a source text is a key, without anything before or after it. -/
theorem eq_of_sourceMatcher_rule {keys : List (List Char)} {before : Option Char}
    {text : List Char} {found : Match} (read : (sourceMatcher keys).at? before text = some found)
    (kind : found.kind = .rule) : ∃ key ∈ keys, ∃ rest, found = ⟨.rule, [], key, [], rest⟩ :=
  eq_of_sourceRuleAt? (sourceRuleAt?_of_sourceMatcher read kind)

section Source

variable {table : RuleTable} {text : List Char}

/-- A hit in a source text lies on lines of the text. -/
theorem sourceHits_bounds {hit : Hit} (mem : hit ∈ sourceHits table text) :
    1 ≤ hit.range.first ∧ hit.range.first ≤ hit.range.last ∧
      hit.range.last ≤ Text.newlines text + 1 := by
  rcases List.mem_map.1 mem with ⟨placed, placedMem, rfl⟩
  have bounds := Matcher.line_bounds_of_mem placedMem
  simp only [PlacedMatch.hit]
  omega

/-- A hit in a source text ends on the line on which the next one starts, or before it. -/
theorem pairwise_sourceHits (table : RuleTable) (text : List Char) :
    (sourceHits table text).Pairwise fun hit other => hit.range.last ≤ other.range.first := by
  apply List.pairwise_map.2
  exact Matcher.pairwise_matchesFrom none 1 text

/-- The key of a rule hit in a source text stands on the lines of the hit. -/
theorem exists_place_of_ruleHit {hit : Hit} (mem : hit ∈ sourceHits table text)
    (kind : hit.kind = .rule) :
    ∃ front back, text = front ++ hit.key ++ back ∧
      hit.range = ⟨Text.newlines front + 1, Text.newlines front + 1 + Text.newlines hit.key⟩ := by
  rcases List.mem_map.1 mem with ⟨placed, placedMem, rfl⟩
  rcases Matcher.exists_place_of_mem placedMem with ⟨front, whole, line, read⟩
  rcases eq_of_sourceMatcher_rule read kind with ⟨key, -, after, same⟩
  rw [same] at whole line
  simp only [Match.read, List.nil_append, List.append_nil] at whole line
  refine ⟨front, after, ?_, ?_⟩
  · simp [PlacedMatch.hit, same, whole]
  · simp [PlacedMatch.hit, line, Nat.add_comm]

/-- The key of a rule hit in a source text is one that is searched for. -/
theorem key_mem_of_ruleHit {hit : Hit} (mem : hit ∈ sourceHits table text)
    (kind : hit.kind = .rule) : String.ofList hit.key ∈ SearchKey.ofTable table := by
  rcases List.mem_map.1 mem with ⟨placed, placedMem, rfl⟩
  rcases Matcher.exists_at?_of_mem placedMem with ⟨before, rest, read⟩
  rcases eq_of_sourceMatcher_rule read kind with ⟨key, keyMem, after, same⟩
  rcases List.mem_map.1 keyMem with ⟨name, nameMem, rfl⟩
  rw [PlacedMatch.hit, same]
  simpa using nameMem

end Source

end CrossArch
