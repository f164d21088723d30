import CrossArch.Assembly.Opener
import CrossArch.Hit.Basic
import CrossArch.Hit.Key

/-!
# Hits in source files

In a source file the search is for openers of inline assembly and for the keys of a rule table.
Where both could start, the opener is read.
-/

namespace CrossArch

/-- Whether a place after a character starts a line. -/
def startsLine (before : Option Char) : Bool :=
  before.all (· == '\n')

/-- The match of an opener whose keyword starts `text`, after the characters `lead`. -/
def openerMatch (lead : List Char) (opener : Assembly.Opener) : Match where
  kind := .assembly
  lead := lead
  key := opener.keyword
  trail := opener.afterKeyword.take (opener.afterKeyword.length - opener.rest.length)
  rest := opener.rest

/-- The opener at a place. -/
def openerAt? (before : Option Char) (text : List Char) : Option Match :=
  (if startsLine before then (Assembly.Opener.ofFront? text).map (openerMatch []) else none) <|>
    match text with
    | [] => none
    | c :: rest =>
      if Unicode.isWord c then none else (Assembly.Opener.ofFront? rest).map (openerMatch [c])

/-- The rule key at a place. -/
def sourceRuleAt? (keys : List (List Char)) (before : Option Char) (text : List Char) :
    Option Match :=
  (SearchKey.boundedAt? keys before text).bind fun found =>
    if found.1 = [] then none else some ⟨.rule, [], found.1, [], found.2⟩

theorem openerMatch_isFrontOf (lead : List Char) {text : List Char} {opener : Assembly.Opener}
    (found : Assembly.Opener.ofFront? text = some opener) :
    (openerMatch lead opener).IsFrontOf (lead ++ text) := by
  obtain ⟨same, suffix, nonempty⟩ := Assembly.Opener.eq_append_of_ofFront? found
  refine ⟨?_, nonempty⟩
  obtain ⟨trail, eq⟩ := suffix
  have taken :
      opener.afterKeyword.take (opener.afterKeyword.length - opener.rest.length) = trail := by
    rw [← eq]
    simp
  simp only [openerMatch, Match.read, taken]
  rw [same, ← eq]
  simp

theorem openerAt?_isFrontOf {before : Option Char} {text : List Char} {found : Match}
    (front : openerAt? before text = some found) : found.IsFrontOf text := by
  simp only [openerAt?, Option.orElse_eq_orElse, Option.orElse_eq_or, Option.or_eq_some_iff]
    at front
  rcases front with front | ⟨-, front⟩
  · split at front
    · obtain ⟨opener, read, rfl⟩ := Option.map_eq_some_iff.1 front
      exact openerMatch_isFrontOf [] read
    · simp at front
  · split at front
    · simp at front
    · split at front
      · simp at front
      · rename_i c rest _
        obtain ⟨opener, read, rfl⟩ := Option.map_eq_some_iff.1 front
        exact openerMatch_isFrontOf [c] read

theorem sourceRuleAt?_isFrontOf {keys : List (List Char)} {before : Option Char}
    {text : List Char} {found : Match} (front : sourceRuleAt? keys before text = some found) :
    found.IsFrontOf text := by
  obtain ⟨⟨key, rest⟩, standing, same⟩ := Option.bind_eq_some_iff.1 front
  split at same
  · simp at same
  · rename_i nonempty
    simp only [Option.some.injEq] at same
    subst same
    obtain ⟨key', -, read⟩ := List.exists_of_findSome?_eq_some standing
    obtain ⟨after, dropped, bounded⟩ := Option.bind_eq_some_iff.1 read
    split at bounded
    · simp only [Option.pure_def, Option.some.injEq, Prod.mk.injEq] at bounded
      obtain ⟨rfl, rfl⟩ := bounded
      exact ⟨by simpa [Match.read] using Text.after?_eq_some_iff.1 dropped, nonempty⟩
    · simp at bounded

/-- The matcher for source files. -/
def sourceMatcher (keys : List (List Char)) : Matcher where
  at? before text := openerAt? before text <|> sourceRuleAt? keys before text
  isFront := by
    intro before text found front
    simp only [Option.orElse_eq_orElse, Option.orElse_eq_or, Option.or_eq_some_iff] at front
    rcases front with front | ⟨-, front⟩
    · exact openerAt?_isFrontOf front
    · exact sourceRuleAt?_isFrontOf front

/-- The regular expression that describes the search in source files. -/
def sourcePattern (table : RuleTable) : String :=
  let keys := (SearchKey.ofTable table).map fun key =>
    String.ofList (SearchKey.boundedPattern key.toList)
  let opener := "(?m)" ++ Assembly.openerPattern
  if keys.isEmpty then opener else opener ++ "|(?P<rule>" ++ "|".intercalate keys ++ ")"

/-- The hits of a table in a source text, in order. -/
def sourceHits (table : RuleTable) (text : List Char) : List Hit :=
  ((sourceMatcher ((SearchKey.ofTable table).map String.toList)).matches text).map PlacedMatch.hit

end CrossArch
