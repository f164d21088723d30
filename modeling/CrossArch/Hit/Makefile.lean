import CrossArch.Hit.Source

/-!
# Hits in Makefiles

In a Makefile the search is for library references such as `-lm` and for the keys of a rule table. A
hit stands at the start of a line, or after a blank, a quote, `=`, `(`, a comma or a semicolon. A
rule key also has to end its token, unless it ends with `=`.
-/

namespace CrossArch

/-- Whether a token may start after a character. -/
def leadsToken (c : Char) : Bool :=
  Unicode.isBlank c || c == '"' || c == '\'' || c == '=' || c == '(' || c == ',' || c == ';'

/-- Whether a character may stand in the name of a library reference. -/
def isLibraryChar (c : Char) : Bool :=
  Unicode.isWord c || c == '+' || c == '.' || c == ':' || c == '-'

/-- The library reference at the front of a text, after the characters `lead`. -/
def libraryAt? (lead text : List Char) : Option Match :=
  match text with
  | '-' :: 'l' :: rest =>
    let name := rest.takeWhile isLibraryChar
    if name.isEmpty then none
    else some ⟨.library, lead, '-' :: 'l' :: name, [], rest.dropWhile isLibraryChar⟩
  | _ => none

/-- The rule key at the front of a text, after the characters `lead`. -/
def makefileRuleAt? (keys : List (List Char)) (lead text : List Char) : Option Match :=
  (SearchKey.plainAt? keys text).bind fun found =>
    if found.1 = [] then none else some ⟨.rule, lead, found.1, [], found.2⟩

/-- The reference or key at the front of a text, after the characters `lead`. -/
def optionAt? (keys : List (List Char)) (lead text : List Char) : Option Match :=
  libraryAt? lead text <|> makefileRuleAt? keys lead text

/-- The reference or key at a place. -/
def makefileAt? (keys : List (List Char)) (before : Option Char) (text : List Char) :
    Option Match :=
  (if startsLine before then optionAt? keys [] text else none) <|>
    match text with
    | [] => none
    | c :: rest => if leadsToken c then optionAt? keys [c] rest else none

theorem libraryAt?_isFrontOf {lead text : List Char} {found : Match}
    (front : libraryAt? lead text = some found) : found.IsFrontOf (lead ++ text) := by
  unfold libraryAt? at front
  split at front
  · rename_i rest
    simp only at front
    split at front
    · simp at front
    · simp only [Option.some.injEq] at front
      subst front
      exact ⟨by simp [Match.read], by simp⟩
  · simp at front

theorem makefileRuleAt?_isFrontOf {keys : List (List Char)} {lead text : List Char} {found : Match}
    (front : makefileRuleAt? keys lead text = some found) : found.IsFrontOf (lead ++ text) := by
  obtain ⟨⟨key, rest⟩, standing, same⟩ := Option.bind_eq_some_iff.1 front
  split at same
  · simp at same
  · rename_i nonempty
    simp only [Option.some.injEq] at same
    subst same
    obtain ⟨key', -, read⟩ := List.exists_of_findSome?_eq_some standing
    obtain ⟨after, dropped, pair⟩ := Option.map_eq_some_iff.1 read
    simp only [Prod.mk.injEq] at pair
    obtain ⟨rfl, rfl⟩ := pair
    exact ⟨by simp [Match.read, Text.after?_eq_some_iff.1 dropped], nonempty⟩

theorem optionAt?_isFrontOf {keys : List (List Char)} (lead : List Char) {text : List Char}
    {found : Match}
    (front : optionAt? keys lead text = some found) : found.IsFrontOf (lead ++ text) := by
  simp only [optionAt?, Option.orElse_eq_orElse, Option.orElse_eq_or, Option.or_eq_some_iff]
    at front
  rcases front with front | ⟨-, front⟩
  · exact libraryAt?_isFrontOf front
  · exact makefileRuleAt?_isFrontOf front

/-- The matcher for Makefiles. -/
def makefileMatcher (keys : List (List Char)) : Matcher where
  at? := makefileAt? keys
  isFront := by
    intro before text found front
    simp only [makefileAt?, Option.orElse_eq_orElse, Option.orElse_eq_or,
      Option.or_eq_some_iff] at front
    rcases front with front | ⟨-, front⟩
    · split at front
      · exact optionAt?_isFrontOf [] front
      · simp at front
    · split at front
      · simp at front
      · split at front
        · rename_i c rest _
          exact optionAt?_isFrontOf [c] front
        · simp at front

/-- Whether a token ends before the rest of a text. -/
def endsToken (rest : List Char) : Bool :=
  rest.head?.all fun c =>
    Unicode.isBlank c || c == '"' || c == '\'' || c == ')' || c == ',' || c == ';' || c == '\\' ||
      c == '\x7d'

/-- Whether a match is a hit: a rule key has to end with `=` or to end its token. -/
def Match.isMakefileHit (found : Match) : Bool :=
  found.kind != .rule || found.key.getLast? == some '=' || endsToken found.rest

/-- The regular expression that describes the search in Makefiles. -/
def makefilePattern (table : RuleTable) : String :=
  let keys := (SearchKey.ofTable table).map fun key => String.ofList (SearchKey.escape key.toList)
  let start := "(?m)(?:^|[\\s\"'=(,;])"
  let library := "(?P<lib>-l[\\w+.:\\-]+)"
  if keys.isEmpty then start ++ library
  else start ++ "(?:" ++ library ++ "|(?P<rule>" ++ "|".intercalate keys ++ "))"

/-- The hits of a table in a Makefile, in order. -/
def makefileHits (table : RuleTable) (text : List Char) : List Hit :=
  (((makefileMatcher ((SearchKey.ofTable table).map String.toList)).matches text).filter
    fun placed => placed.found.isMakefileHit).map PlacedMatch.hit

end CrossArch
