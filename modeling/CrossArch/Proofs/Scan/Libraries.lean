import CrossArch.Proofs.Hit.Makefile
import CrossArch.Scan.Makefile

/-!
# The libraries of a Makefile

A library reference stands at the start of a line or behind a delimiter. A rule key may contain this
delimiter, and what the search has read for a key is not read again for a reference, even if the key
turns out to be no hit. Where no key covers the delimiter of a reference, the rules make no
difference: the libraries are those that are found without any rule.
-/

namespace CrossArch

/-- Whether a library reference stands at the front of a text. -/
def startsReference : List Char → Bool
  | '-' :: 'l' :: c :: _ => isLibraryChar c
  | _ => false

/--
Whether a key contains the delimiter of a reference that starts inside the key or right behind it. A
newline at the end of the key does not count, since the reference then starts a line.
-/
def coversDelimiter (rest : List Char) : List Char → Bool
  | [] => false
  | c :: key =>
      leadsToken c && startsReference (key ++ rest) && !(c == '\n' && key.isEmpty) ||
        coversDelimiter rest key

/-- From a place on, one of the keys stands at the start of a token and covers a delimiter. -/
def HidesReference (keys : List (List Char)) (before : Option Char) (text : List Char) : Prop :=
  ∃ key ∈ keys, Text.StandsBetween
    (fun front rest => (front.getLast?.or before).all leadsToken && coversDelimiter rest key)
      key text

instance (keys : List (List Char)) (before : Option Char) (text : List Char) :
    Decidable (HidesReference keys before text) :=
  inferInstanceAs (Decidable (∃ key ∈ keys, Text.StandsBetween _ key text))

/-- A key of a table covers the delimiter of a library reference. -/
def RuleTable.HidesReference (table : RuleTable) (text : List Char) : Prop :=
  CrossArch.HidesReference table.searchTexts none text

instance (table : RuleTable) (text : List Char) : Decidable (table.HidesReference text) :=
  inferInstanceAs (Decidable (HidesReference table.searchTexts none text))

theorem libraryAt?_eq_none_iff {lead text : List Char} :
    libraryAt? lead text = none ↔ startsReference text = false := by
  constructor
  · intro nothing
    unfold startsReference
    split
    · rename_i c rest
      by_contra isLibrary
      rw [Bool.not_eq_false] at isLibrary
      simp [libraryAt?, isLibrary] at nothing
    · rfl
  · intro noReference
    by_contra something
    rcases Option.ne_none_iff_exists'.1 something with ⟨found, read⟩
    rcases libraryAt?_eq_some_iff.1 read with ⟨rest, rfl, nonempty, -⟩
    cases rest with
    | nil => simp at nonempty
    | cons c rest => simp_all [startsReference]

section WithoutKeys

theorem optionAt?_without_keys (lead text : List Char) :
    optionAt? [] lead text = libraryAt? lead text := by
  simp [optionAt?, makefileRuleAt?, SearchKey.plainAt?]

theorem findsSame_without_keys (keys : List (List Char)) (lead text : List Char) :
    FindsSame (fun found => found.kind = .library) (makefileRuleAt? keys lead text)
      (makefileRuleAt? [] lead text) := by
  constructor
  · intro _
    rfl
  · intro found read library
    rcases makefileRuleAt?_eq_some_iff.1 read with ⟨key, rest, -, -, rfl⟩
    simp at library

theorem makefileAt?_without_keys_eq_none {before : Option Char} {c : Char} {rest : List Char}
    (atStart : startsLine before = true → startsReference (c :: rest) = false)
    (behind : leadsToken c = true → startsReference rest = false) :
    makefileAt? [] before (c :: rest) = none := by
  rw [makefileAt?_cons, optionAt?_without_keys, optionAt?_without_keys, Option.or_eq_none_iff]
  constructor
  · split
    · exact libraryAt?_eq_none_iff.2 (atStart ‹_›)
    · rfl
  · split
    · exact libraryAt?_eq_none_iff.2 (behind ‹_›)
    · rfl

/-- The search for references passes over a text that covers no delimiter. -/
theorem makefileHitsFrom_without_keys_append {between rest : List Char}
    (uncovered : coversDelimiter rest between = false) (before : Option Char)
    (atStart : between ≠ [] → startsLine before = true → startsReference (between ++ rest) = false)
    (line : Nat) :
    makefileHitsFrom [] before line (between ++ rest) =
      makefileHitsFrom [] (between.getLast?.or before) (line + Text.newlines between) rest := by
  induction between generalizing before line with
  | nil => simp
  | cons c between ih =>
      rw [coversDelimiter, Bool.or_eq_false_iff] at uncovered
      have last : (c :: between).getLast?.or before = between.getLast?.or (some c) :=
        getLast?_append_or (List.cons_ne_nil c []) between before
      rw [last, Text.newlines_cons_eq c between, ← Nat.add_assoc]
      by_cases endsInNewline : c = '\n' ∧ between = []
      · rcases endsInNewline with ⟨rfl, rfl⟩
        exact makefileHitsFrom_newline_cons (by simp) before line rest
      · have behind : leadsToken c = true → startsReference (between ++ rest) = false := by
          intro leads
          by_contra reference
          rw [Bool.not_eq_false] at reference
          simp_all
        have nothing : makefileAt? [] before (c :: (between ++ rest)) = none :=
          makefileAt?_without_keys_eq_none (atStart (List.cons_ne_nil c between)) behind
        rw [List.cons_append, makefileHitsFrom_of_none nothing]
        apply ih uncovered.2
        intro _ starts
        exact behind (by simpa using leadsToken_of_startsLine starts)

end WithoutKeys

section WithKeys

variable {keys : List (List Char)} {before : Option Char}

theorem not_hidesReference_behind {front rest : List Char} (nonempty : front ≠ [])
    (shown : ¬HidesReference keys before (front ++ rest)) :
    ¬HidesReference keys front.getLast? rest := by
  rintro ⟨key, keyMem, between, after, rfl, accepted⟩
  apply shown
  refine ⟨key, keyMem, front ++ between, after, by simp, ?_⟩
  simpa only [getLast?_append_or nonempty] using accepted

/-- A key is only tried where no reference stands. -/
theorem not_startsReference_of_rule {c : Char} {rest : List Char} {found : Match}
    (read : makefileAt? keys before (c :: rest) = some found) (rule : found.kind = .rule) :
    startsReference (found.key ++ found.rest) = false ∧
      (startsLine before = true → startsReference (c :: rest) = false) := by
  have noReference : ∀ {lead text : List Char}, optionAt? keys lead text = some found →
      startsReference text = false ∧ found.key ++ found.rest = text := by
    intro lead text readHere
    rcases optionAt?_eq_some_iff.1 readHere with library | ⟨nothing, -⟩
    · rcases libraryAt?_eq_some_iff.1 library with ⟨rest, -, -, rfl⟩
      simp at rule
    · refine ⟨libraryAt?_eq_none_iff.1 nothing, ?_⟩
      have whole := (optionAt?_isFrontOf lead readHere).1
      rcases parts_of_optionAt? readHere with ⟨sameLead, trail, -⟩
      simpa [Match.read, sameLead, trail] using whole.symm
  rw [makefileAt?_cons, Option.or_eq_some_iff] at read
  rcases read with atStart | ⟨nothing, behind⟩
  · split at atStart
    · rcases noReference atStart with ⟨none, same⟩
      exact ⟨same ▸ none, fun _ => none⟩
    · simp at atStart
  · split at behind
    · rcases noReference behind with ⟨none, same⟩
      refine ⟨same ▸ none, ?_⟩
      intro starts
      rw [if_pos starts, optionAt?, Option.orElse_eq_orElse, Option.orElse_eq_or,
        Option.or_eq_none_iff] at nothing
      exact libraryAt?_eq_none_iff.1 nothing.1
    · simp at behind

/-- Where a key was read without covering a delimiter, the search for references goes on behind
it. -/
theorem makefileHitsFrom_without_keys_of_rule {c : Char} {rest : List Char} {found : Match}
    (shown : ¬HidesReference keys before (c :: rest))
    (read : makefileAt? keys before (c :: rest) = some found) (rule : found.kind = .rule)
    (line : Nat) :
    makefileHitsFrom [] before line (c :: rest) =
      makefileHitsFrom [] found.read.getLast? (line + Text.newlines found.read) found.rest := by
  have front := (makefileMatcher keys).isFront read
  rcases parts_of_makefileAt? read with ⟨lead, trail, library | ⟨-, keyMem⟩⟩
  · simp [rule] at library
  rcases not_startsReference_of_rule read rule with ⟨notAtKey, notAtStart⟩
  have sameRead : found.read = found.lead ++ found.key := by
    simp [Match.read, trail]
  have keyUncovered : coversDelimiter found.rest found.key = false := by
    by_contra covers
    apply shown
    refine ⟨found.key, keyMem, found.lead, found.rest, by rw [front.1, sameRead], ?_⟩
    rw [Bool.and_eq_true]
    exact ⟨startsToken_of_makefileAt? read, by simpa using covers⟩
  have uncovered : coversDelimiter found.rest found.read = false := by
    rw [sameRead]
    rcases lead with ⟨none, -⟩ | ⟨d, one, -⟩
    · rwa [none, List.nil_append]
    · rw [one, List.singleton_append, coversDelimiter, notAtKey, keyUncovered]
      simp
  rw [front.1] at notAtStart ⊢
  rw [makefileHitsFrom_without_keys_append uncovered before (fun _ => notAtStart),
    List.getLast?_eq_some_getLast front.read_ne_nil, Option.some_or]

/-- If no reference is hidden, the references that are found are those found without any key. -/
theorem libraryHits_eq_without_keys {line : Nat} {text : List Char}
    (shown : ¬HidesReference keys before text) :
    (makefileHitsFrom keys before line text).filter (fun hit => hit.kind == .library) =
      makefileHitsFrom [] before line text := by
  fun_induction Matcher.matchesFrom (makefileMatcher keys) before line text with
  | case1 => simp
  | case2 before line c rest found read ih =>
      have front := (makefileMatcher keys).isFront read
      have shownBehind : ¬HidesReference keys found.read.getLast? found.rest :=
        not_hidesReference_behind front.read_ne_nil (front.1 ▸ shown)
      rw [makefileHitsFrom_of_some read, List.filter_append, ih shownBehind]
      rcases (parts_of_makefileAt? read).2.2 with ⟨library, -⟩ | ⟨rule, -⟩
      · have readAlone :=
          (FindsSame.makefileAt? (findsSame_without_keys keys) before (c :: rest)).2 found read
            library
        have isHit : found.isMakefileHit = true := by
          simp [Match.isMakefileHit, library]
        rw [makefileHitsFrom_of_some readAlone, if_pos isHit]
        simp [PlacedMatch.hit, library]
      · rw [makefileHitsFrom_without_keys_of_rule shown read rule]
        split <;> simp [PlacedMatch.hit, rule]
  | case3 before line c rest read ih =>
      have readAlone :=
        (FindsSame.makefileAt? (findsSame_without_keys keys) before (c :: rest)).1 read
      have shownBehind : ¬HidesReference keys (some c) rest :=
        not_hidesReference_behind (List.cons_ne_nil c []) shown
      simp only [dite_eq_ite, Text.line_behind] at ih
      rw [makefileHitsFrom_of_none read, makefileHitsFrom_of_none readAlone, ih shownBehind]

end WithKeys

theorem librariesOf_filter (hits : List Hit) :
    librariesOf (hits.filter fun hit => hit.kind == .library) = librariesOf hits := by
  simp [librariesOf]

theorem libraries_eq_of_shown {table : RuleTable} {text : List Char}
    (shown : ¬table.HidesReference text) :
    librariesOf (makefileHits table text) = librariesOf (makefileHitsFrom [] none 1 text) := by
  rw [← librariesOf_filter, makefileHits_eq, libraryHits_eq_without_keys shown]

/--
Two catalogs that differ only in their rules for Makefiles find the same libraries, if no key of
either covers the delimiter of a library reference.
-/
theorem libraries_eq_of_not_hidden (catalog : Catalog) (other : RuleTable) (text : List Char)
    (file : String)
    (shown : ¬catalog.makefile.HidesReference (Comment.strip Comment.makeStyle text))
    (shown' : ¬other.HidesReference (Comment.strip Comment.makeStyle text)) :
    (scanMakefile catalog text file).value.libraries =
      (scanMakefile { catalog with makefile := other } text file).value.libraries := by
  simp only [scanMakefile, Logged.value_bind, Logged.value_pure]
  rw [libraries_eq_of_shown shown, libraries_eq_of_shown shown']

/-- A catalog with rules for some options of Makefiles and nothing else. -/
def optionCatalog (keys : List String) : Catalog :=
  ⟨.x86_64, .arm64, .empty, .ofKeys keys, none, []⟩

/-- Both keys contain a comma, but none in front of a reference, and the shorter one is no hit. -/
theorem libraries_eq_of_not_hidden_linker :
    ¬(optionCatalog ["-Wl,-O1"]).makefile.HidesReference
        (Comment.strip Comment.makeStyle "L = -Wl,-O1,-lm # -lc\n-lz".toList) ∧
      ¬(RuleTable.ofKeys ["-Wl,"]).HidesReference
        (Comment.strip Comment.makeStyle "L = -Wl,-O1,-lm # -lc\n-lz".toList) ∧
      (scanMakefile (optionCatalog ["-Wl,-O1"]) "L = -Wl,-O1,-lm # -lc\n-lz".toList
          "Makefile").value.libraries =
        (scanMakefile { optionCatalog ["-Wl,-O1"] with makefile := .ofKeys ["-Wl,"] }
          "L = -Wl,-O1,-lm # -lc\n-lz".toList "Makefile").value.libraries := by
  have shown : ¬(optionCatalog ["-Wl,-O1"]).makefile.HidesReference
      (Comment.strip Comment.makeStyle "L = -Wl,-O1,-lm # -lc\n-lz".toList) := by
    decide +kernel
  have shown' : ¬(RuleTable.ofKeys ["-Wl,"]).HidesReference
      (Comment.strip Comment.makeStyle "L = -Wl,-O1,-lm # -lc\n-lz".toList) := by
    decide +kernel
  exact ⟨shown, shown', libraries_eq_of_not_hidden _ _ _ "Makefile" shown shown'⟩

/-- The rules for Makefiles can hide a library. -/
theorem libraries_depend_on_rules :
    ¬∀ (catalog : Catalog) (other : RuleTable) (text : List Char) (file : String),
      (scanMakefile catalog text file).value.libraries =
        (scanMakefile { catalog with makefile := other } text file).value.libraries := by
  intro same
  have hidden := same (optionCatalog ["-Wl,"]) .empty "LDFLAGS = -Wl,-lm\n".toList "Makefile"
  revert hidden
  decide +kernel

end CrossArch
