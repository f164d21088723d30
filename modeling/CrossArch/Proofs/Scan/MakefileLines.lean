import CrossArch.Proofs.Comment.LineMarker
import CrossArch.Proofs.Hit.AddedRule
import CrossArch.Proofs.Lists
import CrossArch.Proofs.Scan.Libraries

/-!
# Makefiles line by line

When the keys contain no newline, a Makefile may be cut at any newline and its parts may be scanned
by themselves: comments end with their lines, no hit reads over a newline together with what stands
before it, and the start of a line leads a token just as a newline does. What depends on the first
part is only the numbers of the later lines, and which of the later libraries are new.
-/

namespace CrossArch

/-- The hit so many lines further down. -/
def Hit.shift (lines : Nat) (hit : Hit) : Hit :=
  { hit with range := hit.range.shift lines }

/-- The finding so many lines further down. -/
def Finding.shift (lines : Nat) (finding : Finding) : Finding :=
  { finding with range := finding.range.map (LineRange.shift lines) }

section Hits

variable {keys : List (List Char)}

theorem PlacedMatch.hit_add (found : Match) (line lines : Nat) :
    PlacedMatch.hit ⟨found, line + lines⟩ = (PlacedMatch.hit ⟨found, line⟩).shift lines := by
  simp [PlacedMatch.hit, Hit.shift, LineRange.shift, Nat.add_right_comm]

/-- The hits of a text that starts so many lines further down. -/
theorem makefileHitsFrom_add (before : Option Char) (line lines : Nat) (text : List Char) :
    makefileHitsFrom keys before (line + lines) text =
      (makefileHitsFrom keys before line text).map (Hit.shift lines) := by
  fun_induction Matcher.matchesFrom (makefileMatcher keys) before line text with
  | case1 => simp
  | case2 before line c rest found read ih =>
      have behind : line + lines + Text.newlines found.read =
          line + Text.newlines found.read + lines := Nat.add_right_comm _ _ _
      have atKey : line + lines + Text.newlines found.lead =
          line + Text.newlines found.lead + lines := Nat.add_right_comm _ _ _
      rw [makefileHitsFrom_of_some read, makefileHitsFrom_of_some read, List.map_append, behind, ih,
        atKey, PlacedMatch.hit_add]
      split <;> rfl
  | case3 before line c rest read ih =>
      simp only [dite_eq_ite, Text.line_behind] at ih
      have behind : line + lines + Text.newlines [c] = line + Text.newlines [c] + lines :=
        Nat.add_right_comm _ _ _
      rw [makefileHitsFrom_of_none read, makefileHitsFrom_of_none read, behind, ih]

/-- Behind a newline the search goes on as at the start of a text. -/
theorem makefileHitsFrom_behind_newline (line : Nat) (text : List Char) :
    makefileHitsFrom keys (some '\n') line text = makefileHitsFrom keys none line text := by
  cases text with
  | nil => simp
  | cons c rest =>
      have same : makefileAt? keys (some '\n') (c :: rest) = makefileAt? keys none (c :: rest) := by
        rw [makefileAt?_cons, makefileAt?_cons]
        rfl
      cases read : makefileAt? keys none (c :: rest) with
      | none => rw [makefileHitsFrom_of_none read, makefileHitsFrom_of_none (same.trans read)]
      | some found => rw [makefileHitsFrom_of_some read, makefileHitsFrom_of_some (same.trans read)]

/-- The hits of a joined text are those of its first part, and those of the second further down. -/
theorem makefileHits_append_newline {table : RuleTable} (oneLine : table.HasOneLineKeys)
    (front back : List Char) :
    makefileHits table (front ++ '\n' :: back) =
      makefileHits table front ++
        (makefileHits table back).map (Hit.shift (Text.newlines front + 1)) := by
  have behind : 1 + Text.newlines front + 1 = 1 + (Text.newlines front + 1) := Nat.add_assoc _ _ _
  simp only [makefileHits_eq]
  rw [makefileHitsFrom_append_newline (oneLine_searchTexts oneLine),
    makefileHitsFrom_behind_newline, behind, makefileHitsFrom_add]

end Hits

section Scan

variable {table : RuleTable} {dest : Arch} {file : String} {category : FileCategory}

theorem ruleFinding?_shift (lines : Nat) (hit : Hit) :
    ruleFinding? table dest file category (hit.shift lines) =
      (ruleFinding? table dest file category hit).map (Finding.shift lines) := by
  rw [ruleFinding?, ruleFinding?, Option.map_map]
  rfl

theorem ruleHits_append (hits more : List Hit) :
    ruleHits (hits ++ more) = ruleHits hits ++ ruleHits more :=
  List.filter_append hits more

theorem ruleHits_map_shift (lines : Nat) (hits : List Hit) :
    ruleHits (hits.map (Hit.shift lines)) = (ruleHits hits).map (Hit.shift lines) := by
  rw [ruleHits, List.filter_map]
  rfl

/-- The findings of hits that lie so many lines further down. -/
theorem filterMap_ruleFinding?_shift (lines : Nat) (hits : List Hit) :
    (hits.map (Hit.shift lines)).filterMap (ruleFinding? table dest file category) =
      (hits.filterMap (ruleFinding? table dest file category)).map (Finding.shift lines) := by
  rw [List.filterMap_map, List.map_filterMap]
  apply List.filterMap_congr
  intro hit _
  exact ruleFinding?_shift lines hit

/-- The libraries of two lists of hits are those of the first, and those of the second that are
new. -/
theorem librariesOf_append (hits more : List Hit) :
    librariesOf (hits ++ more) =
      librariesOf hits ++ (librariesOf more).filter fun library => library ∉ librariesOf hits := by
  rw [librariesOf, List.filter_append, List.map_append, eraseDups_append_eq]
  rfl

theorem librariesOf_map_shift (lines : Nat) (hits : List Hit) :
    librariesOf (hits.map (Hit.shift lines)) = librariesOf hits := by
  rw [librariesOf, librariesOf, List.filter_map, List.map_map]
  rfl

end Scan

/--
Scanning a Makefile is local to its lines. If the keys contain no newline, the findings in two texts
that a newline joins are those of the first text, then those of the second with their lines moved
down, and the libraries are those of the first text, then those of the second that the first does
not have.
-/
theorem scanMakefile_append_newline (catalog : Catalog) (oneLine : catalog.makefile.HasOneLineKeys)
    (front back : List Char) (file : String) :
    (scanMakefile catalog (front ++ '\n' :: back) file).value.findings =
        (scanMakefile catalog front file).value.findings ++
          (scanMakefile catalog back file).value.findings.map
            (Finding.shift (Text.newlines front + 1)) ∧
      (scanMakefile catalog (front ++ '\n' :: back) file).value.libraries =
        (scanMakefile catalog front file).value.libraries ++
          (scanMakefile catalog back file).value.libraries.filter fun library =>
            library ∉ (scanMakefile catalog front file).value.libraries := by
  have lineOnly := Comment.makeStyle_lineCommentsOnly
  simp only [scanMakefile, Logged.value_bind, Logged.value_pure]
  rw [Comment.strip_append_of_lineCommentsOnly lineOnly, makefileHits_append_newline oneLine,
    Comment.newlines_strip_of_lineCommentsOnly lineOnly, librariesOf_append, librariesOf_map_shift]
  refine ⟨?_, rfl⟩
  rw [ruleHits_append, ruleHits_map_shift, List.filterMap_append, filterMap_ruleFinding?_shift]

/-- A catalog with a rule for one option of Makefiles. -/
def tuneCatalog : Catalog :=
  ⟨.x86_64, .arm64, .empty, ⟨⟨[("-mtune=", ⟨"", ⟨[("arm64", "Drop it.")]⟩⟩)]⟩⟩, none, []⟩

/-- The first text ends in a comment, the second starts with a key and repeats a library. -/
theorem scanMakefile_append_newline_tune :
    tuneCatalog.makefile.HasOneLineKeys ∧
      (scanMakefile tuneCatalog ("L = -lm # -lc".toList ++ '\n' :: "-mtune=x -lz,-lm".toList)
        "Makefile").value.findings = [⟨"Makefile", some ⟨2, 2⟩, "-mtune=", "Drop it.", .makefile⟩] ∧
      (scanMakefile tuneCatalog ("L = -lm # -lc".toList ++ '\n' :: "-mtune=x -lz,-lm".toList)
        "Makefile").value.libraries = ["libm.so", "libz.so"] := by
  have oneLine : tuneCatalog.makefile.HasOneLineKeys := by
    decide
  have joined := scanMakefile_append_newline tuneCatalog oneLine "L = -lm # -lc".toList
    "-mtune=x -lz,-lm".toList "Makefile"
  have first : (scanMakefile tuneCatalog "L = -lm # -lc".toList "Makefile").value =
      ⟨[], ["libm.so"]⟩ := by
    decide +kernel
  have second : (scanMakefile tuneCatalog "-mtune=x -lz,-lm".toList "Makefile").value =
      ⟨[⟨"Makefile", some ⟨1, 1⟩, "-mtune=", "Drop it.", .makefile⟩], ["libz.so", "libm.so"]⟩ := by
    decide +kernel
  rw [first, second] at joined
  exact ⟨oneLine, joined⟩

end CrossArch
