import CrossArch.Proofs.Rule.Load
import CrossArch.Proofs.Scan.Parts
import CrossArch.Scan.Makefile

/-!
# Scans and the parts of the rules

Each scan needs one part of the rules. What a source scan reports apart from inline assembly comes
from the source table alone, and what a Makefile scan reports comes from the Makefile table alone.
So a part of the rules that is damaged or missing changes nothing outside its own findings, and each
such part is named in one warning.

Of two paths to one rules directory, only one may reach the tables: a walk does not enter
`.//rules`.
-/

namespace CrossArch

open FileTree

/-- The directory of the tables for one kind of file. -/
def tableDirectory (rules : Path) (src : Arch) (kind : String) : Path :=
  (rules.join ⟨src.id⟩).join ⟨kind⟩

/-- The findings that are not about inline assembly. -/
def withoutAssembly (findings : List Finding) : List Finding :=
  findings.filter fun finding => finding.key ≠ assemblyKey

/-- The parts of the rules that are loaded one by one. -/
inductive RulesPart where
  | source
  | makefile
  | whitelist
  deriving DecidableEq, Repr

/-- Why something cannot be loaded; none if it can. -/
def failure? {α : Type} : Except RulesProblem α → Option RulesProblem
  | .error problem => some problem
  | .ok _ => none

/-- Why a part of the rules cannot be loaded; none if it can. -/
def RulesPart.problem? (tree : FileTree) (rules : Path) (src dest : Arch) :
    RulesPart → Option RulesProblem
  | source => failure? (loadTableDirectory tree sourcePart src (tableDirectory rules src "c")).value
  | makefile =>
    failure? (loadTableDirectory tree makefilePart src (tableDirectory rules src "make")).value
  | whitelist => failure? (loadWhitelist tree (whitelistPath rules dest) dest)

section Load

variable (tree : FileTree) (rules : Path) (src dest : Arch)

/-- The tables that are loaded from a directory; an empty one if they cannot be loaded. -/
def loadedTable (kind part : String) : RuleTable :=
  (loadTableDirectory tree part src (tableDirectory rules src kind)).value.toOption.getD .empty

theorem map_problemOf {α : Type} (loaded : Except RulesProblem α) :
    (problemOf loaded).map RulesProblem.message =
      ((failure? loaded).map RulesProblem.message).toList := by
  cases loaded <;> rfl

theorem value_load :
    (Catalog.load tree rules src dest).value =
      ⟨src, dest, loadedTable tree rules src "c" sourcePart,
        loadedTable tree rules src "make" makefilePart,
        (loadWhitelist tree (whitelistPath rules dest) dest).toOption,
        [RulesPart.source, .makefile, .whitelist].filterMap fun part =>
          (part.problem? tree rules src dest).map RulesProblem.message⟩ := by
  simp only [Catalog.load, Catalog.build, Logged.value_bind, Logged.value_pure, List.map_append,
    map_problemOf, loadedTable, tableDirectory, List.filterMap_eq_flatMap_toList, List.flatMap_cons,
    List.flatMap_nil, RulesPart.problem?, List.append_nil, List.append_assoc]

theorem dest_load : (Catalog.load tree rules src dest).value.dest = dest := by
  rw [value_load]

theorem source_load :
    (Catalog.load tree rules src dest).value.source =
      loadedTable tree rules src "c" sourcePart := by
  rw [value_load]

theorem makefile_load :
    (Catalog.load tree rules src dest).value.makefile =
      loadedTable tree rules src "make" makefilePart := by
  rw [value_load]

theorem warnings_load :
    (Catalog.load tree rules src dest).value.warnings =
      [RulesPart.source, .makefile, .whitelist].filterMap fun part =>
        (part.problem? tree rules src dest).map RulesProblem.message := by
  rw [value_load]

theorem loadedTable_of_subtree {tree tree' : FileTree} {rules rules' : Path} {src : Arch}
    {kind : String} (proper : tree.IsProper) (proper' : tree'.IsProper)
    (spelled : (tableDirectory rules src kind).emptyAfterDots =
      (tableDirectory rules' src kind).emptyAfterDots)
    (same : tree.subtree? (tableDirectory rules src kind) =
      tree'.subtree? (tableDirectory rules' src kind)) (part : String) :
    loadedTable tree rules src kind part = loadedTable tree' rules' src kind part := by
  rw [loadedTable, loadedTable, toOption_loadTableDirectory_of_subtree proper proper' spelled same]

end Load

section Needs

variable {catalog catalog' : Catalog}

theorem key_eq_assemblyKey_iff {finding : Finding} :
    finding.key = assemblyKey ↔ finding.kind = .assembly := by
  have differ : assemblyKey ≠ conditionalKey := by decide
  constructor
  · intro key
    rw [Finding.kind, key, if_neg differ, if_pos rfl]
  · intro kind
    rw [Finding.kind] at kind
    split at kind
    · cases kind
    · split at kind
      · assumption
      · cases kind

theorem withoutAssembly_scanSource (catalog : Catalog) (text : List Char) (file : String)
    (category : FileCategory) :
    withoutAssembly (scanSource catalog text file category).value =
      conditionalPart catalog text file category ++ rulePart catalog text file category := by
  have others (finding : Finding)
      (mem : finding ∈ conditionalPart catalog text file category ++
        rulePart catalog text file category) : finding.key ≠ assemblyKey := by
    rw [ne_eq, key_eq_assemblyKey_iff]
    rcases List.mem_append.1 mem with mem | mem
    · simp [kind_of_mem_conditionalPart mem]
    · simp [kind_of_mem_rulePart mem]
  have assembly (finding : Finding) (mem : finding ∈ assemblyPart catalog text file category) :
      finding.key = assemblyKey :=
    key_eq_assemblyKey_iff.2 (kind_of_mem_assemblyPart mem)
  rw [value_scanSource, withoutAssembly, List.filter_append,
    List.filter_eq_self.2 (by simpa using others),
    List.filter_eq_nil_iff.2 (by simpa using assembly), List.append_nil]

/-- Apart from inline assembly, a source scan needs the source table and the destination only. -/
theorem withoutAssembly_scanSource_congr (sameDest : catalog.dest = catalog'.dest)
    (sameSource : catalog.source = catalog'.source) (text : List Char) (file : String)
    (category : FileCategory) :
    withoutAssembly (scanSource catalog text file category).value =
      withoutAssembly (scanSource catalog' text file category).value := by
  rw [withoutAssembly_scanSource, withoutAssembly_scanSource, conditionalPart, conditionalPart,
    rulePart, rulePart, Catalog.conditionalSuggestion, Catalog.conditionalSuggestion, sameDest,
    sameSource]

/-- A Makefile scan needs the Makefile table and the destination only. -/
theorem scanMakefile_congr (sameDest : catalog.dest = catalog'.dest)
    (sameMakefile : catalog.makefile = catalog'.makefile) (text : List Char) (file : String) :
    scanMakefile catalog text file = scanMakefile catalog' text file := by
  rw [scanMakefile, scanMakefile, sameDest, sameMakefile]

end Needs

/--
Scans with rules from two places agree wherever the tables that they need agree, as long as both or
neither of the paths have an empty piece behind leading dots; and each part that cannot be loaded is
reported once, in the order source, Makefile, instructions.
-/
theorem damaged_rules_stay_apart (src dest : Arch) (tree tree' : FileTree)
    (proper : tree.IsProper) (proper' : tree'.IsProper) (rules rules' : Path) :
    ((tableDirectory rules src "c").emptyAfterDots =
      (tableDirectory rules' src "c").emptyAfterDots →
      tree.subtree? (tableDirectory rules src "c") =
        tree'.subtree? (tableDirectory rules' src "c") →
      ∀ text file category,
        withoutAssembly
            (scanSource (Catalog.load tree rules src dest).value text file category).value =
          withoutAssembly
            (scanSource (Catalog.load tree' rules' src dest).value text file category).value) ∧
    ((tableDirectory rules src "make").emptyAfterDots =
        (tableDirectory rules' src "make").emptyAfterDots →
      tree.subtree? (tableDirectory rules src "make") =
        tree'.subtree? (tableDirectory rules' src "make") →
      ∀ text file,
        scanMakefile (Catalog.load tree rules src dest).value text file =
          scanMakefile (Catalog.load tree' rules' src dest).value text file) ∧
    (Catalog.load tree rules src dest).value.warnings =
      [RulesPart.source, .makefile, .whitelist].filterMap fun part =>
        (part.problem? tree rules src dest).map RulesProblem.message := by
  refine ⟨?_, ?_, warnings_load tree rules src dest⟩
  · intro spelled same text file category
    apply withoutAssembly_scanSource_congr
    · rw [dest_load, dest_load]
    · rw [source_load, source_load, loadedTable_of_subtree proper proper' spelled same]
  · intro spelled same text file
    apply scanMakefile_congr
    · rw [dest_load, dest_load]
    · rw [makefile_load, makefile_load, loadedTable_of_subtree proper proper' spelled same]

section Trees

/-- A table for source files. -/
def pauseTable : String :=
  "\x7b\"pause\": \x7b\"suggestion\": \x7b\"arm64\": \"yield\"\x7d\x7d\x7d"

/-- A table for Makefiles. -/
def tuneTable : String :=
  "\x7b\"-mtune\": \x7b\"suggestion\": \x7b\"arm64\": \"none\"\x7d\x7d\x7d"

/-- A rules directory with all parts. -/
def soundRules : FileTree where
  nodes := [
    (["w", "r", "x86_64", "c", "i.json"], .text pauseTable),
    (["w", "r", "x86_64", "make", "m.json"], .text tuneTable),
    (["w", "r", "asm", "arm64.json"], .text "\x7b\"instructions\": \x7b\x7d\x7d")]
  working := ["w"]

/-- Two rules directories, each with one part that can be loaded. -/
def damagedRules : FileTree where
  nodes := [
    (["u", "x86_64", "c", "i.json"], .binary),
    (["u", "x86_64", "make", "m.json"], .text tuneTable),
    (["v", "x86_64", "make", "m.json"], .text "?"),
    (["v", "x86_64", "c"], .directory),
    (["v", "x86_64", "c", "i.json"], .text pauseTable)]
  working := []

theorem nodeAt?_damagedRules (names : Place) :
    soundRules.nodeAt? (["w", "r", "x86_64", "c"] ++ names) =
        damagedRules.nodeAt? (["v", "x86_64", "c"] ++ names) ∧
      soundRules.nodeAt? (["w", "r", "x86_64", "make"] ++ names) =
        damagedRules.nodeAt? (["u", "x86_64", "make"] ++ names) := by
  cases names <;> simp [nodeAt?, soundRules, damagedRules, List.lookup_cons]

end Trees

/-- A malformed Makefile table, an unreadable source table and missing instructions stay apart. -/
theorem damaged_rules_stay_apart_damagedRules :
    (soundRules.IsProper ∧ damagedRules.IsProper) ∧
      ((scanSource (Catalog.load soundRules ⟨"./r"⟩ .x86_64 .arm64).value
          "pause".toList "a.c" .cpp).value.map Finding.key = ["pause"] ∧
        withoutAssembly (scanSource (Catalog.load soundRules ⟨"./r"⟩ .x86_64 .arm64).value
          "pause".toList "a.c" .cpp).value =
        withoutAssembly (scanSource (Catalog.load damagedRules ⟨"/v/"⟩ .x86_64 .arm64).value
          "pause".toList "a.c" .cpp).value) ∧
      scanMakefile (Catalog.load soundRules ⟨"./r"⟩ .x86_64 .arm64).value
          "-mtune -lm".toList "Makefile" =
        scanMakefile (Catalog.load damagedRules ⟨"u"⟩ .x86_64 .arm64).value
          "-mtune -lm".toList "Makefile" := by
  have proper : soundRules.IsProper := by decide
  have proper' : damagedRules.IsProper := by decide
  have bySource := damaged_rules_stay_apart .x86_64 .arm64 _ _ proper proper' ⟨"./r"⟩ ⟨"/v/"⟩
  have byMakefile := damaged_rules_stay_apart .x86_64 .arm64 _ _ proper proper' ⟨"./r"⟩ ⟨"u"⟩
  have sameSource : soundRules.subtree? (tableDirectory ⟨"./r"⟩ .x86_64 "c") =
      damagedRules.subtree? (tableDirectory ⟨"/v/"⟩ .x86_64 "c") :=
    subtree?_eq_of_resolve (by decide +kernel) (by decide +kernel) fun names =>
      (nodeAt?_damagedRules names).1
  have sameMakefile : soundRules.subtree? (tableDirectory ⟨"./r"⟩ .x86_64 "make") =
      damagedRules.subtree? (tableDirectory ⟨"u"⟩ .x86_64 "make") :=
    subtree?_eq_of_resolve (by decide +kernel) (by decide +kernel) fun names =>
      (nodeAt?_damagedRules names).2
  refine ⟨⟨proper, proper'⟩, ⟨by decide +kernel, ?_⟩, ?_⟩
  · exact bySource.1 (by decide +kernel) sameSource _ _ _
  · exact byMakefile.2.1 (by decide +kernel) sameMakefile _ _

/-- The rules below `.//r` are not those below `r`, although the paths lead to one directory. -/
theorem scans_depend_on_spelling :
    (¬∀ (src dest : Arch) (tree tree' : FileTree) (rules rules' : Path),
        tree.IsProper → tree'.IsProper →
        tree.subtree? (tableDirectory rules src "c") =
          tree'.subtree? (tableDirectory rules' src "c") →
        ∀ text file category,
          withoutAssembly
              (scanSource (Catalog.load tree rules src dest).value text file category).value =
            withoutAssembly
              (scanSource (Catalog.load tree' rules' src dest).value text file category).value) ∧
      ¬∀ (src dest : Arch) (tree tree' : FileTree) (rules rules' : Path),
        tree.IsProper → tree'.IsProper →
        tree.subtree? (tableDirectory rules src "make") =
          tree'.subtree? (tableDirectory rules' src "make") →
        ∀ text file,
          (scanMakefile (Catalog.load tree rules src dest).value text file).value =
            (scanMakefile (Catalog.load tree' rules' src dest).value text file).value := by
  have proper : soundRules.IsProper := by decide
  have sameDirectory (kind : String) (place : Place)
      (leads : soundRules.resolve (tableDirectory ⟨"r"⟩ .x86_64 kind) = .ok place)
      (leads' : soundRules.resolve (tableDirectory ⟨".//r"⟩ .x86_64 kind) = .ok place) :
      soundRules.subtree? (tableDirectory ⟨"r"⟩ .x86_64 kind) =
        soundRules.subtree? (tableDirectory ⟨".//r"⟩ .x86_64 kind) :=
    subtree?_eq_of_resolve leads leads' fun _ => rfl
  constructor
  · intro same
    have subtrees := sameDirectory "c" ["w", "r", "x86_64", "c"] (by decide +kernel)
      (by decide +kernel)
    have found := same .x86_64 .arm64 _ _ ⟨"r"⟩ ⟨".//r"⟩ proper proper subtrees "pause".toList
      "a.c" .cpp
    revert found
    decide +kernel
  · intro same
    have subtrees := sameDirectory "make" ["w", "r", "x86_64", "make"] (by decide +kernel)
      (by decide +kernel)
    have found := same .x86_64 .arm64 _ _ ⟨"r"⟩ ⟨".//r"⟩ proper proper subtrees "-mtune".toList
      "Makefile"
    revert found
    decide +kernel

end CrossArch
