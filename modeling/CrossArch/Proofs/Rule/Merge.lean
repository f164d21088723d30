import CrossArch.Proofs.Files.Listing
import CrossArch.Rule.Load

/-!
# Merging the tables of a directory

A table that is read from a file has each key once, so merging it into another table replaces
exactly the rules under its keys. Merging files one after the other therefore leaves under each key
the rule of the last file that has it, or stops at the first file that cannot be used. The files are
put into path order before, so the order in which a directory lists them does not show.
-/

namespace CrossArch

open FileTree CrossArch.Path

namespace Dictionary

variable {α : Type}

/-- The keys of a dictionary ascend, so each of them stands in it once. -/
def IsOrdered (dictionary : Dictionary α) : Prop :=
  dictionary.entries.Pairwise fun entry later => entry.1 < later.1

theorem eq_or_mem_of_mem_insertEntry {key : String} {value : α} {entries : List (String × α)}
    {entry : String × α} (mem : entry ∈ insertEntry key value entries) :
    entry = (key, value) ∨ entry ∈ entries := by
  fun_induction insertEntry key value entries with
  | case1 => simpa using mem
  | case2 => simpa using mem
  | case3 =>
      rcases List.mem_cons.1 mem with rfl | mem
      · exact Or.inl rfl
      · exact Or.inr (List.mem_cons_of_mem _ mem)
  | case4 other old rest _ _ ih =>
      rcases List.mem_cons.1 mem with rfl | mem
      · exact Or.inr List.mem_cons_self
      · exact (ih mem).imp_right (List.mem_cons_of_mem _)

theorem IsOrdered.insert {dictionary : Dictionary α} (ordered : dictionary.IsOrdered)
    (key : String) (value : α) : (dictionary.insert key value).IsOrdered := by
  rcases dictionary with ⟨entries⟩
  simp only [IsOrdered, Dictionary.insert] at ordered ⊢
  fun_induction insertEntry key value entries with
  | case1 => exact List.pairwise_singleton _ _
  | case2 other old rest before =>
      refine List.pairwise_cons.2 ⟨?_, ordered⟩
      intro entry mem
      rcases List.mem_cons.1 mem with rfl | mem
      · exact before
      · exact lt_trans before ((List.pairwise_cons.1 ordered).1 entry mem)
  | case3 => exact List.pairwise_cons.2 (List.pairwise_cons.1 ordered)
  | case4 other old rest notBefore differ ih =>
      rcases List.pairwise_cons.1 ordered with ⟨first, later⟩
      refine List.pairwise_cons.2 ⟨?_, ih later⟩
      intro entry mem
      rcases eq_or_mem_of_mem_insertEntry mem with rfl | mem
      · exact lt_of_le_of_ne (not_lt.1 notBefore) (Ne.symm differ)
      · exact first entry mem

theorem isOrdered_ofList (entries : List (String × α)) : (ofList entries).IsOrdered := by
  have kept (start : Dictionary α) (ordered : start.IsOrdered) :
      (entries.foldl (fun dictionary entry => dictionary.insert entry.1 entry.2)
        start).IsOrdered := by
    induction entries generalizing start with
    | nil => exact ordered
    | cons entry rest ih => exact ih _ (ordered.insert entry.1 entry.2)
  exact kept empty List.Pairwise.nil

theorem isOrdered_of_dictionary? {decode : Json → Option α} {json : Json}
    {dictionary : Dictionary α} (decoded : RuleFile.dictionary? decode json = some dictionary) :
    dictionary.IsOrdered := by
  cases json with
  | object fields =>
      simp only [RuleFile.dictionary?, Option.bind_eq_bind, Option.bind_eq_some_iff,
        Option.pure_def, Option.some.injEq] at decoded
      rcases decoded with ⟨named, -, entries, -, rfl⟩
      exact isOrdered_ofList entries
  | _ => simp [RuleFile.dictionary?] at decoded

theorem mem_keys_iff {dictionary : Dictionary α} {key : String} :
    key ∈ dictionary.keys ↔ ∃ value, dictionary.find? key = some value := by
  rw [keys, find?]
  induction dictionary.entries with
  | nil => simp
  | cons entry rest ih =>
      rcases entry with ⟨other, value⟩
      rw [List.map_cons, List.mem_cons, ih, List.lookup_cons]
      by_cases here : key = other
      · simp [here]
      · have differs : (key == other) = false := by simpa using here
        simp [here, differs]

end Dictionary

namespace RuleTable

theorem mem_keys_iff {table : RuleTable} {key : String} :
    key ∈ table.keys ↔ ∃ entry, table.find? key = some entry :=
  Dictionary.mem_keys_iff

theorem isOrdered_of_readTable? {text : List Char} {table : RuleTable}
    (decoded : RuleFile.readTable? text = some table) : table.rules.IsOrdered := by
  simp only [RuleFile.readTable?, Option.bind_eq_bind, Option.bind_eq_some_iff,
    Option.pure_def, Option.some.injEq] at decoded
  rcases decoded with ⟨json, -, rules, isRules, rfl⟩
  exact Dictionary.isOrdered_of_dictionary? isRules

theorem value_mergeRule (table : RuleTable) (rule : String × RuleEntry) :
    (mergeRule table rule).value = ⟨table.rules.insert rule.1 rule.2⟩ := by
  unfold mergeRule
  split <;> rfl

theorem find?_foldlM_mergeRule {entries : List (String × RuleEntry)}
    (ordered : entries.Pairwise fun entry later => entry.1 < later.1) (table : RuleTable)
    (key : String) :
    (entries.foldlM mergeRule table).value.find? key =
      (entries.lookup key).or (table.find? key) := by
  induction entries generalizing table with
  | nil => rfl
  | cons entry rest ih =>
      rcases entry with ⟨other, value⟩
      rcases List.pairwise_cons.1 ordered with ⟨first, later⟩
      have put : (mergeRule table (other, value)).value.find? key =
          if key = other then some value else table.find? key := by
        rw [value_mergeRule]
        exact Dictionary.find?_insert table.rules other key value
      rw [List.foldlM_cons, Logged.value_bind, ih later, put, List.lookup_cons]
      by_cases here : key = other
      · -- The key does not come again behind its entry.
        have absent : rest.lookup other = none := by
          rw [List.lookup_eq_none_iff]
          intro next mem
          rw [bne_iff_ne]
          exact (first next mem).ne
        simp [here, absent]
      · have differs : (key == other) = false := by simpa using here
        simp [differs, here]

/-- After a merge a key has the rule of the later table, or else keeps that of the earlier one. -/
theorem find?_merge {later : RuleTable} (ordered : later.rules.IsOrdered) (table : RuleTable)
    (key : String) :
    (table.merge later).value.find? key = (later.find? key).or (table.find? key) :=
  find?_foldlM_mergeRule ordered table key

end RuleTable

section Files

variable {tree : FileTree} (part : String)

/-- The table of a rule file, or why there is none. -/
def tableAt (tree : FileTree) (path : Path) : Except RulesProblem RuleTable :=
  readRules tree RuleFile.readTable? path

/-- The rule that a file has under a key; none if the file cannot be used. -/
def ruleAt? (tree : FileTree) (key : String) (path : Path) : Option RuleEntry :=
  (tableAt tree path).toOption.bind (·.find? key)

theorem isOrdered_of_tableAt {path : Path} {table : RuleTable}
    (reads : tableAt tree path = .ok table) : table.rules.IsOrdered := by
  unfold tableAt readRules at reads
  split at reads
  · cases reads
  · split at reads
    · rename_i decoded
      cases reads
      exact RuleTable.isOrdered_of_readTable? decoded
    · cases reads

theorem ruleAt?_of_tableAt {path : Path} {table : RuleTable} (reads : tableAt tree path = .ok table)
    (key : String) : ruleAt? tree key path = table.find? key := by
  simp [ruleAt?, reads, Except.toOption]

theorem exists_ruleAt?_iff {path : Path} {key : String} :
    (∃ entry, ruleAt? tree key path = some entry) ↔
      ∃ table, tableAt tree path = .ok table ∧ key ∈ table.keys := by
  simp only [RuleTable.mem_keys_iff]
  cases reads : tableAt tree path with
  | error problem => simp [ruleAt?, reads, Except.toOption]
  | ok table => simp [ruleAt?_of_tableAt reads]

theorem value_mergeFiles_cons {path : Path} {next : RuleTable}
    (reads : tableAt tree path = .ok next) (table : RuleTable) (later : List Path) :
    (mergeFiles tree part table (path :: later)).value =
      (mergeFiles tree part (table.merge next).value later).value := by
  rw [tableAt] at reads
  rw [mergeFiles, reads]
  rfl

theorem value_mergeFiles_of_error {path : Path} {problem : RulesProblem}
    (fails : tableAt tree path = .error problem) (table : RuleTable) (later : List Path) :
    (mergeFiles tree part table (path :: later)).value = .error problem := by
  rw [tableAt] at fails
  rw [mergeFiles, fails]
  rfl

/-- Files that can all be used are merged, and under each key the last file that has it counts. -/
theorem exists_value_mergeFiles {paths : List Path}
    (reads : ∀ path ∈ paths, ∃ next, tableAt tree path = .ok next) (table : RuleTable) :
    ∃ merged, (mergeFiles tree part table paths).value = .ok merged ∧
      ∀ key, merged.find? key =
        (paths.reverse.findSome? (ruleAt? tree key)).or (table.find? key) := by
  induction paths generalizing table with
  | nil => exact ⟨table, rfl, fun key => rfl⟩
  | cons path later ih =>
      rcases reads path List.mem_cons_self with ⟨next, readsNext⟩
      have readsLater : ∀ other ∈ later, ∃ next, tableAt tree other = .ok next := by
        intro other mem
        exact reads other (List.mem_cons_of_mem _ mem)
      rcases ih readsLater (table.merge next).value with ⟨merged, isMerged, found⟩
      refine ⟨merged, ?_, ?_⟩
      · rw [value_mergeFiles_cons part readsNext, isMerged]
      · intro key
        rw [found, RuleTable.find?_merge (isOrdered_of_tableAt readsNext), List.reverse_cons,
          List.findSome?_append, List.findSome?_singleton, ruleAt?_of_tableAt readsNext,
          Option.or_assoc]

/-- A file that cannot be used spoils the merge, and the first one of them is reported. -/
theorem exists_value_mergeFiles_of_error {paths : List Path}
    (fails : ∃ path ∈ paths, ∃ problem, tableAt tree path = .error problem) (table : RuleTable) :
    ∃ front path back problem, paths = front ++ path :: back ∧
      (∀ earlier ∈ front, ∃ next, tableAt tree earlier = .ok next) ∧
      tableAt tree path = .error problem ∧
      (mergeFiles tree part table paths).value = .error problem := by
  induction paths generalizing table with
  | nil =>
      rcases fails with ⟨path, mem, -⟩
      cases mem
  | cons path later ih =>
      cases read : tableAt tree path with
      | error problem =>
          exact ⟨[], path, later, problem, rfl, by simp, read,
            value_mergeFiles_of_error part read ..⟩
      | ok next =>
          have failsLater : ∃ other ∈ later, ∃ problem, tableAt tree other = .error problem := by
            rcases fails with ⟨other, mem, problem, isError⟩
            rcases List.mem_cons.1 mem with rfl | mem
            · cases read.symm.trans isError
            · exact ⟨other, mem, problem, isError⟩
          rcases ih failsLater (table.merge next).value with
            ⟨front, other, back, problem, rfl, earlier, isError, value⟩
          refine ⟨path :: front, other, back, problem, rfl, ?_, isError, ?_⟩
          · intro file mem
            rcases List.mem_cons.1 mem with rfl | mem
            · exact ⟨next, read⟩
            · exact earlier file mem
          · rw [value_mergeFiles_cons part read, value]

end Files

section Directory

variable {tree other : FileTree} {files : List Path}

theorem areDistinct_ruleFilesIn (proper : tree.IsProper) (directory : Path) :
    AreDistinct (ruleFilesIn tree directory) :=
  ((areDistinct_walk proper directory).sublist (filesIn_sublist_walk tree directory)).filter _

theorem mergeFiles_congr (same : tree.read = other.read) (part : String) (table : RuleTable)
    (paths : List Path) : mergeFiles tree part table paths = mergeFiles other part table paths := by
  induction paths generalizing table with
  | nil => rfl
  | cons path later ih =>
      simp only [mergeFiles, readRules, same, ih]

theorem loadTables_of_perm {others : List Path} (distinct : AreDistinct files)
    (perm : files.Perm others) (same : tree.read = other.read) (part : String) (arch : Arch)
    (directory : Path) :
    loadTables tree part arch directory files = loadTables other part arch directory others := by
  rw [loadTables, loadTables, perm.isEmpty_eq, distinct.mergeSort_eq perm, mergeFiles_congr same]

/-- The rule that a merge leaves under a key is that of the last file that has it. -/
theorem findSome?_mergeSort_iff (distinct : AreDistinct files) {key : String} {entry : RuleEntry} :
    (files.mergeSort precedes).reverse.findSome? (ruleAt? tree key) = some entry ↔
      ∃ path ∈ files, ruleAt? tree key path = some entry ∧
        ∀ later ∈ files, path.StandsBefore later → ruleAt? tree key later = none := by
  have sorted := distinct.pairwise_standsBefore
  have mem_sorted (path : Path) : path ∈ files ↔ path ∈ files.mergeSort precedes :=
    List.mem_mergeSort.symm
  simp only [mem_sorted]
  generalize files.mergeSort precedes = paths at sorted
  rw [List.findSome?_eq_some_iff]
  constructor
  · rintro ⟨behind, path, front, split, found, absent⟩
    rw [List.reverse_eq_iff] at split
    simp only [List.reverse_append, List.reverse_cons, List.append_assoc,
      List.singleton_append] at split
    subst split
    refine ⟨path, by simp, found, ?_⟩
    intro later mem before
    apply absent
    simpa using (standsBefore_iff_mem_back sorted mem).1 before
  · rintro ⟨path, mem, found, absent⟩
    rcases List.append_of_mem mem with ⟨front, back, rfl⟩
    refine ⟨back.reverse, path, front.reverse, by simp, found, ?_⟩
    intro later inBack
    rw [List.mem_reverse] at inBack
    have laterMem : later ∈ front ++ path :: back := by simp [inBack]
    exact absent later laterMem ((standsBefore_iff_mem_back sorted laterMem).2 inBack)

theorem exists_findSome?_mergeSort_iff {key : String} :
    (∃ entry, (files.mergeSort precedes).reverse.findSome? (ruleAt? tree key) = some entry) ↔
      ∃ path ∈ files, ∃ entry, ruleAt? tree key path = some entry := by
  simp [← Option.isSome_iff_exists, List.findSome?_isSome_iff]

/-- The rules of files that can all be used. -/
theorem exists_value_loadTables (nonempty : files ≠ [])
    (reads : ∀ path ∈ files, ∃ table, tableAt tree path = .ok table) (part : String) (arch : Arch)
    (directory : Path) :
    ∃ merged, (loadTables tree part arch directory files).value = .ok merged ∧
      ∀ key, merged.find? key =
        (files.mergeSort precedes).reverse.findSome? (ruleAt? tree key) := by
  have readsSorted : ∀ path ∈ files.mergeSort precedes, ∃ table, tableAt tree path = .ok table := by
    intro path mem
    exact reads path (List.mem_mergeSort.1 mem)
  rcases exists_value_mergeFiles part readsSorted .empty with ⟨merged, isMerged, found⟩
  refine ⟨merged, ?_, ?_⟩
  · rw [loadTables, if_neg (by simpa using nonempty), isMerged]
  · intro key
    rw [found, RuleTable.find?, RuleTable.empty, Dictionary.find?_empty, Option.or_none]

/-- The problem of files that cannot all be used. -/
theorem exists_value_loadTables_of_error (distinct : AreDistinct files)
    (fails : ∃ path ∈ files, ∃ problem, tableAt tree path = .error problem) (part : String)
    (arch : Arch) (directory : Path) :
    ∃ path ∈ files, ∃ problem, tableAt tree path = .error problem ∧
      (∀ earlier ∈ files, earlier.StandsBefore path → ∃ table, tableAt tree earlier = .ok table) ∧
      (loadTables tree part arch directory files).value = .error problem := by
  have failsSorted : ∃ path ∈ files.mergeSort precedes, ∃ problem,
      tableAt tree path = .error problem := by
    simpa using fails
  have nonempty : files ≠ [] := by
    rintro rfl
    simp at fails
  have sorted := distinct.pairwise_standsBefore
  rcases exists_value_mergeFiles_of_error part failsSorted .empty with
    ⟨front, path, back, problem, split, earlier, isError, value⟩
  have mem : path ∈ files := by
    rw [← List.mem_mergeSort, split]
    simp
  refine ⟨path, mem, problem, isError, ?_, ?_⟩
  · intro other otherMem before
    rw [← List.mem_mergeSort, split] at otherMem
    rw [split] at sorted
    exact earlier other ((standsBefore_iff_mem_front sorted otherMem).1 before)
  · rw [loadTables, if_neg (by simpa using nonempty), value]

end Directory

/--
The rule files of a directory give the same table, or the same problem, in whatever order they are
listed. If all of them can be used, each key that one of them has stands in the table, with the rule
of the last of them in path order. If not, the first one in path order that cannot be used is the
problem, and there is no table.
-/
theorem tables_merge_in_path_order {tree : FileTree} {directory : Path} {files : List Path}
    (part : String) (arch : Arch) (proper : tree.IsProper)
    (listed : files.Perm (ruleFilesIn tree directory)) (nonempty : files ≠ []) :
    (loadTables tree part arch directory files = loadTableDirectory tree part arch directory ∧
      ∀ other : FileTree, tree.ListsSame other →
        loadTableDirectory other part arch directory =
          loadTableDirectory tree part arch directory) ∧
    ((∀ path ∈ files, ∃ table, tableAt tree path = .ok table) →
      ∃ merged, (loadTableDirectory tree part arch directory).value = .ok merged ∧
        (∀ key entry, merged.find? key = some entry ↔
          ∃ path ∈ files, ruleAt? tree key path = some entry ∧
            ∀ later ∈ files, path.StandsBefore later → ruleAt? tree key later = none) ∧
        ∀ key, key ∈ merged.keys ↔
          ∃ path ∈ files, ∃ table, tableAt tree path = .ok table ∧ key ∈ table.keys) ∧
    ((∃ path ∈ files, ∃ problem, tableAt tree path = .error problem) →
      ∃ path ∈ files, ∃ problem, tableAt tree path = .error problem ∧
        (∀ earlier ∈ files, earlier.StandsBefore path →
          ∃ table, tableAt tree earlier = .ok table) ∧
        (loadTableDirectory tree part arch directory).value = .error problem) := by
  have distinct : AreDistinct files := (areDistinct_ruleFilesIn proper directory).perm listed.symm
  have listing : loadTables tree part arch directory files =
      loadTableDirectory tree part arch directory :=
    loadTables_of_perm distinct listed rfl part arch directory
  refine ⟨⟨listing, ?_⟩, ?_, ?_⟩
  · intro other same
    have listedSame : (ruleFilesIn other directory).Perm (ruleFilesIn tree directory) :=
      ((same.perm_filesIn proper directory).filter _).symm
    exact loadTables_of_perm (areDistinct_ruleFilesIn (same.isProper proper) directory) listedSame
      (same.read_eq proper).symm part arch directory
  · intro reads
    rw [← listing]
    rcases exists_value_loadTables nonempty reads part arch directory with
      ⟨merged, isMerged, found⟩
    refine ⟨merged, isMerged, ?_, ?_⟩
    · intro key entry
      rw [found, findSome?_mergeSort_iff distinct]
    · intro key
      rw [RuleTable.mem_keys_iff, found, exists_findSome?_mergeSort_iff]
      simp only [exists_ruleAt?_iff]
  · intro fails
    rw [← listing]
    exact exists_value_loadTables_of_error distinct fails part arch directory

/-- Two directories with rule files: in `r` they share a key, and in `s` the second one holds no
rules. -/
def overlappingRules : FileTree where
  nodes := [
    (["r", "b.json"], .text "\x7b\"k\": [\"2\"], \"y\": []\x7d"),
    (["r", "a.json"], .text "\x7b\"x\": [], \"k\": [\"1\"]\x7d"),
    (["s", "c.json"], .binary),
    (["s", "b.json"], .text "?"),
    (["s", "a.json"], .text "\x7b\"k\": []\x7d")]
  working := []

theorem tables_merge_in_path_order_overlappingRules :
    (overlappingRules.IsProper ∧
      [⟨"r/a.json"⟩, ⟨"r/b.json"⟩].Perm (ruleFilesIn overlappingRules ⟨"r"⟩) ∧
      [⟨"s/b.json"⟩, ⟨"s/c.json"⟩, ⟨"s/a.json"⟩].Perm (ruleFilesIn overlappingRules ⟨"s"⟩)) ∧
    (∃ merged, (loadTableDirectory overlappingRules sourcePart .x86_64 ⟨"r"⟩).value = .ok merged ∧
      merged.find? "k" = some ⟨"2", .empty⟩ ∧ "x" ∈ merged.keys) ∧
    (loadTableDirectory overlappingRules sourcePart .x86_64 ⟨"s"⟩).value =
      .error (.malformed ⟨"s/b.json"⟩) := by
  have proper : overlappingRules.IsProper := by decide
  have listed : [⟨"r/a.json"⟩, ⟨"r/b.json"⟩].Perm (ruleFilesIn overlappingRules ⟨"r"⟩) := by
    decide +kernel
  have listed' : [⟨"s/b.json"⟩, ⟨"s/c.json"⟩, ⟨"s/a.json"⟩].Perm
      (ruleFilesIn overlappingRules ⟨"s"⟩) := by
    decide +kernel
  have earlierTable : tableAt overlappingRules ⟨"r/a.json"⟩ =
      .ok ⟨⟨[("k", ⟨"1", .empty⟩), ("x", ⟨"", .empty⟩)]⟩⟩ := by decide +kernel
  have laterTable : tableAt overlappingRules ⟨"r/b.json"⟩ =
      .ok ⟨⟨[("k", ⟨"2", .empty⟩), ("y", ⟨"", .empty⟩)]⟩⟩ := by decide +kernel
  have reads : ∀ path ∈ [⟨"r/a.json"⟩, ⟨"r/b.json"⟩], ∃ table,
      tableAt overlappingRules path = .ok table := by
    simp [earlierTable, laterTable]
  refine ⟨⟨proper, listed, listed'⟩, ?_, ?_⟩
  · have merges := tables_merge_in_path_order sourcePart .x86_64 proper listed (by simp)
    rcases merges.2.1 reads with ⟨merged, isMerged, found, present⟩
    refine ⟨merged, isMerged, (found _ _).2 ⟨⟨"r/b.json"⟩, by simp, ?_, ?_⟩, (present _).2 ?_⟩
    · rw [ruleAt?_of_tableAt laterTable]
      decide +kernel
    · intro later mem before
      rcases List.mem_pair.1 mem with rfl | rfl
      · exact absurd before (by decide +kernel)
      · exact absurd before before.asymm
    · exact ⟨_, List.mem_cons_self, _, earlierTable, by decide +kernel⟩
  · have merges := tables_merge_in_path_order sourcePart .x86_64 proper listed' (by simp)
    have fails : tableAt overlappingRules ⟨"s/b.json"⟩ = .error (.malformed ⟨"s/b.json"⟩) := by
      decide +kernel
    have usable : tableAt overlappingRules ⟨"s/a.json"⟩ = .ok ⟨⟨[("k", ⟨"", .empty⟩)]⟩⟩ := by
      decide +kernel
    rcases merges.2.2 ⟨_, List.mem_cons_self, _, fails⟩ with
      ⟨path, mem, problem, isError, earlier, value⟩
    simp only [List.mem_cons, List.not_mem_nil, or_false] at mem
    rcases mem with rfl | rfl | rfl
    · cases fails.symm.trans isError
      exact value
    · rcases earlier ⟨"s/b.json"⟩ List.mem_cons_self (by decide +kernel) with ⟨table, reads⟩
      cases fails.symm.trans reads
    · cases usable.symm.trans isError

end CrossArch
