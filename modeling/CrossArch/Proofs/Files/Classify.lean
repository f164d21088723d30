import CrossArch.Files.Classify
import CrossArch.Proofs.Files.Subtree
import Mathlib.Data.List.Basic

/-!
# Classified files and their paths

A classification holds the candidates that are files, that no exclude hides and that have a
category. A candidate is called by a path that starts as the root does, but for leading dots: the
first step that is no dot is the same.
-/

namespace CrossArch

/-- All files of a classification. -/
def ClassifiedFiles.all (files : ClassifiedFiles) : List Path :=
  files.cpp ++ files.headers ++ files.makefiles ++ files.sharedObjects

/-- The first step of a path that is no dot. -/
def Path.leadingStep? (path : Path) : Option PathComponent :=
  path.components.find? (· != .current)

section Members

theorem ClassifiedFiles.mem_pick {paths : List Path} {category : FileCategory} {path : Path} :
    path ∈ pick paths category ↔ path ∈ paths ∧ categoryOf? path = some category := by
  rw [pick, List.mem_mergeSort, List.mem_filter, beq_iff_eq]

theorem ClassifiedFiles.mem_all_ofPaths {paths : List Path} {path : Path} :
    path ∈ (ofPaths paths).all ↔ path ∈ paths ∧ ∃ category, categoryOf? path = some category := by
  simp only [all, ofPaths, List.mem_append, mem_pick]
  constructor
  · rintro (((⟨mem, isCategory⟩ | ⟨mem, isCategory⟩) | ⟨mem, isCategory⟩) | ⟨mem, isCategory⟩)
    all_goals exact ⟨mem, _, isCategory⟩
  · rintro ⟨mem, category, isCategory⟩
    cases category <;> simp [mem, isCategory]

theorem mem_all_classifyTree {tree : FileTree} {root path : Path} {excludes : List Exclude} :
    path ∈ (classifyTree tree root excludes).value.all ↔
      path ∈ candidates tree root ∧ tree.isFile path = true ∧ isExcluded excludes path = false ∧
        ∃ category, categoryOf? path = some category := by
  have value : (classifyTree tree root excludes).value =
      classifyPaths tree excludes (candidates tree root) := rfl
  rw [value, classifyPaths, ClassifiedFiles.mem_all_ofPaths]
  simp only [List.mem_filter, Bool.not_eq_true', and_assoc]

end Members

namespace Path

section Inner

/-- The steps behind the first one are those of pieces behind the first one. -/
theorem tail_stepsOf_suffix (absolute : Bool) (first : String) (later : List String) :
    (stepsOf absolute (first :: later)).tail <:+ later.filterMap (stepOf? false) := by
  rw [stepsOf]
  cases absolute with
  | true => exact List.suffix_rfl
  | false =>
      cases stepOf? true first with
      | none => exact List.tail_suffix _
      | some step => exact List.suffix_rfl

theorem eq_of_stepOf?_eq_normal {first : Bool} {part name : String}
    (isName : stepOf? first part = some (.normal name)) : part = name := by
  unfold stepOf? at isName
  split_ifs at isName
  · cases isName
  · cases isName
  · cases isName
    rfl

/-- A name between other steps of a path is a piece between other pieces. -/
theorem exists_parts_around {path : Path} {name : String}
    (inner : .normal name ∈ path.components.tail.dropLast) :
    ∃ before behind, path.parts = before ++ name :: behind ∧ before ≠ [] ∧ behind ≠ [] := by
  rw [components_eq] at inner
  cases same : path.parts with
  | nil => exact absurd same (parts_ne_nil path)
  | cons first later =>
      rw [same] at inner
      rcases tail_stepsOf_suffix path.isAbsolute first later with ⟨skipped, steps⟩
      rcases List.append_of_mem inner with ⟨earlier, between, split⟩
      have nonempty : (stepsOf path.isAbsolute (first :: later)).tail ≠ [] := by
        rintro empty
        simp [empty] at inner
      rw [← List.dropLast_append_getLast nonempty, split, List.append_assoc, ← List.append_assoc,
        eq_comm, List.filterMap_eq_append_iff] at steps
      rcases steps with ⟨front, rest, rfl, -, restSteps⟩
      rw [List.cons_append, List.filterMap_eq_cons_iff] at restSteps
      rcases restSteps with ⟨idle, part, behind, rfl, -, isName, behindSteps⟩
      obtain rfl := eq_of_stepOf?_eq_normal isName
      refine ⟨first :: (front ++ idle), behind, by simp, List.cons_ne_nil _ _, ?_⟩
      rintro rfl
      simp at behindSteps

/-- A name between other steps of a path stands between slashes in its text. -/
theorem exists_between_slashes {path : Path} {name : String}
    (inner : .normal name ∈ path.components.tail.dropLast) :
    ∃ front back, path.text.toList = front ++ '/' :: (name.toList ++ '/' :: back) := by
  rcases exists_parts_around inner with ⟨before, behind, same, notFirst, notLast⟩
  rw [parts, List.map_eq_append_iff] at same
  rcases same with ⟨front, rest, pieces, rfl, same⟩
  rw [List.map_eq_cons_iff] at same
  rcases same with ⟨piece, back, rfl, rfl, rfl⟩
  rw [String.toList_ofList]
  apply Text.exists_between_of_splitAt pieces
  · rintro rfl
    exact notFirst rfl
  · rintro rfl
    exact notLast rfl

end Inner

end Path

namespace FileTree

open CrossArch.Path

variable {tree : FileTree}

section Leading

theorem leadingStep?_of_isDot {directory : Path} (dot : isDot directory = true) :
    directory.leadingStep? = none := by
  rw [isDot, beq_iff_eq] at dot
  simp [leadingStep?, dot]

theorem not_isDot_of_leadingStep? {directory : Path} {step : PathComponent}
    (leading : directory.leadingStep? = some step) : isDot directory = false := by
  by_contra dot
  rw [Bool.not_eq_false] at dot
  rw [leadingStep?_of_isDot dot] at leading
  cases leading

theorem text_ne_empty_of_leadingStep? {directory : Path} {step : PathComponent}
    (leading : directory.leadingStep? = some step) : directory.text ≠ "" := by
  rintro empty
  rcases directory with ⟨text⟩
  subst empty
  cases leading

/-- A piece behind a step that is no dot does not change the leading step. -/
theorem leadingStep?_entryPath {directory : Path} {part : String} {step : PathComponent}
    (leading : directory.leadingStep? = some step) (slash : '/' ∉ part.toList) :
    (entryPath directory part).leadingStep? = some step := by
  have nonempty := text_ne_empty_of_leadingStep? leading
  have relative := not_isAbsolute_of_slash_not_mem slash
  rw [entryPath, not_isDot_of_leadingStep? leading, if_neg Bool.false_ne_true, leadingStep?,
    components_join nonempty relative, List.find?_append, ← leadingStep?, leading, Option.some_or]

theorem leadingStep?_foldl_entryPath {directory : Path} {names : List String}
    {step : PathComponent} (leading : directory.leadingStep? = some step)
    (slash : ∀ name ∈ names, '/' ∉ name.toList) :
    (names.foldl entryPath directory).leadingStep? = some step := by
  induction names generalizing directory with
  | nil => exact leading
  | cons name later ih =>
      rw [List.foldl_cons]
      apply ih
      · exact leadingStep?_entryPath leading (slash name List.mem_cons_self)
      · intro other mem
        exact slash other (List.mem_cons_of_mem _ mem)

theorem leadingStep?_enterParts {directory entered : Path} {parts : List String}
    {step : PathComponent} (leading : directory.leadingStep? = some step)
    (slash : ∀ part ∈ parts, '/' ∉ part.toList)
    (enters : parts.foldlM tree.enterPart directory = some entered) :
    entered.leadingStep? = some step := by
  induction parts generalizing directory with
  | nil =>
      cases enters
      exact leading
  | cons part later ih =>
      rw [List.foldlM_cons, Option.bind_eq_bind, Option.bind_eq_some_iff] at enters
      rcases enters with ⟨next, entersPart, entersLater⟩
      rw [eq_entryPath_of_enterPart entersPart] at entersLater
      apply ih _ _ entersLater
      · exact leadingStep?_entryPath leading (slash part List.mem_cons_self)
      · intro other mem
        exact slash other (List.mem_cons_of_mem _ mem)

/-- The leading step of a relative path is the first one that its pieces take from the working
directory. -/
theorem leadingStep?_of_relative {path : Path} (relative : path.isAbsolute = false) :
    path.leadingStep? = (path.parts.filterMap (stepOf? false)).head? := by
  have named : ∀ parts : List String,
      (parts.filterMap (stepOf? false)).find? (· != .current) =
        (parts.filterMap (stepOf? false)).head? := by
    intro parts
    cases steps : parts.filterMap (stepOf? false) with
    | nil => rfl
    | cons step later =>
        have mem : step ∈ parts.filterMap (stepOf? false) := by simp [steps]
        rcases List.mem_filterMap.1 mem with ⟨part, -, isStep⟩
        have notDot : step ≠ .current := by
          rintro rfl
          exact absurd (stepOf?_eq_current_iff.1 isStep).1 Bool.false_ne_true
        simp [notDot]
  rw [leadingStep?, components_eq, relative]
  cases path.parts with
  | nil => rfl
  | cons first later =>
      rw [stepsOf, if_neg Bool.false_ne_true, List.find?_append, named, List.filterMap_cons]
      -- The first piece is a step of its own only where it is a dot.
      by_cases dot : first = "."
      · simp [dot, stepOf?]
      · have same : stepOf? true first = stepOf? false first := by simp [stepOf?, dot]
        rw [same]
        cases isStep : stepOf? false first with
        | none => simp
        | some step =>
            have notDot : step ≠ .current := by
              rintro rfl
              exact absurd (stepOf?_eq_current_iff.1 isStep).1 Bool.false_ne_true
            simp [notDot]

/-- A walk that starts at a dot leads with the first step that it takes. -/
theorem leadingStep?_enterParts_of_dot {entered : Path} {parts : List String}
    {step : PathComponent} (slash : ∀ part ∈ parts, '/' ∉ part.toList)
    (enters : parts.foldlM tree.enterPart ⟨"."⟩ = some entered)
    (takes : (parts.filterMap (stepOf? false)).head? = some step) :
    entered.leadingStep? = some step := by
  induction parts with
  | nil => cases takes
  | cons part later ih =>
      have laterSlash : ∀ other ∈ later, '/' ∉ other.toList := by
        intro other mem
        exact slash other (List.mem_cons_of_mem _ mem)
      have notEmpty : part ≠ "" := by
        rintro rfl
        rw [foldlM_enterPart_of_empty rfl] at enters
        cases enters
      rw [List.foldlM_cons, Option.bind_eq_bind, Option.bind_eq_some_iff] at enters
      rcases enters with ⟨next, entersPart, entersLater⟩
      have dot : isDot ⟨"."⟩ = true := by decide
      have next_eq := eq_entryPath_of_enterPart entersPart
      rw [entryPath, if_pos dot] at next_eq
      subst next_eq
      by_cases isDots : part = "."
      · subst isDots
        exact ih laterSlash entersLater takes
      · have partSlash := slash part List.mem_cons_self
        have relative := not_isAbsolute_of_slash_not_mem partSlash
        rcases Option.ne_none_iff_exists'.1
          (fun idle => (stepOf?_eq_none_iff.1 idle).elim notEmpty isDots) with ⟨taken, isStep⟩
        rw [List.filterMap_cons, isStep, List.head?_cons, Option.some.injEq] at takes
        subst takes
        apply leadingStep?_enterParts _ laterSlash entersLater
        rw [leadingStep?_of_relative relative, parts_of_slash_not_mem partSlash]
        simp [isStep]

/-- A walk calls a directory by a path with the leading step of the path that it was given. -/
theorem leadingStep?_enter? {directory entered : Path} {step : PathComponent}
    (enters : tree.enter? directory = some entered)
    (leading : directory.leadingStep? = some step) : entered.leadingStep? = some step := by
  rw [enter?_eq, Option.bind_eq_some_iff] at enters
  rcases enters with ⟨walked, walks, isDirectory⟩
  split at isDirectory
  · cases isDirectory
    rw [walked?] at walks
    cases absolute : directory.isAbsolute with
    | true =>
        rw [absolute, if_pos rfl] at walks
        have isRoot : step = .root := by
          rcases parts_of_isAbsolute absolute with ⟨second, later, same⟩
          rw [leadingStep?, components_eq, absolute, same] at leading
          simpa [stepsOf] using leading.symm
        subst isRoot
        apply leadingStep?_enterParts rfl _ walks
        intro part mem
        exact slash_not_mem_of_mem_parts (List.mem_of_mem_drop mem)
    | false =>
        rw [absolute, if_neg Bool.false_ne_true] at walks
        apply leadingStep?_enterParts_of_dot (fun part => slash_not_mem_of_mem_parts) walks
        rw [← leadingStep?_of_relative absolute, leading]
  · cases isDirectory

/-- The paths of candidates have the leading step of the root, if it has one. -/
theorem leadingStep?_of_mem_candidates {root path : Path} {step : PathComponent}
    (proper : tree.IsProper) (mem : path ∈ candidates tree root)
    (leading : root.leadingStep? = some step) : path.leadingStep? = some step := by
  unfold candidates at mem
  split at mem
  · rw [List.mem_singleton.1 mem]
    exact leading
  · unfold walk at mem
    split at mem
    · cases mem
    · rename_i entered enters
      split at mem
      · cases mem
      · rename_i place leads
        rcases List.mem_map.1 mem with ⟨names, namesMem, rfl⟩
        apply leadingStep?_foldl_entryPath (leadingStep?_enter? enters leading)
        intro name nameMem
        rcases List.mem_filterMap.1 namesMem with ⟨⟨other, node⟩, nodeMem, below⟩
        dsimp only at below
        split at below
        · cases below
          exact (proper.named _ nodeMem name (List.mem_of_mem_drop nameMem)).slash_not_mem
        · cases below

end Leading

end FileTree

end CrossArch
