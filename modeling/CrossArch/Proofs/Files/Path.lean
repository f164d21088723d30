import CrossArch.Files.Walk
import CrossArch.Proofs.Text.Line

/-!
# Pieces and steps of paths

A slash between two texts puts their pieces one after the other. So a name that is joined to a path
adds its own steps behind those of the path, and the entries of a directory are ordered by their
names, whatever the directory is called.
-/

namespace CrossArch

/-- A name that an entry of a directory can have. -/
structure IsName (name : String) : Prop where
  nonempty : name ≠ ""
  ne_dot : name ≠ "."
  ne_dots : name ≠ ".."
  slash_not_mem : '/' ∉ name.toList

instance (name : String) : Decidable (IsName name) :=
  decidable_of_iff (name ≠ "" ∧ name ≠ "." ∧ name ≠ ".." ∧ '/' ∉ name.toList)
    ⟨fun ⟨nonempty, dot, dots, slash⟩ => ⟨nonempty, dot, dots, slash⟩,
      fun ⟨nonempty, dot, dots, slash⟩ => ⟨nonempty, dot, dots, slash⟩⟩

namespace Path

theorem toList_ne_nil {text : String} (nonempty : text ≠ "") : text.toList ≠ [] := by
  simpa using nonempty

section Pieces

theorem parts_slash (text later : String) :
    (⟨text ++ "/" ++ later⟩ : Path).parts = (⟨text⟩ : Path).parts ++ (⟨later⟩ : Path).parts := by
  simp [parts, Text.splitAt_append]

theorem parts_of_slash_not_mem {name : String} (slash : '/' ∉ name.toList) :
    (⟨name⟩ : Path).parts = [name] := by
  simp [parts, Text.splitAt_of_not_mem slash]

theorem slash_not_mem_of_mem_parts {path : Path} {part : String} (mem : part ∈ path.parts) :
    '/' ∉ part.toList := by
  rcases List.mem_map.1 mem with ⟨piece, pieceMem, rfl⟩
  simpa using Text.not_mem_of_mem_splitAt pieceMem

theorem parts_ne_nil (path : Path) : path.parts ≠ [] := by
  rcases Text.exists_splitAt_eq_cons '/' path.text.toList with ⟨first, later, same⟩
  simp [parts, same]

theorem not_isAbsolute_of_slash_not_mem {name : String} (slash : '/' ∉ name.toList) :
    (⟨name⟩ : Path).isAbsolute = false := by
  cases same : name.toList with
  | nil => simp [isAbsolute, same]
  | cons c rest =>
      rw [same, List.mem_cons, not_or] at slash
      simpa [isAbsolute, same] using Ne.symm slash.1

/-- A path that starts at the root has an empty first piece, and another one behind the slash. -/
theorem parts_of_isAbsolute {path : Path} (absolute : path.isAbsolute = true) :
    ∃ second later, path.parts = "" :: second :: later := by
  rcases path with ⟨text⟩
  rw [isAbsolute, beq_iff_eq, List.head?_eq_some_iff] at absolute
  rcases absolute with ⟨rest, same⟩
  rcases Text.exists_splitAt_eq_cons '/' rest with ⟨first, later, sameRest⟩
  exact ⟨String.ofList first, later.map String.ofList,
    by simp [parts, same, Text.splitAt, sameRest]⟩

end Pieces

section Join

variable {base : Path} {name : String}

/-- A relative name is put behind a slash, which the base may already end with. -/
theorem exists_front_of_join (nonempty : base.text ≠ "")
    (relative : (⟨name⟩ : Path).isAbsolute = false) :
    ∃ front, (base.text = front ∨ base.text = front ++ "/") ∧
      base.join ⟨name⟩ = ⟨front ++ "/" ++ name⟩ := by
  have notEmpty : base.text.isEmpty = false := by simpa using nonempty
  rw [join, relative, notEmpty, Bool.or_false, if_neg Bool.false_ne_true]
  split <;> rename_i last
  · rw [beq_iff_eq, List.getLast?_eq_some_iff] at last
    rcases last with ⟨front, same⟩
    have written : base.text = String.ofList front ++ "/" := by
      rw [← String.toList_inj]
      simpa using same
    exact ⟨String.ofList front, Or.inr written, by rw [written]⟩
  · exact ⟨base.text, Or.inl rfl, rfl⟩

theorem text_join_ne_empty (nonempty : base.text ≠ "")
    (relative : (⟨name⟩ : Path).isAbsolute = false) : (base.join ⟨name⟩).text ≠ "" := by
  rcases exists_front_of_join nonempty relative with ⟨front, -, same⟩
  simp [same]

theorem isAbsolute_join (nonempty : base.text ≠ "")
    (relative : (⟨name⟩ : Path).isAbsolute = false) :
    (base.join ⟨name⟩).isAbsolute = base.isAbsolute := by
  rcases exists_front_of_join nonempty relative with ⟨front, written, same⟩
  rw [same]
  rcases written with written | written
  · have frontNonempty := toList_ne_nil nonempty
    rw [written] at frontNonempty
    simp [isAbsolute, written, List.head?_append_of_ne_nil _ frontNonempty]
  · simp [isAbsolute, written, List.head?_append]

/-- The pieces of a name come behind those of the base, but for an empty last one. -/
theorem exists_outer_of_join (nonempty : base.text ≠ "")
    (relative : (⟨name⟩ : Path).isAbsolute = false) :
    ∃ outer, outer ≠ [] ∧ (base.parts = outer ∨ base.parts = outer ++ [""]) ∧
      (base.join ⟨name⟩).parts = outer ++ (⟨name⟩ : Path).parts := by
  rcases exists_front_of_join nonempty relative with ⟨front, written, same⟩
  refine ⟨(⟨front⟩ : Path).parts, parts_ne_nil _, ?_, by rw [same, parts_slash]⟩
  rcases base with ⟨text⟩
  rcases written with rfl | rfl
  · exact Or.inl rfl
  · right
    rw [← String.append_empty (s := front ++ "/"), parts_slash]
    rfl

end Join

section Steps

/-- The steps that pieces stand for, the first of which starts a path. -/
def stepsOf (absolute : Bool) : List String → List PathComponent
  | [] => []
  | first :: later =>
    (if absolute then [.root] else (stepOf? true first).toList) ++ later.filterMap (stepOf? false)

theorem stepsOf_append (absolute : Bool) {outer : List String} (nonempty : outer ≠ [])
    (later : List String) :
    stepsOf absolute (outer ++ later) =
      stepsOf absolute outer ++ later.filterMap (stepOf? false) := by
  cases outer with
  | nil => exact absurd rfl nonempty
  | cons first others => simp [stepsOf]

theorem map_fst_stepsAfter (text : String) (later : List String) :
    (stepsAfter text later).map Prod.fst = later.filterMap (stepOf? false) := by
  induction later generalizing text with
  | nil => rfl
  | cons part later ih =>
      rw [stepsAfter, List.filterMap_cons]
      cases stepOf? false part with
      | none => exact ih _
      | some step => rw [List.map_cons, ih]

theorem components_eq (path : Path) : path.components = stepsOf path.isAbsolute path.parts := by
  rw [components, steps]
  cases path.parts with
  | nil => rfl
  | cons first later =>
      cases path.isAbsolute with
      | true => simp [stepsOf, map_fst_stepsAfter]
      | false => cases starts : stepOf? true first <;> simp [stepsOf, starts, map_fst_stepsAfter]

theorem components_join {base : Path} {name : String} (nonempty : base.text ≠ "")
    (relative : (⟨name⟩ : Path).isAbsolute = false) :
    (base.join ⟨name⟩).components =
      base.components ++ (⟨name⟩ : Path).parts.filterMap (stepOf? false) := by
  rcases exists_outer_of_join nonempty relative with
    ⟨outer, outerNonempty, written, joined⟩
  rw [components_eq, components_eq, isAbsolute_join nonempty relative, joined,
    stepsOf_append _ outerNonempty]
  rcases written with written | written
  · rw [written]
  · rw [written, stepsOf_append _ outerNonempty]
    simp [stepOf?]

theorem exists_firstStep {part : String} (nonempty : part ≠ "") :
    ∃ step, stepOf? true part = some step := by
  rw [stepOf?, if_neg nonempty]
  split
  · exact ⟨.current, rfl⟩
  · split
    · exact ⟨.parent, rfl⟩
    · exact ⟨.normal part, rfl⟩

theorem components_ne_nil {path : Path} (nonempty : path.text ≠ "") : path.components ≠ [] := by
  rw [components_eq]
  cases absolute : path.isAbsolute with
  | true =>
      rcases parts_of_isAbsolute absolute with ⟨second, later, same⟩
      simp [same, stepsOf]
  | false =>
      rcases path with ⟨text⟩
      cases same : text.toList with
      | nil => exact absurd same (toList_ne_nil nonempty)
      | cons c rest =>
          rcases Text.exists_splitAt_eq_cons '/' rest with ⟨piece, later, sameRest⟩
          have notSlash : c ≠ '/' := by simpa [isAbsolute, same] using absolute
          have named : String.ofList (c :: piece) ≠ "" := by simp
          rcases exists_firstStep named with ⟨step, first⟩
          rw [parts, same, Text.splitAt_cons notSlash sameRest, List.map_cons, stepsOf, first]
          simp

theorem stepOf?_eq_current_iff {first : Bool} {part : String} :
    stepOf? first part = some .current ↔ first = true ∧ part = "." := by
  unfold stepOf?
  split
  · rename_i empty
    simp [empty]
  · split
    · rename_i dot
      simp [dot]
    · rename_i notDot
      split <;> simp [notDot]

theorem stepOf?_eq_none_iff {part : String} :
    stepOf? false part = none ↔ part = "" ∨ part = "." := by
  unfold stepOf?
  split
  · rename_i empty
    simp [empty]
  · rename_i nonempty
    split
    · rename_i dot
      simp [dot]
    · rename_i notDot
      split <;> simp [nonempty, notDot]

theorem stepOf?_of_isName {name : String} (isName : IsName name) (first : Bool) :
    stepOf? first name = some (.normal name) := by
  rw [stepOf?, if_neg isName.nonempty, if_neg isName.ne_dot, if_neg isName.ne_dots]

end Steps

end Path

namespace FileTree

open CrossArch.Path

/-- The path of an entry has the steps of its directory, but for a single dot, and then its name. -/
theorem components_entryPath {directory : Path} {name : String} (nonempty : directory.text ≠ "")
    (isName : IsName name) :
    (entryPath directory name).components =
      (if isDot directory then [] else directory.components) ++ [.normal name] := by
  have relative := not_isAbsolute_of_slash_not_mem isName.slash_not_mem
  have parts := parts_of_slash_not_mem isName.slash_not_mem
  rw [entryPath]
  split
  · rw [components_eq, relative, parts]
    simp [stepsOf, stepOf?_of_isName isName]
  · rw [components_join nonempty relative, parts]
    simp [stepOf?_of_isName isName]

theorem fileName?_entryPath {directory : Path} {name : String} (nonempty : directory.text ≠ "")
    (isName : IsName name) : (entryPath directory name).fileName? = some name := by
  simp [fileName?, components_entryPath nonempty isName]

theorem orderSteps_append (front : List PathComponent) (a b : List PathComponent) :
    orderSteps (front ++ a) (front ++ b) = orderSteps a b := by
  induction front with
  | nil => rfl
  | cons step later ih =>
      have self : step.order step = .eq := by
        cases step <;> simp [PathComponent.order]
      rw [List.cons_append, List.cons_append, orderSteps, self, ih]
      rfl

/-- The entries of a directory are ordered by their names. -/
theorem precedes_entryPath {directory : Path} {name other : String}
    (nonempty : directory.text ≠ "") (isName : IsName name) (isOther : IsName other) :
    (entryPath directory name).precedes (entryPath directory other) =
      (compare name other).isLE := by
  rw [precedes, components_entryPath nonempty isName, components_entryPath nonempty isOther,
    orderSteps_append]
  simp [orderSteps, PathComponent.order]

end FileTree

end CrossArch
