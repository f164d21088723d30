import CrossArch.Aggregate
import Mathlib.Data.List.Basic
import Mathlib.Data.List.Induction

/-!
# The libraries of an aggregate

An aggregate takes a reference to a library only if it has none to the same library yet. It asks the
names that it has seen, which are those of the references that it holds. What it holds after any
references is the first reference to each library, in the order of these references.
-/

namespace CrossArch

/-- Take a reference to a library, unless there is one to the same library. -/
def addReference (libraries : List LibraryReference) (reference : LibraryReference) :
    List LibraryReference :=
  if reference.name ∈ libraries.map LibraryReference.name then libraries
  else libraries ++ [reference]

/-- The first reference to each library, in order. -/
def firstReferences (references : List LibraryReference) : List LibraryReference :=
  (references.map LibraryReference.name).eraseDups.filterMap fun name =>
    references.find? fun reference => reference.name == name

section FirstReferences

variable {references : List LibraryReference}

theorem exists_reference_of_name {name : String}
    (referred : name ∈ references.map LibraryReference.name) :
    ∃ reference, references.find? (fun reference => reference.name == name) = some reference := by
  rcases List.mem_map.1 referred with ⟨reference, mem, rfl⟩
  apply Option.isSome_iff_exists.1
  exact List.find?_isSome.2 ⟨reference, mem, beq_self_eq_true reference.name⟩

theorem mem_names_firstReferences (name : String) :
    name ∈ (firstReferences references).map LibraryReference.name ↔
      name ∈ references.map LibraryReference.name := by
  constructor
  · intro named
    rcases List.mem_map.1 named with ⟨library, mem, rfl⟩
    rcases List.mem_filterMap.1 mem with ⟨other, -, found⟩
    exact List.mem_map_of_mem (List.mem_of_find?_eq_some found)
  · intro referred
    rcases exists_reference_of_name referred with ⟨reference, found⟩
    have named := List.find?_some found
    rw [beq_iff_eq] at named
    apply List.mem_map.2
    exact ⟨reference, List.mem_filterMap.2 ⟨name, List.mem_eraseDups.2 referred, found⟩, named⟩

/-- A later reference is not the first one to a library that has one. -/
theorem filterMap_find?_append (references : List LibraryReference) (later : LibraryReference) :
    (references.map LibraryReference.name).eraseDups.filterMap (fun name =>
        (references ++ [later]).find? fun reference => reference.name == name) =
      firstReferences references := by
  apply List.filterMap_congr
  intro name mem
  rcases exists_reference_of_name (List.mem_eraseDups.1 mem) with ⟨reference, found⟩
  rw [List.find?_append, found, Option.some_or]

theorem firstReferences_append_singleton (references : List LibraryReference)
    (later : LibraryReference) :
    firstReferences (references ++ [later]) = addReference (firstReferences references) later := by
  rw [firstReferences, List.map_append, List.map_singleton, List.eraseDups_append,
    List.filterMap_append, filterMap_find?_append, addReference]
  by_cases referred : later.name ∈ references.map LibraryReference.name
  · rw [if_pos ((mem_names_firstReferences later.name).2 referred)]
    have nothingNew : [later.name].removeAll (references.map LibraryReference.name) = [] := by
      simpa [List.removeAll] using referred
    rw [nothingNew]
    simp
  · rw [if_neg (fun known => referred ((mem_names_firstReferences later.name).1 known))]
    have isNew : [later.name].removeAll (references.map LibraryReference.name) = [later.name] := by
      simpa [List.removeAll] using referred
    have notBefore : references.find? (fun reference => reference.name == later.name) = none := by
      rw [List.find?_eq_none]
      intro reference mem named
      exact referred (List.mem_map.2 ⟨reference, mem, eq_of_beq named⟩)
    rw [isNew, List.eraseDups_cons]
    simp [List.find?_append, notBefore]

/-- Taking references one by one leaves the first ones. -/
theorem foldl_addReference (references : List LibraryReference) :
    references.foldl addReference [] = firstReferences references := by
  induction references using List.reverseRecOn with
  | nil => rfl
  | append_singleton references later ih =>
      rw [List.foldl_append, ih, firstReferences_append_singleton]
      rfl

end FirstReferences

namespace LibraryRegister

theorem knows_iff {register : LibraryRegister} {name : String} :
    register.knows name = true ↔ name ∈ register.references.map LibraryReference.name := by
  rw [knows, List.contains_iff_mem, register.mem_seen_iff]

/-- Take a reference, whether its library is new or not. -/
def take (register : LibraryRegister) (reference : LibraryReference) : LibraryRegister :=
  (register.add reference).2

theorem references_take (register : LibraryRegister) (reference : LibraryReference) :
    (register.take reference).references = addReference register.references reference := by
  by_cases known : reference.name ∈ register.references.map LibraryReference.name
  · rw [addReference, if_pos known, take, add, if_pos (knows_iff.2 known)]
  · rw [addReference, if_neg known, take, add, if_neg (fun isKnown => known (knows_iff.1 isKnown))]

/-- The references that a register has taken are the first ones to their libraries. -/
theorem references_foldl_take (references : List LibraryReference) :
    (references.foldl take empty).references = firstReferences references := by
  rw [← foldl_addReference]
  apply (List.foldl_hom LibraryRegister.references _).symm
  intro register reference
  exact (references_take register reference).symm

end LibraryRegister

namespace Aggregate

variable (aggregate : Aggregate)

end Aggregate

end CrossArch
