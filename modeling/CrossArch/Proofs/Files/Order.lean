import CrossArch.Proofs.Files.Path
import Mathlib.Data.List.Nodup
import Mathlib.Data.String.Basic

/-!
# Path order

Paths are compared step by step, and steps by kind and name, so path order is the lexicographic
order of the steps. It is total, and two paths that do not come one before the other have the same
steps. Paths whose steps differ are therefore sorted into one list, in whatever order they are
given.
-/

namespace CrossArch

namespace PathComponent

theorem order_eq : order = compareLex (compareOn rank) (compareOn text) := by
  funext a b
  cases a <;> cases b <;> simp [order, compareLex, compareOn, rank, text] <;> rfl

instance : Std.TransCmp order := by
  rw [order_eq]
  infer_instance

instance : Std.LawfulEqCmp order where
  eq_of_compare := by
    intro a b same
    cases a <;> cases b <;> simp_all [order, rank]

end PathComponent

namespace Path

theorem orderSteps_eq : orderSteps = List.compareLex PathComponent.order := by
  funext steps others
  induction steps generalizing others with
  | nil => cases others <;> rfl
  | cons step later ih =>
      cases others with
      | nil => rfl
      | cons other others =>
          rw [orderSteps, List.compareLex_cons_cons, ih]

instance : Std.TransCmp orderSteps := by
  rw [orderSteps_eq]
  infer_instance

instance : Std.LawfulEqCmp orderSteps := by
  rw [orderSteps_eq]
  infer_instance

/-- A path stands before another one in path order. -/
def StandsBefore (path other : Path) : Prop :=
  orderSteps path.components other.components = .lt

instance (path other : Path) : Decidable (path.StandsBefore other) :=
  inferInstanceAs (Decidable (orderSteps path.components other.components = .lt))

/-- Paths that differ in their steps. Paths with the same steps are spellings of one another. -/
def AreDistinct (paths : List Path) : Prop :=
  (paths.map components).Nodup

instance (paths : List Path) : Decidable (AreDistinct paths) :=
  inferInstanceAs (Decidable (paths.map components).Nodup)

theorem precedes_trans {path other third : Path} (first : path.precedes other = true)
    (second : other.precedes third = true) : path.precedes third = true :=
  Std.TransCmp.isLE_trans first second

theorem precedes_total (path other : Path) :
    (path.precedes other || other.precedes path) = true := by
  have swapped : orderSteps other.components path.components =
      (orderSteps path.components other.components).swap := Std.OrientedCmp.eq_swap
  rw [precedes, precedes, swapped]
  cases orderSteps path.components other.components <;> rfl

theorem components_eq_of_precedes {path other : Path} (first : path.precedes other = true)
    (second : other.precedes path = true) : path.components = other.components :=
  Std.LawfulEqCmp.eq_of_compare (Std.OrientedCmp.isLE_antisymm first second)

theorem pairwise_mergeSort (paths : List Path) :
    (paths.mergeSort precedes).Pairwise fun path other => path.precedes other = true := by
  apply List.pairwise_mergeSort
  · intro path other third
    exact precedes_trans
  · exact precedes_total

theorem AreDistinct.sublist {paths others : List Path} (distinct : AreDistinct others)
    (among : paths.Sublist others) : AreDistinct paths :=
  List.Nodup.sublist (among.map components) distinct

theorem AreDistinct.filter {paths : List Path} (distinct : AreDistinct paths)
    (keeps : Path → Bool) : AreDistinct (paths.filter keeps) :=
  distinct.sublist List.filter_sublist

theorem AreDistinct.perm {paths others : List Path} (distinct : AreDistinct paths)
    (perm : paths.Perm others) : AreDistinct others :=
  (perm.map components).nodup_iff.1 distinct

theorem AreDistinct.eq {paths : List Path} (distinct : AreDistinct paths) {path other : Path}
    (mem : path ∈ paths) (otherMem : other ∈ paths) (same : path.components = other.components) :
    path = other :=
  List.inj_on_of_nodup_map distinct mem otherMem same

/-- Distinct paths are sorted into the same list in whatever order they are given. -/
theorem AreDistinct.mergeSort_eq {paths others : List Path} (distinct : AreDistinct paths)
    (perm : paths.Perm others) : paths.mergeSort precedes = others.mergeSort precedes := by
  apply List.Perm.eq_of_pairwise _ (pairwise_mergeSort paths) (pairwise_mergeSort others)
  · exact (List.mergeSort_perm paths _).trans (perm.trans (List.mergeSort_perm others _).symm)
  · intro path other mem otherMem first second
    apply distinct.eq (List.mem_mergeSort.1 mem)
    · exact perm.mem_iff.2 (List.mem_mergeSort.1 otherMem)
    · exact components_eq_of_precedes first second

/-- No two of the sorted paths stand at the same place of the order. -/
theorem AreDistinct.pairwise_standsBefore {paths : List Path} (distinct : AreDistinct paths) :
    (paths.mergeSort precedes).Pairwise StandsBefore := by
  have sorted := distinct.perm (List.mergeSort_perm paths precedes).symm
  rw [AreDistinct, List.Nodup, List.pairwise_map] at sorted
  apply ((pairwise_mergeSort paths).and sorted).imp
  rintro path other ⟨before, differ⟩
  rw [StandsBefore]
  rw [precedes] at before
  cases compared : orderSteps path.components other.components with
  | lt => rfl
  | eq => exact absurd (Std.LawfulEqCmp.eq_of_compare compared) differ
  | gt => simp [compared] at before

theorem StandsBefore.asymm {path other : Path} (before : path.StandsBefore other) :
    ¬other.StandsBefore path := by
  have swapped : orderSteps other.components path.components =
      (orderSteps path.components other.components).swap := Std.OrientedCmp.eq_swap
  rw [StandsBefore] at before
  rw [StandsBefore, swapped, before]
  exact Ordering.noConfusion

section Split

variable {front back : List Path} {path other : Path}

/-- In a sorted list the paths that a path stands before are those behind it. -/
theorem standsBefore_iff_mem_back (sorted : (front ++ path :: back).Pairwise StandsBefore)
    (mem : other ∈ front ++ path :: back) : path.StandsBefore other ↔ other ∈ back := by
  rcases List.pairwise_append.1 sorted with ⟨-, sortedBack, across⟩
  constructor
  · intro before
    rcases List.mem_append.1 mem with inFront | mem
    · exact absurd before (across other inFront path List.mem_cons_self).asymm
    · rcases List.mem_cons.1 mem with rfl | inBack
      · exact absurd before before.asymm
      · exact inBack
  · exact (List.pairwise_cons.1 sortedBack).1 other

theorem standsBefore_iff_mem_front (sorted : (front ++ path :: back).Pairwise StandsBefore)
    (mem : other ∈ front ++ path :: back) : other.StandsBefore path ↔ other ∈ front := by
  rcases List.pairwise_append.1 sorted with ⟨-, sortedBack, across⟩
  constructor
  · intro before
    rcases List.mem_append.1 mem with inFront | mem
    · exact inFront
    · rcases List.mem_cons.1 mem with rfl | inBack
      · exact absurd before before.asymm
      · exact absurd before ((List.pairwise_cons.1 sortedBack).1 other inBack).asymm
  · intro inFront
    exact across other inFront path List.mem_cons_self

end Split

end Path

end CrossArch
