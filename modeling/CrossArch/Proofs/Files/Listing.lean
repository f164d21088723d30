import CrossArch.Files.Classify
import CrossArch.Proofs.Files.Order
import CrossArch.Proofs.Files.Subtree

/-!
# Listings of a tree

A tree lists its nodes in some order, and a walk finds files in that order. Two listings of the same
nodes agree on what stands at each place, so every path leads to the same place in both, and a walk
finds the same files, only in another order. No two files that one walk finds have the same steps.
-/

namespace CrossArch.FileTree

open CrossArch.Path

/-- Two trees that list the same nodes, in whatever order. -/
structure ListsSame (tree other : FileTree) : Prop where
  nodes : tree.nodes.Perm other.nodes
  working : tree.working = other.working

instance (tree other : FileTree) : Decidable (tree.ListsSame other) :=
  decidable_of_iff (tree.nodes.Perm other.nodes ∧ tree.working = other.working)
    ⟨fun ⟨nodes, working⟩ => ⟨nodes, working⟩, fun ⟨nodes, working⟩ => ⟨nodes, working⟩⟩

variable {tree other : FileTree} {place : Place} {directory : Path}

theorem lookup_eq_some_iff_mem (proper : tree.IsProper) {node : FileNode} :
    tree.nodes.lookup place = some node ↔ (place, node) ∈ tree.nodes := by
  constructor
  · intro listed
    rcases List.lookup_eq_some_iff.1 listed with ⟨front, back, same, -⟩
    simp [same]
  · exact lookup_of_mem proper

namespace ListsSame

theorem isProper (same : tree.ListsSame other) (proper : tree.IsProper) : other.IsProper where
  distinct := (same.nodes.map Prod.fst).nodup_iff.1 proper.distinct
  named := by
    intro node mem
    exact proper.named node (same.nodes.mem_iff.2 mem)

section Lookup

variable (same : tree.ListsSame other) (proper : tree.IsProper)

include same proper

theorem nodeAt?_eq : tree.nodeAt? = other.nodeAt? := by
  funext place
  have listed : tree.nodes.lookup place = other.nodes.lookup place := by
    apply Option.ext
    intro node
    rw [lookup_eq_some_iff_mem proper, lookup_eq_some_iff_mem (same.isProper proper),
      same.nodes.mem_iff]
  have below : tree.nodes.any (fun node => place.isPrefixOf node.1) =
      other.nodes.any fun node => place.isPrefixOf node.1 := by
    rw [Bool.eq_iff_iff, List.any_eq_true, List.any_eq_true]
    simp only [same.nodes.mem_iff]
  rw [nodeAt?, nodeAt?, listed, same.working, below]

theorem resolve_eq : tree.resolve = other.resolve := by
  have follows : tree.follow = other.follow := by
    funext place part
    rw [follow, follow, same.nodeAt?_eq proper]
  funext path
  rw [resolve, resolve, startOf, startOf, follows, same.working]

theorem node?_eq : tree.node? = other.node? := by
  funext path
  rw [node?, node?, same.resolve_eq proper, same.nodeAt?_eq proper]

theorem isFile_eq : tree.isFile = other.isFile := by
  funext path
  rw [isFile, isFile, same.node?_eq proper]

theorem read_eq : tree.read = other.read := by
  funext path
  rw [read, read, same.resolve_eq proper, same.nodeAt?_eq proper]

theorem enter?_eq : tree.enter? = other.enter? := by
  have isDirectory_eq : tree.isDirectory = other.isDirectory := by
    funext path
    rw [isDirectory, isDirectory, same.node?_eq proper]
  have enterPart_eq : tree.enterPart = other.enterPart := by
    funext path part
    rw [enterPart, enterPart, exists?, exists?, isDirectory_eq, same.node?_eq proper]
  funext path
  rw [enter?, enter?, isDirectory_eq, enterPart_eq]

end Lookup

section Walk

theorem perm_filesBelow (same : tree.ListsSame other) (place : Place) :
    (tree.filesBelow place).Perm (other.filesBelow place) :=
  same.nodes.filterMap _

variable (same : tree.ListsSame other) (proper : tree.IsProper)

include same proper

theorem perm_walk (directory : Path) : (tree.walk directory).Perm (other.walk directory) := by
  rw [walk, walk, same.enter?_eq proper, same.resolve_eq proper]
  split
  · exact List.Perm.refl _
  · split
    · exact List.Perm.refl _
    · exact (same.perm_filesBelow _).map _

theorem perm_filesIn (directory : Path) :
    (tree.filesIn directory).Perm (other.filesIn directory) := by
  rw [filesIn, filesIn, same.enter?_eq proper, same.resolve_eq proper]
  split
  · exact List.Perm.refl _
  · split
    · exact List.Perm.refl _
    · exact (same.perm_filesBelow _).filterMap _

theorem perm_candidates (root : Path) : (candidates tree root).Perm (candidates other root) := by
  rw [candidates, candidates, same.isFile_eq proper]
  split
  · exact List.Perm.refl _
  · exact same.perm_walk proper root

end Walk

end ListsSame

section Distinct

theorem mem_filesBelow {names : List String} :
    names ∈ tree.filesBelow place ↔
      names ≠ [] ∧ ∃ node, node ≠ .directory ∧ (place ++ names, node) ∈ tree.nodes := by
  rw [filesBelow, List.mem_filterMap]
  constructor
  · rintro ⟨⟨found, node⟩, mem, below⟩
    dsimp only at below
    split at below
    · rename_i isBelow
      rcases List.isPrefixOf_iff_prefix.1 isBelow.2.1 with ⟨later, rfl⟩
      rw [List.drop_left, Option.some.injEq] at below
      subst below
      refine ⟨?_, node, isBelow.1, mem⟩
      rintro rfl
      exact isBelow.2.2 (List.append_nil place)
    · cases below
  · rintro ⟨nonempty, node, isFile, mem⟩
    refine ⟨_, mem, ?_⟩
    simp [isFile, nonempty]

theorem nodup_filesBelow (proper : tree.IsProper) : (tree.filesBelow place).Nodup := by
  apply List.pairwise_filterMap.2
  apply (List.pairwise_map.1 proper.distinct).imp
  rintro ⟨one, node⟩ ⟨two, node'⟩ distinct names below names' below' rfl
  dsimp only at below below'
  split at below
  · split at below'
    · rename_i isBelow isBelow'
      rcases List.isPrefixOf_iff_prefix.1 isBelow.2.1 with ⟨later, rfl⟩
      rcases List.isPrefixOf_iff_prefix.1 isBelow'.2.1 with ⟨later', rfl⟩
      simp only [List.drop_left, Option.some.injEq] at below below'
      exact distinct (by rw [below, below'])
    · cases below'
  · cases below

theorem isName_of_mem_filesBelow (proper : tree.IsProper) {names : List String}
    (mem : names ∈ tree.filesBelow place) : ∀ name ∈ names, IsName name := by
  rcases mem_filesBelow.1 mem with ⟨-, node, -, nodeMem⟩
  intro name nameMem
  exact proper.named _ nodeMem name (List.mem_append_right place nameMem)

theorem text_entryPath_ne_empty {name : String} (nonempty : directory.text ≠ "")
    (isName : IsName name) : (entryPath directory name).text ≠ "" := by
  rw [entryPath]
  split
  · exact isName.nonempty
  · exact text_join_ne_empty nonempty (not_isAbsolute_of_slash_not_mem isName.slash_not_mem)

/-- A file below a directory has the steps of the directory, but for a single dot, and then its
names. -/
theorem components_foldl_entryPath {names : List String} (notHere : names ≠ [])
    (nonempty : directory.text ≠ "") (isName : ∀ name ∈ names, IsName name) :
    (names.foldl entryPath directory).components =
      (if isDot directory then [] else directory.components) ++ names.map .normal := by
  induction names generalizing directory with
  | nil => exact absurd rfl notHere
  | cons name later ih =>
      have named := isName name List.mem_cons_self
      rw [List.foldl_cons]
      cases later with
      | nil => exact components_entryPath nonempty named
      | cons next rest =>
          have notDot : isDot (entryPath directory name) = false := by
            by_contra dot
            rw [Bool.not_eq_false] at dot
            exact named.ne_dot (isDot_of_isDot_entryPath nonempty named.slash_not_mem dot).2
          rw [ih (List.cons_ne_nil _ _) (text_entryPath_ne_empty nonempty named)
              (fun other mem => isName other (List.mem_cons_of_mem _ mem)),
            notDot, if_neg Bool.false_ne_true, components_entryPath nonempty named,
            List.append_assoc]
          rfl

/-- The files that a walk finds differ in their steps. -/
theorem areDistinct_walk (proper : tree.IsProper) (directory : Path) :
    AreDistinct (tree.walk directory) := by
  unfold walk
  split
  · exact List.nodup_nil
  · split
    · exact List.nodup_nil
    · rename_i entered _ place leads
      have nonempty := nonempty_of_resolve leads
      rw [AreDistinct, List.map_map]
      apply List.Nodup.map_on _ (nodup_filesBelow proper)
      intro names mem names' mem' same
      dsimp only [Function.comp_apply] at same
      rw [components_foldl_entryPath (mem_filesBelow.1 mem).1 nonempty
          (isName_of_mem_filesBelow proper mem),
        components_foldl_entryPath (mem_filesBelow.1 mem').1 nonempty
          (isName_of_mem_filesBelow proper mem'), List.append_cancel_left_eq] at same
      apply List.map_injective_iff.2 _ same
      intro name name'
      exact PathComponent.normal.inj

theorem areDistinct_candidates (proper : tree.IsProper) (root : Path) :
    AreDistinct (candidates tree root) := by
  unfold candidates
  split
  · exact List.nodup_singleton _
  · exact areDistinct_walk proper root

/-- The files of a directory are among those that a walk from there finds. -/
theorem filesIn_sublist_walk (tree : FileTree) (directory : Path) :
    (tree.filesIn directory).Sublist (tree.walk directory) := by
  unfold filesIn walk
  split
  · exact List.Sublist.refl _
  · split
    · exact List.Sublist.refl _
    · rename_i entered _ place _
      induction tree.filesBelow place with
      | nil => exact List.Sublist.refl _
      | cons names rest ih =>
          rcases names with _ | ⟨name, _ | _⟩
          · exact ih.cons _
          · exact ih.cons_cons _
          · exact ih.cons _

end Distinct

end CrossArch.FileTree
