import CrossArch.Proofs.Files.Enter

/-!
# What stands below a directory

A subtree is known by what stands at each place below its directory. The names of the files in the
directory, and what is read when they are opened, depend on the subtree alone: neither the path by
which the directory is called nor the order in which the tree lists its nodes matters.
-/

namespace CrossArch.FileTree

open CrossArch.Path

/-- A tree that lists each place once, and whose places are made of names. -/
structure IsProper (tree : FileTree) : Prop where
  distinct : (tree.nodes.map Prod.fst).Nodup
  named : ∀ node ∈ tree.nodes, ∀ name ∈ node.1, IsName name

instance (tree : FileTree) : Decidable tree.IsProper :=
  decidable_of_iff ((tree.nodes.map Prod.fst).Nodup ∧
    ∀ node ∈ tree.nodes, ∀ name ∈ node.1, IsName name)
    ⟨fun ⟨distinct, named⟩ => ⟨distinct, named⟩, fun ⟨distinct, named⟩ => ⟨distinct, named⟩⟩

/-- What stands at and below a path, by the names on the way there; none if the path leads
nowhere. -/
def subtree? (tree : FileTree) (path : Path) : Option (Place → Option FileNode) :=
  (tree.resolve path).toOption.map fun place names => tree.nodeAt? (place ++ names)

variable {tree : FileTree} {place : Place} {name : String} {node : FileNode}

theorem subtree?_eq_of_resolve {tree' : FileTree} {path path' : Path} {place' : Place}
    (leads : tree.resolve path = .ok place) (leads' : tree'.resolve path' = .ok place')
    (view : ∀ names, tree.nodeAt? (place ++ names) = tree'.nodeAt? (place' ++ names)) :
    tree.subtree? path = tree'.subtree? path' := by
  rw [subtree?, subtree?, leads, leads']
  exact congrArg some (funext view)

theorem resolve_of_subtree?_eq {tree' : FileTree} {path path' : Path}
    (same : tree.subtree? path = tree'.subtree? path') :
    ((∃ error, tree.resolve path = .error error) ∧ ∃ error, tree'.resolve path' = .error error) ∨
      ∃ place place', tree.resolve path = .ok place ∧ tree'.resolve path' = .ok place' ∧
        ∀ names, tree.nodeAt? (place ++ names) = tree'.nodeAt? (place' ++ names) := by
  rw [subtree?, subtree?] at same
  cases leads : tree.resolve path with
  | error error =>
      cases leads' : tree'.resolve path' with
      | error error' => exact Or.inl ⟨⟨error, rfl⟩, error', rfl⟩
      | ok place' => simp [leads, leads', Except.toOption] at same
  | ok place =>
      cases leads' : tree'.resolve path' with
      | error error' => simp [leads, leads', Except.toOption] at same
      | ok place' =>
          rw [leads, leads'] at same
          exact Or.inr ⟨place, place', rfl, rfl, congrFun (Option.some.inj same)⟩

section Nodes

theorem lookup_of_mem (proper : tree.IsProper) (mem : (place, node) ∈ tree.nodes) :
    tree.nodes.lookup place = some node := by
  rcases List.append_of_mem mem with ⟨front, back, same⟩
  refine List.lookup_eq_some_iff.2 ⟨front, back, same, ?_⟩
  have distinct := proper.distinct
  rw [same, List.map_append, List.map_cons, List.nodup_append] at distinct
  intro other otherMem
  rw [bne_iff_ne]
  exact Ne.symm (distinct.2.2 _ (List.mem_map_of_mem otherMem) _ List.mem_cons_self)

/-- What is no directory stands at a place only if it is listed there. -/
theorem nodeAt?_eq_some_iff (proper : tree.IsProper) (isFile : node ≠ .directory) :
    tree.nodeAt? place = some node ↔ (place, node) ∈ tree.nodes := by
  constructor
  · intro found
    rw [nodeAt?] at found
    split at found
    · rename_i listed
      rcases List.lookup_eq_some_iff.1 listed with ⟨front, back, same, -⟩
      rw [same, ← Option.some.inj found]
      simp
    · split at found
      · exact absurd (Option.some.inj found).symm isFile
      · cases found
  · intro mem
    rw [nodeAt?, lookup_of_mem proper mem]

end Nodes

section FileNames

/-- The name that a node has in the directory at a place, if it is a file there. -/
def nameIn? (place : Place) (node : Place × FileNode) : Option String :=
  if node.2 ≠ .directory ∧ place.isPrefixOf node.1 then
    match node.1.drop place.length with
    | [name] => some name
    | _ => none
  else none

theorem nameIn?_eq_some_iff {other : Place} :
    nameIn? place (other, node) = some name ↔ node ≠ .directory ∧ other = place ++ [name] := by
  rw [nameIn?]
  constructor
  · intro named
    split at named <;> rename_i below
    · refine ⟨below.1, ?_⟩
      rcases List.isPrefixOf_iff_prefix.1 below.2 with ⟨names, rfl⟩
      rw [List.drop_left] at named
      split at named
      · rw [Option.some.inj named]
      · cases named
    · cases named
  · rintro ⟨isFile, rfl⟩
    have below : place.isPrefixOf (place ++ [name]) = true :=
      List.isPrefixOf_iff_prefix.2 (List.prefix_append _ _)
    rw [if_pos ⟨isFile, below⟩, List.drop_left]

/-- The names of the files that stand at a place itself. -/
def fileNames (tree : FileTree) (place : Place) : List String :=
  tree.nodes.filterMap (nameIn? place)

theorem mem_fileNames_iff_mem_nodes :
    name ∈ tree.fileNames place ↔
      ∃ node, node ≠ .directory ∧ (place ++ [name], node) ∈ tree.nodes := by
  rw [fileNames, List.mem_filterMap]
  constructor
  · rintro ⟨⟨other, node⟩, mem, named⟩
    rcases nameIn?_eq_some_iff.1 named with ⟨isFile, rfl⟩
    exact ⟨node, isFile, mem⟩
  · rintro ⟨node, isFile, mem⟩
    exact ⟨(place ++ [name], node), mem, nameIn?_eq_some_iff.2 ⟨isFile, rfl⟩⟩

theorem mem_fileNames (proper : tree.IsProper) :
    name ∈ tree.fileNames place ↔
      ∃ node, node ≠ .directory ∧ tree.nodeAt? (place ++ [name]) = some node := by
  rw [mem_fileNames_iff_mem_nodes]
  apply exists_congr
  intro node
  apply and_congr_right
  intro isFile
  exact (nodeAt?_eq_some_iff proper isFile).symm

theorem isName_of_mem_fileNames (proper : tree.IsProper) (mem : name ∈ tree.fileNames place) :
    IsName name := by
  rcases mem_fileNames_iff_mem_nodes.1 mem with ⟨node, -, nodeMem⟩
  exact proper.named _ nodeMem name (by simp)

theorem nodup_fileNames (proper : tree.IsProper) : (tree.fileNames place).Nodup := by
  refine List.pairwise_filterMap.2 ((List.pairwise_map.1 proper.distinct).imp ?_)
  rintro ⟨one, node⟩ ⟨two, node'⟩ distinct name named name' named' rfl
  exact distinct ((nameIn?_eq_some_iff.1 named).2.trans (nameIn?_eq_some_iff.1 named').2.symm)

/-- Directories that hold the same files list the same names, each once. -/
theorem perm_fileNames {tree' : FileTree} {place' : Place} (proper : tree.IsProper)
    (proper' : tree'.IsProper)
    (same : ∀ name, tree.nodeAt? (place ++ [name]) = tree'.nodeAt? (place' ++ [name])) :
    (tree.fileNames place).Perm (tree'.fileNames place') := by
  rw [List.perm_ext_iff_of_nodup (nodup_fileNames proper) (nodup_fileNames proper')]
  intro name
  rw [mem_fileNames proper, mem_fileNames proper', same]

/-- The files of a directory are called by their names and by the path that was entered. -/
theorem filesIn_eq {directory entered : Path} (enters : tree.enter? directory = some entered)
    (leads : tree.resolve entered = .ok place) :
    tree.filesIn directory = (tree.fileNames place).map (entryPath entered) := by
  rw [filesIn, enters, fileNames, List.map_filterMap]
  simp only [leads, filesBelow, List.filterMap_filterMap]
  apply List.filterMap_congr
  rintro ⟨other, node⟩ -
  rw [nameIn?]
  by_cases isPlace : other = place
  · simp [isPlace]
  · by_cases below : node ≠ .directory ∧ place.isPrefixOf other = true
    · rw [if_pos below, if_pos ⟨below.1, below.2, isPlace⟩, Option.bind_some]
      rcases other.drop place.length with _ | ⟨name, _ | _⟩ <;> rfl
    · rw [if_neg below, if_neg fun ⟨isFile, isPrefix, _⟩ => below ⟨isFile, isPrefix⟩]
      rfl

end FileNames

section Read

/-- What reading an entry of a directory gives, by its name and by what stands there. -/
def readEntry (name : String) (node? : Option FileNode) : Except FileError String :=
  if 255 < name.utf8ByteSize then .error .nameTooLong
  else match node? with
    | some (.text content) => .ok content
    | some .binary => .error .notText
    | some .directory => .error .isDirectory
    | none => .error .notFound

theorem read_entryPath {entered : Path} (isName : IsName name)
    (leads : tree.resolve entered = .ok place)
    (isDirectory : tree.nodeAt? place = some .directory) :
    tree.read (entryPath entered name) = readEntry name (tree.nodeAt? (place ++ [name])) := by
  have notIdle : ¬(name = "" ∨ name = ".") := not_or.2 ⟨isName.nonempty, isName.ne_dot⟩
  rw [read, resolve_entryPath leads isName.slash_not_mem (fun _ => isName.nonempty), follow,
    if_neg (not_not.2 isDirectory), if_neg notIdle, if_neg isName.ne_dots]
  unfold readEntry
  split
  · rfl
  · cases found : tree.nodeAt? (place ++ [name]) with
    | none => rfl
    | some node => cases node <;> simp [found, ok_bind]

end Read

end CrossArch.FileTree
