import CrossArch.Proofs.Files.Path

/-!
# Entering a directory

A walk enters a directory by following the pieces of its path, and calls each directory on the way
by a path of its own. Following a piece from there is the same as following it from the place that
the path leads to, so a walk enters the directories that their paths lead to.

There is one exception. Below the working directory a walk leaves the leading dot out, and an empty
piece then leaves no path at all: `.//rules` leads to a directory that no walk enters.
-/

namespace CrossArch

/-- Whether the first piece of a relative path that is no single dot is empty, as in `.//rules`. -/
def Path.emptyAfterDots (path : Path) : Bool :=
  !path.isAbsolute && (path.parts.dropWhile (· == ".")).head? == some ""

namespace FileTree

open CrossArch.Path

variable {tree : FileTree} {directory : Path} {place : Place} {part : String}

theorem ok_bind {ε α β : Type} (value : α) (next : α → Except ε β) :
    (Except.ok value >>= next) = next value :=
  rfl

theorem error_bind {ε α β : Type} (error : ε) (next : α → Except ε β) :
    (Except.error error >>= next) = .error error :=
  rfl

theorem nonempty_of_resolve (leads : tree.resolve directory = .ok place) :
    directory.text ≠ "" := by
  intro empty
  simp [resolve, empty] at leads

theorem resolve_of_nonempty (nonempty : directory.text ≠ "") :
    tree.resolve directory = directory.parts.foldlM tree.follow (tree.startOf directory) := by
  have notEmpty : directory.text.isEmpty = false := by simpa using nonempty
  rw [resolve, notEmpty, if_neg Bool.false_ne_true]

section Follow

theorem follow_eq_of_empty_or_dot (idle : part = "" ∨ part = ".") :
    tree.follow place part =
      if tree.nodeAt? place = some .directory then .ok place else .error .notDirectory := by
  by_cases isDirectory : tree.nodeAt? place = some .directory <;> simp [follow, isDirectory, idle]

theorem follow_of_not_directory (notDirectory : tree.nodeAt? place ≠ some .directory) :
    tree.follow place part = .error .notDirectory := by
  rw [follow, if_pos notDirectory]

theorem isSome_of_follow {reached : Place} (notDots : part ≠ "..")
    (followed : tree.follow place part = .ok reached) : (tree.nodeAt? reached).isSome = true := by
  unfold follow at followed
  split at followed
  · cases followed
  · rename_i isDirectory
    rw [ne_eq, not_not] at isDirectory
    split at followed
    · rw [← Except.ok.inj followed, isDirectory]
      rfl
    · split at followed
      · cases followed
      · split at followed
        · cases followed
        · rename_i found
          rw [← Except.ok.inj followed]
          simpa [Option.isSome_iff_ne_none] using found

theorem foldlM_follow_of_idle {parts : List String} {reached : Place}
    (idle : ∀ part ∈ parts, part = "" ∨ part = ".")
    (leads : parts.foldlM tree.follow place = .ok reached) : reached = place := by
  induction parts with
  | nil => exact (Except.ok.inj leads).symm
  | cons part later ih =>
      rw [List.foldlM_cons, follow_eq_of_empty_or_dot (idle part List.mem_cons_self)] at leads
      split at leads
      · exact ih (fun part mem => idle part (List.mem_cons_of_mem _ mem)) leads
      · cases leads

end Follow

section Dot

/-- The pieces of a path that means the working directory by a single dot lead nowhere else. -/
theorem parts_of_isDot (dot : isDot directory = true) :
    directory.isAbsolute = false ∧ ∀ part ∈ directory.parts, part = "" ∨ part = "." := by
  rw [isDot, beq_iff_eq, components_eq] at dot
  cases same : directory.parts with
  | nil => exact absurd same (parts_ne_nil directory)
  | cons first later =>
      rw [same, stepsOf] at dot
      cases absolute : directory.isAbsolute with
      | true => simp [absolute] at dot
      | false =>
          rw [absolute, if_neg Bool.false_ne_true] at dot
          cases starts : stepOf? true first with
          | none =>
              rw [starts, Option.toList_none, List.nil_append] at dot
              have mem : PathComponent.current ∈ later.filterMap (stepOf? false) := by
                rw [dot]
                exact List.mem_singleton_self _
              rcases List.mem_filterMap.1 mem with ⟨part, -, step⟩
              exact absurd (stepOf?_eq_current_iff.1 step).1 Bool.false_ne_true
          | some step =>
              rw [starts, Option.toList_some, List.singleton_append, List.cons.injEq] at dot
              rw [dot.1] at starts
              refine ⟨rfl, ?_⟩
              intro part mem
              rcases List.mem_cons.1 mem with rfl | mem
              · exact Or.inr (stepOf?_eq_current_iff.1 starts).2
              · exact stepOf?_eq_none_iff.1 (List.filterMap_eq_nil_iff.1 dot.2 part mem)

theorem working_of_isDot (dot : isDot directory = true)
    (leads : tree.resolve directory = .ok place) : place = tree.working := by
  rcases parts_of_isDot dot with ⟨relative, idle⟩
  rw [resolve_of_nonempty (nonempty_of_resolve leads), startOf, relative,
    if_neg Bool.false_ne_true] at leads
  exact foldlM_follow_of_idle idle leads

/-- Only a dot behind a dot is a dot. -/
theorem isDot_of_isDot_entryPath (nonempty : directory.text ≠ "") (slash : '/' ∉ part.toList)
    (dot : isDot (entryPath directory part) = true) : isDot directory = true ∧ part = "." := by
  have relative := not_isAbsolute_of_slash_not_mem slash
  rw [entryPath] at dot
  split at dot <;> rename_i whether
  · rw [isDot, beq_iff_eq, components_eq, relative, parts_of_slash_not_mem slash] at dot
    have starts : stepOf? true part = some .current := by
      simpa [stepsOf, Option.toList_eq_singleton_iff] using dot
    exact ⟨whether, (stepOf?_eq_current_iff.1 starts).2⟩
  · rw [isDot, beq_iff_eq, components_join nonempty relative, List.append_eq_singleton_iff] at dot
    rcases dot with ⟨noSteps, -⟩ | ⟨single, -⟩
    · exact absurd noSteps (components_ne_nil nonempty)
    · exact absurd (by rw [isDot, single, beq_self_eq_true]) whether

end Dot

section Pieces

/-- An entry is found from the place of its directory. -/
theorem resolve_entryPath (leads : tree.resolve directory = .ok place)
    (slash : '/' ∉ part.toList) (named : isDot directory = true → part ≠ "") :
    tree.resolve (entryPath directory part) = tree.follow place part := by
  have relative := not_isAbsolute_of_slash_not_mem slash
  have parts := parts_of_slash_not_mem slash
  have nonempty := nonempty_of_resolve leads
  rw [entryPath]
  split <;> rename_i dot
  · rw [resolve_of_nonempty (named dot), parts, startOf, relative, if_neg Bool.false_ne_true,
      working_of_isDot dot leads, List.foldlM_cons]
    exact bind_pure _
  · rcases exists_outer_of_join nonempty relative with ⟨outer, -, written, joined⟩
    rw [resolve_of_nonempty nonempty] at leads
    rw [resolve_of_nonempty (text_join_ne_empty nonempty relative), joined, parts, startOf,
      isAbsolute_join nonempty relative, ← startOf, List.foldlM_append]
    -- A directory whose path ends with a slash has an empty last piece, which leads nowhere else.
    have outerLeads : outer.foldlM tree.follow (tree.startOf directory) = .ok place := by
      rcases written with written | written
      · rwa [written] at leads
      · rw [written, List.foldlM_append] at leads
        cases reached : outer.foldlM tree.follow (tree.startOf directory) with
        | error error => simp [reached, error_bind] at leads
        | ok outerPlace =>
            rw [reached, ok_bind] at leads
            rw [foldlM_follow_of_idle (by simp) leads]
    rw [outerLeads, ok_bind, List.foldlM_cons]
    exact bind_pure _

theorem eq_entryPath_of_enterPart {next : Path}
    (entered : tree.enterPart directory part = some next) : next = entryPath directory part := by
  unfold enterPart at entered
  dsimp only at entered
  split at entered
  · cases entered
  · split at entered
    · exact (Option.some.inj entered).symm
    · split at entered
      · exact (Option.some.inj entered).symm
      · cases entered

/-- A walk follows a piece exactly when it can be followed from the place reached so far. -/
theorem map_resolve_enterPart (leads : tree.resolve directory = .ok place)
    (slash : '/' ∉ part.toList) (named : isDot directory = true → part ≠ "") :
    (tree.enterPart directory part).map tree.resolve =
      (tree.follow place part).toOption.map .ok := by
  have next := resolve_entryPath leads slash named
  have here : tree.node? directory = tree.nodeAt? place := by rw [node?, leads]
  by_cases isDirectory : tree.nodeAt? place = some .directory
  · have entered : tree.isDirectory directory = true := by
      rw [FileTree.isDirectory, here, isDirectory, beq_self_eq_true]
    rw [enterPart, entered, Bool.not_true, if_neg Bool.false_ne_true]
    cases followed : tree.follow place part with
    | error error =>
        have notDots : ¬(part = "." ∨ part = "..") := by
          rintro (rfl | rfl) <;> simp [follow, isDirectory] at followed
        have missing : tree.exists? (entryPath directory part) = false := by
          simp [exists?, node?, next, followed]
        rw [if_neg notDots, missing]
        rfl
    | ok reached =>
        split <;> rename_i dots
        · simp [next, followed, Except.toOption]
        · have found : tree.exists? (entryPath directory part) = true := by
            rw [exists?, node?, next, followed]
            exact isSome_of_follow (fun isDots => dots (Or.inr isDots)) followed
          simp [found, next, followed, Except.toOption]
  · have notEntered : tree.isDirectory directory = false := by
      rw [FileTree.isDirectory, here]
      simpa using isDirectory
    rw [enterPart, notEntered, follow_of_not_directory isDirectory]
    rfl

/-- A walk follows pieces exactly when they can be followed from the place reached so far. -/
theorem map_resolve_enterParts {parts : List String}
    (leads : tree.resolve directory = .ok place) (slash : ∀ part ∈ parts, '/' ∉ part.toList)
    (named : isDot directory = true → (parts.dropWhile (· == ".")).head? ≠ some "") :
    (parts.foldlM tree.enterPart directory).map tree.resolve =
      (parts.foldlM tree.follow place).toOption.map .ok := by
  induction parts generalizing directory place with
  | nil =>
      rw [List.foldlM_nil, List.foldlM_nil]
      exact congrArg some leads
  | cons part later ih =>
      have partSlash := slash part List.mem_cons_self
      have partNamed : isDot directory = true → part ≠ "" := by
        rintro dot rfl
        exact named dot rfl
      have step := map_resolve_enterPart leads partSlash partNamed
      rw [List.foldlM_cons, List.foldlM_cons]
      cases followed : tree.follow place part with
      | error error =>
          rw [followed] at step
          rw [Option.map_eq_none_iff.1 step]
          rfl
      | ok reached =>
          rw [followed] at step
          rcases Option.map_eq_some_iff.1 step with ⟨next, entered, nextLeads⟩
          rw [entered, ok_bind, Option.bind_eq_bind, Option.bind_some]
          apply ih nextLeads (fun part mem => slash part (List.mem_cons_of_mem _ mem))
          -- The walk is still at a dot only if this piece is one of the leading dots.
          intro dot
          rw [eq_entryPath_of_enterPart entered] at dot
          rcases isDot_of_isDot_entryPath (nonempty_of_resolve leads) partSlash dot with
            ⟨wasDot, rfl⟩
          exact named wasDot

theorem map_resolve_enterParts_of_start {parts : List String} (nonempty : parts ≠ [])
    (slash : ∀ part ∈ parts, '/' ∉ part.toList)
    (named : isDot directory = true → (parts.dropWhile (· == ".")).head? ≠ some "") :
    (parts.foldlM tree.enterPart directory).map tree.resolve =
      (tree.resolve directory >>= fun place => parts.foldlM tree.follow place).toOption.map
        .ok := by
  cases leads : tree.resolve directory with
  | ok place => exact map_resolve_enterParts leads slash named
  | error error =>
      cases parts with
      | nil => exact absurd rfl nonempty
      | cons part later =>
          have notEntered : tree.isDirectory directory = false := by
            simp [FileTree.isDirectory, node?, leads]
          rw [List.foldlM_cons, enterPart, notEntered]
          rfl

end Pieces

section Directories

/-- A piece that stays in a directory makes no difference before another piece. -/
theorem follow_idle_bind {parts : List String} (idle : part = "" ∨ part = ".")
    (nonempty : parts ≠ []) :
    (tree.follow place part >>= fun reached => parts.foldlM tree.follow reached) =
      parts.foldlM tree.follow place := by
  rw [follow_eq_of_empty_or_dot idle]
  split <;> rename_i isDirectory
  · rfl
  · cases parts with
    | nil => exact absurd rfl nonempty
    | cons next later =>
        rw [List.foldlM_cons, follow_of_not_directory isDirectory]
        rfl

theorem resolve_root : tree.resolve ⟨"/"⟩ = tree.follow [] "" := by
  have pieces : (⟨"/"⟩ : Path).parts = ["", ""] := by decide
  have start : tree.startOf ⟨"/"⟩ = [] := rfl
  rw [resolve_of_nonempty (by decide), pieces, start, List.foldlM_cons,
    follow_idle_bind (Or.inl rfl) (List.cons_ne_nil _ _), List.foldlM_cons]
  exact bind_pure _

theorem resolve_dot : tree.resolve ⟨"."⟩ = tree.follow tree.working "." := by
  have pieces : (⟨"."⟩ : Path).parts = ["."] := by decide
  have start : tree.startOf ⟨"."⟩ = tree.working := rfl
  rw [resolve_of_nonempty (by decide), pieces, start, List.foldlM_cons]
  exact bind_pure _

/-- The path that the pieces of a directory give when a walk follows them. -/
def walked? (tree : FileTree) (directory : Path) : Option Path :=
  if directory.isAbsolute then (directory.parts.drop 1).foldlM tree.enterPart ⟨"/"⟩
  else directory.parts.foldlM tree.enterPart ⟨"."⟩

theorem enter?_eq (directory : Path) :
    tree.enter? directory =
      (tree.walked? directory).bind fun entered =>
        if tree.isDirectory entered then some entered else none := by
  cases absolute : directory.isAbsolute <;> simp [enter?, walked?, absolute]

theorem map_resolve_walked? (nonempty : directory.text ≠ "")
    (named : directory.emptyAfterDots = false) :
    (tree.walked? directory).map tree.resolve = (tree.resolve directory).toOption.map .ok := by
  rw [walked?, resolve_of_nonempty nonempty, startOf]
  cases absolute : directory.isAbsolute with
  | true =>
      rcases parts_of_isAbsolute absolute with ⟨second, later, same⟩
      have slash : ∀ part ∈ second :: later, '/' ∉ part.toList := by
        intro part mem
        have partMem : part ∈ directory.parts := by
          rw [same]
          exact List.mem_cons_of_mem _ mem
        exact slash_not_mem_of_mem_parts partMem
      have notDot : isDot ⟨"/"⟩ = false := by decide
      rw [if_pos rfl, if_pos rfl, same, List.drop_one, List.tail_cons,
        map_resolve_enterParts_of_start (List.cons_ne_nil _ _) slash (by simp [notDot]),
        resolve_root]
      rfl
  | false =>
      rw [emptyAfterDots, absolute, Bool.not_false, Bool.true_and, beq_eq_false_iff_ne] at named
      rw [if_neg Bool.false_ne_true, if_neg Bool.false_ne_true,
        map_resolve_enterParts_of_start (parts_ne_nil _) (fun _ => slash_not_mem_of_mem_parts)
          (fun _ => named),
        resolve_dot, follow_idle_bind (Or.inr rfl) (parts_ne_nil _)]

theorem foldlM_enterPart_of_empty {parts : List String}
    (empty : (parts.dropWhile (· == ".")).head? = some "") :
    parts.foldlM tree.enterPart ⟨"."⟩ = none := by
  have dot : isDot ⟨"."⟩ = true := by decide
  induction parts with
  | nil => simp at empty
  | cons part later ih =>
      rw [List.foldlM_cons]
      by_cases isPart : part = "."
      · subst isPart
        rw [List.dropWhile_cons_of_pos (by simp)] at empty
        cases entered : tree.enterPart ⟨"."⟩ "." with
        | none => rfl
        | some next =>
            rw [eq_entryPath_of_enterPart entered, entryPath, if_pos dot]
            exact ih empty
      · rw [List.dropWhile_cons_of_neg (by simpa using isPart), List.head?_cons,
          Option.some.injEq] at empty
        have nowhere : tree.exists? ⟨""⟩ = false := rfl
        have notEntered : tree.enterPart ⟨"."⟩ "" = none := by
          simp [enterPart, entryPath, dot, nowhere]
        rw [empty, notEntered]
        rfl

/-- A walk never gets past an empty piece behind leading dots. -/
theorem enter?_of_emptyAfterDots (empty : directory.emptyAfterDots = true) :
    tree.enter? directory = none := by
  rw [emptyAfterDots, Bool.and_eq_true, beq_iff_eq, Bool.not_eq_true'] at empty
  rw [enter?_eq, walked?, empty.1, if_neg Bool.false_ne_true, foldlM_enterPart_of_empty empty.2,
    Option.bind_none]

/-- A walk enters the directory that a path leads to. -/
theorem exists_enter? (named : directory.emptyAfterDots = false)
    (leads : tree.resolve directory = .ok place)
    (isDirectory : tree.nodeAt? place = some .directory) :
    ∃ entered, tree.enter? directory = some entered ∧ tree.resolve entered = .ok place := by
  have walk : (tree.walked? directory).map tree.resolve = _ :=
    map_resolve_walked? (nonempty_of_resolve leads) named
  rw [leads] at walk
  rcases Option.map_eq_some_iff.1 walk with ⟨entered, walked, enteredLeads⟩
  refine ⟨entered, ?_, enteredLeads⟩
  have entersDirectory : tree.isDirectory entered = true := by
    simp [FileTree.isDirectory, node?, enteredLeads, isDirectory]
  rw [enter?_eq, walked, Option.bind_some, if_pos entersDirectory]

/-- A walk enters nothing else. -/
theorem enter?_eq_none
    (noDirectory : ∀ place, tree.resolve directory = .ok place →
      tree.nodeAt? place ≠ some .directory) : tree.enter? directory = none := by
  cases named : directory.emptyAfterDots with
  | true => exact enter?_of_emptyAfterDots named
  | false =>
      rw [enter?_eq]
      by_cases nonempty : directory.text = ""
      · rcases directory with ⟨text⟩
        subst nonempty
        exact absurd named (by decide)
      · have walk : (tree.walked? directory).map tree.resolve = _ :=
          map_resolve_walked? nonempty named
        cases leads : tree.resolve directory with
        | error error =>
            rw [leads] at walk
            rw [Option.map_eq_none_iff.1 walk, Option.bind_none]
        | ok place =>
            rw [leads] at walk
            rcases Option.map_eq_some_iff.1 walk with ⟨entered, walked, enteredLeads⟩
            have notEntered : tree.isDirectory entered = false := by
              simpa [FileTree.isDirectory, node?, enteredLeads] using noDirectory place leads
            rw [walked, Option.bind_some, notEntered, if_neg Bool.false_ne_true]

end Directories

end FileTree

end CrossArch
