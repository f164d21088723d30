import CrossArch.Proofs.Files.Classify
import CrossArch.Proofs.Regex.Sequence

/-!
# Leaving out git directories

The default exclude looks for `.git` between two separators, in any case. A git directory that a
path passes through on its way is between two slashes, so its files are left out. Only where a path
begins with the git directory is there no slash before it. That can happen in two ways: the root
itself begins with `.git`, or it is the working directory, whose leading dot is left out of the
paths.
-/

namespace CrossArch

/-- Whether a name is `.git` up to case. -/
def isGitName (name : List Char) : Bool :=
  name.map Unicode.fold == ['.', 'g', 'i', 't']

/-- Whether a character divides the names of a path, in one of the two usual ways. -/
def isSeparator (c : Char) : Bool :=
  c == '/' || c == '\\'

/-- A text in which `.git` stands between two separators. -/
def HasGitDirectory (text : List Char) : Prop :=
  ∃ before name behind, before :: (name ++ [behind]) <:+: text ∧
    isSeparator before = true ∧ isGitName name = true ∧ isSeparator behind = true

namespace Exclude

/-- The excludes that hold when no others are given. -/
def defaults : List Exclude :=
  (compile defaultPatterns).value

/-- The separators as a set of characters. -/
def separatorSet : CharSet :=
  .anyCase (.unionAll [.single '/', .single '\\'])

/-- What the default exclude looks for. -/
def gitSets : List CharSet :=
  [separatorSet, .anyCase (.single '.'), .anyCase (.single 'g'), .anyCase (.single 'i'),
    .anyCase (.single 't'), separatorSet]

theorem defaults_eq : defaults = [⟨"[/\\\\]\\.git[/\\\\]", .ofSets gitSets⟩] := by
  decide +kernel

theorem contains_separatorSet_iff {c : Char} :
    separatorSet.contains c = true ↔ isSeparator c = true := by
  have slash : (CharSet.anyCase (.single '/')).contains c = true ↔ c = '/' :=
    (CharSet.contains_anyCase_single_iff (by decide) (by decide) (by decide)).trans
      (Unicode.fold_eq_iff (by decide) (by decide) (by decide))
  have backslash : (CharSet.anyCase (.single '\\')).contains c = true ↔ c = '\\' :=
    (CharSet.contains_anyCase_single_iff (by decide) (by decide) (by decide)).trans
      (Unicode.fold_eq_iff (by decide) (by decide) (by decide))
  rw [isSeparator, Bool.or_eq_true, beq_iff_eq, beq_iff_eq, ← slash, ← backslash]
  simp only [separatorSet, CharSet.unionAll, CharSet.contains, List.foldr_cons, List.foldr_nil,
    Bool.or_false, List.any_eq_true, Bool.or_eq_true]
  constructor
  · rintro ⟨variant, mem, isSlash | isBackslash⟩
    · exact Or.inl ⟨variant, mem, isSlash⟩
    · exact Or.inr ⟨variant, mem, isBackslash⟩
  · rintro (⟨variant, mem, isSlash⟩ | ⟨variant, mem, isBackslash⟩)
    · exact ⟨variant, mem, Or.inl isSlash⟩
    · exact ⟨variant, mem, Or.inr isBackslash⟩

theorem inSets_gitSets_iff {word : List Char} :
    Regex.InSets gitSets word ↔
      ∃ before name behind, word = before :: (name ++ [behind]) ∧
        isSeparator before = true ∧ isGitName name = true ∧ isSeparator behind = true := by
  have plain : ∀ w ∈ ['.', 'g', 'i', 't'],
      0 < w.toNat ∧ w.toNat < 128 ∧ (w.toNat < 65 ∨ 90 < w.toNat) := by
    intro w mem
    simp only [List.mem_cons, List.not_mem_nil, or_false] at mem
    rcases mem with rfl | rfl | rfl | rfl <;> decide
  have letter : ∀ w ∈ ['.', 'g', 'i', 't'], ∀ c,
      (CharSet.anyCase (.single w)).contains c = true ↔ Unicode.fold c = w := by
    intro w mem c
    rcases plain w mem with ⟨positive, ascii, notCapital⟩
    exact CharSet.contains_anyCase_single_iff positive ascii notCapital
  simp only [gitSets, List.forall₂_cons_left_iff, List.forall₂_nil_left_iff,
    contains_separatorSet_iff, letter '.' (by decide), letter 'g' (by decide),
    letter 'i' (by decide), letter 't' (by decide)]
  constructor
  · rintro ⟨before, -, isBefore, ⟨a, -, isDot, ⟨b, -, isG, ⟨c, -, isI, ⟨d, -, isT,
      ⟨behind, -, isBehind, rfl, rfl⟩, rfl⟩, rfl⟩, rfl⟩, rfl⟩, rfl⟩
    exact ⟨before, [a, b, c, d], behind, rfl, isBefore, by simp [isGitName, isDot, isG, isI, isT],
      isBehind⟩
  · rintro ⟨before, name, behind, rfl, isBefore, isGit, isBehind⟩
    simp only [isGitName, beq_iff_eq, List.map_eq_cons_iff, List.map_eq_nil_iff] at isGit
    rcases isGit with ⟨a, -, rfl, isDot, b, -, rfl, isG, c, -, rfl, isI, d, -, rfl, isT, rfl⟩
    exact ⟨before, _, isBefore, ⟨a, _, isDot, ⟨b, _, isG, ⟨c, _, isI, ⟨d, _, isT,
      ⟨behind, _, isBehind, rfl, rfl⟩, rfl⟩, rfl⟩, rfl⟩, rfl⟩, rfl⟩

/-- The default excludes hide exactly the paths with `.git` between two separators. -/
theorem isExcluded_defaults_iff {path : Path} :
    isExcluded defaults path = true ↔ HasGitDirectory path.text.toList := by
  rw [defaults_eq]
  simp only [isExcluded, List.any_cons, List.any_nil, Bool.or_false, hides,
    Regex.occursIn_ofSets_iff, inSets_gitSets_iff, HasGitDirectory]
  constructor
  · rintro ⟨word, occurs, before, name, behind, rfl, found⟩
    exact ⟨before, name, behind, occurs, found⟩
  · rintro ⟨before, name, behind, occurs, found⟩
    exact ⟨_, occurs, before, name, behind, rfl, found⟩

end Exclude

section Components

variable {path : Path}

/-- A path that passes through a git directory behind its first step has `.git` between slashes. -/
theorem hasGitDirectory_of_inner {name : String}
    (inner : .normal name ∈ path.components.tail.dropLast) (isGit : isGitName name.toList = true) :
    HasGitDirectory path.text.toList := by
  rcases Path.exists_between_slashes inner with ⟨front, back, text⟩
  refine ⟨'/', name.toList, '/', ⟨front, back, ?_⟩, rfl, isGit, rfl⟩
  simp [text]

/-- A directory of a path is its first step or stands between others. -/
theorem leadingStep?_or_inner {name : String} (mem : .normal name ∈ path.components.dropLast) :
    path.leadingStep? = some (.normal name) ∨ .normal name ∈ path.components.tail.dropLast := by
  rw [Path.leadingStep?]
  cases steps : path.components with
  | nil => simp [steps] at mem
  | cons first later =>
      cases later with
      | nil => simp [steps] at mem
      | cons second later =>
          rw [steps, List.dropLast_cons_cons, List.mem_cons] at mem
          rcases mem with rfl | inner
          · exact Or.inl rfl
          · exact Or.inr inner

end Components

/--
With the default excludes, the files that are left out are those with `.git` between two separators
in their paths. So no path that is left passes through a git directory, unless it begins there; and
it cannot begin there if the root has a leading step other than `.git`.
-/
theorem scanned_outside_git_directories {tree : FileTree} (proper : tree.IsProper)
    (root path : Path) :
    (path ∈ (classifyTree tree root Exclude.defaults).value.all ↔
      path ∈ (classifyTree tree root []).value.all ∧ ¬HasGitDirectory path.text.toList) ∧
    (path ∈ (classifyTree tree root Exclude.defaults).value.all →
      (∀ name, .normal name ∈ path.components.tail.dropLast → isGitName name.toList = false) ∧
      ∀ step, root.leadingStep? = some step →
        (∀ name, step = .normal name → isGitName name.toList = false) →
        ∀ name, .normal name ∈ path.components.dropLast → isGitName name.toList = false) := by
  have leftOut : path ∈ (classifyTree tree root Exclude.defaults).value.all ↔
      path ∈ (classifyTree tree root []).value.all ∧ ¬HasGitDirectory path.text.toList := by
    rw [mem_all_classifyTree, mem_all_classifyTree, ← Exclude.isExcluded_defaults_iff,
      Bool.not_eq_true]
    constructor
    · rintro ⟨candidate, isFile, kept, category⟩
      exact ⟨⟨candidate, isFile, rfl, category⟩, kept⟩
    · rintro ⟨⟨candidate, isFile, -, category⟩, kept⟩
      exact ⟨candidate, isFile, kept, category⟩
  refine ⟨leftOut, ?_⟩
  intro scanned
  have notInner : ∀ name, .normal name ∈ path.components.tail.dropLast →
      isGitName name.toList = false := by
    intro name inner
    by_contra isGit
    rw [Bool.not_eq_false] at isGit
    exact (leftOut.1 scanned).2 (hasGitDirectory_of_inner inner isGit)
  refine ⟨notInner, ?_⟩
  intro step leading notGit name mem
  rcases leadingStep?_or_inner mem with isLeading | inner
  · apply notGit
    have candidate := (mem_all_classifyTree.1 scanned).1
    have same := FileTree.leadingStep?_of_mem_candidates proper candidate leading
    rw [isLeading] at same
    exact (Option.some.inj same).symm
  · exact notInner name inner

section Trees

/-- A git directory, and another one in a directory beside it. -/
def gitTree : FileTree where
  nodes := [(["w", ".git", "a.c"], .text ""), (["w", "src", ".Git", "b.c"], .text ""),
    (["w", "src", "c.c"], .text "")]
  working := ["w"]

end Trees

/-- From `./src`, the file beside the inner git directory is scanned and the one in it is not. -/
theorem scanned_outside_git_directories_src :
    gitTree.IsProper ∧
      ⟨"src/c.c"⟩ ∈ (classifyTree gitTree ⟨"./src"⟩ Exclude.defaults).value.all ∧
      ⟨"src/.Git/b.c"⟩ ∉ (classifyTree gitTree ⟨"./src"⟩ Exclude.defaults).value.all ∧
      ∀ name, .normal name ∈ (⟨"src/c.c"⟩ : Path).components.dropLast →
        isGitName name.toList = false := by
  have proper : gitTree.IsProper := by decide
  have scanned :
      ⟨"src/c.c"⟩ ∈ (classifyTree gitTree ⟨"./src"⟩ Exclude.defaults).value.all :=
    mem_all_classifyTree.2
      ⟨by decide +kernel, by decide +kernel, by decide +kernel, .cpp, by decide +kernel⟩
  have leading : (⟨"./src"⟩ : Path).leadingStep? = some (.normal "src") := by decide +kernel
  have beside := ((scanned_outside_git_directories proper ⟨"./src"⟩ ⟨"src/c.c"⟩).2 scanned).2 _
    leading (by rintro name ⟨⟩; decide)
  refine ⟨proper, scanned, ?_, beside⟩
  intro inner
  have apart := ((scanned_outside_git_directories proper ⟨"./src"⟩ ⟨"src/.Git/b.c"⟩).2 inner).1
  exact absurd (apart ".Git" (by decide)) (by decide)

/-- From the working directory itself, the files of its own git directory are scanned. -/
theorem git_directory_scanned_from_dot :
    ¬∀ (tree : FileTree) (root path : Path), tree.IsProper → root.isAbsolute = false →
      path ∈ (classifyTree tree root Exclude.defaults).value.all →
      ∀ name, .normal name ∈ path.components.dropLast → isGitName name.toList = false := by
  intro outside
  have scanned : ⟨".git/a.c"⟩ ∈ (classifyTree gitTree ⟨"."⟩ Exclude.defaults).value.all :=
    mem_all_classifyTree.2
      ⟨by decide +kernel, by decide +kernel, by decide +kernel, .cpp, by decide +kernel⟩
  have apart := outside gitTree ⟨"."⟩ ⟨".git/a.c"⟩ (by decide) (by decide) scanned
  exact absurd (apart ".git" (by decide)) (by decide)

end CrossArch
