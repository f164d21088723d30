import CrossArch.Text.Line

/-!
# Paths

A path is the text by which a file is called. Its components are found by reading the text between
slashes: empty pieces do not count, and neither does a single dot, unless it starts the path. Paths
are ordered by their components, so a directory comes before its longer-named neighbours.
-/

namespace CrossArch

/-- A path, as it is written. -/
structure Path where
  text : String
  deriving DecidableEq, Repr

/-- One step of a path. -/
inductive PathComponent where
  | root
  | current
  | parent
  | normal (name : String)
  deriving DecidableEq, Repr

namespace PathComponent

/-- The written form of a step. -/
def text : PathComponent → String
  | root => "/"
  | current => "."
  | parent => ".."
  | normal name => name

/-- The place of a kind of step in the order of paths. -/
def rank : PathComponent → Nat
  | root => 0
  | current => 1
  | parent => 2
  | normal _ => 3

/-- Steps are ordered by kind, and names by their characters. -/
def order (a b : PathComponent) : Ordering :=
  match a, b with
  | normal name, normal other => compare name other
  | _, _ => compare a.rank b.rank

end PathComponent

namespace Path

/-- The pieces of a path between slashes. -/
def parts (path : Path) : List String :=
  (Text.splitAt '/' path.text.toList).map String.ofList

/-- Whether a path starts at the root. -/
def isAbsolute (path : Path) : Bool :=
  path.text.toList.head? == some '/'

/-- The step that a piece of a path stands for; a dot counts only at the start. -/
def stepOf? (first : Bool) (part : String) : Option PathComponent :=
  if part = "" then none
  else if part = "." then if first then some .current else none
  else if part = ".." then some .parent
  else some (.normal part)

/-- The steps of the pieces behind a text, each with the beginning of the path that ends with it. -/
def stepsAfter (text : String) : List String → List (PathComponent × String)
  | [] => []
  | part :: later =>
    let extended := text ++ "/" ++ part
    match stepOf? false part with
    | some step => (step, extended) :: stepsAfter extended later
    | none => stepsAfter extended later

/-- The steps of a path, each with the beginning of the path that ends with it. -/
def steps (path : Path) : List (PathComponent × String) :=
  match path.parts with
  | [] => []
  | first :: rest =>
    if path.isAbsolute then (.root, "/") :: stepsAfter "" rest
    else match stepOf? true first with
      | some step => (step, first) :: stepsAfter first rest
      | none => stepsAfter first rest

/-- The steps of a path. -/
def components (path : Path) : List PathComponent :=
  path.steps.map Prod.fst

/-- The path without its last step, unless it is empty or the root. -/
def parent? (path : Path) : Option Path :=
  match path.steps.reverse with
  | [] => none
  | (.root, _) :: _ => none
  | _ :: [] => some ⟨""⟩
  | _ :: (_, text) :: _ => some ⟨text⟩

/-- A path and all paths that are left when steps are taken off its end. -/
def ancestors (path : Path) : List Path :=
  let shorter := path.steps.reverse.tail.map fun step => (⟨step.2⟩ : Path)
  let outermost := if path.isAbsolute || path.components.isEmpty then [] else [(⟨""⟩ : Path)]
  path :: (shorter ++ outermost)

/-- The name that the last step of a path gives. -/
def fileName? (path : Path) : Option String :=
  match path.components.getLast? with
  | some (.normal name) => some name
  | _ => none

/-- The text after the last dot of a file name, unless the only dot starts the name. -/
def extensionOf? (name : String) : Option String :=
  match (Text.splitAt '.' name.toList).reverse with
  | _ :: [] => none
  | _ :: [] :: [] => none
  | last :: _ => some (String.ofList last)
  | [] => none

/-- The extension of the file name of a path. -/
def extension? (path : Path) : Option String :=
  path.fileName?.bind extensionOf?

/-- A path read from the place of another; an absolute one stays as it is. -/
def join (base path : Path) : Path :=
  if path.isAbsolute || base.text.isEmpty then path
  else if base.text.toList.getLast? == some '/' then ⟨base.text ++ path.text⟩
  else ⟨base.text ++ "/" ++ path.text⟩

/-- Step by step comparison of paths. -/
def orderSteps : List PathComponent → List PathComponent → Ordering
  | [], [] => .eq
  | [], _ :: _ => .lt
  | _ :: _, [] => .gt
  | a :: as, b :: bs => (a.order b).then (orderSteps as bs)

/-- Whether a path does not come after another one. -/
def precedes (path other : Path) : Bool :=
  (orderSteps path.components other.components).isLE

/--
The steps that lead from the steps of a base to those of a path. Common first steps are left out; a
base that still has to be left by an unknown step gives no answer.
-/
def relativeSteps? : List PathComponent → List PathComponent → List PathComponent →
    Option (List PathComponent)
  | found, [], [] => some found
  | found, path, [] => some (found ++ path)
  | found, [], _ :: base => relativeSteps? (found ++ [.parent]) [] base
  | found, a :: path, b :: base =>
    if found = [] ∧ a = b then relativeSteps? found path base
    else if b = .current then relativeSteps? (found ++ [a]) path base
    else if b = .parent then none
    else some (found ++ (.parent :: base.map fun _ => .parent) ++ (a :: path))

/-- The path made of steps. -/
def ofSteps (steps : List PathComponent) : Path :=
  steps.foldl (fun path step => path.join ⟨step.text⟩) ⟨""⟩

/-- A path as seen from a base; none if it cannot be told. -/
def relativeTo? (path base : Path) : Option Path :=
  if path.isAbsolute != base.isAbsolute then if path.isAbsolute then some path else none
  else (relativeSteps? [] path.components base.components).map ofSteps

/--
The text of a path as seen from a base, with slashes only: the file name when they are the same, and
the path itself when there is no other way to say it.
-/
def shownFrom (path base : Path) : String :=
  let shown := match path.relativeTo? base with
    | some relative =>
      if relative.text.isEmpty then (path.fileName?.map Path.mk).getD path else relative
    | none => path
  String.ofList (shown.text.toList.map fun c => if c = '\\' then '/' else c)

end Path

end CrossArch
