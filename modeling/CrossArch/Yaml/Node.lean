import CrossArch.Yaml.Token

/-!
# Documents of YAML

A text holds one document, whose value is made of scalars, sequences and mappings. A value can be
given a name with an anchor and be used again under that name.
-/

namespace CrossArch.Yaml

/-- A value. -/
inductive Node where
  | scalar (plain : Bool) (tag : Option String) (content : String)
  | sequence (items : List Node)
  | mapping (entries : List (Node × Node))
  /-- A value used inside itself, by the number of its anchor. -/
  | unfinished (number : Nat)

/-- The value of something left out. -/
def Node.absent : Node :=
  .scalar true none ""

/-- The names in force: those of values, and those that start a tag. -/
structure Names where
  anchors : List (String × Node)
  /-- The number of anchors met. -/
  count : Nat
  handles : List (String × String)

namespace Names

/-- Names at the start of a document. -/
def start (handles : List (String × String)) : Names :=
  ⟨[], 0, handles⟩

/-- The full text of a tag; a tag that says nothing is none. -/
def tag? (names : Names) (handle suffix : String) : Option (Option String) :=
  if handle = "" then some (if suffix = "!" then none else some suffix)
  else (names.handles.lookup handle).map fun meaning => some (meaning ++ suffix)

/-- Name a value before it is read. -/
def announce (names : Names) (anchor : Option String) : Names :=
  match anchor with
  | none => names
  | some name => ⟨(name, .unfinished names.count) :: names.anchors, names.count + 1, names.handles⟩

/-- Give the value its name stands for, if the name has not been given again. -/
def complete (names : Names) (anchor : Option String) (number : Nat) (node : Node) : Names :=
  match anchor with
  | none => names
  | some _ =>
    let finish (entry : String × Node) : String × Node :=
      match entry.2 with
      | .unfinished other => if other = number then (entry.1, node) else entry
      | _ => entry
    ⟨names.anchors.map finish, names.count, names.handles⟩

end Names

/-- The anchor and the tag before a value, in any order. -/
structure Properties where
  anchor : Option String
  tag : Option (String × String)

/-- The anchor and the tag at the front of tokens. -/
def properties : List Token → Properties × List Token
  | .anchor name :: .tag handle suffix :: rest => (⟨some name, some (handle, suffix)⟩, rest)
  | .tag handle suffix :: .anchor name :: rest => (⟨some name, some (handle, suffix)⟩, rest)
  | .anchor name :: rest => (⟨some name, none⟩, rest)
  | .tag handle suffix :: rest => (⟨none, some (handle, suffix)⟩, rest)
  | tokens => (⟨none, none⟩, tokens)

/-- A value read from tokens, the names then in force, and the tokens after it. -/
abbrev Reading (α : Type) := α × Names × List Token

/-- Whether the value of a key or of an item is left out before these tokens. -/
def endsEntry (stops : List Token) (tokens : List Token) : Bool :=
  tokens.head?.any stops.contains

mutual

/-- A value; outside brackets it may be a block, and after a key also a list of items that is not
indented. -/
def node? (bound : Nat) (block flat : Bool) (names : Names) (tokens : List Token) :
    Option (Reading Node) :=
  match bound with
  | 0 => none
  | bound + 1 =>
    match tokens with
    | .reference name :: rest => do return (← names.anchors.lookup name, names, rest)
    | _ => do
      let (given, start) := properties tokens
      let tag ← match given.tag with
        | none => some none
        | some (handle, suffix) => names.tag? handle suffix
      let announced := names.announce given.anchor
      let (node, later, rest) ←
        content? bound block flat (given.anchor.isSome || given.tag.isSome) tag announced start
      return (node, later.complete given.anchor names.count node, rest)

/-- A value after its anchor and its tag. -/
def content? (bound : Nat) (block flat named : Bool) (tag : Option String) (names : Names)
    (tokens : List Token) : Option (Reading Node) :=
  match bound with
  | 0 => none
  | bound + 1 =>
    match tokens with
    | .scalar plain content :: rest => some (.scalar plain tag content, names, rest)
    | .flowSequence :: rest => do
      let (items, later, after) ← flowItems? bound true names rest
      return (.sequence items, later, after)
    | .flowMapping :: rest => do
      let (entries, later, after) ← flowEntries? bound true names rest
      return (.mapping entries, later, after)
    | _ =>
      match block, flat, tokens with
      | _, true, .blockEntry :: _ => do
        let (items, later, after) ← flatItems? bound names tokens
        return (.sequence items, later, after)
      | true, _, .blockSequence :: rest => do
        let (items, later, after) ← blockItems? bound names rest
        return (.sequence items, later, after)
      | true, _, .blockMapping :: rest => do
        let (entries, later, after) ← blockEntries? bound names rest
        return (.mapping entries, later, after)
      | _, _, _ => if named then some (.scalar true tag "", names, tokens) else none

/-- A value, or nothing before some tokens. -/
def optionalNode? (bound : Nat) (block flat : Bool) (stops : List Token) (names : Names)
    (tokens : List Token) : Option (Reading Node) :=
  match bound with
  | 0 => none
  | bound + 1 =>
    if endsEntry stops tokens then some (.absent, names, tokens)
    else node? bound block flat names tokens

/-- The items of a block up to its end. -/
def blockItems? (bound : Nat) (names : Names) (tokens : List Token) :
    Option (Reading (List Node)) :=
  match bound with
  | 0 => none
  | bound + 1 =>
    match tokens with
    | .blockEntry :: rest => do
      let (item, next, more) ← optionalNode? bound true false [.blockEntry, .blockEnd] names rest
      let (items, later, after) ← blockItems? bound next more
      return (item :: items, later, after)
    | .blockEnd :: rest => some ([], names, rest)
    | _ => none

/-- Items that are not indented, after a key. -/
def flatItems? (bound : Nat) (names : Names) (tokens : List Token) : Option (Reading (List Node)) :=
  match bound with
  | 0 => none
  | bound + 1 =>
    match tokens with
    | .blockEntry :: rest => do
      let (item, next, more) ←
        optionalNode? bound true false [.blockEntry, .key, .value, .blockEnd] names rest
      let (items, later, after) ← flatItems? bound next more
      return (item :: items, later, after)
    | _ => some ([], names, tokens)

/-- The entries of a block up to its end. -/
def blockEntries? (bound : Nat) (names : Names) (tokens : List Token) :
    Option (Reading (List (Node × Node))) :=
  match bound with
  | 0 => none
  | bound + 1 =>
    match tokens with
    | .key :: rest => do
      let stops := [Token.key, .value, .blockEnd]
      let (key, afterKey, more) ← optionalNode? bound true true stops names rest
      let (value, next, others) ← match more with
        | .value :: valueStart => optionalNode? bound true true stops afterKey valueStart
        | _ => some (.absent, afterKey, more)
      let (entries, later, after) ← blockEntries? bound next others
      return ((key, value) :: entries, later, after)
    | .blockEnd :: rest => some ([], names, rest)
    | _ => none

/-- The items between brackets; each but the first is after a comma. -/
def flowItems? (bound : Nat) (first : Bool) (names : Names) (tokens : List Token) :
    Option (Reading (List Node)) :=
  match bound with
  | 0 => none
  | bound + 1 =>
    match tokens with
    | .flowSequenceEnd :: rest => some ([], names, rest)
    | _ => do
      let start ← if first then some tokens else
        match tokens with
        | .flowEntry :: rest => some rest
        | _ => none
      match start with
      | .flowSequenceEnd :: rest => return ([], names, rest)
      | .key :: rest => do
        let (item, next, more) ← pair? bound names rest
        let (items, later, after) ← flowItems? bound false next more
        return (item :: items, later, after)
      | _ => do
        let (item, next, more) ← node? bound false false names start
        let (items, later, after) ← flowItems? bound false next more
        return (item :: items, later, after)

/-- A mapping with one entry as an item between brackets, after the mark of its key. Where its key
is left out, the token after the mark is passed over. -/
def pair? (bound : Nat) (names : Names) (tokens : List Token) : Option (Reading Node) :=
  match bound with
  | 0 => none
  | bound + 1 => do
    let (key, afterKey, more) ←
      if endsEntry [.value, .flowEntry, .flowSequenceEnd] tokens then
        some (Node.absent, names, tokens.drop 1)
      else node? bound false false names tokens
    let (value, next, rest) ← match more with
      | .value :: start =>
          optionalNode? bound false false [.flowEntry, .flowSequenceEnd] afterKey start
      | _ => some (Node.absent, afterKey, more)
    return (.mapping [(key, value)], next, rest)

/-- The entries between braces; each but the first is after a comma. -/
def flowEntries? (bound : Nat) (first : Bool) (names : Names) (tokens : List Token) :
    Option (Reading (List (Node × Node))) :=
  match bound with
  | 0 => none
  | bound + 1 =>
    match tokens with
    | .flowMappingEnd :: rest => some ([], names, rest)
    | _ => do
      let start ← if first then some tokens else
        match tokens with
        | .flowEntry :: rest => some rest
        | _ => none
      match start with
      | .flowMappingEnd :: rest => return ([], names, rest)
      | .key :: rest => do
        let (key, afterKey, more) ←
          optionalNode? bound false false [.value, .flowEntry, .flowMappingEnd] names rest
        let (value, next, others) ← match more with
          | .value :: valueStart =>
            optionalNode? bound false false [.flowEntry, .flowMappingEnd] afterKey valueStart
          | _ => some (Node.absent, afterKey, more)
        let (entries, later, after) ← flowEntries? bound false next others
        return ((key, value) :: entries, later, after)
      | _ => do
        let (key, next, more) ← node? bound false false names start
        let (entries, later, after) ← flowEntries? bound false next more
        return ((key, .absent) :: entries, later, after)

end

/-- The handles that every document knows. -/
def standardHandles : List (String × String) :=
  [("!", "!"), ("!!", "tag:yaml.org,2002:")]

/-- The directives before a document: the handles of tags they give, and the tokens after them. At
most one version may be given, and each handle once. -/
def directives? (versioned : Bool) (handles : List (String × String)) :
    List Token → Option (List (String × String) × List Token)
  | .version major minor :: rest =>
    if versioned || major != 1 || (minor != 1 && minor != 2) then none
    else directives? true handles rest
  | .tagHandle handle meaning :: rest =>
    if (handles.lookup handle).isSome then none
    else directives? versioned ((handle, meaning) :: handles) rest
  | tokens => some (handles, tokens)

/-- Whether a document is empty before these tokens. -/
def endsDocument (tokens : List Token) : Bool :=
  match tokens with
  | [] => true
  | .version .. :: _ | .tagHandle .. :: _ | .documentStart :: _ | .documentEnd :: _ => true
  | _ => false

/-- The first document of tokens, and the tokens after it. -/
def document? (tokens : List Token) : Option (Node × List Token) := do
  let bound := 4 * tokens.length + 4
  let (handles, start) ← directives? false [] tokens
  let names := Names.start (handles ++ standardHandles)
  match start with
  | .documentStart :: rest =>
    if endsDocument rest then return (.absent, rest)
    else do
      let (node, _, after) ← node? bound true false names rest
      return (node, after)
  | _ =>
    if handles.isEmpty ∧ start.length = tokens.length then do
      let (node, _, after) ← node? bound true false names start
      return (node, after)
    else none

/-- The value of the one document of a text; a text without a document has none. -/
def read? (text : List Char) : Option (Option Node) := do
  let tokens ← tokens? text
  if tokens.isEmpty then return none
  else do
    let (node, rest) ← document? tokens
    if rest.all (· == .documentEnd) then return some node else none

end CrossArch.Yaml
