import CrossArch.Toml.Document
import CrossArch.Yaml.Node

/-!
# Configuration files

A configuration file gives any of six settings, in TOML or in YAML. Other entries of the file are
ignored, but a setting of the wrong kind makes the whole file invalid. In YAML every scalar can be
read as text, and a setting can be left open with a null.
-/

namespace CrossArch

/-- The settings that a configuration file gives. -/
structure ConfigFile where
  srcArch : Option String
  destArch : Option String
  rules : Option String
  output : Option String
  reportDirectory : Option String
  exclude : Option (List String)
  deriving DecidableEq, Repr

namespace ConfigFile

/-- A file that gives no settings. -/
def empty : ConfigFile :=
  ⟨none, none, none, none, none, none⟩

/-! ## TOML -/

/-- A value that has to be text. -/
def tomlText? : Toml.Value → Option String
  | .string content => some content
  | _ => none

/-- A value that has to be a list of texts. -/
def tomlTexts? : Toml.Value → Option (List String)
  | .array items => items.mapM tomlText?
  | _ => none

/-- A setting that may be missing; none if it is of the wrong kind. -/
def tomlSetting? {α : Type} (decode : Toml.Value → Option α) (entries : Toml.Entries)
    (key : String) : Option (Option α) :=
  match entries.lookup key with
  | none => some none
  | some value => (decode value).map some

/-- The settings in a TOML document. -/
def ofToml? (entries : Toml.Entries) : Option ConfigFile := do
  let text := tomlSetting? tomlText? entries
  return ⟨← text "src_arch", ← text "dest_arch", ← text "rules", ← text "output",
    ← text "report_dir", ← tomlSetting? tomlTexts? entries "exclude"⟩

/-! ## YAML -/

/-- Whether a plain scalar is written as a null. -/
def isNullWord (content : String) : Bool :=
  content == "null" || content == "Null" || content == "NULL" || content == "~"

/-- The tag of a null. -/
def nullTag : String :=
  "tag:yaml.org,2002:null"

/-- A value that has to be text. -/
def yamlText? : Yaml.Node → Option String
  | .scalar _ _ content => some content
  | _ => none

/-- A value that has to be a list of texts; an empty value is an empty list. -/
def yamlTexts? : Yaml.Node → Option (List String)
  | .sequence items => items.mapM yamlText?
  | .scalar true _ "" => some []
  | _ => none

/-- A setting that may be null; none if it is of the wrong kind. -/
def yamlSetting? {α : Type} (decode : Yaml.Node → Option α) (node : Yaml.Node) :
    Option (Option α) :=
  match node with
  | .scalar true none content =>
    if content = "" ∨ isNullWord content then some none else (decode node).map some
  | .scalar true (some tag) content =>
    if tag ≠ nullTag then (decode node).map some
    else if isNullWord content then some none
    else none
  | _ => (decode node).map some

/-- The settings, in the order in which a list gives them. -/
def keys : List String :=
  ["src_arch", "dest_arch", "rules", "output", "report_dir", "exclude"]

/-- The settings given by values under keys; the one value of a key counts. -/
def ofPairs? (pairs : List (String × Yaml.Node)) : Option ConfigFile := do
  let setting {α : Type} (decode : Yaml.Node → Option α) (key : String) : Option (Option α) :=
    match pairs.lookup key with
    | none => some none
    | some node => yamlSetting? decode node
  let text := setting yamlText?
  return ⟨← text "src_arch", ← text "dest_arch", ← text "rules", ← text "output",
    ← text "report_dir", ← setting yamlTexts? "exclude"⟩

/-- Whether no setting is given twice. -/
def givenOnce (pairs : List (String × Yaml.Node)) : Bool :=
  keys.all fun key => (pairs.filter (·.1 == key)).length ≤ 1

/-- The settings in a YAML document: under keys, or as a list in their order, of which only the last
may be left out. -/
def ofYaml? (document : Option Yaml.Node) : Option ConfigFile :=
  match document with
  | none => some empty
  | some (.scalar true _ "") => some empty
  | some (.mapping entries) => do
    let pairs ← entries.mapM fun entry => (yamlText? entry.1).map (·, entry.2)
    if givenOnce pairs then ofPairs? pairs else none
  | some (.sequence items) =>
    if items.length = 5 ∨ items.length = 6 then ofPairs? (keys.zip items) else none
  | some _ => none

end ConfigFile

end CrossArch
