import CrossArch.Regex.Syntax
import CrossArch.Unicode.Script

/-!
# Properties of characters by name

The sets that an expression can name by a property: general categories and groups of them, scripts,
and a few properties that a character has or has not. Names are compared in a plain form.
-/

namespace CrossArch.Regex

/-- The name of a property in plain form: in lower case, without blanks, underscores and hyphens,
and without `is` at its start. -/
def plainName (name : List Char) : List Char :=
  let short : List Char := match name with
    | first :: second :: rest =>
      if first.toLower == 'i' && second.toLower == 's' then rest else name
    | _ => name
  let plain :=
    (short.filter fun c => c.toNat < 128 && !(['_', '-', ' '].contains c)).map Char.toLower
  if plain = ['c'] ∧ short ≠ name then ['i', 's', 'c'] else plain

/-- The union of general categories, by their names. -/
def categories (names : List String) : CharSet :=
  .unionAll ((names.filterMap Unicode.GeneralCategory.named?).map .listed)

/-- All categories of characters that are seen or separate. -/
def visibleCategories : List String :=
  ["lu", "ll", "lt", "lm", "lo", "mn", "mc", "me", "nd", "nl", "no", "pc", "pd", "ps", "pe",
    "pi", "pf", "po", "sm", "sc", "sk", "so", "zs", "zl", "zp"]

/-- The characters that are assigned. -/
def assigned : CharSet :=
  categories (visibleCategories ++ ["cc", "cf", "co"])

/-- A general category or a group of them, by its name in plain form. -/
def categorySet? (name : String) : Option CharSet :=
  match name with
  | "any" => some .all
  | "assigned" => some assigned
  | "ascii" => some (.range '\x00' '\x7F')
  | "l" | "letter" => some (categories ["lu", "ll", "lt", "lm", "lo"])
  | "lc" | "casedletter" => some (categories ["lu", "ll", "lt"])
  | "m" | "mark" | "combiningmark" => some (categories ["mn", "mc", "me"])
  | "n" | "number" => some (categories ["nd", "nl", "no"])
  | "p" | "punctuation" | "punct" =>
    some (categories ["pc", "pd", "ps", "pe", "pi", "pf", "po"])
  | "s" | "symbol" => some (categories ["sm", "sc", "sk", "so"])
  | "z" | "separator" => some (categories ["zs", "zl", "zp"])
  | "c" | "other" => some (.complement (categories visibleCategories))
  | "cn" | "unassigned" => some (.complement assigned)
  | _ => (Unicode.GeneralCategory.named? name).map .listed

/-- A script, by its name in plain form. -/
def scriptSet? (name : String) : Option CharSet :=
  (Unicode.Script.named? name).map fun script => .listed ⟨script.intervals, []⟩

/-- A property that a character has or has not, by its name in plain form. -/
def propertySet? (name : String) : Option CharSet :=
  match name with
  | "alphabetic" | "alpha" => some .alphabetic
  | "whitespace" | "wspace" | "space" => some .blank
  | "lowercase" | "lower" =>
    some (.union (categories ["ll"]) (.listed Unicode.GeneralCategory.otherLowercase))
  | "uppercase" | "upper" =>
    some (.union (categories ["lu"]) (.listed Unicode.GeneralCategory.otherUppercase))
  | _ => (categorySet? name).or (scriptSet? name)

/-- A property with one of its values, both by their names. -/
def valueSet? (name value : List Char) : Option CharSet :=
  let value := String.ofList (plainName value)
  match String.ofList (plainName name) with
  | "gc" | "generalcategory" => categorySet? value
  | "sc" | "script" => scriptSet? value
  | _ => none

/-- The two parts of a text around a mark of one or two characters. -/
def cutAt? (mark : List Char) : List Char → Option (List Char × List Char)
  | [] => none
  | c :: rest =>
    if mark.isPrefixOf (c :: rest) then some ([], (c :: rest).drop mark.length)
    else (cutAt? mark rest).map fun (before, after) => (c :: before, after)

/-- The set of characters that the text in the braces of a property stands for. -/
def querySet? (query : List Char) : Option CharSet :=
  match cutAt? ['!', '='] query with
  | some (name, value) => (valueSet? name value).map .complement
  | none =>
    match (cutAt? [':'] query).or (cutAt? ['='] query) with
    | some (name, value) => valueSet? name value
    | none => propertySet? (String.ofList (plainName query))

end CrossArch.Regex
