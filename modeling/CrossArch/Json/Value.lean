/-!
# JSON values

The values of the JSON data format. Numbers keep their written form. A string whose escapes do not
form characters (half of a surrogate pair) is kept as `none`: it may stand where a value is skipped,
and nowhere else. The fields of an object stay in order, repeated names included.
-/

namespace CrossArch

/-- A JSON value. -/
inductive Json where
  | null
  | bool (value : Bool)
  | number (written : List Char)
  | string (content : Option String)
  | array (items : List Json)
  | object (fields : List (Option String × Json))

end CrossArch
