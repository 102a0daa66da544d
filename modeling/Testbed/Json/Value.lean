/-!
# JSON values

A JSON value as it was written: numbers keep their literal text, so that a reader of integers
can tell `1e3` and `1.5` from `1000` and refuse them exactly, and objects keep every member in
the order written, duplicates included, so that the last of two equal keys can win.
-/

namespace Testbed

/-- A JSON value. -/
inductive Json where
  | null
  | bool (value : Bool)
  | number (literal : String)
  | string (value : String)
  | array (items : List Json)
  | object (members : List (String × Json))
  deriving Repr, Inhabited, BEq

namespace Json

/-- The kind of a value, in the words of decoding errors. -/
def kind : Json → String
  | null => "null"
  | bool _ => "bool"
  | number _ => "number"
  | string _ => "string"
  | array _ => "array"
  | object _ => "object"

end Json

end Testbed
