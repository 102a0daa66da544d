import Testbed.Json.Value

/-!
# Decoding JSON into a declared shape

A shape says what a reader expects at each place of a value: text, a truth value, an integer of
a given range, a list, a map, or a record of named fields. Decoding follows the rules of the
readers these documents come from:

* a member of an object matches a field whatever the case of its letters; members that match no
  field are skipped unread, and a later member overrides an earlier one;
* a record met twice is merged: the second object only changes the fields it names;
* `null` leaves a text, truth value, integer or inline record unchanged, and empties a list, a
  map or an optional record;
* a value of the wrong kind, or a number that is not an integer in range, is an error that
  names the kind found, the path of member names and indexes that leads to it, and the type
  that was expected.

A decoded record is an object with one member per field, in the shape's order, holding the
field's zero value when the document did not set it.
-/

namespace Testbed.Json

/-- What a reader expects at one place of a value. -/
inductive Shape where
  | text (typeName : String) (check : String → Bool)
  | flag
  | integer (typeName : String) (low high : Int)
  | list (typeName : String) (item : Shape)
  | dict (typeName : String) (item : Shape)
  | record (typeName : String) (optional : Bool) (fields : List (String × Shape))
  | anything

/-- A value of the wrong kind for its place. -/
structure TypeError where
  found : String
  path : List String
  expected : String
  deriving Repr, BEq

/-- The text of a type error. The path is written with dots; the word for a field is left out
when the path ends at a list index. -/
def TypeError.message (e : TypeError) : String :=
  if e.path.isEmpty then
    "json: cannot unmarshal " ++ e.found ++ " into Go value of type " ++ e.expected
  else
    let last := e.path.getLast?.getD ""
    let isIndex := !last.isEmpty && last.all Char.isDigit
    "json: cannot unmarshal " ++ e.found ++ " into " ++
      (if isIndex then "" else "Go struct field ") ++ "." ++ ".".intercalate e.path ++
      " of type " ++ e.expected

def Shape.string : Shape := .text "string" fun _ => true

def int64Low : Int := -((Nat.pow 2 63 : Nat) : Int)
def int64High : Int := ((Nat.pow 2 63 : Nat) : Int) - 1

def Shape.int64 (typeName : String) : Shape := .integer typeName int64Low int64High

mutual

/-- The zero value of a shape. -/
def Shape.zero : Shape → Json
  | .text _ _ => .string ""
  | .flag => .bool false
  | .integer _ _ _ => .number "0"
  | .list _ _ => .null
  | .dict _ _ => .null
  | .record _ true _ => .null
  | .record _ false fields => .object (Shape.zeroFields fields)
  | .anything => .null

def Shape.zeroFields : List (String × Shape) → List (String × Json)
  | [] => []
  | (name, shape) :: rest => (name, shape.zero) :: Shape.zeroFields rest

end

/-- The integer a number literal writes, if it is written without fraction or exponent. -/
def integerLiteral? (literal : String) : Option Int :=
  match literal.toList with
  | '-' :: digits => if digits.all Char.isDigit && !digits.isEmpty then
      some (-(String.ofList digits).toNat!) else none
  | digits => if digits.all Char.isDigit && !digits.isEmpty then
      some (String.ofList digits).toNat! else none

def foldName (name : String) : String := String.ofList (name.toList.map Char.toLower)

def matchField (fields : List (String × Shape)) (key : String) : Option (String × Shape) :=
  match fields.find? (·.1 == key) with
  | some field => some field
  | none => fields.find? fun (name, _) => foldName name == foldName key

def setMember (members : List (String × Json)) (name : String) (value : Json) :
    List (String × Json) :=
  members.map fun (n, v) => if n == name then (n, value) else (n, v)

def memberOf (members : List (String × Json)) (name : String) : Json :=
  ((members.find? (·.1 == name)).map (·.2)).getD .null

mutual

/-- Decodes `value` at `path` over what the place already holds. -/
def decodeInto (path : List String) : Shape → Json → Json → Except TypeError Json
  | .text typeName check, current, value =>
    match value with
    | .null => .ok current
    | .string s => if check s then .ok (.string s) else .error ⟨"string", path, typeName⟩
    | other => .error ⟨other.kind, path, typeName⟩
  | .flag, current, value =>
    match value with
    | .null => .ok current
    | .bool b => .ok (.bool b)
    | other => .error ⟨other.kind, path, "bool"⟩
  | .integer typeName low high, current, value =>
    match value with
    | .null => .ok current
    | .number literal =>
      match integerLiteral? literal with
      | some n => if low ≤ n && n ≤ high then .ok (.number (toString n))
                  else .error ⟨"number " ++ literal, path, typeName⟩
      | none => .error ⟨"number " ++ literal, path, typeName⟩
    | other => .error ⟨other.kind, path, typeName⟩
  | .list typeName item, _, value =>
    match value with
    | .null => .ok .null
    | .array items => do
      let decoded ← decodeItems path item 0 items
      .ok (.array decoded)
    | other => .error ⟨other.kind, path, typeName⟩
  | .dict typeName item, current, value =>
    match value with
    | .null => .ok .null
    | .object members =>
      let start := match current with
        | .object held => held
        | _ => []
      do
        let merged ← decodeEntries path item start members
        .ok (.object merged)
    | other => .error ⟨other.kind, path, typeName⟩
  | .record typeName optional fields, current, value =>
    match value with
    | .null => .ok (if optional then .null else current)
    | .object members =>
      let start := match current with
        | .object held => held
        | _ => Shape.zeroFields fields
      do
        let merged ← decodeMembers path fields start members
        .ok (.object merged)
    | other => .error ⟨other.kind, path, typeName⟩
  | .anything, _, value => .ok value

/-- Decodes the items of a list, each from the zero value. -/
def decodeItems (path : List String) (item : Shape) (index : Nat) :
    List Json → Except TypeError (List Json)
  | [] => .ok []
  | value :: rest => do
    let first ← decodeInto (path ++ [toString index]) item item.zero value
    let others ← decodeItems path item (index + 1) rest
    .ok (first :: others)

/-- Decodes the entries of a map over the entries it already holds. -/
def decodeEntries (path : List String) (item : Shape) (held : List (String × Json)) :
    List (String × Json) → Except TypeError (List (String × Json))
  | [] => .ok held
  | (key, value) :: rest => do
    let decoded ← decodeInto (path ++ [key]) item item.zero value
    let updated := if held.any (·.1 == key) then setMember held key decoded
      else held ++ [(key, decoded)]
    decodeEntries path item updated rest

/-- Decodes the members of an object into the fields of a record. -/
def decodeMembers (path : List String) (fields : List (String × Shape))
    (held : List (String × Json)) : List (String × Json) → Except TypeError (List (String × Json))
  | [] => .ok held
  | (key, value) :: rest =>
    match matchField fields key with
    | none => decodeMembers path fields held rest
    | some (name, shape) => do
      let decoded ← decodeInto (path ++ [key]) shape (memberOf held name) value
      decodeMembers path fields (setMember held name decoded) rest

end

def decode (shape : Shape) (value : Json) : Except TypeError Json :=
  decodeInto [] shape shape.zero value

/-- The text a decoded value holds, or the empty text. -/
def textOr : Json → String
  | .string s => s
  | _ => ""

def intOr : Json → Int
  | .number literal => (integerLiteral? literal).getD 0
  | _ => 0

def flagOr : Json → Bool
  | .bool b => b
  | _ => false

def field (value : Json) (name : String) : Json :=
  match value with
  | .object members => memberOf members name
  | _ => .null

end Testbed.Json
