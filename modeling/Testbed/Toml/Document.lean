import Testbed.Toml.Lex
import Testbed.Timestamp

/-!
# Building a TOML document

The parser reads the items of a document and builds its tables. Each key is set in the table
named by the current context: the last `[table]` or `[[array of tables]]` header, plus the
leading parts of a dotted key. Tables that exist only because a longer name went through them
are implicit, and may be defined once explicitly later; any other second definition of a key
is an error. Arrays of tables add a new table to their list at each header, and a context that
goes through such an array means its last table.

Besides the tables, the document remembers the kind of every key and the line it was set on,
and every key in the order it was written, so that a reader can report keys it did not use.

A failure names the line and the key being read when it happened.
-/

namespace Testbed.Toml

/-- A TOML value. -/
inductive Value where
  | string (text : String)
  | integer (value : Int)
  | float
  | bool (value : Bool)
  | datetime
  | array (items : List Value)
  | table (entries : List (String × Value))
  | tables (items : List (List (String × Value)))
  deriving Inhabited

/-- The name of a value's type as the decoder reports it. -/
def Value.typeName : Value → String
  | .string _ => "string"
  | .integer _ => "int64"
  | .float => "float64"
  | .bool _ => "bool"
  | .datetime => "time.Time"
  | .array _ => "[]any"
  | .table _ => "map[string]any"
  | .tables _ => "[]map[string]any"

/-- The kinds of keys the parser records. -/
inductive Kind where
  | string
  | integer
  | float
  | bool
  | datetime
  | array
  | hash
  | arrayHash
  deriving DecidableEq, Repr, Inhabited

abbrev Table := List (String × Value)

/-- Sets an entry, in place when the key is present, else at the end. -/
def Table.put (table : Table) (key : String) (value : Value) : Table :=
  if table.any (·.1 == key) then table.map fun (k, v) => if k == key then (k, value) else (k, v)
  else table ++ [(key, value)]

/-- The table a path leads to: each part goes into a table, or into the last table of an array
of tables. The error is the path up to the part that is neither. -/
def Table.descend : Table → List String → List String → Except (List String) Table
  | table, _, [] => .ok table
  | table, seen, part :: rest =>
    match table.lookup part with
    | some (.table inner) => Table.descend inner (seen ++ [part]) rest
    | some (.tables items) =>
      match items.getLast? with
      | some last => Table.descend last (seen ++ [part]) rest
      | none => .error (seen ++ [part])
    | _ => .error (seen ++ [part])

/-- Changes the table a path leads to. -/
def Table.update : Table → List String → (Table → Table) → Table
  | table, [], change => change table
  | table, part :: rest, change =>
    match table.lookup part with
    | some (.table inner) => table.put part (.table (Table.update inner rest change))
    | some (.tables items) =>
      match items.reverse with
      | last :: earlier => table.put part (.tables ((Table.update last rest change) :: earlier).reverse)
      | [] => table
    | _ => table

/-- How a key part is written in a dotted name: bare when it can be, else quoted. -/
def keyPart (part : String) : String :=
  if part.isEmpty then "\"\""
  else if part.all isBareChar then part
  else
    let escape (c : Char) : String :=
      if c == '"' then "\\\"" else if c == '\\' then "\\\\"
      else if c == '\x08' then "\\b" else if c == '\t' then "\\t" else if c == '\n' then "\\n"
      else if c == '\x0c' then "\\f" else if c == '\r' then "\\r"
      else if c.toNat < 0x20 || c.toNat == 0x7f then "\\u" ++ String.ofList (Quoted.hexDigits 4 c.toNat)
      else c.toString
    "\"" ++ String.join (part.toList.map escape) ++ "\""

def keyText (key : List String) : String := ".".intercalate (key.map keyPart)

/-- Why a document could not be read: the message, the line, and the key being read. -/
structure ParseError where
  message : String
  line : Nat
  lastKey : String
  deriving Repr, Inhabited

def ParseError.render (e : ParseError) : String :=
  if e.lastKey.isEmpty then "toml: line " ++ toString e.line ++ ": " ++ e.message
  else "toml: line " ++ toString e.line ++ " (last key " ++ Quoted.quote e.lastKey ++ "): " ++
    e.message

/-- A parsed document: its tables, the kind and line of every key, and its keys in order. -/
structure Document where
  root : Table
  kinds : List (String × Kind × Nat)
  ordered : List (List String)
  deriving Inhabited

/-- The parser: the items left, the failure that ended reading, the tables so far, what it
remembers of keys, the current context and key, and the line of the last name read. -/
structure Parser where
  items : List Item
  failure : Option Failure
  root : Table := []
  kinds : List (String × Kind × Nat) := []
  implicits : List String := []
  ordered : List (List String) := []
  context : List String := []
  currentKey : String := ""
  line : Nat := 0
  deriving Inhabited

abbrev ParseM := ExceptT ParseError (StateM Parser)

namespace Parser

def currentName (p : Parser) : String :=
  if p.currentKey.isEmpty then keyText p.context
  else if p.context.isEmpty then p.currentKey
  else keyText p.context ++ "." ++ p.currentKey

def failAt {α : Type} (line : Nat) (message : String) : ParseM α := do
  throw ⟨message, line, currentName (← get)⟩

def fail {α : Type} (message : String) : ParseM α := do failAt (← get).line message

/-- Takes the next item; past the last one, the failure that ended reading. -/
def next : ParseM Item := do
  let p ← get
  match p.items with
  | item :: rest =>
    set { p with items := rest }
    return item
  | [] =>
    match p.failure with
    | some failure => failAt failure.line failure.message
    | none => failAt 0 "BUG: unexpected end of items"

def nextPos : ParseM Item := do
  let item ← next
  modify fun p => { p with line := item.line }
  return item

def expect (token : Token) : ParseM Unit := do
  if (← next).token != token then failAt 0 "BUG: unexpected item"

def addImplicit (key : List String) : ParseM Unit :=
  modify fun p => { p with implicits := keyText key :: p.implicits }

def removeImplicit (key : List String) : ParseM Unit :=
  modify fun p => { p with implicits := p.implicits.filter (· != keyText key) }

def isImplicit (key : List String) : ParseM Bool := do
  return (← get).implicits.contains (keyText key)

def isArray (key : List String) : ParseM Bool := do
  return ((← get).kinds.lookup (keyText key)).map (·.1) == some Kind.array

/-- Sets a key in the table of the current context. -/
def setValue (key : String) (value : Value) : ParseM Unit := do
  let p ← get
  match Table.descend p.root [] p.context with
  | .error blocked => fail ("Key '" ++ keyText blocked ++ "' has already been defined.")
  | .ok hash =>
    let keyContext := p.context ++ [key]
    let store : ParseM Unit :=
      modify fun p => { p with root := Table.update p.root p.context (·.put key value) }
    if (hash.lookup key).isSome then
      if ← isArray keyContext then
        removeImplicit keyContext
        store
      else if ← isImplicit keyContext then
        removeImplicit keyContext
      else fail ("Key '" ++ keyText keyContext ++ "' has already been defined.")
    else store

def setKind (key : String) (kind : Kind) (line : Nat) : ParseM Unit :=
  modify fun p =>
    let full := if key.isEmpty then p.context else p.context ++ [key]
    let full := if full.isEmpty then [""] else full
    { p with kinds := (keyText full, kind, line) :: p.kinds.filter (·.1 != keyText full) }

/-- Makes sure each leading part of a name is a table, creating implicit ones. -/
def openParents (done : List String) : List String → ParseM Unit
  | [] => pure ()
  | part :: rest => do
    let p ← get
    let here := done ++ [part]
    match Table.descend p.root [] done with
    | .error _ => fail ("Key '" ++ keyText here ++ "' was already created as a hash.")
    | .ok hash =>
      if (hash.lookup part).isNone then
        addImplicit here
        modify fun p => { p with root := Table.update p.root done (·.put part (.table [])) }
      match hash.lookup part with
      | none | some (.table _) | some (.tables _) => openParents here rest
      | some _ => fail ("Key '" ++ keyText here ++ "' was already created as a hash.")

/-- Makes a name the context: a table, or a new table of an array of tables. -/
def addContext (key : List String) (array : Bool) : ParseM Unit := do
  let parent := key.dropLast
  let last := key.getLast?.getD ""
  openParents [] parent
  modify fun p => { p with context := parent }
  if array then
    let p ← get
    let existing := (Table.descend p.root [] parent).toOption.bind (·.lookup last)
    match existing with
    | none =>
      modify fun p => { p with root := Table.update p.root parent (·.put last (.tables [[]])) }
    | some (.tables items) =>
      modify fun p => { p with root := Table.update p.root parent (·.put last (.tables (items ++ [[]]))) }
    | some _ =>
      fail ("Key '" ++ keyText key ++ "' was already created and cannot be used as an array.")
  else setValue last (.table [])
  modify fun p => { p with context := parent ++ [last] }

def addImplicitContext (key : List String) : ParseM Unit := do
  addImplicit key
  addContext key false

/-- Whether every underscore of a number stands between two digits. -/
def underscoresOk (text : String) : Bool :=
  if ["nan", "+nan", "-nan", "inf", "-inf", "+inf"].contains text then true
  else
    let rec go : List Char → Bool → Bool
      | [], accept => accept
      | c :: rest, accept => if c == '_' && !accept then false else go rest (isHex c)
    go text.toList false

def leadingZero (text : String) : Bool :=
  match text.toList with
  | '0' :: c :: _ => !(c == 'b' || c == 'o' || c == 'x')
  | s :: '0' :: _ :: _ => s == '-' || s == '+'
  | _ => false

def periodsOk (text : String) : Bool :=
  let rec go : List Char → Bool → Bool
    | [], period => !period
    | c :: rest, period => if period && !isDigit c then false else go rest (c == '.')
  go text.toList false

/-- The value of digits in a base. -/
def digitsIn (base : Nat) (digits : List Char) : Option Nat :=
  digits.foldlM (fun acc c =>
    let d := if isDigit c then c.toNat - '0'.toNat
      else if 'a' ≤ c && c ≤ 'f' then c.toNat - 'a'.toNat + 10
      else if 'A' ≤ c && c ≤ 'F' then c.toNat - 'A'.toNat + 10
      else 99
    if d < base then some (acc * base + d) else none) 0

/-- Reads an integer with an optional sign or base prefix, without underscores. -/
def integerValue (text : String) : Option Int :=
  let chars := text.toList.filter (· != '_')
  let (negative, body) := match chars with
    | '-' :: rest => (true, rest)
    | '+' :: rest => (false, rest)
    | _ => (false, chars)
  let magnitude := match body with
    | '0' :: 'x' :: rest | '0' :: 'X' :: rest => digitsIn 16 rest
    | '0' :: 'o' :: rest | '0' :: 'O' :: rest => digitsIn 8 rest
    | '0' :: 'b' :: rest | '0' :: 'B' :: rest => digitsIn 2 rest
    | [] => none
    | _ => digitsIn 10 body
  magnitude.map fun m => if negative then -(m : Int) else m

def valueInteger (item : Item) : ParseM Value := do
  let text := item.text
  if !underscoresOk text then
    failAt item.line ("Invalid integer " ++ Quoted.quote text ++ ": underscores must be surrounded by digits")
  if leadingZero text then
    failAt item.line ("Invalid integer " ++ Quoted.quote text ++ ": cannot have leading zeroes")
  match integerValue text with
  | some n =>
    if n < -((Nat.pow 2 63 : Nat) : Int) || n ≥ ((Nat.pow 2 63 : Nat) : Int) then
      failAt item.line (text ++ " is out of range for int64")
    return .integer n
  | none => failAt 0 "BUG: integer the lexer let through"

/-- How a decimal float reads: a well-formed number whose magnitude rounds to infinity, a
well-formed finite one, or not a number at all. -/
inductive FloatForm where
  | finite
  | overflow
  | malformed

/-- Classifies a float text without underscores. -/
def floatForm (text : String) : FloatForm :=
  let chars := match text.toList with
    | '+' :: rest | '-' :: rest => rest
    | cs => cs
  let lowered := String.ofList (chars.map Char.toLower)
  if lowered == "inf" || lowered == "infinity" || lowered == "nan" then .finite
  else
    let whole := chars.takeWhile isDigit
    let rest := chars.drop whole.length
    let (fraction, rest) := match rest with
      | '.' :: more => (more.takeWhile isDigit, more.dropWhile isDigit)
      | _ => ([], rest)
    let exponent : Option (Option Int) := match rest with
      | [] => some (some 0)
      | e :: more =>
        if e == 'e' || e == 'E' then
          let (negative, digits) := match more with
            | '-' :: ds => (true, ds)
            | '+' :: ds => (false, ds)
            | ds => (false, ds)
          if digits.isEmpty || !digits.all isDigit then some none
          else
            let value := (digitsIn 10 (digits.take 6)).getD 0
            some (some (if negative then -(value : Int) else value))
        else some none
    if whole.isEmpty && fraction.isEmpty then .malformed
    else match exponent with
      | some (some e) =>
        let mantissa := (digitsIn 10 (whole ++ fraction)).getD 0
        let scale := e - fraction.length
        let digits := (toString mantissa).length
        if mantissa == 0 then .finite
        else if (digits : Int) + scale > 310 then .overflow
        else if (digits : Int) + scale < 308 then .finite
        else
          let threshold := (Nat.pow 2 54 - 1) * Nat.pow 2 970
          if scale ≥ 0 then
            if mantissa * Nat.pow 10 scale.toNat ≥ threshold then .overflow else .finite
          else if mantissa ≥ threshold * Nat.pow 10 (-scale).toNat then .overflow else .finite
      | _ => .malformed

def valueFloat (item : Item) : ParseM Value := do
  let text := item.text
  let parts := (text.splitOn ".").flatMap (·.splitOn "e") |>.flatMap (·.splitOn "E")
    |>.filter (!·.isEmpty)
  if parts.any (!underscoresOk ·) then
    failAt item.line ("Invalid float " ++ Quoted.quote text ++ ": underscores must be surrounded by digits")
  if (parts.head?.map leadingZero).getD false then
    failAt item.line ("Invalid float " ++ Quoted.quote text ++ ": cannot have leading zeroes")
  if !periodsOk text then
    failAt item.line ("Invalid float " ++ Quoted.quote text ++ ": '.' must be followed by one or more digits")
  match floatForm (String.ofList (text.toList.filter (· != '_'))) with
  | .finite => return .float
  | .overflow => failAt item.line (text ++ " is out of range for float64")
  | .malformed => failAt item.line ("Invalid float value: " ++ Quoted.quote text)

/-- Reads `YYYY-MM-DD`. -/
def readDate (chars : List Char) : Option (List Char) := do
  let (year, rest) ← Timestamp.field 4 0 9999 chars
  let rest ← Timestamp.expect '-' rest
  let (month, rest) ← Timestamp.field 2 1 12 rest
  let rest ← Timestamp.expect '-' rest
  let (day, rest) ← Timestamp.field 2 1 31 rest
  guard (day ≤ Timestamp.daysIn month year)
  pure rest

/-- Reads `HH:MM`, then `:SS` and an optional fraction when seconds are wanted. -/
def readClock (seconds : Bool) (chars : List Char) : Option (List Char) := do
  let (_, rest) ← Timestamp.field 2 0 23 chars
  let rest ← Timestamp.expect ':' rest
  let (_, rest) ← Timestamp.field 2 0 59 rest
  if !seconds then return rest
  let rest ← Timestamp.expect ':' rest
  let (_, rest) ← Timestamp.field 2 0 59 rest
  match rest with
  | '.' :: d :: more => if isDigit d then pure (more.dropWhile isDigit) else pure rest
  | _ => pure rest

/-- Reads `Z` or a signed offset. -/
def readOffset (chars : List Char) : Option (List Char) :=
  match chars with
  | 'Z' :: rest => some rest
  | s :: h1 :: h2 :: ':' :: m1 :: m2 :: rest =>
    if (s == '+' || s == '-') && [h1, h2, m1, m2].all isDigit then
      let hours := (digitsIn 10 [h1, h2]).getD 0
      let minutes := (digitsIn 10 [m1, m2]).getD 0
      if hours ≤ 24 && minutes ≤ 60 then some rest else none
    else none
  | _ => none

/-- Whether a text is a datetime of one of the accepted forms: with or without an offset,
a date alone, or a time alone, seconds optional. -/
def isDatetime (text : String) : Bool :=
  let chars := text.toList
  let whole (reader : List Char → Option (List Char)) : Bool := reader chars == some []
  let dateTime (seconds zoned : Bool) : List Char → Option (List Char) := fun cs => do
    let rest ← readDate cs
    let rest ← Timestamp.expect 'T' rest
    let rest ← readClock seconds rest
    if zoned then readOffset rest else pure rest
  whole (dateTime true true) || whole (dateTime true false) || whole readDate ||
    whole (readClock true) || whole (dateTime false true) || whole (dateTime false false) ||
    whole (readClock false)

def valueDatetime (item : Item) : ParseM Value := do
  let text := String.ofList (item.text.toList.map fun c =>
    if c == 'z' then 'Z' else if c == 't' || c == ' ' then 'T' else c)
  if isDatetime text then return .datetime
  failAt item.line ("invalid datetime: " ++ Quoted.quote text)

def escapedChar (item : Item) (digits : List Char) : ParseM Char := do
  let code := (digitsIn 16 digits).getD 0
  if code < 0xD800 || (0xE000 ≤ code && code ≤ 0x10FFFF) then return Char.ofNat code
  failAt item.line ("Escaped character '\\u" ++ String.ofList digits ++ "' is not valid UTF-8.")

/-- Replaces the escapes of a string. -/
def replaceEscapes (item : Item) : List Char → ParseM (List Char)
  | [] => pure []
  | '\\' :: c :: rest => do
    if c == ' ' || c == '\t' then
      failAt item.line ("invalid escape: '\\" ++ c.toString ++ "'")
    let simple : Option Char :=
      if c == 'b' then some '\x08' else if c == 't' then some '\t' else if c == 'n' then some '\n'
      else if c == 'f' then some '\x0c' else if c == 'r' then some '\r'
      else if c == 'e' then some '\x1b' else if c == '"' then some '"'
      else if c == '\\' then some '\\' else none
    match simple with
    | some s => return s :: (← replaceEscapes item rest)
    | none =>
      let width := if c == 'x' then 2 else if c == 'u' then 4 else if c == 'U' then 8 else 0
      if width == 0 then failAt item.line "BUG: escape the lexer let through"
      let ch ← escapedChar item (rest.take width)
      return ch :: (← replaceEscapes item (rest.drop width))
  | c :: rest => do return c :: (← replaceEscapes item rest)
termination_by chars => chars.length
decreasing_by
  all_goals (simp only [List.length_drop, List.length_cons]; omega)

def stripFirstNewline (chars : List Char) : List Char :=
  match chars with
  | '\n' :: rest => rest
  | '\r' :: '\n' :: rest => rest
  | _ => chars

/-- Removes a backslash at the end of a line together with the blanks and line breaks after
it. -/
def stripEscapedNewlines : List Char → List Char
  | [] => []
  | '\\' :: '\\' :: rest => '\\' :: '\\' :: stripEscapedNewlines rest
  | '\\' :: rest =>
    let blanks := rest.takeWhile fun c => c == ' ' || c == '\t' || c == '\r' || c == '\n'
    if blanks.contains '\n' then
      stripEscapedNewlines (rest.drop blanks.length)
    else '\\' :: stripEscapedNewlines rest
  | c :: rest => c :: stripEscapedNewlines rest
termination_by chars => chars.length
decreasing_by
  all_goals (simp only [List.length_drop, List.length_cons]; omega)

/-- The text of a string item. -/
def stringValue (item : Item) : ParseM String :=
  match item.token with
  | .string | .rawString => pure item.text
  | .escapedString => do return String.ofList (← replaceEscapes item item.text.toList)
  | .multilineString => do
    return String.ofList (← replaceEscapes item (stripEscapedNewlines (stripFirstNewline item.text.toList)))
  | .rawMultilineString => pure (String.ofList (stripFirstNewline item.text.toList))
  | _ => failAt 0 "BUG: not a string"

def keyString (item : Item) : ParseM String :=
  if item.token == .text then pure item.text else stringValue item

/-- Reads the parts of a name up to a closing item. -/
def nameParts (closing : Token) (first : Item) : (fuel : Nat) → ParseM (List String)
  | 0 => failAt 0 "BUG: name too long"
  | fuel + 1 => do
    if first.token == closing || first.token == .eof then
      if first.token != closing then failAt 0 "BUG: unexpected item"
      return []
    let part ← keyString first
    return part :: (← nameParts closing (← next) fuel)

mutual

/-- The value an item starts. -/
def value (item : Item) (parentIsArray : Bool) : (fuel : Nat) → ParseM (Value × Kind)
  | 0 => failAt 0 "BUG: document too deep"
  | fuel + 1 => do
    match item.token with
    | .string | .escapedString | .multilineString | .rawString | .rawMultilineString =>
      return (.string (← stringValue item), .string)
    | .integer => return (← valueInteger item, .integer)
    | .float => return (← valueFloat item, .float)
    | .bool => return (.bool (item.text == "true"), .bool)
    | .datetime => return (← valueDatetime item, .datetime)
    | .arrayStart =>
      setKind (← get).currentKey .array item.line
      return (.array (← arrayItems fuel), .array)
    | .inlineTableStart => inlineTable parentIsArray fuel
    | _ => failAt 0 "BUG: unexpected value item"

/-- The elements of an array, up to its end. -/
def arrayItems : (fuel : Nat) → ParseM (List Value)
  | 0 => failAt 0 "BUG: document too deep"
  | fuel + 1 => do
    let item ← next
    if item.token == .arrayEnd then return []
    if item.token == .commentStart then
      expect .text
      return ← arrayItems fuel
    let (element, _) ← value item true fuel
    return element :: (← arrayItems fuel)

/-- An inline table: its entries are set in the document under the current key. -/
def inlineTable (parentIsArray : Bool) : (fuel : Nat) → ParseM (Value × Kind)
  | 0 => failAt 0 "BUG: document too deep"
  | fuel + 1 => do
    let p ← get
    let outerContext := p.context
    let outerKey := p.currentKey
    let context := p.context ++ [p.currentKey]
    modify fun p => { p with context, currentKey := "" }
    addImplicit context
    addContext context parentIsArray
    let entries ← inlineEntries context [] fuel
    modify fun p => { p with context := outerContext, currentKey := outerKey }
    return (.table entries, .hash)

/-- The entries of an inline table, up to its end. -/
def inlineEntries (context : List String) (acc : Table) : (fuel : Nat) → ParseM Table
  | 0 => failAt 0 "BUG: document too deep"
  | fuel + 1 => do
    let item ← next
    if item.token == .inlineTableEnd then return acc
    if item.token == .commentStart then
      expect .text
      return ← inlineEntries context acc fuel
    let key ← nameParts .keyEnd (← nextPos) fuel
    let last := key.getLast?.getD ""
    modify fun p => { p with currentKey := last }
    for part in key.dropLast do
      addImplicitContext ((← get).context ++ [part])
    modify fun p => { p with ordered := p.ordered ++ [p.context ++ [last]] }
    let (entry, kind) ← value (← next) false fuel
    setValue last entry
    setKind last kind item.line
    let acc := if key.dropLast.isEmpty then acc.put last entry else acc
    modify fun p => { p with context }
    inlineEntries context acc fuel

end

/-- Reads one top-level item: a comment, a table header, or a key and its value. -/
def topLevel (item : Item) (fuel : Nat) : ParseM Unit := do
  match item.token with
  | .commentStart => expect .text
  | .tableStart =>
    let key ← nameParts .tableEnd (← nextPos) fuel
    addContext key false
    setKind "" .hash item.line
    modify fun p => { p with ordered := p.ordered ++ [key] }
  | .arrayTableStart =>
    let key ← nameParts .arrayTableEnd (← nextPos) fuel
    addContext key true
    setKind "" .arrayHash item.line
    modify fun p => { p with ordered := p.ordered ++ [key] }
  | .keyStart =>
    let outerContext := (← get).context
    let key ← nameParts .keyEnd (← nextPos) fuel
    let last := key.getLast?.getD ""
    modify fun p => { p with currentKey := last }
    for part in key.dropLast do
      addImplicitContext ((← get).context ++ [part])
    modify fun p => { p with ordered := p.ordered ++ [p.context ++ [last]] }
    let valueItem ← next
    let (entry, kind) ← value valueItem false fuel
    setValue last entry
    setKind last kind valueItem.line
    modify fun p => { p with context := outerContext, currentKey := "" }
  | _ => failAt 0 "BUG: unexpected top-level item"

/-- Reads top-level items up to the end. -/
def document (fuel : Nat) : (steps : Nat) → ParseM Unit
  | 0 => pure ()
  | steps + 1 => do
    let item ← next
    if item.token == .eof then return
    topLevel item fuel
    document fuel steps

end Parser

/-- Parses a TOML document. -/
def parse (text : String) : Except ParseError Document :=
  let chars := match text.toList with
    | '\uFEFF' :: rest => rest
    | cs => cs
  let head := (chars.foldl (fun (acc : List Char × Nat) c =>
    if acc.2 < 6 then (c :: acc.1, acc.2 + c.utf8Size) else acc) ([], 0)).1
  if head.contains '\x00' then
    .error ⟨"files cannot contain NULL bytes; probably using UTF-16; TOML files must be UTF-8", 1, ""⟩
  else
    let (items, failure) := Toml.items (String.ofList chars)
    let fuel := 2 * items.size + 4
    let start : Parser := { items := items.toList, failure }
    match (Parser.document fuel (items.size + 1)).run.run start with
    | (.ok (), p) => .ok ⟨p.root, p.kinds, p.ordered⟩
    | (.error e, _) => .error e

end Testbed.Toml
