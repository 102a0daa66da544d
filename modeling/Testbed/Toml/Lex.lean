import Testbed.Text.Quoted

/-!
# Reading TOML text into items

The reader turns a TOML document into a flat sequence of items: key starts and ends, name parts,
strings of the four kinds, numbers, booleans, datetimes, the brackets of arrays, tables and
inline tables, and comments. It is a machine with a mode for each place it can be in and a stack
of modes to return to: after a value the mode on top of the stack says what may follow it, at
the top level, in an array, or in an inline table. Each item records the line it ends on.

Numbers and datetimes are read only to a first approximation here (the characters they may be
made of); the parser checks their exact form. TOML 1.1 is read: strings may use the escapes
`\e` and `\xHH`, and inline tables may span lines and end with a comma.

Reading stops at the first error, with a message and the line it belongs to. A control
character other than tab, line feed and a carriage return before a line feed is an error
wherever it stands. An error found at the end of the text, or just after a line feed, belongs
to the line before.
-/

namespace Testbed.Toml

/-- The kinds of items. -/
inductive Token where
  | eof
  | text
  | string
  | escapedString
  | rawString
  | multilineString
  | rawMultilineString
  | bool
  | integer
  | float
  | datetime
  | arrayStart
  | arrayEnd
  | tableStart
  | tableEnd
  | arrayTableStart
  | arrayTableEnd
  | keyStart
  | keyEnd
  | commentStart
  | inlineTableStart
  | inlineTableEnd
  deriving DecidableEq, Repr, Inhabited

/-- An item: its kind, its text, and the line the reader was on when it ended. -/
structure Item where
  token : Token
  text : String
  line : Nat
  deriving Repr, Inhabited

/-- Why reading stopped, and on which line. -/
structure Failure where
  message : String
  line : Nat
  deriving Repr, Inhabited

/-- The places the reader can be in. -/
inductive Mode where
  | top
  | topEnd
  | tableStart
  | tableEnd
  | arrayTableEnd
  | tableNameStart
  | tableNameEnd
  | bareName
  | quotedName
  | keyStart
  | keyNameStart
  | keyEnd
  | value
  | arrayValue
  | arrayValueEnd
  | arrayEnd
  | inlineTableValue
  | inlineTableValueEnd
  | inlineTableEnd
  | basic
  | multiline
  | raw
  | multilineRaw
  | multilineEscape
  | escape
  | hexEscape
  | shortUnicodeEscape
  | longUnicodeEscape
  | numberOrDateStart
  | numberOrDate
  | datetime
  | hexInteger
  | octalInteger
  | binaryInteger
  | decimalNumber
  | decimalNumberStart
  | baseNumberOrDate
  | float
  | bool
  | commentStart
  | comment
  deriving DecidableEq, Repr, Inhabited

/-- The reader: the text, the start of the pending item, the position, the line, whether the
end was reached, whether the pending string has escapes, the modes to return to, and the items
so far. -/
structure Lexer where
  input : Array Char
  start : Nat := 0
  pos : Nat := 0
  line : Nat := 1
  atEof : Bool := false
  escaped : Bool := false
  stack : List Mode := []
  items : Array Item := #[]
  deriving Inhabited

abbrev LexM := ExceptT Failure (StateM Lexer)

/-- The character that stands for the end of the text. A real NUL never reaches a mode: it is a
control character, and reading it is an error. -/
def eof : Char := '\x00'

def isWhitespace (c : Char) : Bool := c == '\t' || c == ' '
def isNewline (c : Char) : Bool := c == '\n' || c == '\r'
def isDigit (c : Char) : Bool := '0' ≤ c && c ≤ '9'
def isHex (c : Char) : Bool := isDigit c || ('a' ≤ c && c ≤ 'f') || ('A' ≤ c && c ≤ 'F')
def isOctal (c : Char) : Bool := '0' ≤ c && c ≤ '7'
def isBinary (c : Char) : Bool := c == '0' || c == '1'

def isControl (c : Char) : Bool :=
  c != '\t' && c != '\r' && c != '\n' && (c.toNat ≤ 0x1f || c.toNat == 0x7f)

def isBareChar (c : Char) : Bool :=
  ('A' ≤ c && c ≤ 'Z') || ('a' ≤ c && c ≤ 'z') || isDigit c || c == '_' || c == '-'

def letterRanges : List (Nat × Nat) :=
  [(0xAA, 0xAA), (0xB5, 0xB5), (0xBA, 0xBA), (0xC0, 0xD6), (0xD8, 0xF6), (0xF8, 0x2C1),
   (0x370, 0x373), (0x376, 0x377), (0x37B, 0x37D), (0x386, 0x386), (0x388, 0x3FF),
   (0x400, 0x481), (0x48A, 0x52F), (0x531, 0x556), (0x561, 0x587), (0x5D0, 0x5EA),
   (0x620, 0x64A), (0x3041, 0x3096), (0x30A1, 0x30FA), (0x4E00, 0x9FFF), (0xAC00, 0xD7A3)]

def isLetter (c : Char) : Bool :=
  ('A' ≤ c && c ≤ 'Z') || ('a' ≤ c && c ≤ 'z') ||
    letterRanges.any fun (low, high) => low ≤ c.toNat && c.toNat ≤ high

/-- A character shown as Go shows it after "but got": the end as `end of file`, any other
between single quotes. -/
def runeOrEof (c : Char) : String :=
  if c == eof then "end of file" else "'" ++ c.toString ++ "'"

namespace Lexer

/-- Stops with a message on the current line, or on the line before when the text ended
just after a line feed. -/
def fail {α : Type} (message : String) : LexM α := do
  let lx ← get
  let line :=
    if lx.atEof && lx.pos ≥ 1 && lx.input.getD (lx.pos - 1) eof == '\n' then lx.line - 1
    else lx.line
  throw ⟨message, line⟩

def failPrevLine {α : Type} (message : String) : LexM α := do
  throw ⟨message, (← get).line - 1⟩

def failHere {α : Type} (message : String) : LexM α := do
  let lx ← get
  throw ⟨message, if lx.atEof then lx.line - 1 else lx.line⟩

/-- Takes the next character; `eof` at the end of the text. -/
def next : LexM Char := do
  let lx ← get
  if lx.pos ≥ lx.input.size then
    set { lx with atEof := true }
    return eof
  let c := lx.input.getD lx.pos eof
  let line := if c == '\n' then lx.line + 1 else lx.line
  if isControl c || (c == '\r' && lx.input.getD (lx.pos + 1) eof != '\n') then
    throw ⟨"TOML files cannot contain control characters: '0x" ++
      String.ofList (Quoted.hexDigits 2 c.toNat) ++ "'", line⟩
  set { lx with line, pos := lx.pos + 1 }
  return c

/-- Steps back over the last character taken; after the end, only forgets the end. -/
def backup : LexM Unit := modify fun lx =>
  if lx.atEof then { lx with atEof := false }
  else
    let pos := lx.pos - 1
    { lx with pos, line := if lx.input.getD pos eof == '\n' then lx.line - 1 else lx.line }

def accept (c : Char) : LexM Bool := do
  if (← next) == c then return true
  backup
  return false

def peek : LexM Char := do
  let c ← next
  backup
  return c

def ignore : LexM Unit := modify fun lx => { lx with start := lx.pos }

def current : LexM String := do
  let lx ← get
  return String.ofList (lx.input.extract lx.start lx.pos).toList

def emitText (token : Token) (text : String) : LexM Unit :=
  modify fun lx => { lx with items := lx.items.push ⟨token, text, lx.line⟩, start := lx.pos }

def emit (token : Token) : LexM Unit := do emitText token (← current)

def emitTrim (token : Token) : LexM Unit := do
  emitText token ((← current).trimAscii.toString)

/-- Takes tabs and spaces and drops them. -/
def skipWhitespace : (fuel : Nat) → LexM Unit
  | 0 => ignore
  | fuel + 1 => do
    if isWhitespace (← next) then skipWhitespace fuel
    else
      backup
      ignore

def skipBlanks : LexM Unit := do skipWhitespace ((← get).input.size + 1)

def push (mode : Mode) : LexM Unit := modify fun lx => { lx with stack := mode :: lx.stack }

def pop : LexM Mode := do
  match (← get).stack with
  | [] => fail "BUG in lexer: no states to pop"
  | mode :: rest =>
    modify fun lx => { lx with stack := rest }
    return mode

/-- Takes letters, up to the first character that is not one. -/
def takeLetters : (fuel : Nat) → List Char → LexM (List Char)
  | 0, acc => pure acc.reverse
  | fuel + 1, acc => do
    let c ← next
    if isLetter c then takeLetters fuel (c :: acc)
    else
      backup
      pure acc.reverse

/-- Takes a given number of hexadecimal digits of an escape. -/
def hexRun (what escapeText : String) : Nat → LexM Unit
  | 0 => pure ()
  | count + 1 => do
    if isHex (← next) then hexRun what escapeText count
    else
      fail ("expected " ++ what ++ " hexadecimal digits after '\\" ++ escapeText ++
        "', but got " ++ Quoted.quote (← current) ++ " instead")

def goTo (mode : Mode) : LexM (Option Mode) := pure (some mode)

def back : LexM (Option Mode) := do return some (← pop)

/-- Runs one mode and says which mode comes next; `none` once the end has been read. -/
def step : Mode → LexM (Option Mode)
  | .top => do
    let c ← next
    if isWhitespace c || isNewline c then ignore; goTo .top
    else if c == '#' then push .top; goTo .commentStart
    else if c == '[' then goTo .tableStart
    else if c == eof then
      let lx ← get
      if lx.pos > lx.start then fail "unexpected EOF"
      emit .eof
      return none
    else
      backup
      push .topEnd
      goTo .keyStart
  | .topEnd => do
    let c ← next
    if c == '#' then push .top; goTo .commentStart
    else if isWhitespace c then goTo .topEnd
    else if isNewline c then ignore; goTo .top
    else if c == eof then emit .eof; return none
    else fail ("expected a top-level item to end with a newline, comment, or EOF, but got " ++
      Quoted.quoteRune c ++ " instead")
  | .tableStart => do
    if (← peek) == '[' then
      discard next
      emit .arrayTableStart
      push .arrayTableEnd
    else
      emit .tableStart
      push .tableEnd
    goTo .tableNameStart
  | .tableEnd => do emit .tableEnd; goTo .topEnd
  | .arrayTableEnd => do
    let c ← next
    if c != ']' then
      fail ("expected end of table array name delimiter ']', but got " ++ Quoted.quoteRune c ++
        " instead")
    emit .arrayTableEnd
    goTo .topEnd
  | .tableNameStart => do
    skipBlanks
    let c ← peek
    if c == ']' || c == eof then fail "unexpected end of table name (table names cannot be empty)"
    else if c == '.' then fail "unexpected table separator (table names cannot be empty)"
    else if c == '"' || c == '\x27' then ignore; push .tableNameEnd; goTo .quotedName
    else push .tableNameEnd; goTo .bareName
  | .tableNameEnd => do
    skipBlanks
    let c ← next
    if isWhitespace c then goTo .tableNameEnd
    else if c == '.' then ignore; goTo .tableNameStart
    else if c == ']' then back
    else fail ("expected '.' or ']' to end table name, but got " ++ Quoted.quoteRune c ++
      " instead")
  | .bareName => do
    if isBareChar (← next) then goTo .bareName
    else
      backup
      emit .text
      back
  | .quotedName => do
    let c ← next
    if isWhitespace c then ignore; goTo .value
    else if c == '"' then ignore; goTo .basic
    else if c == '\x27' then ignore; goTo .raw
    else if c == eof then fail "unexpected EOF; expected value"
    else fail ("expected value but found " ++ Quoted.quoteRune c ++ " instead")
  | .keyStart => do
    skipBlanks
    let c ← peek
    if c == '=' || c == eof then fail "unexpected '=': key name appears blank"
    else if c == '.' then fail "unexpected '.': keys cannot start with a '.'"
    else
      if c == '"' || c == '\x27' then ignore
      emit .keyStart
      goTo .keyNameStart
  | .keyNameStart => do
    skipBlanks
    let c ← peek
    if c == '"' || c == '\x27' then ignore; push .keyEnd; goTo .quotedName
    else if c == '=' || c == eof then fail "unexpected '='"
    else if c == '.' then fail "unexpected '.'"
    else push .keyEnd; goTo .bareName
  | .keyEnd => do
    skipBlanks
    let c ← next
    if isWhitespace c then ignore; goTo .keyEnd
    else if c == eof then fail "unexpected EOF; expected key separator '='"
    else if c == '.' then ignore; goTo .keyNameStart
    else if c == '=' then emit .keyEnd; ignore; goTo .value
    else if c == '\n' then
      failPrevLine ("expected '.' or '=', but got " ++ Quoted.quoteRune c ++ " instead")
    else fail ("expected '.' or '=', but got " ++ Quoted.quoteRune c ++ " instead")
  | .value => do
    let c ← next
    if isWhitespace c then ignore; goTo .value
    else if isDigit c then backup; goTo .numberOrDateStart
    else if c == '[' then ignore; emit .arrayStart; goTo .arrayValue
    else if c == '\x7b' then ignore; emit .inlineTableStart; goTo .inlineTableValue
    else if c == '"' then
      if (← accept '"') then
        if (← accept '"') then
          ignore
          return some .multiline
        backup
      ignore
      goTo .basic
    else if c == '\x27' then
      if (← accept '\x27') then
        if (← accept '\x27') then
          ignore
          return some .multilineRaw
        backup
      ignore
      goTo .raw
    else if c == '.' then fail "floats must start with a digit, not '.'"
    else if c == '-' || c == '+' then goTo .decimalNumberStart
    else
      let special ←
        if c == 'i' || c == 'n' then do
          let infinite ← do if (← accept 'n') then accept 'f' else pure false
          if infinite then pure true
          else do if (← accept 'a') then accept 'n' else pure false
        else pure false
      if special then emit .float; back
      else if isLetter c then backup; goTo .bool
      else if c == eof then fail "unexpected EOF; expected value"
      else if c == '\n' then
        failPrevLine ("expected value but found " ++ Quoted.quoteRune c ++ " instead")
      else fail ("expected value but found " ++ Quoted.quoteRune c ++ " instead")
  | .arrayValue => do
    let c ← next
    if isWhitespace c || isNewline c then ignore; goTo .arrayValue
    else if c == '#' then push .arrayValue; goTo .commentStart
    else if c == ',' then fail "unexpected comma"
    else if c == ']' then goTo .arrayEnd
    else backup; push .arrayValueEnd; goTo .value
  | .arrayValueEnd => do
    let c ← next
    if isWhitespace c || isNewline c then ignore; goTo .arrayValueEnd
    else if c == '#' then push .arrayValueEnd; goTo .commentStart
    else if c == ',' then ignore; goTo .arrayValue
    else if c == ']' then goTo .arrayEnd
    else fail ("expected a comma (',') or array terminator (']'), but got " ++ runeOrEof c)
  | .arrayEnd => do ignore; emit .arrayEnd; back
  | .inlineTableValue => do
    let c ← next
    if isWhitespace c || isNewline c then ignore; goTo .inlineTableValue
    else if c == '#' then push .inlineTableValue; goTo .commentStart
    else if c == ',' then fail "unexpected comma"
    else if c == '\x7d' then goTo .inlineTableEnd
    else backup; push .inlineTableValueEnd; goTo .keyStart
  | .inlineTableValueEnd => do
    let c ← next
    if isWhitespace c || isNewline c then ignore; goTo .inlineTableValueEnd
    else if c == '#' then push .inlineTableValueEnd; goTo .commentStart
    else if c == ',' then
      ignore
      skipBlanks
      if (← peek) == '\x7d' then goTo .inlineTableValueEnd else goTo .inlineTableValue
    else if c == '\x7d' then goTo .inlineTableEnd
    else fail ("expected a comma or an inline table terminator '\x7d', but got " ++ runeOrEof c ++
      " instead")
  | .inlineTableEnd => do ignore; emit .inlineTableEnd; back
  | .basic => do
    let c ← next
    if c == eof then fail "unexpected EOF; expected '\"'"
    else if isNewline c then failPrevLine "strings cannot contain newlines"
    else if c == '\\' then push .basic; goTo .escape
    else if c == '"' then
      backup
      if (← get).escaped then
        modify fun lx => { lx with escaped := false }
        emit .escapedString
      else emit .string
      discard next
      ignore
      back
    else goTo .basic
  | .multiline => do
    let c ← next
    if c == eof then fail "unexpected EOF; expected '\"\"\"'"
    else if c == '\\' then goTo .multilineEscape
    else if c == '"' then
      if (← accept '"') then
        if (← accept '"') then
          if (← peek) == '"' then
            let text ← current
            if text.endsWith "\"\"\"\"\"" && !text.endsWith "\\\"\"\"\"\"" then
              fail "unexpected '\"\"\"\"\"\"'"
            backup
            backup
            return some .multiline
          backup
          backup
          backup
          modify fun lx => { lx with escaped := false }
          emit .multilineString
          discard next
          discard next
          discard next
          ignore
          return some (← pop)
        backup
      goTo .multiline
    else goTo .multiline
  | .raw => do
    let c ← next
    if c == eof then fail "unexpected EOF; expected \"'\""
    else if isNewline c then failPrevLine "strings cannot contain newlines"
    else if c == '\x27' then
      backup
      emit .rawString
      discard next
      ignore
      back
    else goTo .raw
  | .multilineRaw => do
    let c ← next
    if c == eof then fail "unexpected EOF; expected \"'''\""
    else if c == '\x27' then
      if (← accept '\x27') then
        if (← accept '\x27') then
          if (← peek) == '\x27' then
            if (← current).endsWith "'''''" then fail "unexpected \"''''''\""
            backup
            backup
            return some .multilineRaw
          backup
          backup
          backup
          emit .rawMultilineString
          discard next
          discard next
          discard next
          ignore
          return some (← pop)
        backup
      goTo .multilineRaw
    else goTo .multilineRaw
  | .multilineEscape => do
    if isNewline (← next) then goTo .multiline
    else
      backup
      push .multiline
      goTo .escape
  | .escape => do
    modify fun lx => { lx with escaped := true }
    let c ← next
    if "ebtnfr\" \t\\".toList.contains c then back
    else if c == 'x' then goTo .hexEscape
    else if c == 'u' then goTo .shortUnicodeEscape
    else if c == 'U' then goTo .longUnicodeEscape
    else failHere ("invalid escape in string '\\" ++ c.toString ++ "'")
  | .hexEscape => do hexRun "two" "x" 2; back
  | .shortUnicodeEscape => do hexRun "four" "u" 4; back
  | .longUnicodeEscape => do hexRun "eight" "U" 8; back
  | .numberOrDateStart => do
    let c ← next
    if c == '0' then goTo .baseNumberOrDate
    else if !isDigit c then fail ("expected a digit but got " ++ Quoted.quoteRune c)
    else goTo .numberOrDate
  | .numberOrDate => do
    let c ← next
    if isDigit c then goTo .numberOrDate
    else if c == '-' || c == ':' then goTo .datetime
    else if c == '_' then goTo .decimalNumber
    else if c == '.' || c == 'e' || c == 'E' then goTo .float
    else backup; emit .integer; back
  | .datetime => do
    let c ← next
    if isDigit c || "-:Tt .Zz+".toList.contains c then goTo .datetime
    else backup; emitTrim .datetime; back
  | .hexInteger => do
    let c ← next
    if isHex c || c == '_' then goTo .hexInteger
    else backup; emit .integer; back
  | .octalInteger => do
    let c ← next
    if isOctal c || c == '_' then goTo .octalInteger
    else backup; emit .integer; back
  | .binaryInteger => do
    let c ← next
    if isBinary c || c == '_' then goTo .binaryInteger
    else backup; emit .integer; back
  | .decimalNumber => do
    let c ← next
    if isDigit c || c == '_' then goTo .decimalNumber
    else if c == '.' || c == 'e' || c == 'E' then goTo .float
    else backup; emit .integer; back
  | .decimalNumberStart => do
    let c ← next
    if c == 'i' then
      if !(← accept 'n') then fail ("invalid float: '" ++ (← current) ++ "'")
      if !(← accept 'f') then fail ("invalid float: '" ++ (← current) ++ "'")
      emit .float
      back
    else if c == 'n' then
      if !(← accept 'a') then fail ("invalid float: '" ++ (← current) ++ "'")
      if !(← accept 'n') then fail ("invalid float: '" ++ (← current) ++ "'")
      emit .float
      back
    else if c == '.' then fail "floats must start with a digit, not '.'"
    else
      if c == '0' then
        let p ← peek
        if p == 'b' || p == 'o' || p == 'x' then
          fail ("cannot use sign with non-decimal numbers: '" ++ (← current) ++ p.toString ++ "'")
      if isDigit c then goTo .decimalNumber
      else fail ("expected a digit but got " ++ Quoted.quoteRune c)
  | .baseNumberOrDate => do
    let c ← next
    if isDigit c then goTo .numberOrDate
    else if c == '_' then goTo .decimalNumber
    else if c == '.' || c == 'e' || c == 'E' then goTo .float
    else if c == 'b' then
      let p ← peek
      if !isBinary p then fail ("not a binary number: '" ++ (← current) ++ p.toString ++ "'")
      goTo .binaryInteger
    else if c == 'o' then
      let p ← peek
      if !isOctal p then fail ("not an octal number: '" ++ (← current) ++ p.toString ++ "'")
      goTo .octalInteger
    else if c == 'x' then
      let p ← peek
      if !isHex p then fail ("not a hexadecimal number: '" ++ (← current) ++ p.toString ++ "'")
      goTo .hexInteger
    else backup; emit .integer; back
  | .float => do
    let c ← next
    if isDigit c || "_.-+eE".toList.contains c then goTo .float
    else backup; emit .float; back
  | .bool => do
    let word := String.ofList (← takeLetters ((← get).input.size + 1) [])
    if word == "true" || word == "false" then emit .bool; back
    else fail ("expected value but found " ++ Quoted.quote word ++ " instead")
  | .commentStart => do ignore; emit .commentStart; goTo .comment
  | .comment => do
    let c ← next
    if isNewline c || c == eof then backup; emit .text; back
    else goTo .comment

/-- Runs modes until the end is read, a step fails, or the fuel runs out. -/
def run : (fuel : Nat) → Mode → LexM Unit
  | 0, _ => fail "document too complex"
  | fuel + 1, mode => do
    match ← step mode with
    | some nextMode => run fuel nextMode
    | none => pure ()

end Lexer

/-- The items of a document, and the failure that stopped reading, if any. Each mode either
takes a character or hands over to a mode that does within a bounded number of steps, so eight
steps per character suffice. -/
def items (text : String) : Array Item × Option Failure :=
  let input := text.toList.toArray
  let (result, lx) := (Lexer.run (8 * input.size + 16) .top).run ⟨input, 0, 0, 1, false, false, [], #[]⟩
  match result with
  | .ok () => (lx.items, none)
  | .error failure => (lx.items, some failure)

end Testbed.Toml
