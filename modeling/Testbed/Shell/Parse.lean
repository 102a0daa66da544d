import Testbed.Shell.Syntax

/-!
# Reading shell scripts

The reader turns script text into the syntax of `Testbed.Shell.Syntax`. It works on the
characters of the text with a cursor that counts lines, so that a command knows the line it
starts on and a syntax error names the line where it was found.

A script is read one top-level line at a time: the shell runs each complete line before it
reads the next, so the commands before a syntax error have run when the error is reported.

Every reading function takes a fuel argument that bounds the nesting of the syntax; the fuel
given is a multiple of the text's length, and each level of nesting or each item of a list
either consumes text or descends one level, so the fuel never runs out on a script that reads.
-/

namespace Testbed.Shell

/-- The text being read, the position in it, and the line of that position. -/
structure Cursor where
  chars : Array Char
  pos : Nat := 0
  line : Nat := 1
  deriving Inhabited

/-- A syntax error: its line and its message. -/
structure SyntaxError where
  line : Nat
  message : String
  deriving Inhabited, Repr

abbrev ParseM := ExceptT SyntaxError (StateM Cursor)

namespace Parse

def peekAt (k : Nat) : ParseM Char := do
  let cursor ← get
  pure (cursor.chars.getD (cursor.pos + k) '\x00')

def peek : ParseM Char := peekAt 0

def atEnd : ParseM Bool := do
  let cursor ← get
  pure (cursor.pos ≥ cursor.chars.size)

def advance : ParseM Unit :=
  modify fun cursor =>
    let c := cursor.chars.getD cursor.pos '\x00'
    { cursor with pos := cursor.pos + 1, line := if c == '\n' then cursor.line + 1 else cursor.line }

def take : ParseM Char := do
  let c ← peek
  advance
  pure c

def remaining : ParseM Nat := do
  let cursor ← get
  pure (cursor.chars.size - cursor.pos + 1)

def fail (message : String) : ParseM α := do
  throw ⟨(← get).line, "Syntax error: " ++ message⟩

def delimiter (c : Char) : Bool :=
  c == ' ' || c == '\t' || c == '\n' || c == ';' || c == '&' || c == '|' || c == '<' ||
    c == '>' || c == '(' || c == ')' || c == '\x00'

/-- Skips blanks, escaped line breaks and a comment up to the end of its line. -/
def skipBlanks : ParseM Unit := do
  for _ in [0:(← remaining)] do
    let c ← peek
    if c == ' ' || c == '\t' then advance
    else if c == '\\' && (← peekAt 1) == '\n' then
      advance
      advance
    else if c == '#' then
      for _ in [0:(← remaining)] do
        if (← atEnd) || (← peek) == '\n' then break
        advance
      break
    else break

def skipLines : ParseM Unit := do
  for _ in [0:(← remaining)] do
    skipBlanks
    if (← peek) == '\n' && !(← atEnd) then advance else break

/-- How an unexpected character is named in a syntax error. -/
def tokenName : ParseM String := do
  if (← atEnd) then return "end of file"
  let c ← peek
  let d ← peekAt 1
  if c == '\n' then return "newline"
  if c == ';' && d == ';' then return "\";;\""
  if c == '&' && d == '&' then return "\"&&\""
  if c == '|' && d == '|' then return "\"||\""
  return "\"" ++ c.toString ++ "\""

def unexpected : ParseM α := do
  fail ((← tokenName) ++ " unexpected")

def pushPiece (word : Word) (piece : Piece) : Word :=
  match word.getLast?, piece with
  | some (.literal a), .literal b => word.dropLast ++ [.literal (a ++ b)]
  | some (.quoted a), .quoted b => word.dropLast ++ [.quoted (a ++ b)]
  | _, _ => word ++ [piece]

/-- Reads a run of name characters. -/
def name : ParseM String := do
  let mut text := ""
  for _ in [0:(← remaining)] do
    let c ← peek
    if nameChar text.isEmpty c then
      text := text.push c
      advance
    else break
  pure text

/-- Reads single-quoted text after its opening quote. -/
def singleQuoted : ParseM String := do
  let mut text := ""
  for _ in [0:(← remaining)] do
    if (← atEnd) then fail "Unterminated quoted string"
    let c ← take
    if c == '\x27' then return text
    text := text.push c
  fail "Unterminated quoted string"

/-- Reads the source of a command substitution after its opening parenthesis, up to the
matching closing one. -/
def substitutionText : ParseM String := do
  let mut text := ""
  let mut depth := 0
  let mut quote : Option Char := none
  for _ in [0:(← remaining)] do
    if (← atEnd) then fail "end of file unexpected (expecting \")\")"
    let c ← take
    match quote with
    | some q =>
      if c == q then quote := none
      else if c == '\\' && q == '"' then
        text := text.push c
        let d ← take
        text := text.push d
        continue
      text := text.push c
    | none =>
      if c == '\x27' || c == '"' then
        quote := some c
        text := text.push c
      else if c == '\\' then
        text := text.push c
        text := text.push (← take)
      else if c == '(' then
        depth := depth + 1
        text := text.push c
      else if c == ')' then
        if depth == 0 then return text
        depth := depth - 1
        text := text.push c
      else text := text.push c
  fail "end of file unexpected (expecting \")\")"

/-- The operators of parameter expansions, longest first. -/
def paramOps : List String := [":-", ":=", ":?", ":+", "%%", "##", "-", "=", "?", "+", "%", "#"]

mutual

/-- Reads what follows a dollar sign. -/
def dollar (fuel : Nat) (inQuotes : Bool) : ParseM Piece := do
  match fuel with
  | 0 => fail "expression too deeply nested"
  | fuel + 1 =>
  let c ← peek
  if c == '(' then
    advance
    if (← peek) == '(' then
      advance
      let expr ← arithText fuel
      return .arith expr inQuotes
    let body ← substitutionText
    return .subst body inQuotes
  if c == '\x7b' then
    advance
    if (← peek) == '#' && (← peekAt 1) != '\x7d' then
      advance
      let n ← paramName
      if (← take) != '\x7d' then fail "bad substitution"
      return .paramLength n inQuotes
    let n ← paramName
    if n.isEmpty then fail "bad substitution"
    if (← peek) == '\x7d' then
      advance
      return .param n inQuotes
    let first ← peek
    let second ← peekAt 1
    let two := String.ofList [first, second]
    let op := if paramOps.contains two then two
      else if paramOps.contains first.toString then first.toString else ""
    if op.isEmpty then fail "bad substitution"
    for _ in [0:op.length] do advance
    let operand ← braceWord fuel inQuotes
    return .paramWith n op operand inQuotes
  if c.isDigit || "@*#?$!-".toList.contains c then
    advance
    return .param c.toString inQuotes
  if nameChar true c then
    return .param (← name) inQuotes
  return (if inQuotes then .quoted "$" else .literal "$")

/-- The name inside braces: a variable name, digits, or one special character. -/
def paramName : ParseM String := do
  let c ← peek
  if c.isDigit then
    let mut text := ""
    for _ in [0:(← remaining)] do
      let d ← peek
      if d.isDigit then
        text := text.push d
        advance
      else break
    return text
  if "@*#?$!-".toList.contains c then
    advance
    return c.toString
  name

/-- Reads the word of a parameter operator, up to the closing brace. -/
def braceWord (fuel : Nat) (inQuotes : Bool) : ParseM Word := do
  match fuel with
  | 0 => fail "expression too deeply nested"
  | fuel + 1 =>
  let mut word : Word := []
  for _ in [0:(← remaining)] do
    if (← atEnd) then fail "bad substitution"
    let c ← peek
    if c == '\x7d' then
      advance
      return word
    if c == '\x27' && !inQuotes then
      advance
      word := pushPiece word (.quoted (← singleQuoted))
    else if c == '"' then
      advance
      for piece in ← doubleQuoted fuel do word := pushPiece word piece
    else if c == '\\' then
      advance
      word := pushPiece word (.quoted (← take).toString)
    else if c == '$' then
      advance
      word := pushPiece word (← dollar fuel inQuotes)
    else
      advance
      word := pushPiece word (if inQuotes then .quoted c.toString else .literal c.toString)
  fail "bad substitution"

/-- Reads the text of an arithmetic expansion after its opening parentheses, up to the
matching closing pair. -/
def arithText (fuel : Nat) : ParseM Word := do
  match fuel with
  | 0 => fail "expression too deeply nested"
  | fuel + 1 =>
  let mut word : Word := []
  let mut depth := 0
  for _ in [0:(← remaining)] do
    if (← atEnd) then fail "end of file unexpected (expecting \"))\")"
    let c ← peek
    if c == ')' then
      if depth == 0 then
        if (← peekAt 1) == ')' then
          advance
          advance
          return word
        fail "end of file unexpected (expecting \"))\")"
      depth := depth - 1
    if c == '(' then depth := depth + 1
    advance
    if c == '$' then word := pushPiece word (← dollar fuel true)
    else if c == '"' then
      for piece in ← doubleQuoted fuel do word := pushPiece word piece
    else if c == '\x27' then word := pushPiece word (.quoted (← singleQuoted))
    else word := pushPiece word (.quoted c.toString)
  fail "end of file unexpected (expecting \"))\")"

/-- Reads double-quoted text after its opening quote. -/
def doubleQuoted (fuel : Nat) : ParseM Word := do
  match fuel with
  | 0 => fail "expression too deeply nested"
  | fuel + 1 =>
  let mut word : Word := []
  for _ in [0:(← remaining)] do
    if (← atEnd) then fail "Unterminated quoted string"
    let c ← take
    if c == '"' then return word
    if c == '\\' then
      let d ← peek
      if d == '\n' then advance
      else if d == '$' || d == '\x60' || d == '"' || d == '\\' then
        advance
        word := pushPiece word (.quoted d.toString)
      else word := pushPiece word (.quoted "\\")
    else if c == '$' then word := pushPiece word (← dollar fuel true)
    else word := pushPiece word (.quoted c.toString)
  fail "Unterminated quoted string"

end

/-- Reads one word, which may be empty when a delimiter comes first. -/
def word (fuel : Nat) : ParseM Word := do
  let mut w : Word := []
  for _ in [0:(← remaining)] do
    let c ← peek
    if delimiter c && !((← atEnd) == false && c == '\x00') then break
    if c == '\x00' && (← atEnd) then break
    advance
    if c == '\x27' then w := pushPiece w (.quoted (← singleQuoted))
    else if c == '"' then
      for piece in ← doubleQuoted fuel do w := pushPiece w piece
    else if c == '\\' then
      if (← atEnd) then w := pushPiece w (.literal "\\")
      else
        let d ← take
        if d != '\n' then w := pushPiece w (.quoted d.toString)
    else if c == '$' then w := pushPiece w (← dollar fuel false)
    else w := pushPiece w (.literal c.toString)
  pure w

def plainText : Word → Option String
  | [.literal text] => some text
  | _ => none

/-- The reserved word at the cursor, read without moving the cursor. -/
def peekReserved : ParseM (Option String) := do
  let saved ← get
  let w ← word 4
  set saved
  match plainText w with
  | some text => pure (if reservedWords.contains text then some text else none)
  | none => pure none

/-- Consumes a reserved word that must come next. -/
def expect (reserved : String) : ParseM Unit := do
  skipLines
  if (← peekReserved) == some reserved then
    let _ ← word 4
  else if (← atEnd) then
    fail ("end of file unexpected (expecting \"" ++ reserved ++ "\")")
  else
    let saved ← get
    let w ← word 4
    set saved
    match plainText w with
    | some text => fail ("\"" ++ text ++ "\" unexpected (expecting \"" ++ reserved ++ "\")")
    | none => unexpected

/-- Reads a redirection at the cursor, if one starts here. -/
def redirect? (fuel : Nat) : ParseM (Option Redirect) := do
  let saved ← get
  let mut digits := ""
  for _ in [0:(← remaining)] do
    let c ← peek
    if c.isDigit then
      digits := digits.push c
      advance
    else break
  let c ← peek
  if c != '<' && c != '>' then
    set saved
    return none
  advance
  let d ← peek
  let (kind, defaultFd) ←
    if c == '<' then
      if d == '&' then do advance; pure (RedirectKind.duplicate, 0)
      else if d == '<' then fail "here-documents are not supported"
      else if d == '>' then do advance; pure (RedirectKind.input, 0)
      else pure (RedirectKind.input, 0)
    else
      if d == '>' then do advance; pure (RedirectKind.append, 1)
      else if d == '&' then do advance; pure (RedirectKind.duplicate, 1)
      else if d == '|' then do advance; pure (RedirectKind.output, 1)
      else pure (RedirectKind.output, 1)
  skipBlanks
  let target ← word fuel
  if target.isEmpty then unexpected
  let fd := if digits.isEmpty then defaultFd else digits.toNat!
  return some { fd, kind, target }

/-- An assignment word: a name, an equals sign, and the value's pieces. -/
def assignment? : Word → Option (String × Word)
  | .literal text :: rest =>
    match text.splitOn "=" with
    | n :: value :: more =>
      if isName n then
        let valueText := "=".intercalate (value :: more)
        some (n, (if valueText.isEmpty then [] else [.literal valueText]) ++ rest)
      else none
    | _ => none
  | _ => none

/-- Reads the redirections that may follow a compound command. -/
def trailingRedirects (fuel : Nat) : ParseM (List Redirect) := do
  let mut found : List Redirect := []
  for _ in [0:(← remaining)] do
    skipBlanks
    match ← redirect? fuel with
    | some r => found := found ++ [r]
    | none => break
  pure found

/-- Reads a simple command: assignments, then words and redirections. -/
def simple (fuel : Nat) : ParseM Command := do
  let line := (← get).line
  let mut assigns : List (String × Word) := []
  let mut words : List Word := []
  let mut redirects : List Redirect := []
  for _ in [0:(← remaining)] do
    skipBlanks
    let c ← peek
    if (← atEnd) || c == '\n' || c == ';' || c == '&' || c == '|' || c == ')' then break
    if c == '(' then unexpected
    match ← redirect? fuel with
    | some r => redirects := redirects ++ [r]
    | none =>
      let w ← word fuel
      if w.isEmpty then unexpected
      match (if words.isEmpty then assignment? w else none) with
      | some a => assigns := assigns ++ [a]
      | none => words := words ++ [w]
  if assigns.isEmpty && words.isEmpty && redirects.isEmpty then unexpected
  pure (.simple assigns words redirects line)

/-- Whether the cursor stands before `;;`. -/
def atArmEnd : ParseM Bool := do
  pure ((← peek) == ';' && (← peekAt 1) == ';')

mutual

/-- Reads a list of and-or lists up to a closing word, a closing parenthesis, `;;` or the end. -/
def list (fuel : Nat) : ParseM Script := do
  match fuel with
  | 0 => fail "script too deeply nested"
  | fuel + 1 =>
  let mut items : Script := []
  for _ in [0:(← remaining)] do
    skipLines
    if (← atEnd) || (← peek) == ')' || (← atArmEnd) then break
    if let some w := ← peekReserved then
      if closingWords.contains w then break
    items := items ++ [← andOr fuel]
    skipBlanks
    let c ← peek
    if (c == ';' || c == '&') && !(← atArmEnd) && (← peekAt 1) != '&' then advance
    else if c == '\n' then pure ()
    else break
  pure items

/-- Reads pipelines joined by `&&` and `||`. -/
def andOr (fuel : Nat) : ParseM AndOr := do
  match fuel with
  | 0 => fail "script too deeply nested"
  | fuel + 1 =>
  let first ← pipeline fuel
  let mut rest : List (Bool × Pipeline) := []
  for _ in [0:(← remaining)] do
    skipBlanks
    let c ← peek
    let d ← peekAt 1
    if (c == '&' && d == '&') || (c == '|' && d == '|') then
      advance
      advance
      skipLines
      rest := rest ++ [(c == '&', ← pipeline fuel)]
    else break
  pure (.mk first rest)

/-- Reads commands joined by pipes, with an optional leading `!`. -/
def pipeline (fuel : Nat) : ParseM Pipeline := do
  match fuel with
  | 0 => fail "script too deeply nested"
  | fuel + 1 =>
  skipBlanks
  let negated ← do
    if (← peekReserved) == some "!" then
      let _ ← word 4
      pure true
    else pure false
  let mut commands := [← command fuel]
  for _ in [0:(← remaining)] do
    skipBlanks
    if (← peek) == '|' && (← peekAt 1) != '|' then
      advance
      skipLines
      commands := commands ++ [← command fuel]
    else break
  pure (.mk negated commands)

/-- Reads one command, compound or simple. -/
def command (fuel : Nat) : ParseM Command := do
  match fuel with
  | 0 => fail "script too deeply nested"
  | fuel + 1 =>
  skipBlanks
  if (← peek) == '(' then
    advance
    let body ← list fuel
    skipLines
    if (← peek) != ')' then
      if (← atEnd) then fail "end of file unexpected (expecting \")\")"
      unexpected
    advance
    return .subshell body (← trailingRedirects fuel)
  match ← peekReserved with
  | some "if" =>
    let _ ← word 4
    let condition ← list fuel
    expect "then"
    let body ← list fuel
    let mut branches := [(condition, body)]
    let mut otherwise : Script := []
    for _ in [0:(← remaining)] do
      skipLines
      match ← peekReserved with
      | some "elif" =>
        let _ ← word 4
        let c ← list fuel
        expect "then"
        let b ← list fuel
        branches := branches ++ [(c, b)]
      | some "else" =>
        let _ ← word 4
        otherwise ← list fuel
        break
      | _ => break
    expect "fi"
    return .ifThen branches otherwise (← trailingRedirects fuel)
  | some "while" | some "until" =>
    let keyword ← word 4
    let condition ← list fuel
    expect "do"
    let body ← list fuel
    expect "done"
    return .loop (plainText keyword == some "until") condition body (← trailingRedirects fuel)
  | some "for" =>
    let _ ← word 4
    skipBlanks
    let varWord ← word 4
    let n := (plainText varWord).getD ""
    if !isName n then fail "Bad for loop variable"
    skipLines
    let items ← do
      if (← peekReserved) == some "in" then
        let _ ← word 4
        let mut items : List Word := []
        for _ in [0:(← remaining)] do
          skipBlanks
          let c ← peek
          if (← atEnd) || c == '\n' || c == ';' then break
          let w ← word fuel
          if w.isEmpty then unexpected
          items := items ++ [w]
        if (← peek) == ';' then advance
        pure (some items)
      else
        if (← peek) == ';' then advance
        pure none
    expect "do"
    let body ← list fuel
    expect "done"
    return .forEach n items body (← trailingRedirects fuel)
  | some "case" =>
    let _ ← word 4
    skipBlanks
    let subject ← word fuel
    if subject.isEmpty then unexpected
    expect "in"
    let mut arms : List (List Word × Script) := []
    for _ in [0:(← remaining)] do
      skipLines
      if (← peekReserved) == some "esac" then break
      if (← atEnd) then fail "end of file unexpected (expecting \"esac\")"
      if (← peek) == '(' then advance
      let mut patterns : List Word := []
      for _ in [0:(← remaining)] do
        skipBlanks
        let p ← word fuel
        if p.isEmpty then unexpected
        patterns := patterns ++ [p]
        skipBlanks
        if (← peek) == '|' then advance else break
      if (← peek) != ')' then unexpected
      advance
      let body ← list fuel
      arms := arms ++ [(patterns, body)]
      skipLines
      if (← atArmEnd) then
        advance
        advance
      else break
    expect "esac"
    return .caseOf subject arms (← trailingRedirects fuel)
  | some "\x7b" =>
    let _ ← word 4
    let body ← list fuel
    expect "\x7d"
    return .group body (← trailingRedirects fuel)
  | some w =>
    if closingWords.contains w || w == "in" then fail ("\"" ++ w ++ "\" unexpected")
    simple fuel
  | none => simple fuel

end

/-- Reads the next top-level line of a script: the and-or lists up to the end of a line.
`none` at the end of the text. -/
def line (fuel : Nat) : ParseM (Option Script) := do
  skipLines
  if (← atEnd) then return none
  let mut items : Script := []
  for _ in [0:(← remaining)] do
    items := items ++ [← andOr fuel]
    skipBlanks
    let c ← peek
    if (← atEnd) then break
    if c == '\n' then
      advance
      break
    if (c == ';' || c == '&') && !(← atArmEnd) && (← peekAt 1) != '&' then
      advance
      skipBlanks
      if (← atEnd) then break
      if (← peek) == '\n' then
        advance
        break
    else unexpected
  return some items

def fuelFor (text : String) : Nat := 8 * text.length + 16

/-- Reads a whole text. -/
def script (text : String) : Except SyntaxError Script :=
  let chars := text.toList.toArray
  let reading : ParseM Script := do
    let mut items : Script := []
    for _ in [0:chars.size + 1] do
      match ← line (fuelFor text) with
      | some more => items := items ++ more
      | none => break
    pure items
  (reading.run.run { chars }).1

end Parse

end Testbed.Shell
