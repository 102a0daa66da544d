import Testbed.Json.Value
import Testbed.Text.Quoted

/-!
# Reading JSON text

The reader takes characters off the front of the text. It skips blanks (space, tab, line feed,
carriage return), then reads one value: an object, an array, a string with its escapes, a
number, or one of the words `true`, `false` and `null`. Anything but blanks after that value is
an error. An error names the character that broke the grammar and what the reader was looking
for at that point, or says that the text ended too early.

Nesting is bounded by a fuel argument that `read` sets from the length of the text: every step
of the reader consumes a character, so the fuel is never the reason a reading stops.
-/

namespace Testbed.Json

/-- Why a text is not JSON. -/
inductive SyntaxError where
  | unexpectedEnd
  | invalid (c : Char) (context : String)
  deriving Repr, BEq

/-- The first byte of a character's UTF-8 encoding, as a character of that code. Errors name
bytes, so a character beyond ASCII is shown by its lead byte. -/
def leadByte (c : Char) : Char :=
  let n := c.toNat
  if n < 0x80 then c
  else if n < 0x800 then Char.ofNat (0xC0 + n / 0x40)
  else if n < 0x10000 then Char.ofNat (0xE0 + n / 0x1000)
  else Char.ofNat (0xF0 + n / 0x40000)

/-- A character between single quotes, escaped as in double-quoted text. -/
def showChar (c : Char) : String :=
  let b := leadByte c
  if b == '\'' then "'\\''"
  else if b == '"' then "'\"'"
  else
    let quoted := (Quoted.quote (String.singleton b)).toList
    "'" ++ String.ofList ((quoted.drop 1).take (quoted.length - 2)) ++ "'"

def SyntaxError.message : SyntaxError → String
  | .unexpectedEnd => "unexpected end of JSON input"
  | .invalid c context => "invalid character " ++ showChar c ++ " " ++ context

def isBlank (c : Char) : Bool := c == ' ' || c == '\t' || c == '\n' || c == '\r'

def skipBlanks (text : List Char) : List Char := text.dropWhile isBlank

/-- Reads the remaining letters of a word whose first letter was read. -/
def readWord (word : String) : List Char → List Char → Except SyntaxError (List Char)
  | [], rest => .ok rest
  | _ :: _, [] => .error .unexpectedEnd
  | w :: ws, c :: rest =>
    if c == w then readWord word ws rest
    else .error (.invalid c ("in literal " ++ word ++ " (expecting " ++ showChar w ++ ")"))

/-- Reads decimal digits, at least one. -/
def readDigits (text : List Char) : Except SyntaxError (List Char × List Char) :=
  match text with
  | [] => .error .unexpectedEnd
  | c :: rest =>
    if c.isDigit then .ok (c :: rest.takeWhile Char.isDigit, rest.dropWhile Char.isDigit)
    else .error (.invalid c "in numeric literal")

/-- Reads the fraction of a number: a dot and digits, or nothing. -/
def readFraction (text : List Char) : Except SyntaxError (List Char × List Char) :=
  match text with
  | '.' :: more => do
    let (digits, rest) ← readDigits more
    pure ('.' :: digits, rest)
  | _ => pure ([], text)

def signPart (more : List Char) : List Char × List Char :=
  match more with
  | '+' :: after => (['+'], after)
  | '-' :: after => (['-'], after)
  | _ => ([], more)

/-- Reads the exponent of a number after its fraction: a letter `e`, a sign and digits, or
nothing. -/
def readExponent (fraction rest : List Char) : Except SyntaxError (List Char × List Char) :=
  match rest with
  | e :: more =>
    if e == 'e' || e == 'E' then do
      let (sign, body) := signPart more
      let (digits, left) ← readDigits body
      pure (fraction ++ e :: sign ++ digits, left)
    else pure (fraction, rest)
  | [] => pure (fraction, [])

def readNumberTail (text : List Char) : Except SyntaxError (List Char × List Char) := do
  let (fraction, rest) ← readFraction text
  readExponent fraction rest

def minusPart (text : List Char) : List Char × List Char :=
  match text with
  | '-' :: rest => (['-'], rest)
  | _ => ([], text)

def readWhole (body : List Char) : Except SyntaxError (List Char × List Char) :=
  match body with
  | '0' :: rest => pure (['0'], rest)
  | _ => readDigits body

/-- Reads a number: an optional minus, a whole part without leading zeros, a fraction and an
exponent. Its literal text is kept. -/
def readNumber (text : List Char) : Except SyntaxError (Json × List Char) := do
  let (sign, body) := minusPart text
  let (whole, rest) ← readWhole body
  let (tail, left) ← readNumberTail rest
  pure (.number (String.ofList (sign ++ whole ++ tail)), left)

def hexValue (c : Char) : Option Nat :=
  if c.isDigit then some (c.toNat - '0'.toNat)
  else if 'a' ≤ c && c ≤ 'f' then some (c.toNat - 'a'.toNat + 10)
  else if 'A' ≤ c && c ≤ 'F' then some (c.toNat - 'A'.toNat + 10)
  else none

/-- Reads the four hexadecimal digits of a `\u` escape. -/
def readHex4 (text : List Char) : Except SyntaxError (Nat × List Char) :=
  let rec go : Nat → Nat → List Char → Except SyntaxError (Nat × List Char)
    | 0, value, rest => .ok (value, rest)
    | _ + 1, _, [] => .error .unexpectedEnd
    | n + 1, value, c :: rest =>
      match hexValue c with
      | some d => go n (value * 16 + d) rest
      | none => .error (.invalid c "in \\u hexadecimal character escape")
  go 4 0 text

def isSurrogate (n : Nat) : Bool := 0xD800 ≤ n && n < 0xE000

/-- The character of a `\u` escape, joining a surrogate pair when a low surrogate escape
follows a high one; a surrogate that is not part of a pair becomes the replacement character
and the escape after it is read on its own. -/
def surrogateJoin (high : Nat) (rest : List Char) : Char × List Char :=
  match rest with
  | '\\' :: 'u' :: more =>
    match readHex4 more with
    | .ok (low, after) =>
      if high < 0xDC00 && 0xDC00 ≤ low && low < 0xE000 then
        (Char.ofNat (0x10000 + (high - 0xD800) * 0x400 + (low - 0xDC00)), after)
      else ('�', rest)
    | .error _ => ('�', rest)
  | _ => ('�', rest)

/-- Reads the characters of a string after its opening quote, up to the closing quote. -/
def readStringBody : (fuel : Nat) → List Char → List Char → Except SyntaxError (String × List Char)
  | 0, _, _ => .error .unexpectedEnd
  | _ + 1, _, [] => .error .unexpectedEnd
  | fuel + 1, acc, c :: rest =>
    if c == '"' then .ok (String.ofList acc.reverse, rest)
    else if c == '\\' then
      match rest with
      | [] => .error .unexpectedEnd
      | e :: more =>
        if e == '"' || e == '\\' || e == '/' then readStringBody fuel (e :: acc) more
        else if e == 'b' then readStringBody fuel ('\x08' :: acc) more
        else if e == 'f' then readStringBody fuel ('\x0c' :: acc) more
        else if e == 'n' then readStringBody fuel ('\n' :: acc) more
        else if e == 'r' then readStringBody fuel ('\r' :: acc) more
        else if e == 't' then readStringBody fuel ('\t' :: acc) more
        else if e == 'u' then
          match readHex4 more with
          | .error err => .error err
          | .ok (code, after) =>
            if isSurrogate code then
              let (joined, left) := surrogateJoin code after
              readStringBody fuel (joined :: acc) left
            else readStringBody fuel (Char.ofNat code :: acc) after
        else .error (.invalid e "in string escape code")
    else if c.toNat < 0x20 then .error (.invalid c "in string literal")
    else readStringBody fuel (c :: acc) rest

mutual

/-- Reads one value after blanks. -/
def readValue : (fuel : Nat) → List Char → Except SyntaxError (Json × List Char)
  | 0, _ => .error .unexpectedEnd
  | fuel + 1, text =>
    match skipBlanks text with
    | [] => .error .unexpectedEnd
    | c :: rest =>
      if c == '{' then readMembers fuel true [] rest
      else if c == '[' then readItems fuel true [] rest
      else if c == '"' then do
        let (s, left) ← readStringBody (rest.length + 1) [] rest
        pure (.string s, left)
      else if c == '-' || c.isDigit then readNumber (c :: rest)
      else if c == 't' then do
        let left ← readWord "true" "rue".toList rest
        pure (.bool true, left)
      else if c == 'f' then do
        let left ← readWord "false" "alse".toList rest
        pure (.bool false, left)
      else if c == 'n' then do
        let left ← readWord "null" "ull".toList rest
        pure (.null, left)
      else .error (.invalid c "looking for beginning of value")

/-- Reads the items of an array after its opening bracket or a comma. -/
def readItems : (fuel : Nat) → Bool → List Json → List Char → Except SyntaxError (Json × List Char)
  | 0, _, _, _ => .error .unexpectedEnd
  | fuel + 1, first, acc, text =>
    match skipBlanks text with
    | [] => .error .unexpectedEnd
    | c :: rest =>
      if first && c == ']' then .ok (.array [], rest)
      else do
        let (item, after) ← readValue fuel (c :: rest)
        match skipBlanks after with
        | [] => .error .unexpectedEnd
        | d :: left =>
          if d == ',' then readItems fuel false (item :: acc) left
          else if d == ']' then .ok (.array (item :: acc).reverse, left)
          else .error (.invalid d "after array element")

/-- Reads the members of an object after its opening brace or a comma. -/
def readMembers : (fuel : Nat) → Bool → List (String × Json) → List Char → Except SyntaxError (Json × List Char)
  | 0, _, _, _ => .error .unexpectedEnd
  | fuel + 1, first, acc, text =>
    match skipBlanks text with
    | [] => .error .unexpectedEnd
    | c :: rest =>
      if first && c == '}' then .ok (.object [], rest)
      else if c != '"' then .error (.invalid c "looking for beginning of object key string")
      else do
        let (key, afterKey) ← readStringBody (rest.length + 1) [] rest
        match skipBlanks afterKey with
        | [] => .error .unexpectedEnd
        | colon :: afterColon =>
          if colon != ':' then .error (.invalid colon "after object key")
          else do
            let (value, after) ← readValue fuel afterColon
            match skipBlanks after with
            | [] => .error .unexpectedEnd
            | d :: left =>
              if d == ',' then readMembers fuel false ((key, value) :: acc) left
              else if d == '}' then .ok (.object ((key, value) :: acc).reverse, left)
              else .error (.invalid d "after object key:value pair")

end

/-- Reads a whole text as one JSON value. -/
def read (text : String) : Except SyntaxError Json := do
  let chars := text.toList
  let (value, rest) ← readValue (2 * chars.length + 2) chars
  match skipBlanks rest with
  | [] => pure value
  | c :: _ => .error (.invalid c "after top-level value")

end Testbed.Json
