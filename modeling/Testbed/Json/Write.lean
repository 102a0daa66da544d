import Testbed.Json.Value
import Testbed.Text.Quoted

/-!
# Writing JSON text

Values are written compactly, members in their order. In a string, the quote and backslash get
a backslash, the five usual control characters their letter escapes, and every other control
character a six-character `\u00XX` escape. The characters `<`, `>` and `&` are escaped the
same way, so the text can be embedded in a web page safely, and so are the line and paragraph
separators U+2028 and U+2029, which some readers of JSON do not accept raw.
-/

namespace Testbed.Json

/-- How one character of a string is written. -/
def escapeChar (c : Char) : List Char :=
  if c == '"' || c == '\\' then ['\\', c]
  else if c == '\x08' then ['\\', 'b']
  else if c == '\x0c' then ['\\', 'f']
  else if c == '\n' then ['\\', 'n']
  else if c == '\r' then ['\\', 'r']
  else if c == '\t' then ['\\', 't']
  else if c.toNat < 0x20 || c == '<' || c == '>' || c == '&' then
    ['\\', 'u'] ++ Quoted.hexDigits 4 c.toNat
  else if c.toNat == 0x2028 || c.toNat == 0x2029 then ['\\', 'u'] ++ Quoted.hexDigits 4 c.toNat
  else [c]

def quote (text : String) : String :=
  String.ofList ('"' :: text.toList.flatMap escapeChar ++ ['"'])

mutual

/-- The compact text of a value. -/
def render : Json → String
  | .null => "null"
  | .bool true => "true"
  | .bool false => "false"
  | .number literal => literal
  | .string s => quote s
  | .array items => "[" ++ ",".intercalate (renderItems items) ++ "]"
  | .object members => "\x7b" ++ ",".intercalate (renderMembers members) ++ "\x7d"

def renderItems : List Json → List String
  | [] => []
  | item :: rest => render item :: renderItems rest

def renderMembers : List (String × Json) → List String
  | [] => []
  | (key, value) :: rest => (quote key ++ ":" ++ render value) :: renderMembers rest

end

end Testbed.Json
