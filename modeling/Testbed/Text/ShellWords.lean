/-!
# Words for a POSIX shell

A list of arguments is written as one command line that a POSIX shell splits back into the
same arguments. A word without blanks keeps its characters and puts a backslash before each
one the shell would treat specially (and before a leading tilde); a word holding a space, tab
or newline is single-quoted instead, with each of its own single quotes written as an escaped
quote between quoted runs. The empty word is written as two single quotes.
-/

namespace Testbed.ShellWords

def specialChars : List Char :=
  ['\\', '\'', '"', '\x60', '$', '\x7b', '[', '|', '&', ';', '<', '>', '(', ')', '*', '?', '!']

def special (c : Char) : Bool := specialChars.contains c

def blank (c : Char) : Bool := c == ' ' || c == '\t' || c == '\n'

def escapeTail : List Char → List Char
  | [] => []
  | c :: rest => (if special c then ['\\', c] else [c]) ++ escapeTail rest

/-- Backslash-escapes every special character; a leading tilde is escaped too, since the shell
would expand it to a home directory. -/
def escape : List Char → List Char
  | [] => []
  | c :: rest => (if special c || c == '~' then ['\\', c] else [c]) ++ escapeTail rest

/-- A run of characters between single quotes, or nothing for an empty run. -/
def quotedRun (run : List Char) : List Char :=
  if run.isEmpty then [] else '\'' :: run ++ ['\'']

/-- Single-quotes a word: `run` holds the characters read since the last single quote, and each
single quote of the word is written as an escaped quote outside the quoted runs. -/
def singleQuoted (run : List Char) : List Char → List Char
  | [] => quotedRun run
  | c :: rest =>
    if c == '\'' then quotedRun run ++ ['\\', '\''] ++ singleQuoted [] rest
    else singleQuoted (run ++ [c]) rest

def quote (word : String) : String :=
  let chars := word.toList
  if chars.isEmpty then "''"
  else if chars.any blank then String.ofList (singleQuoted [] chars)
  else String.ofList (escape chars)

def join (words : List String) : String := " ".intercalate (words.map quote)

end Testbed.ShellWords
