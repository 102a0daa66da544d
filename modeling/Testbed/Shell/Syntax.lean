/-!
# Shell syntax

The programs the machine runs are scripts of the POSIX shell language, limited to what a script
made of shell builtins needs: simple commands with assignments and redirections, pipelines,
`&&` and `||` lists, brace groups and subshells, `if`, `while`, `until`, `for` and `case`.

A word is a sequence of pieces. Literal text is matched as a pattern where patterns are read but
never split into fields; quoted text is taken as it is. Parameter expansions, arithmetic and
command substitutions remember whether they stood inside double quotes, because only unquoted
results are split into fields.
-/

namespace Testbed.Shell

/-- One piece of a word. -/
inductive Piece where
  | literal (text : String)
  | quoted (text : String)
  | param (name : String) (inQuotes : Bool)
  | paramWith (name : String) (op : String) (operand : List Piece) (inQuotes : Bool)
  | paramLength (name : String) (inQuotes : Bool)
  | arith (expr : List Piece) (inQuotes : Bool)
  | subst (body : String) (inQuotes : Bool)
  deriving Inhabited, Repr

abbrev Word := List Piece

/-- What a redirection does with its file descriptor. -/
inductive RedirectKind where
  | input
  | output
  | append
  | duplicate
  deriving DecidableEq, Inhabited, Repr

/-- A redirection of one file descriptor. -/
structure Redirect where
  fd : Nat
  kind : RedirectKind
  target : Word
  deriving Inhabited, Repr

mutual

/-- A command of the shell language. -/
inductive Command where
  | simple (assigns : List (String × Word)) (words : List Word) (redirects : List Redirect)
      (line : Nat)
  | group (body : List AndOr) (redirects : List Redirect)
  | subshell (body : List AndOr) (redirects : List Redirect)
  | ifThen (branches : List (List AndOr × List AndOr)) (otherwise : List AndOr)
      (redirects : List Redirect)
  | loop (untilDone : Bool) (condition : List AndOr) (body : List AndOr)
      (redirects : List Redirect)
  | forEach (name : String) (items : Option (List Word)) (body : List AndOr)
      (redirects : List Redirect)
  | caseOf (subject : Word) (arms : List (List Word × List AndOr)) (redirects : List Redirect)

/-- Commands joined by pipes, possibly negated with `!`. -/
inductive Pipeline where
  | mk (negated : Bool) (commands : List Command)

/-- Pipelines joined by `&&` (`true`) and `||` (`false`). -/
inductive AndOr where
  | mk (first : Pipeline) (rest : List (Bool × Pipeline))

end

instance : Inhabited Pipeline := ⟨.mk false []⟩

instance : Inhabited AndOr := ⟨.mk default []⟩

abbrev Script := List AndOr

def reservedWords : List String :=
  ["if", "then", "else", "elif", "fi", "do", "done", "case", "esac", "while", "until", "for",
   "in", "\x7b", "\x7d", "!"]

def closingWords : List String := ["then", "else", "elif", "fi", "do", "done", "esac", "\x7d"]

def nameChar (first : Bool) (c : Char) : Bool :=
  c.isAlpha || c == '_' || (!first && c.isDigit)

def isName (text : String) : Bool :=
  match text.toList with
  | [] => false
  | c :: rest => nameChar true c && rest.all (nameChar false)

end Testbed.Shell
