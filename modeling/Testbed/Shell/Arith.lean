import Testbed.Shell.Syntax

/-!
# Shell arithmetic

An arithmetic expansion `$((...))` evaluates an expression of signed 64-bit integers with the
operators of C: unary `+ - ! ~`, the binary operators from `*` down to `||`, the conditional
`?:`, and assignments `=`, `+=` and the like to variables. A variable stands for its value,
which must be an integer constant (decimal, octal with a leading `0`, or hexadecimal with
`0x`); an unset or empty variable is zero. `&&`, `||` and `?:` evaluate only the operands they
need, so an assignment in a skipped operand does not happen.

Errors are reported the way the shell reports them: the reason, then the expression in quotes.
-/

namespace Testbed.Shell.Arith

/-- A token of an arithmetic expression. -/
inductive Token where
  | number (value : Int)
  | name (text : String)
  | op (text : String)
  deriving DecidableEq, Inhabited, Repr

/-- An arithmetic expression. -/
inductive Expr where
  | number (value : Int)
  | var (name : String)
  | unary (op : String) (arg : Expr)
  | binary (op : String) (lhs rhs : Expr)
  | cond (test yes no : Expr)
  | assign (name : String) (op : String) (value : Expr)
  deriving Inhabited, Repr

/-- The operators, longest first so that a longer one wins. -/
def operators : List String :=
  ["<<=", ">>=", "||", "&&", "==", "!=", "<=", ">=", "<<", ">>", "+=", "-=", "*=", "/=", "%=",
   "&=", "|=", "^=", "+", "-", "*", "/", "%", "<", ">", "&", "|", "^", "!", "~", "?", ":", "=",
   "(", ")"]

def modulus : Int := 18446744073709551616

/-- An integer brought into the signed 64-bit range by wrapping around. -/
def wrap (value : Int) : Int :=
  let shifted := (value + modulus / 2) % modulus
  shifted - modulus / 2

def digitValue (c : Char) : Option Nat :=
  if c.isDigit then some (c.toNat - '0'.toNat)
  else if 'a' ≤ c && c ≤ 'f' then some (c.toNat - 'a'.toNat + 10)
  else if 'A' ≤ c && c ≤ 'F' then some (c.toNat - 'A'.toNat + 10)
  else none

/-- Reads digits of a base; `none` when one is not a digit of that base. -/
def digitsIn (base : Nat) (chars : List Char) : Option Nat :=
  chars.foldlM (fun acc c => do
    let d ← digitValue c
    if d < base then some (acc * base + d) else none) 0

/-- Reads an integer constant: optional sign, then decimal, octal after `0` or hexadecimal
after `0x`. -/
def constant? (text : String) : Option Int :=
  let chars := (text.toList.dropWhile (fun c => c == ' ' || c == '\t' || c == '\n'))
  let (negative, digits) := match chars with
    | '-' :: rest => (true, rest)
    | '+' :: rest => (false, rest)
    | other => (false, other)
  let magnitude := match digits with
    | [] => none
    | '0' :: x :: rest => if x == 'x' || x == 'X' then
        (if rest.isEmpty then none else digitsIn 16 rest) else digitsIn 8 (x :: rest)
    | other => digitsIn 10 other
  magnitude.map fun m => wrap (if negative then -(m : Int) else m)

/-- Splits an expression's text into tokens. -/
def tokenize (text : String) : Except String (List Token) := do
  let chars := text.toList
  let mut rest := chars
  let mut tokens : Array Token := #[]
  for _ in [0:chars.length + 1] do
    match rest with
    | [] => break
    | c :: more =>
      if c == ' ' || c == '\t' || c == '\n' then
        rest := more
      else if c.isDigit then
        let word := rest.takeWhile fun d => d.isAlphanum
        match constant? (String.ofList word) with
        | some value => tokens := tokens.push (.number value)
        | none => throw "expecting EOF"
        rest := rest.drop word.length
      else if nameChar true c then
        let word := rest.takeWhile (nameChar false)
        tokens := tokens.push (.name (String.ofList word))
        rest := rest.drop word.length
      else
        match operators.find? fun op => op.toList.isPrefixOf rest with
        | some op =>
          tokens := tokens.push (.op op)
          rest := rest.drop op.length
        | none => throw "expecting EOF"
  pure tokens.toList

def levels : List (List String) :=
  [["||"], ["&&"], ["|"], ["^"], ["&"], ["==", "!="], ["<", "<=", ">", ">="], ["<<", ">>"],
   ["+", "-"], ["*", "/", "%"]]

def assignOps : List String := ["=", "+=", "-=", "*=", "/=", "%=", "<<=", ">>=", "&=", "|=", "^="]

mutual

/-- Reads an expression: an assignment or a conditional. -/
def expr (fuel : Nat) (tokens : List Token) : Except String (Expr × List Token) :=
  match fuel with
  | 0 => .error "expression too deep"
  | fuel + 1 =>
    match tokens with
    | .name n :: .op op :: rest =>
      if assignOps.contains op then do
        let (value, after) ← expr fuel rest
        pure (.assign n op value, after)
      else conditional fuel tokens
    | _ => conditional fuel tokens

/-- Reads a conditional `a ? b : c`, or a binary expression. -/
def conditional (fuel : Nat) (tokens : List Token) : Except String (Expr × List Token) :=
  match fuel with
  | 0 => .error "expression too deep"
  | fuel + 1 => do
    let (test, rest) ← binary fuel levels tokens
    match rest with
    | .op "?" :: rest => do
      let (yes, rest) ← expr fuel rest
      match rest with
      | .op ":" :: rest => do
        let (no, rest) ← conditional fuel rest
        pure (.cond test yes no, rest)
      | _ => .error "expecting \x27:\x27"
    | _ => pure (test, rest)

/-- Reads a binary expression whose operators are at the given levels or tighter. -/
def binary (fuel : Nat) (ops : List (List String)) (tokens : List Token) :
    Except String (Expr × List Token) :=
  match fuel with
  | 0 => .error "expression too deep"
  | fuel + 1 =>
    match ops with
    | [] => unary fuel tokens
    | level :: tighter => do
      let (first, rest) ← binary fuel tighter tokens
      let mut lhs := first
      let mut rest := rest
      for _ in [0:tokens.length + 1] do
        match rest with
        | .op op :: more =>
          if level.contains op then
            let (rhs, after) ← binary fuel tighter more
            lhs := .binary op lhs rhs
            rest := after
          else break
        | _ => break
      pure (lhs, rest)

/-- Reads a unary expression or a primary one. -/
def unary (fuel : Nat) (tokens : List Token) : Except String (Expr × List Token) :=
  match fuel with
  | 0 => .error "expression too deep"
  | fuel + 1 =>
    match tokens with
    | .op op :: rest =>
      if op == "+" || op == "-" || op == "!" || op == "~" then do
        let (arg, after) ← unary fuel rest
        pure (.unary op arg, after)
      else if op == "(" then do
        let (inner, after) ← expr fuel rest
        match after with
        | .op ")" :: after => pure (inner, after)
        | _ => .error "expecting \x27)\x27"
      else .error "expecting primary"
    | .number value :: rest => pure (.number value, rest)
    | .name n :: rest => pure (.var n, rest)
    | [] => .error "expecting primary"

end

/-- Reads a whole expression; an empty one is zero. -/
def parse (tokens : List Token) : Except String Expr :=
  if tokens.isEmpty then pure (.number 0)
  else do
    let (e, rest) ← expr (16 * tokens.length + 32) tokens
    if rest.isEmpty then pure e else throw "expecting EOF"

/-- The value of a variable in an expression. -/
def varValue (vars : List (String × String)) (n : String) : Except String Int :=
  match vars.lookup n with
  | none => pure 0
  | some text =>
    if text.isEmpty then pure 0
    else match constant? text with
      | some value => pure value
      | none => throw ("Illegal number: " ++ text)

def ofBool (b : Bool) : Int := if b then 1 else 0

def bits (value : Int) : BitVec 64 := BitVec.ofInt 64 value

/-- Applies a binary operator to two values. -/
def applyBinary (op : String) (a b : Int) : Except String Int :=
  match op with
  | "+" => pure (wrap (a + b))
  | "-" => pure (wrap (a - b))
  | "*" => pure (wrap (a * b))
  | "/" => if b == 0 then throw "division by zero" else pure (wrap (a.tdiv b))
  | "%" => if b == 0 then throw "division by zero" else pure (wrap (a.tmod b))
  | "<<" => pure (bits a <<< (b % 64).toNat).toInt
  | ">>" => pure (BitVec.sshiftRight (bits a) (b % 64).toNat).toInt
  | "&" => pure (bits a &&& bits b).toInt
  | "|" => pure (bits a ||| bits b).toInt
  | "^" => pure (bits a ^^^ bits b).toInt
  | "==" => pure (ofBool (a == b))
  | "!=" => pure (ofBool (a != b))
  | "<" => pure (ofBool (a < b))
  | "<=" => pure (ofBool (a ≤ b))
  | ">" => pure (ofBool (a > b))
  | ">=" => pure (ofBool (a ≥ b))
  | _ => throw "expecting EOF"

def setVar (vars : List (String × String)) (n value : String) : List (String × String) :=
  if vars.any (·.1 == n) then vars.map fun (k, v) => if k == n then (k, value) else (k, v)
  else vars ++ [(n, value)]

/-- Evaluates an expression over variables, giving its value and the variables after its
assignments. -/
def eval : Expr → List (String × String) → Except String (Int × List (String × String))
  | .number value, vars => pure (value, vars)
  | .var n, vars => do pure (← varValue vars n, vars)
  | .unary op arg, vars => do
    let (v, vars) ← eval arg vars
    let result := match op with
      | "-" => wrap (-v)
      | "!" => ofBool (v == 0)
      | "~" => (~~~ bits v).toInt
      | _ => v
    pure (result, vars)
  | .binary "&&" lhs rhs, vars => do
    let (a, vars) ← eval lhs vars
    if a == 0 then pure (0, vars)
    else do
      let (b, vars) ← eval rhs vars
      pure (ofBool (b != 0), vars)
  | .binary "||" lhs rhs, vars => do
    let (a, vars) ← eval lhs vars
    if a != 0 then pure (1, vars)
    else do
      let (b, vars) ← eval rhs vars
      pure (ofBool (b != 0), vars)
  | .binary op lhs rhs, vars => do
    let (a, vars) ← eval lhs vars
    let (b, vars) ← eval rhs vars
    pure (← applyBinary op a b, vars)
  | .cond test yes no, vars => do
    let (t, vars) ← eval test vars
    if t != 0 then eval yes vars else eval no vars
  | .assign n op value, vars => do
    let (v, vars) ← eval value vars
    let result ← if op == "=" then pure v
      else applyBinary (String.ofList op.toList.dropLast) (← varValue vars n) v
    pure (result, setVar vars n (toString result))

/-- Evaluates the text of an arithmetic expansion; an error names the reason and the text. -/
def evaluate (text : String) (vars : List (String × String)) :
    Except String (Int × List (String × String)) :=
  let quoted := ": \"" ++ text ++ "\""
  match tokenize text >>= parse with
  | .error reason => .error ("arithmetic expression: " ++ reason ++ quoted)
  | .ok e =>
    match eval e vars with
    | .ok result => .ok result
    | .error reason =>
      if reason.startsWith "Illegal number" then .error reason
      else .error ("arithmetic expression: " ++ reason ++ quoted)

end Testbed.Shell.Arith
