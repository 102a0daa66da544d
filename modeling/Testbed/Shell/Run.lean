import Testbed.Shell.Parse
import Testbed.Shell.Format
import Testbed.Disk

/-!
# Running shell scripts

A shell runs a script on a file system with variables, positional parameters and a standard
input, and writes to its standard output and standard error. Each write is kept as one piece of
output on its channel, in order, so a caller can join the two channels or keep them apart as
the program's descriptors direct.

Commands are the builtins of the shell: `:`, `true`, `false`, `echo`, `printf`, `read`, `test`
and `[`, `exit`, `kill`, `set`, `shift`, `export`, `unset`, `eval`, `trap`, `break`, `continue`
and a few that only succeed. The options of `set` that change a run are `-e`, which ends the
shell at a failed command outside a condition, `-u`, which refuses unset parameters, and `-x`,
which writes each command to standard error before running it; the trap on `EXIT` runs when
the shell or a copy of it ends, but not when it is killed. Any other command is not found, since the only programs on the search
path are the ones the machine runs directly. Errors are written the way the shell writes them:
the shell's name, the line, and the message.

Expansion follows the POSIX order: parameters, arithmetic and command substitutions first, then
the splitting of unquoted results into fields on the characters of `IFS`. Patterns of `case`
and of the `#` and `%` operators match with `*`, `?` and bracket sets, except where quoted.

A run is bounded by fuel: every level of nesting and every loop iteration uses some, and a run
that uses it all stops as if killed.
-/

namespace Testbed.Shell

/-- The stream a write goes to. -/
inductive Channel where
  | out
  | err
  deriving DecidableEq, Inhabited, Repr

/-- Where the writes of a descriptor go. -/
inductive Sink where
  | stream (channel : Channel)
  | file (path : String)
  | discard
  | capture (slot : Nat)
  deriving DecidableEq, Inhabited, Repr

/-- The descriptors of a command: its input, if open, and where output and errors go. -/
structure Fds where
  input : Option Nat := some 0
  out : Sink := .stream .out
  err : Sink := .stream .err
  deriving Inhabited, Repr

/-- The state of a running shell. -/
structure Proc where
  vars : List (String × String)
  params : List String
  name : String
  pid : Nat
  status : Nat := 0
  line : Nat := 0
  substStatus : Option Nat := none
  options : List Char := []
  exitTrap : Option String := none
  checking : Nat := 0
  disk : Disk
  inputs : Array String
  writes : Array (Channel × String) := #[]
  captures : Array String := #[]
  deriving Inhabited

/-- Why a run stopped before the end of its commands. -/
inductive Stop where
  | exit (code : Nat)
  | killed (signal : Nat)
  | breakLoop (levels : Nat)
  | continueLoop (levels : Nat)
  | exhausted
  deriving Inhabited, Repr

abbrev ShellM := ExceptT Stop (StateM Proc)

/-- A piece of an expanded word. -/
inductive Segment where
  | text (value : String) (quoted : Bool)
  | split (value : String)
  | fieldBreak
  deriving Inhabited, Repr

def defaultIfs : String := " \t\n"

/-- Splits an expanded word into fields. -/
def fields (ifs : String) (segments : List Segment) : List String := Id.run do
  let separators := ifs.toList
  let mut done : Array String := #[]
  let mut current := ""
  let mut started := false
  for segment in segments do
    match segment with
    | .text value _ =>
      current := current ++ value
      started := true
    | .fieldBreak =>
      done := done.push current
      current := ""
      started := true
    | .split value =>
      for c in value.toList do
        if separators.contains c then
          if started then done := done.push current
          current := ""
          started := false
        else
          current := current.push c
          started := true
  if started then done := done.push current
  done.toList

def joined (segments : List Segment) : String :=
  String.join (segments.map fun
    | .text value _ => value
    | .split value => value
    | .fieldBreak => " ")

def patternChars (segments : List Segment) : List (Char × Bool) :=
  segments.flatMap fun
    | .text value quoted => value.toList.map (·, !quoted)
    | .split value => value.toList.map (·, true)
    | .fieldBreak => [(' ', false)]

/-- An element of a pattern. -/
inductive Glob where
  | any
  | one
  | lit (c : Char)
  | set (negated : Bool) (ranges : List (Char × Char))
  deriving Inhabited, Repr

/-- Reads a bracket set after its `[`: the set and what follows, or `none` when it does not
close. -/
def bracket (chars : List (Char × Bool)) : Option (Glob × List (Char × Bool)) := Id.run do
  let (negated, rest) := match chars with
    | ('!', true) :: more => (true, more)
    | ('^', true) :: more => (true, more)
    | other => (false, other)
  let mut ranges : Array (Char × Char) := #[]
  let mut rest := rest
  let mut first := true
  for _ in [0:chars.length + 1] do
    match rest with
    | [] => return none
    | (']', true) :: more =>
      if first then
        ranges := ranges.push (']', ']')
        rest := more
      else return some (.set negated ranges.toList, more)
    | (lo, _) :: ('-', true) :: (hi, hiActive) :: more =>
      if hi == ']' && hiActive then
        ranges := ranges.push (lo, lo)
        rest := ('-', true) :: (hi, hiActive) :: more
      else
        ranges := ranges.push (lo, hi)
        rest := more
    | (c, _) :: more =>
      ranges := ranges.push (c, c)
      rest := more
    first := false
  none

/-- Reads pattern characters into pattern elements. -/
def globOf (chars : List (Char × Bool)) : List Glob := Id.run do
  let mut out : Array Glob := #[]
  let mut rest := chars
  for _ in [0:chars.length + 1] do
    match rest with
    | [] => break
    | ('*', true) :: more =>
      out := out.push .any
      rest := more
    | ('?', true) :: more =>
      out := out.push .one
      rest := more
    | ('[', true) :: more =>
      match bracket more with
      | some (g, after) =>
        out := out.push g
        rest := after
      | none =>
        out := out.push (.lit '[')
        rest := more
    | (c, _) :: more =>
      out := out.push (.lit c)
      rest := more
  out.toList

/-- Whether a text matches a pattern. -/
def globMatch : List Glob → List Char → Bool
  | [], s => s.isEmpty
  | .any :: rest, s => (List.range (s.length + 1)).any fun k => globMatch rest (s.drop k)
  | .one :: rest, _ :: s => globMatch rest s
  | .lit c :: rest, d :: s => c == d && globMatch rest s
  | .set negated ranges :: rest, d :: s =>
    (negated != ranges.any fun (lo, hi) => lo ≤ d && d ≤ hi) && globMatch rest s
  | _, [] => false

/-- Removes the shortest or longest prefix or suffix of a value that matches a pattern. -/
def trimPattern (op : String) (pattern : List Glob) (value : String) : String :=
  let chars := value.toList
  let n := chars.length
  let cuts := List.range (n + 1)
  match op with
  | "#" =>
    match cuts.find? fun k => globMatch pattern (chars.take k) with
    | some k => String.ofList (chars.drop k)
    | none => value
  | "##" =>
    match cuts.reverse.find? fun k => globMatch pattern (chars.take k) with
    | some k => String.ofList (chars.drop k)
    | none => value
  | "%" =>
    match cuts.find? fun k => globMatch pattern (chars.drop (n - k)) with
    | some k => String.ofList (chars.take (n - k))
    | none => value
  | _ =>
    match cuts.reverse.find? fun k => globMatch pattern (chars.drop (n - k)) with
    | some k => String.ofList (chars.take (n - k))
    | none => value

namespace Run

/-- The value of a parameter, `none` when it is unset. -/
def getVar (n : String) : ShellM (Option String) := do
  let p ← get
  match n with
  | "?" => pure (some (toString p.status))
  | "$" => pure (some (toString p.pid))
  | "#" => pure (some (toString p.params.length))
  | "0" => pure (some p.name)
  | "@" | "*" => pure (some (" ".intercalate p.params))
  | "-" => pure (some "")
  | "!" => pure none
  | _ =>
    if n.all Char.isDigit then pure p.params[n.toNat! - 1]?
    else pure (p.vars.lookup n)

def setVar (n value : String) : ShellM Unit :=
  modify fun p => { p with vars := Arith.setVar p.vars n value }

def unsetVar (n : String) : ShellM Unit :=
  modify fun p => { p with vars := p.vars.filter (·.1 != n) }

def ifs : ShellM String := do
  pure (((← get).vars.lookup "IFS").getD defaultIfs)

def setStatus (code : Nat) : ShellM Unit := modify fun p => { p with status := code }

/-- Writes text to a descriptor: 1 for output, 2 for errors. -/
def write (fds : Fds) (fd : Nat) (text : String) : ShellM Unit := do
  if text.isEmpty then return
  let sink := if fd == 2 then fds.err else fds.out
  modify fun p =>
    match sink with
    | .stream channel => { p with writes := p.writes.push (channel, text) }
    | .file path => { p with disk := (p.disk.append path text).toOption.getD p.disk }
    | .discard => p
    | .capture slot => { p with captures := p.captures.modify slot (· ++ text) }

def complain (fds : Fds) (message : String) : ShellM Unit := do
  let p ← get
  write fds 2 (p.name ++ ": " ++ toString p.line ++ ": " ++ message ++ "\n")

def openInput (text : String) : ShellM Nat :=
  modifyGet fun p => (p.inputs.size, { p with inputs := p.inputs.push text })

def openCapture : ShellM Nat :=
  modifyGet fun p => (p.captures.size, { p with captures := p.captures.push "" })

def captured (slot : Nat) : ShellM String := do
  pure ((← get).captures.getD slot "")

/-- Reads a line of the input: its text and whether a line break ended it. -/
def readLine (fds : Fds) : ShellM (String × Bool) := do
  match fds.input with
  | none => pure ("", false)
  | some slot =>
    let p ← get
    let chars := (p.inputs.getD slot "").toList
    let line := chars.takeWhile (· != '\n')
    let ended := line.length < chars.length
    let rest := String.ofList (chars.drop (line.length + 1))
    set { p with inputs := p.inputs.set! slot rest }
    pure (String.ofList line, ended)

/-- Runs a step in a copy of the shell: its variables, parameters, options and traps are
restored afterwards, and an `exit` inside it only ends the copy. The copy starts without the
exit trap, and runs the one it sets itself, with `trap`, when it ends. -/
def inSubshell (trap : String → ShellM Unit) (body : ShellM Unit) : ShellM Unit := do
  let saved ← get
  modify fun p => { p with exitTrap := none }
  let stopped (stop : Stop) : ShellM (Option Nat) :=
    match stop with
    | .exit code => pure (some code)
    | .breakLoop _ | .continueLoop _ => pure none
    | other => throw other
  let code ← tryCatch (do body; pure none) stopped
  let status := code.getD (← get).status
  let status ← match (← get).exitTrap with
    | none => pure status
    | some action =>
      modify fun p => { p with exitTrap := none, status }
      let code ← tryCatch (do trap action; pure none) stopped
      pure (code.getD status)
  modify fun p => { p with vars := saved.vars, params := saved.params, options := saved.options,
                           exitTrap := saved.exitTrap, checking := saved.checking, status }

/-- The numbers of the signals `kill` knows. -/
def signalNumber (text : String) : Option Nat :=
  let text := if text.startsWith "SIG" then (text.drop 3).toString else text
  if text.all Char.isDigit && !text.isEmpty then some text.toNat!
  else
    match text with
    | "HUP" => some 1
    | "INT" => some 2
    | "QUIT" => some 3
    | "KILL" => some 9
    | "USR1" => some 10
    | "USR2" => some 12
    | "PIPE" => some 13
    | "ALRM" => some 14
    | "TERM" => some 15
    | _ => none

/-- Reads an integer operand of `test`. -/
def testNumber (text : String) : Except String Int :=
  let trimmed := text.trimAscii.toString
  let (negative, digits) := match trimmed.toList with
    | '-' :: rest => (true, rest)
    | '+' :: rest => (false, rest)
    | other => (false, other)
  if digits.isEmpty || !digits.all Char.isDigit then .error ("Illegal number: " ++ text)
  else
    let value : Int := (String.ofList digits).toNat!
    .ok (if negative then -value else value)

def unaryTests : List String :=
  ["-n", "-z", "-e", "-f", "-d", "-s", "-r", "-w", "-x", "-L", "-h", "-b", "-c", "-p", "-S", "-t"]

def binaryTests : List String :=
  ["=", "!=", "==", "<", ">", "-eq", "-ne", "-lt", "-le", "-gt", "-ge", "-nt", "-ot", "-ef"]

/-- Evaluates a unary test. -/
def unaryTest (disk : Disk) (op arg : String) : Bool :=
  match op with
  | "-n" => !arg.isEmpty
  | "-z" => arg.isEmpty
  | "-e" | "-r" | "-w" => disk.exists? arg
  | "-f" => match disk.lookup arg with
    | .ok (.file _) => !arg.isEmpty
    | _ => false
  | "-d" => match disk.lookup arg with
    | .ok .dir => !arg.isEmpty
    | _ => false
  | "-x" => match disk.lookup arg with
    | .ok .dir => !arg.isEmpty
    | _ => false
  | "-s" => match disk.lookup arg with
    | .ok (.file content) => !content.isEmpty
    | .ok .dir => !arg.isEmpty
    | _ => false
  | _ => false

/-- Evaluates a binary test. -/
def binaryTest (a op b : String) : Except String Bool := do
  match op with
  | "=" | "==" => pure (a == b)
  | "!=" => pure (a != b)
  | "<" => pure (a < b)
  | ">" => pure (b < a)
  | "-nt" | "-ot" | "-ef" => pure false
  | _ =>
    let x ← testNumber a
    let y ← testNumber b
    pure (match op with
      | "-eq" => x == y
      | "-ne" => x != y
      | "-lt" => x < y
      | "-le" => x ≤ y
      | "-gt" => x > y
      | _ => x ≥ y)

mutual

/-- An `-o` expression of `test`. -/
def testOr (disk : Disk) (fuel : Nat) (args : List String) : Except String (Bool × List String) :=
  match fuel with
  | 0 => .error "expression too deep"
  | fuel + 1 => do
    let (a, rest) ← testAnd disk fuel args
    match rest with
    | "-o" :: more =>
      let (b, rest) ← testOr disk fuel more
      pure (a || b, rest)
    | _ => pure (a, rest)

/-- An `-a` expression of `test`. -/
def testAnd (disk : Disk) (fuel : Nat) (args : List String) : Except String (Bool × List String) :=
  match fuel with
  | 0 => .error "expression too deep"
  | fuel + 1 => do
    let (a, rest) ← testNot disk fuel args
    match rest with
    | "-a" :: more =>
      let (b, rest) ← testAnd disk fuel more
      pure (a && b, rest)
    | _ => pure (a, rest)

/-- A negated or primary expression of `test`. -/
def testNot (disk : Disk) (fuel : Nat) (args : List String) : Except String (Bool × List String) :=
  match fuel with
  | 0 => .error "expression too deep"
  | fuel + 1 =>
    match args with
    | "!" :: rest@(_ :: _) => do
      let (a, rest) ← testNot disk fuel rest
      pure (!a, rest)
    | "(" :: rest@(_ :: _) => do
      let (a, rest) ← testOr disk fuel rest
      match rest with
      | ")" :: more => pure (a, more)
      | _ => .error "closing paren expected"
    | op :: arg :: rest =>
      if binaryTests.contains arg then
        match rest with
        | b :: more => do pure (← binaryTest op arg b, more)
        | [] => .error "argument expected"
      else if unaryTests.contains op then pure (unaryTest disk op arg, rest)
      else pure (!op.isEmpty, arg :: rest)
    | [a] => pure (!a.isEmpty, [])
    | [] => .error "argument expected"

end

/-- Evaluates the arguments of `test`: true, false, or the message of an error. -/
def test (disk : Disk) (args : List String) : Except String Bool :=
  match args with
  | [] => pure false
  | [a] => pure (!a.isEmpty)
  | ["!", a] => pure a.isEmpty
  | [op, a] =>
    if unaryTests.contains op then pure (unaryTest disk op a)
    else .error (op ++ ": unexpected operator")
  | [a, op, b] =>
    if binaryTests.contains op then binaryTest a op b
    else if a == "!" then
      if unaryTests.contains op then pure (!unaryTest disk op b)
      else .error (op ++ ": unexpected operator")
    else if a == "(" && b == ")" then pure (!op.isEmpty)
    else .error (op ++ ": unexpected operator")
  | _ => do
    let (value, rest) ← testOr disk (2 * args.length + 2) args
    match rest with
    | [] => pure value
    | extra :: _ => .error (extra ++ ": unexpected operator")

/-- Splits a line read by `read` among variables: each takes a field, the last the rest. -/
def splitRead (separators : List Char) (names : List String) (text : String) :
    List (String × String) := Id.run do
  let isSep := fun c => separators.contains c
  let mut rest := text.toList.dropWhile isSep
  let mut out : Array (String × String) := #[]
  let mut left := names
  for _ in [0:names.length] do
    match left with
    | [] => break
    | [last] =>
      let value := (rest.reverse.dropWhile isSep).reverse
      out := out.push (last, String.ofList value)
      left := []
    | n :: more =>
      let field := rest.takeWhile (fun c => !isSep c)
      out := out.push (n, String.ofList field)
      rest := (rest.drop field.length).dropWhile isSep
      left := more
  out.toList

/-- Removes the backslashes of a line read without `-r`. -/
def unescapeRead (text : String) : String := Id.run do
  let mut out := ""
  let mut rest := text.toList
  for _ in [0:text.length + 1] do
    match rest with
    | [] => break
    | '\\' :: c :: more =>
      out := out.push c
      rest := more
    | ['\\'] => break
    | c :: more =>
      out := out.push c
      rest := more
  out

/-- The `read` builtin. -/
def readBuiltin (fds : Fds) (args : List String) : ShellM Nat := do
  let raw := args.contains "-r"
  let names := args.filter (· != "-r")
  if names.isEmpty then
    complain fds "read: arg count"
    return 2
  let (first, ended) ← readLine fds
  let mut line := first
  let mut ended := ended
  if !raw then
    for _ in [0:((← get).inputs.foldl (fun n s => n + s.length) 0) + 1] do
      if ended && line.endsWith "\\" && !line.endsWith "\\\\" then
        let (next, more) ← readLine fds
        line := (line.dropEnd 1).toString ++ next
        ended := more
      else break
    line := unescapeRead line
  let separators := (← ifs).toList
  for (n, value) in splitRead separators names line do setVar n value
  pure (if ended then 0 else 1)

/-- The `kill` builtin: a signal sent to the shell itself ends it. -/
def killBuiltin (fds : Fds) (args : List String) : ShellM Nat := do
  let (signal, pids) ← match args with
    | "-s" :: name :: rest => pure (signalNumber name, rest)
    | "-l" :: _ => pure (none, [])
    | "--" :: rest => pure (some 15, rest)
    | first :: rest =>
      if first.startsWith "-" then pure (signalNumber (first.drop 1).toString, rest)
      else pure (some 15, args)
    | [] => pure (some 15, [])
  match signal with
  | none =>
    complain fds ("kill: invalid signal number or name: " ++ (args.head?.getD ""))
    return 2
  | some number =>
    if pids.isEmpty then
      complain fds "kill: usage: kill [-s sigspec | -signum | -sigspec] [pid | job]... or\nkill -l [exitstatus]"
      return 2
    let mut code := 0
    for target in pids do
      if target == toString (← get).pid then
        if number != 0 then throw (.killed number)
      else
        complain fds ("kill: No such process")
        code := 1
    pure code

def countArg (text : String) : Option Nat :=
  if !text.isEmpty && text.all Char.isDigit then some text.toNat! else none

/-- The option letter of a long option name of `set -o`. -/
def optionLetter : String → Option Char
  | "errexit" => some 'e'
  | "nounset" => some 'u'
  | "xtrace" => some 'x'
  | "noglob" => some 'f'
  | "verbose" => some 'v'
  | _ => none

def setOption (c : Char) (on : Bool) : ShellM Unit :=
  modify fun p =>
    let others := p.options.filter (· != c)
    { p with options := if on then others ++ [c] else others }

def hasOption (c : Char) : ShellM Bool := do
  pure ((← get).options.contains c)

/-- Runs a step as a condition: a failure inside it does not end the shell under `set -e`. -/
def asCondition (body : ShellM Unit) : ShellM Unit := do
  let saved := (← get).checking
  modify fun p => { p with checking := saved + 1 }
  tryCatch body fun stop => do
    modify fun p => { p with checking := saved }
    throw stop
  modify fun p => { p with checking := saved }

def exitOnFailure : ShellM Unit := do
  let p ← get
  if p.options.contains 'e' && p.checking == 0 && p.status != 0 then throw (.exit p.status)

/-- Whether a parameter is always set, so that `set -u` never refuses it. -/
def alwaysSet (n : String) : Bool := ["@", "*", "#", "?", "$", "0", "-"].contains n

/-- The builtins that need no nested script. -/
def builtinStep (fds : Fds) (cmd : String) (args : List String) : ShellM Nat := do
  match cmd with
  | ":" | "true" | "wait" | "umask" | "exec" | "cd" => pure 0
  | "false" => pure 1
  | "echo" =>
    write fds 1 (Format.echo args)
    pure 0
  | "printf" =>
    let args := match args with
      | "--" :: rest => rest
      | other => other
    match args with
    | [] =>
      complain fds "printf: usage: printf format [arg ...]"
      pure 2
    | format :: rest =>
      let printed := Format.printf format rest
      -- The builtin's output is buffered until it returns; its warnings are written at once.
      for warning in printed.warnings do complain fds ("printf: " ++ warning)
      write fds 1 printed.text
      pure (if printed.failed then 1 else 0)
  | "read" => readBuiltin fds args
  | "test" | "[" =>
    let operands ← if cmd == "[" then
        match args.getLast? with
        | some "]" => pure (some args.dropLast)
        | _ => pure none
      else pure (some args)
    match operands with
    | none =>
      complain fds "[: missing ]"
      pure 2
    | some operands =>
      match test (← get).disk operands with
      | .ok value => pure (if value then 0 else 1)
      | .error message =>
        complain fds (cmd ++ ": " ++ message)
        pure 2
  | "exit" | "return" =>
    match args with
    | [] => throw (.exit (← get).status)
    | code :: _ =>
      match countArg code with
      | some n => throw (.exit (n % 256))
      | none =>
        complain fds (cmd ++ ": Illegal number: " ++ code)
        throw (.exit 2)
  | "kill" => killBuiltin fds args
  | "export" | "readonly" =>
    for arg in args do
      match arg.splitOn "=" with
      | n :: value :: more => if isName n then setVar n ("=".intercalate (value :: more))
      | _ => pure ()
    pure 0
  | "unset" =>
    for arg in args do
      if !arg.startsWith "-" then unsetVar arg
    pure 0
  | "shift" =>
    let count := match args with
      | [] => some 1
      | n :: _ => countArg n
    match count with
    | none =>
      complain fds ("shift: Illegal number: " ++ args.headD "")
      pure 2
    | some n =>
      if n > (← get).params.length then
        complain fds "shift: can\x27t shift that many"
        pure 2
      else
        modify fun p => { p with params := p.params.drop n }
        pure 0
  | "set" =>
    let mut rest := args
    let mut positional : Option (List String) := none
    for _ in [0:args.length + 1] do
      match rest with
      | [] => break
      | "--" :: more =>
        positional := some more
        break
      | word :: more =>
        if (word.startsWith "-" || word.startsWith "+") && word.length > 1 then
          let on := word.startsWith "-"
          if (word.drop 1).copy == "o" then
            if let some n := more.head? then
              if let some c := optionLetter n then setOption c on
            rest := more.drop 1
          else
            for c in (word.drop 1).copy.toList do setOption c on
            rest := more
        else
          positional := some rest
          break
    if let some params := positional then modify fun p => { p with params }
    pure 0
  | "trap" =>
    match args with
    | action :: signals@(_ :: _) =>
      for signal in signals do
        if signal == "EXIT" || signal == "0" then
          modify fun p => { p with exitTrap := if action == "-" then none else some action }
      pure 0
    | _ => pure 0
  | "break" | "continue" =>
    let levels := match args with
      | [] => some 1
      | n :: _ => countArg n
    match levels with
    | some n =>
      if n == 0 then
        complain fds (cmd ++ ": Illegal number: 0")
        pure 2
      else throw (if cmd == "break" then .breakLoop n else .continueLoop n)
    | none =>
      complain fds (cmd ++ ": Illegal number: " ++ args.headD "")
      pure 2
  | _ =>
    complain fds (cmd ++ ": not found")
    pure 127

def specialBuiltins : List String :=
  [":", "break", "continue", ".", "eval", "exec", "exit", "export", "readonly", "return", "set",
   "shift", "trap", "unset"]

/-- The fields of a value: quoted, one text; unquoted, split later. -/
def valueSegments (inQuotes : Bool) (value : String) : List Segment :=
  if inQuotes then [.text value true] else [.split value]

def dropTrailingNewlines (text : String) : String :=
  String.ofList (text.toList.reverse.dropWhile (· == '\n')).reverse

mutual

/-- Expands one piece of a word. -/
def expandPiece (fuel : Nat) (fds : Fds) (piece : Piece) : ShellM (List Segment) := do
  match fuel with
  | 0 => throw .exhausted
  | fuel + 1 =>
  match piece with
  | .literal text => pure [.text text false]
  | .quoted text => pure [.text text true]
  | .param n inQuotes =>
    if n == "@" && inQuotes then
      let params := (← get).params
      pure (params.zipIdx.flatMap fun (param, i) =>
        (if i == 0 then [] else [Segment.fieldBreak]) ++ [.text param true])
    else if n == "*" && inQuotes then
      let separator := ((← ifs).toList.head?.map Char.toString).getD ""
      pure [.text (separator.intercalate (← get).params) true]
    else
      let value ← getVar n
      if value.isNone && !alwaysSet n && (← hasOption 'u') then
        complain fds (n ++ ": parameter not set")
        throw (.exit 2)
      pure (valueSegments inQuotes (value.getD ""))
  | .paramLength n inQuotes =>
    let value ← getVar n
    if value.isNone && !alwaysSet n && (← hasOption 'u') then
      complain fds (n ++ ": parameter not set")
      throw (.exit 2)
    pure (valueSegments inQuotes (toString (value.getD "").length))
  | .paramWith n op operand inQuotes =>
    let value ← getVar n
    let isSet := value.isSome
    let filled := !(value.getD "").isEmpty
    let missing := if op.startsWith ":" then !filled else !isSet
    match op with
    | ":-" | "-" =>
      if missing then expandWord fuel fds operand
      else pure (valueSegments inQuotes (value.getD ""))
    | ":=" | "=" =>
      if missing then
        let assigned := joined (← expandWord fuel fds operand)
        setVar n assigned
        pure (valueSegments inQuotes assigned)
      else pure (valueSegments inQuotes (value.getD ""))
    | ":?" | "?" =>
      if missing then
        let message := joined (← expandWord fuel fds operand)
        complain fds (n ++ ": " ++ (if message.isEmpty then "parameter not set" else message))
        throw (.exit 2)
      else pure (valueSegments inQuotes (value.getD ""))
    | ":+" | "+" =>
      if missing then pure [] else expandWord fuel fds operand
    | _ =>
      let pattern := globOf (patternChars (← expandWord fuel fds operand))
      pure (valueSegments inQuotes (trimPattern op pattern (value.getD "")))
  | .arith expr inQuotes =>
    let text := joined (← expandWord fuel fds expr)
    match Arith.evaluate text (← get).vars with
    | .ok (value, vars) =>
      modify fun p => { p with vars }
      pure (valueSegments inQuotes (toString value))
    | .error message =>
      complain fds message
      throw (.exit 2)
  | .subst body inQuotes =>
    pure (valueSegments inQuotes (← substitute fuel fds body))

/-- Expands a word into segments. -/
def expandWord (fuel : Nat) (fds : Fds) (word : Word) : ShellM (List Segment) := do
  match fuel with
  | 0 => throw .exhausted
  | fuel + 1 =>
  let mut out : List Segment := []
  for piece in word do
    out := out ++ (← expandPiece fuel fds piece)
  pure out

/-- Runs a command substitution and gives its output without trailing line breaks. -/
def substitute (fuel : Nat) (fds : Fds) (body : String) : ShellM String := do
  match fuel with
  | 0 => throw .exhausted
  | fuel + 1 =>
  match Parse.script body with
  | .error e =>
    let p ← get
    write fds 2 (p.name ++ ": " ++ toString e.line ++ ": " ++ e.message ++ "\n")
    modify fun p => { p with substStatus := some 2 }
    pure ""
  | .ok script =>
    let slot ← openCapture
    inSubshell (runText fuel { fds with out := .capture slot })
      (runList fuel { fds with out := .capture slot } script)
    let text ← captured slot
    let status := (← get).status
    modify fun p => { p with substStatus := some status,
                             captures := p.captures.set! slot "" }
    pure (dropTrailingNewlines text)

/-- Opens the redirections of a command: its descriptors, or the message of a failure. -/
def openRedirects (fuel : Nat) (fds : Fds) (redirects : List Redirect) :
    ShellM (Except String Fds) := do
  match fuel with
  | 0 => throw .exhausted
  | fuel + 1 =>
  let mut current := fds
  for r in redirects do
    let target := joined (← expandWord fuel fds r.target)
    match r.kind with
    | .input =>
      if target == "/dev/null" then
        let slot ← openInput ""
        if r.fd == 0 then current := { current with input := some slot }
      else
        match (← get).disk.read target with
        | .content text =>
          let slot ← openInput text
          if r.fd == 0 then current := { current with input := some slot }
        | _ => return .error ("cannot open " ++ target ++ ": No such file")
    | .output | .append =>
      let sink ← if target == "/dev/null" then pure Sink.discard
        else
          let disk := (← get).disk
          let opened := if r.kind == .append then disk.append target "" else disk.write target ""
          match opened with
          | .ok disk =>
            modify fun p => { p with disk }
            pure (Sink.file target)
          | .error _ =>
            let reason := match disk.lookup (Path.dir target) with
              | .ok .dir => "Is a directory"
              | _ => "Directory nonexistent"
            return .error ("cannot create " ++ target ++ ": " ++ reason)
      if r.fd == 1 then current := { current with out := sink }
      else if r.fd == 2 then current := { current with err := sink }
    | .duplicate =>
      let sink? : Option Sink := match target with
        | "1" => some current.out
        | "2" => some current.err
        | "-" => some .discard
        | _ => none
      match sink? with
      | some sink =>
        if r.fd == 1 then current := { current with out := sink }
        else if r.fd == 2 then current := { current with err := sink }
      | none =>
        if target != "0" then return .error (target ++ ": Bad file descriptor")
  pure (.ok current)

/-- Runs the text of a trap. -/
def runText (fuel : Nat) (fds : Fds) (text : String) : ShellM Unit := do
  match fuel with
  | 0 => throw .exhausted
  | fuel + 1 =>
  match Parse.script text with
  | .error e =>
    let p ← get
    write fds 2 (p.name ++ ": " ++ toString e.line ++ ": " ++ e.message ++ "\n")
  | .ok script => runList fuel fds script

/-- Runs a builtin, including those that run scripts of their own. -/
def dispatch (fuel : Nat) (fds : Fds) (cmd : String) (args : List String) : ShellM Nat := do
  match fuel with
  | 0 => throw .exhausted
  | fuel + 1 =>
  if cmd == "eval" || cmd == "." then
    let source ← if cmd == "eval" then pure (some (" ".intercalate args))
      else
        match (← get).disk.read (args.headD "") with
        | .content text => pure (some text)
        | _ => pure none
    match source with
    | none =>
      complain fds (". : " ++ args.headD "" ++ ": not found")
      pure 2
    | some text =>
      match Parse.script text with
      | .error e =>
        complain fds e.message
        pure 2
      | .ok script =>
        setStatus 0
        runList fuel fds script
        pure (← get).status
  else builtinStep fds cmd args

/-- Runs a simple command. -/
def runSimple (fuel : Nat) (fds : Fds) (assigns : List (String × Word)) (words : List Word)
    (redirects : List Redirect) (line : Nat) : ShellM Unit := do
  match fuel with
  | 0 => throw .exhausted
  | fuel + 1 =>
  modify fun p => { p with line, substStatus := none }
  let mut argv : List String := []
  for w in words do
    argv := argv ++ fields (← ifs) (← expandWord fuel fds w)
  let mut values : List (String × String) := []
  for (n, w) in assigns do
    values := values ++ [(n, joined (← expandWord fuel fds w))]
  if ← hasOption 'x' then
    let traced := values.map (fun (n, value) => n ++ "=" ++ value) ++ argv
    write fds 2 (String.join (("+" :: traced).intersperse " ") ++ "\n")
  match ← openRedirects fuel fds redirects with
  | .error message =>
    complain fds message
    setStatus 2
  | .ok opened =>
    match argv with
    | [] =>
      for (n, value) in values do setVar n value
      setStatus ((← get).substStatus.getD 0)
    | cmd :: args =>
      if specialBuiltins.contains cmd then
        for (n, value) in values do setVar n value
        setStatus (← dispatch fuel opened cmd args)
      else
        let mut saved : List (String × Option String) := []
        for (n, value) in values do
          saved := saved ++ [(n, (← get).vars.lookup n)]
          setVar n value
        let code ← dispatch fuel opened cmd args
        for (n, old) in saved do
          match old with
          | some value => setVar n value
          | none => unsetVar n
        setStatus code

/-- Runs a loop body once: `none` to go on, `some true` to leave the loop. -/
def loopBody (fuel : Nat) (fds : Fds) (body : Script) : ShellM Bool := do
  match fuel with
  | 0 => throw .exhausted
  | fuel + 1 =>
  tryCatch (do runList fuel fds body; pure false) fun stop =>
    match stop with
    | .breakLoop n => if n > 1 then throw (.breakLoop (n - 1)) else pure true
    | .continueLoop n => if n > 1 then throw (.continueLoop (n - 1)) else pure false
    | other => throw other

/-- Runs a command. -/
def runCommand (fuel : Nat) (fds : Fds) (command : Command) : ShellM Unit := do
  match fuel with
  | 0 => throw .exhausted
  | fuel + 1 =>
  match command with
  | .simple assigns words redirects line => runSimple fuel fds assigns words redirects line
  | .group body redirects =>
    match ← openRedirects fuel fds redirects with
    | .error message =>
      complain fds message
      setStatus 2
    | .ok opened => runList fuel opened body
  | .subshell body redirects =>
    match ← openRedirects fuel fds redirects with
    | .error message =>
      complain fds message
      setStatus 2
    | .ok opened => inSubshell (runText fuel opened) (runList fuel opened body)
  | .ifThen branches otherwise redirects =>
    match ← openRedirects fuel fds redirects with
    | .error message =>
      complain fds message
      setStatus 2
    | .ok opened =>
      for (condition, body) in branches do
        asCondition (runList fuel opened condition)
        if (← get).status == 0 then
          setStatus 0
          runList fuel opened body
          return
      setStatus 0
      runList fuel opened otherwise
  | .loop untilDone condition body redirects =>
    match ← openRedirects fuel fds redirects with
    | .error message =>
      complain fds message
      setStatus 2
    | .ok opened =>
      let mut last := 0
      let mut finished := false
      for _ in [0:fuel] do
        asCondition (runList fuel opened condition)
        if ((← get).status == 0) == untilDone then
          finished := true
          break
        let leave ← loopBody fuel opened body
        last := (← get).status
        if leave then
          finished := true
          break
      if !finished then throw .exhausted
      setStatus last
  | .forEach n items body redirects =>
    match ← openRedirects fuel fds redirects with
    | .error message =>
      complain fds message
      setStatus 2
    | .ok opened =>
      let values ← match items with
        | none => pure (← get).params
        | some words => do
          let mut values : List String := []
          for w in words do
            values := values ++ fields (← ifs) (← expandWord fuel opened w)
          pure values
      let mut last := 0
      for value in values do
        setVar n value
        let leave ← loopBody fuel opened body
        last := (← get).status
        if leave then break
      setStatus last
  | .caseOf subject arms redirects =>
    match ← openRedirects fuel fds redirects with
    | .error message =>
      complain fds message
      setStatus 2
    | .ok opened =>
      let text := (joined (← expandWord fuel opened subject)).toList
      for (patterns, body) in arms do
        for pattern in patterns do
          let glob := globOf (patternChars (← expandWord fuel opened pattern))
          if globMatch glob text then
            setStatus 0
            runList fuel opened body
            return
      setStatus 0

/-- Runs a pipeline: every command but the last writes into the input of the next, and each
runs in a copy of the shell. -/
def runPipeline (fuel : Nat) (fds : Fds) (pipeline : Pipeline) : ShellM Unit := do
  match fuel with
  | 0 => throw .exhausted
  | fuel + 1 =>
  match pipeline with
  | .mk negated commands =>
    let body : ShellM Unit := match commands with
    | [single] => runCommand fuel fds single
    | _ => do
      let mut input := fds.input
      let count := commands.length
      for (c, i) in commands.zipIdx do
        if i + 1 == count then
          inSubshell (runText fuel { fds with input }) (runCommand fuel { fds with input } c)
        else
          let slot ← openCapture
          inSubshell (runText fuel { fds with input, out := .capture slot })
            (runCommand fuel { fds with input, out := .capture slot } c)
          input := some (← openInput (← captured slot))
    if negated then
      asCondition body
      setStatus (if (← get).status == 0 then 1 else 0)
    else body

/-- Runs an and-or list. -/
def runAndOr (fuel : Nat) (fds : Fds) (list : AndOr) : ShellM Unit := do
  match fuel with
  | 0 => throw .exhausted
  | fuel + 1 =>
  match list with
  | .mk first rest =>
    let count := rest.length
    if count == 0 then runPipeline fuel fds first
    else asCondition (runPipeline fuel fds first)
    let mut finalRan := count == 0
    for ((isAnd, next), i) in rest.zipIdx do
      let ok := (← get).status == 0
      if ok == isAnd then
        if i + 1 == count then
          runPipeline fuel fds next
          finalRan := true
        else asCondition (runPipeline fuel fds next)
    let negatedLast := match (rest.getLast?.map (·.2)).getD first with
      | .mk negated _ => negated
    if finalRan && !negatedLast then exitOnFailure

/-- Runs a list of and-or lists. -/
def runList (fuel : Nat) (fds : Fds) (script : Script) : ShellM Unit := do
  match fuel with
  | 0 => throw .exhausted
  | fuel + 1 =>
  for item in script do
    runAndOr fuel fds item

end

end Run

/-- How a run of the shell ended. -/
inductive Ending where
  | exited (code : Nat)
  | killed (signal : Nat)
  deriving DecidableEq, Inhabited, Repr

/-- What the shell starts with. -/
structure Launch where
  vars : List (String × String) := []
  params : List String := []
  name : String := "sh"
  pid : Nat := 1
  disk : Disk := {}
  stdin : String := ""
  deriving Inhabited

/-- What a run gave: how it ended, its writes in order, and the file system after it. -/
structure Outcome where
  ending : Ending
  writes : Array (Channel × String)
  disk : Disk
  deriving Inhabited

def runFuel : Nat := 4096

/-- Reads and runs a script one top-level line at a time; a syntax error ends the run with
status 2 after the lines before it have run. -/
def runSource (source : String) : ShellM Unit := do
  let chars := source.toList.toArray
  let mut cursor : Cursor := { chars }
  for _ in [0:chars.size + 1] do
    match ((Parse.line (Parse.fuelFor source)).run.run cursor) with
    | (.error e, _) =>
      let p ← get
      Run.write {} 2 (p.name ++ ": " ++ toString e.line ++ ": " ++ e.message ++ "\n")
      throw (.exit 2)
    | (.ok none, _) => break
    | (.ok (some script), next) =>
      cursor := next
      Run.runList runFuel {} script

/-- How a run ended, from the status it reached and how it stopped. -/
def endingOf (status : Nat) : Except Stop Unit → Ending
  | .ok () => .exited status
  | .error (.exit code) => .exited code
  | .error (.killed signal) => .killed signal
  | .error (.breakLoop _) | .error (.continueLoop _) => .exited status
  | .error .exhausted => .killed 9

def runTrap (action : String) : ShellM Unit := Run.runText runFuel {} action

/-- Runs a script. -/
def run (launch : Launch) (source : String) : Outcome :=
  let start : Proc :=
    { vars := launch.vars, params := launch.params, name := launch.name, pid := launch.pid,
      disk := launch.disk, inputs := #[launch.stdin] }
  let (result, proc) := (runSource source).run.run start
  let ending := endingOf proc.status result
  match ending, proc.exitTrap with
  | .exited status, some action =>
    let trapped := { proc with exitTrap := none, status, checking := 0 }
    let (after, proc) := (runTrap action).run.run trapped
    let ending := match after with
      | .ok () => .exited status
      | other => endingOf status other
    { ending, writes := proc.writes, disk := proc.disk }
  | _, _ => { ending, writes := proc.writes, disk := proc.disk }

end Testbed.Shell
