import Testbed.Cli.Spec
import Testbed.Text.Quoted

/-!
# Reading the command line

The command is found first: flags and their values are set aside, and the first remaining word
that names a subcommand selects it; a word after `--` is never a command. A flag whose value
is not joined with `=` takes the next word as its value, unless it is a switch. The top-level
command refuses any other word.

The command's flags are then read, anywhere among its arguments: `--name=value`,
`--name value`, `--switch`, `-x`, several one-letter switches together, and `--` to end the
flags. Unknown flags, a missing value, and a switch value that is not a boolean are errors.
A command asked for help, or that does nothing by itself, shows its help instead of running.
Last, the number of arguments is checked against the command's rule.
-/

namespace Testbed.Cli

/-- A command with the flags and arguments it was given. -/
structure Parsed where
  command : CommandSpec
  values : List (String × String)
  args : List String
  deriving Inhabited

/-- What a command line asks for. -/
inductive Reading where
  | help (command : CommandSpec)
  | run (parsed : Parsed)
  | fail (message : String)
  deriving Inhabited

namespace Parsed

/-- The last value of a text flag, or the empty text. -/
def text (parsed : Parsed) (name : String) : String :=
  ((parsed.values.filter (·.1 == name)).getLast?.map (·.2)).getD ""

def texts (parsed : Parsed) (name : String) : List String :=
  (parsed.values.filter (·.1 == name)).map (·.2)

def switch (parsed : Parsed) (name : String) : Bool := parsed.text name == "true"

end Parsed

def flagNamed (flags : List FlagSpec) (name : String) : Option FlagSpec :=
  flags.find? (·.name == name)

def complete (flags : List FlagSpec) (name : String) : Bool :=
  match flagNamed flags name with
  | some flag => flag.kind == .switch
  | none => false

def completeShort (flags : List FlagSpec) (letters : String) : Bool :=
  match letters.toList with
  | [c] => (flags.find? (·.shorthand == some c)).any (·.kind == .switch)
  | _ => false

def takesNext (flags : List FlagSpec) (word : String) : Bool :=
  let chars := word.toList
  !chars.contains '=' &&
    ((word.startsWith "--" && !complete flags (String.ofList (chars.drop 2))) ||
     (word.startsWith "-" && chars.length == 2 && !completeShort flags (String.ofList (chars.drop 1))))

/-- The words of a command line that are not flags or flag values. -/
def stripFlags (flags : List FlagSpec) : List String → List String
  | [] => []
  | word :: rest =>
    if word == "--" then []
    else if takesNext flags word then
      match rest with
      | _ :: more => stripFlags flags more
      | [] => []
    else if word != "" && !word.startsWith "-" then word :: stripFlags flags rest
    else stripFlags flags rest

/-- The words without the first one that is a command word equal to a name. -/
def withoutWord (flags : List FlagSpec) (name : String) : List String → List String
  | [] => []
  | word :: rest =>
    if word == "--" then word :: rest
    else if takesNext flags word then
      match rest with
      | value :: more => word :: value :: withoutWord flags name more
      | [] => [word]
    else if !word.startsWith "-" && word == name then rest
    else word :: withoutWord flags name rest

/-- The number of single-character edits between two words, ignoring case. -/
def editDistance (a b : String) : Nat :=
  let xs := (a.toList.map Char.toLower).toArray
  let ys := (b.toList.map Char.toLower).toArray
  let first := (List.range (ys.size + 1)).toArray
  let last := (List.range xs.size).foldl (fun (row : Array Nat) i =>
    (List.range ys.size).foldl (fun (next : Array Nat) j =>
      let cost := if xs[i]! == ys[j]! then 0 else 1
      next.push (min (min (row[j + 1]! + 1) (next[j]! + 1)) (row[j]! + cost))) #[i + 1]) first
  last[ys.size]!

/-- The suggestions for a mistyped command. -/
def suggestions (word : String) : String :=
  let close := operations.filter fun cmd =>
    editDistance word cmd.name ≤ 2 ||
      (String.ofList (cmd.name.toList.map Char.toLower)).startsWith (String.ofList (word.toList.map Char.toLower))
  if close.isEmpty then ""
  else "\n\nDid you mean this?\n" ++ String.join (close.map fun cmd => "\t" ++ cmd.name ++ "\n")

/-- Finds the command a command line names, with the words left for it, or the error of a
top-level command given a word it does not know. -/
def findCommand (words : List String) : CommandSpec × List String × Option String :=
  match stripFlags root.allFlags words with
  | [] => (root, words, none)
  | first :: _ =>
    match subcommands.find? (·.name == first) with
    | some cmd => (cmd, withoutWord root.allFlags first words, none)
    | none => (root, words, some ("unknown command " ++ Quoted.quote first ++ " for " ++
        Quoted.quote programName ++ suggestions first))

def parseBool (text : String) : Option Bool :=
  if ["1", "t", "T", "TRUE", "true", "True"].contains text then some true
  else if ["0", "f", "F", "FALSE", "false", "False"].contains text then some false
  else none

/-- Records a flag's value, checking a switch's value. -/
def setFlag (flag : FlagSpec) (value : String) : Except String (String × String) :=
  if flag.kind == .switch then
    match parseBool value with
    | some b => .ok (flag.name, if b then "true" else "false")
    | none =>
      let shown := match flag.shorthand with
        | some c => "-" ++ c.toString ++ ", --" ++ flag.name
        | none => "--" ++ flag.name
      .error ("invalid argument " ++ Quoted.quote value ++ " for " ++ Quoted.quote shown ++
        " flag: strconv.ParseBool: parsing " ++ Quoted.quote value ++ ": invalid syntax")
  else .ok (flag.name, value)

/-- Reads one-letter flags joined in one word. -/
def readShorts (flags : List FlagSpec) : List Char → List String →
    Except String (List (String × String) × List String)
  | [], rest => .ok ([], rest)
  | c :: more, rest =>
    match flags.find? (·.shorthand == some c) with
    | none =>
      .error ("unknown shorthand flag: " ++ Quoted.quoteRune c ++ " in -" ++ String.ofList (c :: more))
    | some flag =>
      match more with
      | '=' :: value@(_ :: _) => do
        let set ← setFlag flag (String.ofList value)
        pure ([set], rest)
      | _ =>
        if flag.kind == .switch then do
          let set ← setFlag flag "true"
          let (sets, rest) ← readShorts flags more rest
          pure (set :: sets, rest)
        else if !more.isEmpty then do
          let set ← setFlag flag (String.ofList more)
          pure ([set], rest)
        else
          match rest with
          | value :: after => do
            let set ← setFlag flag value
            pure ([set], after)
          | [] => .error ("flag needs an argument: " ++ Quoted.quoteRune c ++ " in -" ++ c.toString)

/-- Reads the flags and arguments of a command. -/
def readFlags (flags : List FlagSpec) : (fuel : Nat) → List String →
    Except String (List (String × String) × List String)
  | 0, words => .ok ([], words)
  | _ + 1, [] => .ok ([], [])
  | fuel + 1, word :: rest =>
    let chars := word.toList
    if chars.length ≤ 1 || chars.head? != some '-' then do
      let (sets, args) ← readFlags flags fuel rest
      pure (sets, word :: args)
    else if word == "--" then .ok ([], rest)
    else if word.startsWith "--" then
      let body := chars.drop 2
      if body.head? == some '-' || body.head? == some '=' then .error ("bad flag syntax: " ++ word)
      else
        let name := String.ofList (body.takeWhile (· != '='))
        let joined := if body.contains '=' then some (String.ofList ((body.dropWhile (· != '=')).drop 1)) else none
        match flagNamed flags name with
        | none => .error ("unknown flag: --" ++ name)
        | some flag =>
          match joined with
          | some value => do
            let set ← setFlag flag value
            let (sets, args) ← readFlags flags fuel rest
            pure (set :: sets, args)
          | none =>
            if flag.kind == .switch then do
              let set ← setFlag flag "true"
              let (sets, args) ← readFlags flags fuel rest
              pure (set :: sets, args)
            else
              match rest with
              | value :: after => do
                let set ← setFlag flag value
                let (sets, args) ← readFlags flags fuel after
                pure (set :: sets, args)
              | [] => .error ("flag needs an argument: " ++ word)
    else do
      let (shortSets, rest) ← readShorts flags (chars.drop 1) rest
      let (sets, args) ← readFlags flags fuel rest
      pure (shortSets ++ sets, args)

/-- Checks the number of arguments of a command. -/
def checkArgs (cmd : CommandSpec) (args : List String) : Except String Unit :=
  match cmd.args with
  | .anything => .ok ()
  | .none =>
    match args with
    | [] => .ok ()
    | first :: _ => .error ("unknown command " ++ Quoted.quote first ++ " for " ++ Quoted.quote cmd.path)
  | .exactly n =>
    if args.length == n then .ok ()
    else .error ("accepts " ++ toString n ++ " arg(s), received " ++ toString args.length)
  | .atLeast n =>
    if args.length ≥ n then .ok ()
    else .error ("requires at least " ++ toString n ++ " arg(s), only received " ++ toString args.length)

/-- What a command line asks for. -/
def read (words : List String) : Reading :=
  let (cmd, rest, problem) := findCommand words
  match problem with
  | some message => .fail message
  | none =>
    match readFlags cmd.allFlags (rest.length + 1) rest with
    | .error message => .fail message
    | .ok (values, args) =>
      let parsed : Parsed := ⟨cmd, values, args⟩
      if parsed.switch "help" || cmd.name == programName then .help cmd
      else
        match checkArgs cmd args with
        | .error message => .fail message
        | .ok () => .run parsed

end Testbed.Cli
