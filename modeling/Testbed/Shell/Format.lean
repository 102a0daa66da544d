import Testbed.Shell.Arith
import Testbed.Text.Binary64

/-!
# `printf` and `echo`

`printf` writes its format, replacing each conversion with the next argument and each escape
with the character it stands for; when arguments are left after the format is used up, and
the format used at least one, the format is used again. A missing argument is an empty string
or zero. Integers may be decimal, octal, hexadecimal, or a quote followed by a character, whose
first byte is the number; an argument that is not wholly a number, or is out of range, is
reported and the command fails. Floating conversions read binary64 values.

`echo` writes its arguments separated by blanks and followed by a line break, unless the first
argument is `-n`. Both `echo` and the `%b` conversion read escapes in their arguments, where
`\c` ends all output.
-/

namespace Testbed.Shell.Format

def isOctal (c : Char) : Bool := '0' ≤ c && c ≤ '7'

def octal (chars : List Char) : Nat × List Char :=
  let digits := (chars.take 3).takeWhile isOctal
  (digits.foldl (fun acc d => acc * 8 + (d.toNat - '0'.toNat)) 0, chars.drop digits.length)

/-- The character an escape stands for, read after its backslash, and the text after it. A
backslash before a character that starts no escape stands for itself. -/
def escape : List Char → Char × List Char
  | [] => ('\\', [])
  | c :: rest =>
    match c with
    | '\\' => ('\\', rest)
    | 'a' => ('\x07', rest)
    | 'b' => ('\x08', rest)
    | 'f' => ('\x0c', rest)
    | 'n' => ('\n', rest)
    | 'r' => ('\r', rest)
    | 't' => ('\t', rest)
    | 'v' => ('\x0b', rest)
    | _ =>
      if isOctal c then
        let (value, after) := octal (c :: rest)
        (Char.ofNat value, after)
      else ('\\', c :: rest)

/-- Reads the escapes of an argument of `%b` or `echo`: the text, and whether `\c` ended all
output. In these arguments an octal escape may start with an extra `0`. -/
def escapedArgument (text : String) : String × Bool := Id.run do
  let mut out := ""
  let mut rest := text.toList
  for _ in [0:text.length + 1] do
    match rest with
    | [] => break
    | '\\' :: 'c' :: _ => return (out, true)
    | '\\' :: more =>
      let more := match more with
        | '0' :: d :: after => if isOctal d then d :: after else more
        | _ => more
      let (c, after) := escape more
      out := out.push c
      rest := after
    | c :: more =>
      out := out.push c
      rest := more
  (out, false)

/-- What `echo` writes for its arguments. -/
def echo (args : List String) : String := Id.run do
  let (newline, args) := match args with
    | "-n" :: rest => (false, rest)
    | _ => (true, args)
  let mut out := ""
  let mut first := true
  for arg in args do
    if !first then out := out.push ' '
    first := false
    let (text, stop) := escapedArgument arg
    out := out ++ text
    if stop then return out
  if newline then out := out.push '\n'
  out

/-- One conversion of a format: its flags, width, precision and letter. -/
structure Spec where
  flags : List Char := []
  width : Option Int := none
  precision : Option Int := none
  letter : Char := 's'
  deriving Inhabited, Repr

/-- Pads a text to a width, on the left unless the `-` flag is given. -/
def pad (spec : Spec) (text : String) : String :=
  let width := (spec.width.getD 0).natAbs
  let size := text.utf8ByteSize
  let left := spec.flags.contains '-' || (spec.width.getD 0) < 0
  if size ≥ width then text
  else
    let fill := String.ofList (List.replicate (width - size) ' ')
    if left then text ++ fill else fill ++ text

/-- The first characters of a text whose bytes fit a limit. -/
def truncate (limit : Nat) (text : String) : String := Id.run do
  let mut out := ""
  for c in text.toList do
    if (out.push c).utf8ByteSize > limit then break
    out := out.push c
  out

def digits (base : Nat) (upper : Bool) (value : Nat) : String :=
  let chars := Nat.toDigits base value
  String.ofList (if upper then chars.map Char.toUpper else chars)

/-- Writes an integer conversion. -/
def integer (spec : Spec) (value : Int) : String :=
  let signed := spec.letter == 'd' || spec.letter == 'i'
  let magnitude : Nat :=
    if signed then value.natAbs else (value % Arith.modulus).toNat
  let base := match spec.letter with
    | 'o' => 8
    | 'x' | 'X' => 16
    | _ => 10
  let body := digits base (spec.letter == 'X') magnitude
  let body := match spec.precision with
    | some p =>
      if p == 0 && magnitude == 0 then ""
      else String.ofList (List.replicate (p.toNat - body.length) '0') ++ body
    | none => body
  let body :=
    if spec.flags.contains '#' then
      if spec.letter == 'o' && !body.startsWith "0" then "0" ++ body
      else if spec.letter == 'x' && magnitude != 0 then "0x" ++ body
      else if spec.letter == 'X' && magnitude != 0 then "0X" ++ body
      else body
    else body
  let sign :=
    if signed && value < 0 then "-"
    else if signed && spec.flags.contains '+' then "+"
    else if signed && spec.flags.contains ' ' then " "
    else ""
  let width := (spec.width.getD 0).toNat
  let zeroFill := spec.flags.contains '0' && !spec.flags.contains '-' && spec.precision.isNone
  if zeroFill && sign.length + body.length < width then
    sign ++ String.ofList (List.replicate (width - sign.length - body.length) '0') ++ body
  else pad spec (sign ++ body)

def numberBlanks : List Char := " \t\n\r\x0b\x0c".toList

/-- Reads the longest start of a text that is an integer, the way `strtoimax` or, when
`unsigned`, `strtoumax` reads one in base 0: its value, how many characters it took, and
whether it was out of range and so clamped to the nearest limit. -/
def readInteger (text : String) (unsigned : Bool) : Int × Nat × Bool :=
  let chars := text.toList
  let blanks := (chars.takeWhile numberBlanks.contains).length
  let rest := chars.drop blanks
  let (negative, signCount, rest) := match rest with
    | '-' :: more => (true, 1, more)
    | '+' :: more => (false, 1, more)
    | other => (false, 0, other)
  let (base, prefixCount, body) := match rest with
    | '0' :: x :: more =>
      if (x == 'x' || x == 'X') && (more.head?.bind (Binary64.digitIn 16)).isSome then
        (16, 2, more)
      else (8, 0, rest)
    | '0' :: _ => (8, 0, rest)
    | _ => (10, 0, rest)
  let (m, count, _) := Binary64.readDigits base body 0 0
  if count == 0 then (0, 0, false)
  else
    let used := blanks + signCount + prefixCount + count
    let signed : Int := if negative then -(m : Int) else m
    if unsigned then
      let limit := Nat.pow 2 64 - 1
      if m > limit then (limit, used, true) else (signed, used, false)
    else if negative && m > Nat.pow 2 63 then (-((Nat.pow 2 63 : Nat) : Int), used, true)
    else if !negative && m > Nat.pow 2 63 - 1 then ((Nat.pow 2 63 - 1 : Nat), used, true)
    else (signed, used, false)

/-- The warning about an argument read as a number: none when the number took all of it and
is in range. An empty argument is zero without a warning. -/
def conversionWarning (arg : String) (used : Nat) (outOfRange : Bool) : Option String :=
  if used < arg.length then
    some (arg ++ (if used == 0 then ": expected numeric value" else ": not completely converted"))
  else if outOfRange then some (arg ++ ": Numerical result out of range")
  else none

def firstByte : List Char → Nat
  | c :: _ => ((String.utf8EncodeChar c).headD 0).toNat
  | [] => 0

def isQuoted (arg : String) : Bool :=
  arg.startsWith "\x27" || arg.startsWith "\""

/-- Reads an integer argument, unsigned for the conversions that take one: its value and,
when it is not wholly a number or out of range, the warning. -/
def numberArg (arg : String) (unsigned : Bool) : Int × Option String :=
  if isQuoted arg then (firstByte (arg.toList.drop 1), none)
  else
    let (value, used, outOfRange) := readInteger arg unsigned
    (value, conversionWarning arg used outOfRange)

/-- Reads a floating argument: its value and, when it is not wholly a number or out of range,
the warning. -/
def floatArg (arg : String) : Binary64 × Option String :=
  if isQuoted arg then (Binary64.ofNat (firstByte (arg.toList.drop 1)), none)
  else
    let (value, used, outOfRange) := Binary64.read arg
    (value, conversionWarning arg used outOfRange)

/-- Writes a floating conversion: `f`, `e` or `g`, in capitals for `F`, `E` and `G`. -/
def floating (spec : Spec) (value : Binary64) : String :=
  let places := match spec.precision with
    | some p => if p < 0 then 6 else p.toNat
    | none => 6
  let body := value.magnitudeText spec.letter.toLower places (spec.flags.contains '#')
  let body := if spec.letter.isUpper then body.map Char.toUpper else body
  let sign :=
    if value.isNegative then "-"
    else if spec.flags.contains '+' then "+"
    else if spec.flags.contains ' ' then " "
    else ""
  let finite := match value with
    | .finite _ _ _ => true
    | _ => false
  let width := (spec.width.getD 0).toNat
  let zeroFill := spec.flags.contains '0' && !spec.flags.contains '-' && finite
  if zeroFill && sign.length + body.length < width then
    sign ++ String.ofList (List.replicate (width - sign.length - body.length) '0') ++ body
  else pad spec (sign ++ body)

/-- What a run of `printf` gave: the text written, the warnings, and whether it failed. -/
structure Printed where
  text : String := ""
  warnings : List String := []
  failed : Bool := false
  deriving Inhabited, Repr

/-- Reads the flags, width and precision of a conversion after its `%`. -/
def readSpec (chars : List Char) : List Char × List Char × List Char × List Char :=
  let flags := chars.takeWhile fun c => "#-+ 0".toList.contains c
  let rest := chars.drop flags.length
  let width := match rest with
    | '*' :: _ => ['*']
    | _ => rest.takeWhile Char.isDigit
  let rest := rest.drop width.length
  let (precision, rest) := match rest with
    | '.' :: '*' :: more => (['.', '*'], more)
    | '.' :: more =>
      let ds := more.takeWhile Char.isDigit
      ('.' :: ds, more.drop ds.length)
    | _ => ([], rest)
  (flags, width, precision, rest)

/-- One pass over a format with the arguments left: what it printed, the arguments left after
it, whether it used any, and whether output ended early. -/
def pass (format : List Char) (args : List String) (printed : Printed) :
    Printed × List String × Bool × Bool := Id.run do
  let mut out := printed
  let mut args := args
  let mut used := false
  let mut rest := format
  for _ in [0:format.length + 1] do
    match rest with
    | [] => break
    | '\\' :: more =>
      let (c, after) := escape more
      out := { out with text := out.text.push c }
      rest := after
    | '%' :: '%' :: more =>
      out := { out with text := out.text.push '%' }
      rest := more
    | '%' :: more =>
      let (flags, widthChars, precisionChars, after) := readSpec more
      let takeArg : Option String × List String := match args with
        | a :: later => (some a, later)
        | [] => (none, [])
      let mut width : Option Int := none
      if widthChars == ['*'] then
        let (a, later) := takeArg
        if a.isSome then used := true
        args := later
        let (w, warning) := numberArg (a.getD "") false
        width := some w
        if let some text := warning then
          out := { out with warnings := out.warnings ++ [text], failed := true }
      else if !widthChars.isEmpty then
        width := some (String.ofList widthChars).toNat!
      let mut precision : Option Int := none
      if precisionChars == ['.', '*'] then
        let (a, later) := match args with
          | a :: later => (some a, later)
          | [] => (none, [])
        if a.isSome then used := true
        args := later
        let (p, warning) := numberArg (a.getD "") false
        precision := some p
        if let some text := warning then
          out := { out with warnings := out.warnings ++ [text], failed := true }
      else if !precisionChars.isEmpty then
        precision := some (String.ofList (precisionChars.drop 1)).toNat!
      match after with
      | [] =>
        out := { out with warnings := out.warnings ++ ["missing format character"], failed := true }
        return (out, args, used, true)
      | letter :: later =>
        let spec : Spec := { flags, width, precision, letter }
        let (arg, remaining) := match args with
          | a :: more => (some a, more)
          | [] => (none, [])
        rest := later
        match letter with
        | 's' =>
          if arg.isSome then used := true
          args := remaining
          let text := arg.getD ""
          let text := match precision with
            | some p => truncate p.toNat text
            | none => text
          out := { out with text := out.text ++ pad spec text }
        | 'b' =>
          if arg.isSome then used := true
          args := remaining
          let (text, stop) := escapedArgument (arg.getD "")
          let text := match precision with
            | some p => truncate p.toNat text
            | none => text
          out := { out with text := out.text ++ pad spec text }
          if stop then return (out, args, used, true)
        | 'c' =>
          if arg.isSome then used := true
          args := remaining
          let text := match (arg.getD "").toList with
            | c :: _ => c.toString
            | [] => ""
          out := { out with text := out.text ++ pad spec text }
        | 'd' | 'i' | 'o' | 'u' | 'x' | 'X' =>
          if arg.isSome then used := true
          args := remaining
          let (value, warning) := match arg with
            | some a => numberArg a !(letter == 'd' || letter == 'i')
            | none => (0, none)
          if let some text := warning then
            out := { out with warnings := out.warnings ++ [text], failed := true }
          out := { out with text := out.text ++ integer spec value }
        | 'f' | 'F' | 'e' | 'E' | 'g' | 'G' =>
          if arg.isSome then used := true
          args := remaining
          let (value, warning) := match arg with
            | some a => floatArg a
            | none => (Binary64.ofNat 0, none)
          if let some text := warning then
            out := { out with warnings := out.warnings ++ [text], failed := true }
          out := { out with text := out.text ++ floating spec value }
        | _ =>
          let directive := "%" ++ String.ofList (flags ++ widthChars ++ precisionChars ++ [letter])
          out := { out with warnings := out.warnings ++ [directive ++ ": invalid directive"],
                            failed := true }
          return (out, args, used, true)
    | c :: more =>
      out := { out with text := out.text.push c }
      rest := more
  (out, args, used, false)

/-- What `printf` writes for a format and its arguments. -/
def printf (format : String) (args : List String) : Printed := Id.run do
  let chars := format.toList
  let mut printed : Printed := {}
  let mut args := args
  let mut usedAny := false
  for _ in [0:args.length + 1] do
    let (next, left, used, stop) := pass chars args printed
    printed := next
    args := left
    usedAny := usedAny || used
    if stop || !usedAny || args.isEmpty then break
  printed

end Testbed.Shell.Format
