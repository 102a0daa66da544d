/-!
# Web addresses

A web address is read as RFC 3986 describes it, with the leniency of common readers: the scheme
is the run of letters, digits, `+`, `-` and `.` before the first colon, starting with a letter;
after it, a part that does not start with a slash is rootless; a part that starts with two
slashes has an authority up to the next slash, made of optional user information before the
last `@`, a host and an optional numeric port. Percent escapes must be complete everywhere;
in a host they may only stand for bytes outside ASCII or for `%25`, and the host may only hold
letters, digits, the sub-delimiters, `:`, brackets, `<`, `>`, `"`, and the unreserved marks.
Control characters anywhere make the address unreadable.

An address is acceptable as a download location when it has a scheme and something to fetch:
for the `file` scheme a path other than the root, for any other scheme a host, a fragment or an
rootless part.
-/

namespace Testbed

/-- The parts of an address that acceptability looks at; the rootless part is what follows the
scheme when it does not start with a slash. -/
structure Url where
  scheme : String
  rootless : String
  host : String
  path : String
  fragment : String
  deriving DecidableEq, Repr, Inhabited

namespace Url

def isHexDigit (c : Char) : Bool := c.isDigit || ('a' ≤ c && c ≤ 'f') || ('A' ≤ c && c ≤ 'F')

def hexValue (c : Char) : Nat :=
  if c.isDigit then c.toNat - '0'.toNat
  else if 'a' ≤ c && c ≤ 'f' then c.toNat - 'a'.toNat + 10
  else c.toNat - 'A'.toNat + 10

def isAsciiAlphanum (c : Char) : Bool := c.toNat < 0x80 && c.isAlphanum

def hostChar (c : Char) : Bool :=
  c.toNat ≥ 0x80 || isAsciiAlphanum c || "!$&\x27()*+,;=:[]<>\"-_.~".toList.contains c

/-- Whether every percent escape is complete, and, in a host, allowed and between allowed
characters. -/
def escapesValid (inHost : Bool) : List Char → Bool
  | [] => true
  | '%' :: a :: b :: rest =>
    isHexDigit a && isHexDigit b &&
      (!inHost || hexValue a ≥ 8 || (a == '2' && b == '5')) && escapesValid inHost rest
  | '%' :: _ => false
  | c :: rest => (!inHost || hostChar c) && escapesValid inHost rest

/-- The scheme and the rest, when the text starts with one. -/
def splitScheme (chars : List Char) : Except Unit (List Char × List Char) :=
  let rec scan : List Char → List Char → Except Unit (List Char × List Char)
    | seen, [] => .ok ([], seen.reverse)
    | seen, c :: rest =>
      if isAsciiAlphanum c && !c.isDigit then scan (c :: seen) rest
      else if c.isDigit || c == '+' || c == '-' || c == '.' then
        if seen.isEmpty then .ok ([], chars) else scan (c :: seen) rest
      else if c == ':' then
        if seen.isEmpty then .error () else .ok (seen.reverse, rest)
      else .ok ([], chars)
  scan [] chars

/-- Whether a port part is empty or a colon and digits. -/
def validPort : List Char → Bool
  | [] => true
  | ':' :: digits => digits.all Char.isDigit
  | _ => false

def lastIndex (chars : List Char) (c : Char) : Option Nat :=
  let positions := (List.range chars.length).filter fun i => chars[i]? == some c
  positions.getLast?

/-- Reads a host, checking its port and escapes. -/
def readHost (host : List Char) : Option String := do
  if host.head? == some '[' then
    let close ← lastIndex host ']'
    guard (validPort (host.drop (close + 1)))
  else
    match lastIndex host ':' with
    | some colon => guard (validPort (host.drop colon))
    | none => pure ()
  guard (escapesValid true host)
  pure (String.ofList host)

def validUserinfo (info : List Char) : Bool :=
  info.all (fun c => isAsciiAlphanum c || "-._:~!$&\x27()*+,;=%@".toList.contains c) &&
    escapesValid false info

/-- Reads an authority: user information before the last `@`, then the host. -/
def readAuthority (authority : List Char) : Option String :=
  match lastIndex authority '@' with
  | none => readHost authority
  | some at_ => do
    let host ← readHost (authority.drop (at_ + 1))
    guard (validUserinfo (authority.take at_))
    pure host

/-- Reads an address; `none` when it is malformed. -/
def parse? (text : String) : Option Url := do
  let chars := text.toList
  let body := chars.takeWhile (· != '#')
  let fragment := (chars.dropWhile (· != '#')).drop 1
  guard (!(body.any fun c => c.toNat < 0x20 || c.toNat == 0x7f))
  let (scheme, rest) ← (splitScheme body).toOption
  let scheme := String.ofList (scheme.map Char.toLower)
  let questions := rest.count '?'
  let rest := if rest.getLast? == some '?' && questions == 1 then rest.dropLast
    else rest.takeWhile (· != '?')
  guard (escapesValid false fragment)
  if rest.head? != some '/' then
    if !scheme.isEmpty then
      return ⟨scheme, String.ofList rest, "", "", String.ofList fragment⟩
    guard (!((rest.takeWhile (· != '/')).contains ':'))
  let (host, path) ←
    if rest.take 2 == ['/', '/'] && (!scheme.isEmpty || rest.take 3 != ['/', '/', '/']) then
      let authority := (rest.drop 2).takeWhile (· != '/')
      let path := (rest.drop 2).dropWhile (· != '/')
      let host ← readAuthority authority
      pure (host, path)
    else pure ("", rest)
  guard (escapesValid false path)
  pure ⟨scheme, "", host, String.ofList path, String.ofList fragment⟩

/-- A character in lower case, as far as reading an address can tell: the ASCII capitals, the
Kelvin sign, which lowers to `k`, and the capital I with a dot above, which lowers to `i`. No
other character lowers to one that an address reads differently. -/
def lowerChar (c : Char) : Char :=
  if c.toNat == 0x212A then 'k' else if c.toNat == 0x130 then 'i' else c.toLower

/-- Whether an address, read in lower case, names something to fetch. -/
def acceptable (text : String) : Bool :=
  let lowered := String.ofList (text.toList.map lowerChar)
  !lowered.isEmpty &&
    match parse? lowered with
    | none => false
    | some url =>
      !url.scheme.isEmpty &&
        if url.scheme == "file" then !(url.path.isEmpty || url.path == "/")
        else !(url.host.isEmpty && url.fragment.isEmpty && url.rootless.isEmpty)

end Url

end Testbed
