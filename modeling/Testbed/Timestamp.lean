/-!
# Timestamps

A timestamp is a wall-clock reading together with the offset from UTC it was taken in, as
RFC 3339 writes it: `2024-05-01T10:00:01.5+02:00`. Reading accepts exactly the RFC 3339 form:
a four-digit year, two-digit month, day, hour, minute and second in range, an optional
fraction of any length (nanoseconds are kept, further digits dropped), and `Z` or a signed
offset of hours below 24 and minutes below 60. Writing gives the fraction without trailing
zeros and `Z` for a zero offset, so the same instant in the same offset reads back unchanged.

For display a timestamp is moved to UTC and written as `2024-05-01 08:00:01`.
-/

namespace Testbed

/-- A wall-clock reading and its offset from UTC, in seconds east. -/
structure Timestamp where
  year : Int
  month : Nat
  day : Nat
  hour : Nat
  minute : Nat
  second : Nat
  nanos : Nat
  offset : Int
  deriving DecidableEq, Repr, Inhabited

namespace Timestamp

def zero : Timestamp := ⟨1, 1, 1, 0, 0, 0, 0, 0⟩

def isLeap (year : Int) : Bool := year % 4 == 0 && (year % 100 != 0 || year % 400 == 0)

def daysIn (month : Nat) (year : Int) : Nat :=
  match month with
  | 2 => if isLeap year then 29 else 28
  | 4 | 6 | 9 | 11 => 30
  | _ => 31

/-- Days from 1970-01-01 to a civil date of the proleptic Gregorian calendar. -/
def daysFromCivil (year : Int) (month day : Nat) : Int :=
  let y := if month ≤ 2 then year - 1 else year
  let era := (if y ≥ 0 then y else y - 399) / 400
  let yoe := y - era * 400
  let m : Int := month
  let doy := (153 * (if m > 2 then m - 3 else m + 9) + 2) / 5 + day - 1
  let doe := yoe * 365 + yoe / 4 - yoe / 100 + doy
  era * 146097 + doe - 719468

/-- The civil date of a day counted from 1970-01-01. -/
def civilFromDays (days : Int) : Int × Nat × Nat :=
  let z := days + 719468
  let era := (if z ≥ 0 then z else z - 146096) / 146097
  let doe := z - era * 146097
  let yoe := (doe - doe / 1460 + doe / 36524 - doe / 146096) / 365
  let y := yoe + era * 400
  let doy := doe - (365 * yoe + yoe / 4 - yoe / 100)
  let mp := (5 * doy + 2) / 153
  let d := doy - (153 * mp + 2) / 5 + 1
  let m := if mp < 10 then mp + 3 else mp - 9
  (if m ≤ 2 then y + 1 else y, m.toNat, d.toNat)

def epochSeconds (t : Timestamp) : Int :=
  daysFromCivil t.year t.month t.day * 86400 + t.hour * 3600 + t.minute * 60 + t.second -
    t.offset

/-- The same instant read in UTC. -/
def toUtc (t : Timestamp) : Timestamp :=
  let seconds := t.epochSeconds
  let days := seconds / 86400
  let rest := (seconds % 86400).toNat
  let (year, month, day) := civilFromDays days
  ⟨year, month, day, rest / 3600, rest / 60 % 60, rest % 60, t.nanos, 0⟩

def padded (width : Nat) (value : Nat) : String :=
  let digits := toString value
  String.ofList (List.replicate (width - digits.length) '0') ++ digits

def yearText (year : Int) : String :=
  if year < 0 then "-" ++ padded 4 year.natAbs else padded 4 year.natAbs

/-- The fraction of a second without trailing zeros, with its point; empty for none. -/
def fractionText (nanos : Nat) : String :=
  if nanos == 0 then ""
  else
    let digits := (padded 9 nanos).toList
    "." ++ String.ofList (digits.reverse.dropWhile (· == '0')).reverse

def offsetText (offset : Int) : String :=
  if offset == 0 then "Z"
  else
    let minutes := offset.natAbs / 60
    (if offset < 0 then "-" else "+") ++ padded 2 (minutes / 60) ++ ":" ++ padded 2 (minutes % 60)

def render (t : Timestamp) : String :=
  yearText t.year ++ "-" ++ padded 2 t.month ++ "-" ++ padded 2 t.day ++ "T" ++
    padded 2 t.hour ++ ":" ++ padded 2 t.minute ++ ":" ++ padded 2 t.second ++
    fractionText t.nanos ++ offsetText t.offset

/-- Why RFC 3339 cannot write a timestamp, if it cannot: its year takes other than four digits,
or its offset is a day or more. -/
def unwritable? (t : Timestamp) : Option String :=
  if t.year < 0 || t.year > 9999 then some "year outside of range [0,9999]"
  else if t.offset.natAbs ≥ 86400 then some "timezone hour outside of range [0,23]"
  else none

def renderPlain (t : Timestamp) : String :=
  let u := t.toUtc
  yearText u.year ++ "-" ++ padded 2 u.month ++ "-" ++ padded 2 u.day ++ " " ++
    padded 2 u.hour ++ ":" ++ padded 2 u.minute ++ ":" ++ padded 2 u.second

def digitsValue (chars : List Char) : Option Nat :=
  if chars.all Char.isDigit then
    some (chars.foldl (fun v c => v * 10 + (c.toNat - '0'.toNat)) 0)
  else none

def field (width low high : Nat) (chars : List Char) : Option (Nat × List Char) := do
  guard (chars.length ≥ width)
  let value ← digitsValue (chars.take width)
  guard (low ≤ value && value ≤ high)
  pure (value, chars.drop width)

def expect (c : Char) : List Char → Option (List Char)
  | d :: rest => if c == d then some rest else none
  | [] => none

def fractionNanos (digits : List Char) : Nat :=
  let kept := digits.take 9
  (digitsValue kept).getD 0 * Nat.pow 10 (9 - kept.length)

/-- Reads an optional fraction of a second: its nanoseconds, and what follows it. -/
def fraction (chars : List Char) : Nat × List Char :=
  match chars with
  | '.' :: d :: more =>
    if d.isDigit then
      (fractionNanos (d :: more.takeWhile Char.isDigit), more.dropWhile Char.isDigit)
    else (0, chars)
  | _ => (0, chars)

/-- Reads the offset that ends a timestamp: `Z`, or a sign, hours below 24 and minutes below 60. -/
def zone (chars : List Char) : Option Int :=
  match chars with
  | ['Z'] => some 0
  | [sign, h1, h2, ':', m1, m2] => do
    guard (sign == '+' || sign == '-')
    let (hours, _) ← field 2 0 23 [h1, h2]
    let (minutes, _) ← field 2 0 59 [m1, m2]
    let magnitude : Int := (hours * 60 + minutes) * 60
    pure (if sign == '-' then -magnitude else magnitude)
  | _ => none

/-- Reads an RFC 3339 timestamp. -/
def parse? (text : String) : Option Timestamp := do
  let chars := text.toList
  let (year, rest) ← field 4 0 9999 chars
  let rest ← expect '-' rest
  let (month, rest) ← field 2 1 12 rest
  let rest ← expect '-' rest
  let (day, rest) ← field 2 1 31 rest
  guard (day ≤ daysIn month year)
  let rest ← expect 'T' rest
  let (hour, rest) ← field 2 0 23 rest
  let rest ← expect ':' rest
  let (minute, rest) ← field 2 0 59 rest
  let rest ← expect ':' rest
  let (second, rest) ← field 2 0 59 rest
  let (nanos, rest) := fraction rest
  let offset ← zone rest
  pure ⟨year, month, day, hour, minute, second, nanos, offset⟩

/-- The reading a number of seconds after another, in UTC. -/
def addSeconds (t : Timestamp) (seconds : Int) : Timestamp :=
  let u := t.toUtc
  let total := u.epochSeconds + seconds
  let days := total / 86400
  let rest := (total % 86400).toNat
  let (year, month, day) := civilFromDays days
  ⟨year, month, day, rest / 3600, rest / 60 % 60, rest % 60, u.nanos, 0⟩

end Timestamp

end Testbed
