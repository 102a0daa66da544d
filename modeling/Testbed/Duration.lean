/-!
# Durations

A duration is a signed count of nanoseconds. Its text names hours, minutes and seconds, with a
decimal fraction of seconds (`1h2m3.5s`, `1m0s`); below one second it uses the largest of
milliseconds, microseconds and nanoseconds that fits (`1.5ms`, `2µs`, `7ns`), and zero is
`0s`. Trailing zeros of a fraction are dropped, with its point when nothing is left.

Reading accepts a sign and one or more decimal numbers each followed by a unit
(`ns`, `us`, `µs`, `μs`, `ms`, `s`, `m`, `h`), or a lone `0`.
-/

namespace Testbed

/-- A span of time, counted in nanoseconds. -/
structure Duration where
  nanos : Int
  deriving DecidableEq, Repr, Inhabited

namespace Duration

def nanosecond : Duration := ⟨1⟩
def millisecond : Duration := ⟨1000000⟩
def second : Duration := ⟨1000000000⟩

def ofSeconds (count : Nat) : Duration := ⟨count * 1000000000⟩

instance : Add Duration := ⟨fun a b => ⟨a.nanos + b.nanos⟩⟩
instance : Sub Duration := ⟨fun a b => ⟨a.nanos - b.nanos⟩⟩
instance : LE Duration := ⟨fun a b => a.nanos ≤ b.nanos⟩
instance : LT Duration := ⟨fun a b => a.nanos < b.nanos⟩
instance (a b : Duration) : Decidable (a ≤ b) := inferInstanceAs (Decidable (a.nanos ≤ b.nanos))
instance (a b : Duration) : Decidable (a < b) := inferInstanceAs (Decidable (a.nanos < b.nanos))

@[simp] theorem add_nanos (a b : Duration) : (a + b).nanos = a.nanos + b.nanos := rfl
@[simp] theorem sub_nanos (a b : Duration) : (a - b).nanos = a.nanos - b.nanos := rfl

def minNanos : Int := -((Nat.pow 2 63 : Nat) : Int)
def maxNanos : Int := ((Nat.pow 2 63 : Nat) : Int) - 1

/-- A span clamped to the 64-bit range, as the difference of two clock readings is. -/
def saturate (d : Duration) : Duration := ⟨max minNanos (min maxNanos d.nanos)⟩

/-- The sum of two durations in 64-bit arithmetic, which wraps around past the range. -/
def addWrapping (a b : Duration) : Duration :=
  ⟨(a.nanos + b.nanos - minNanos) % ((Nat.pow 2 64 : Nat) : Int) + minNanos⟩

/-- The digits of a fraction of `places` decimal places, with trailing zeros and then the point
dropped, and the whole part that is left. -/
def fraction (value places : Nat) : String × Nat :=
  let digits := String.ofList (Nat.toDigits 10 (value % Nat.pow 10 places))
  let padded := String.ofList (List.replicate (places - digits.length) '0') ++ digits
  let kept := String.ofList (padded.toList.reverse.dropWhile (· == '0')).reverse
  (if kept.isEmpty then "" else "." ++ kept, value / Nat.pow 10 places)

/-- The text of a nonnegative count of nanoseconds. -/
def magnitudeText (n : Nat) : String :=
  if n == 0 then "0s"
  else if n < 1000 then toString n ++ "ns"
  else if n < 1000000 then
    let (frac, whole) := fraction n 3
    toString whole ++ frac ++ "µs"
  else if n < 1000000000 then
    let (frac, whole) := fraction n 6
    toString whole ++ frac ++ "ms"
  else
    let (frac, seconds) := fraction n 9
    let secondsText := toString (seconds % 60) ++ frac ++ "s"
    let minutes := seconds / 60
    if minutes == 0 then secondsText
    else
      let minutesText := toString (minutes % 60) ++ "m" ++ secondsText
      let hours := minutes / 60
      if hours == 0 then minutesText else toString hours ++ "h" ++ minutesText

def render (d : Duration) : String :=
  if d.nanos < 0 then "-" ++ magnitudeText d.nanos.natAbs else magnitudeText d.nanos.natAbs

instance : ToString Duration := ⟨render⟩

/-- Rounds to the nearest multiple of a positive step, halves away from zero, and clamps the
result to the 64-bit range; a step that is not positive leaves the duration as it is. -/
def round (d step : Duration) : Duration :=
  if step.nanos ≤ 0 then d
  else
    let r := d.nanos.natAbs % step.nanos.natAbs
    let down := d.nanos.natAbs - r
    let magnitude := if r + r < step.nanos.natAbs then down else down + step.nanos.natAbs
    saturate (if d.nanos < 0 then ⟨-(magnitude : Int)⟩ else ⟨magnitude⟩)

/-- Nanoseconds per unit name. -/
def unitScale : String → Option Nat
  | "ns" => some 1
  | "us" => some 1000
  | "µs" => some 1000
  | "μs" => some 1000
  | "ms" => some 1000000
  | "s" => some 1000000000
  | "m" => some 60000000000
  | "h" => some 3600000000000
  | _ => none

def limit : Nat := Nat.pow 2 63

/-- Reads the leading decimal digits; `none` when their value passes the limit. -/
def leadingInt (value : Nat) : List Char → Option (Nat × List Char)
  | c :: rest =>
    if c.isDigit then
      let next := value * 10 + (c.toNat - '0'.toNat)
      if next > limit then none else leadingInt next rest
    else some (value, c :: rest)
  | [] => some (value, [])

/-- Reads the digits after a point: their value while it fits, the power of ten it was scaled
by, and the rest. Digits past what fits are read and ignored. -/
def leadingFraction (value scale : Nat) (full : Bool) : List Char → Nat × Nat × List Char
  | c :: rest =>
    if c.isDigit then
      if full then leadingFraction value scale true rest
      else
        let next := value * 10 + (c.toNat - '0'.toNat)
        if value > (limit - 1) / 10 || next > limit then leadingFraction value scale true rest
        else leadingFraction next (scale * 10) false rest
    else (value, scale, c :: rest)
  | [] => (value, scale, [])

/-- The nanoseconds a fraction adds to a unit, computed in double precision and truncated,
as the format's reference reader does. -/
def fractionNanos (digits scale unitNanos : Nat) : Nat :=
  (Float.ofNat digits * (Float.ofNat unitNanos / Float.ofNat scale)).toUInt64.toNat

/-- Reads the terms of a duration after its sign, adding them to `total`. The length of the
text bounds the number of terms. -/
def readTerms (total : Nat) : (fuel : Nat) → List Char → Option Nat
  | _, [] => some total
  | 0, _ => none
  | fuel + 1, c :: rest => do
    guard (c == '.' || c.isDigit)
    let (whole, afterWhole) ← leadingInt 0 (c :: rest)
    let hadWhole := afterWhole.length != (c :: rest).length
    let (digits, scale, afterFrac, hadFrac) :=
      match afterWhole with
      | '.' :: more =>
        let (digits, scale, left) := leadingFraction 0 1 false more
        (digits, scale, left, left.length != more.length)
      | _ => (0, 1, afterWhole, false)
    guard (hadWhole || hadFrac)
    let unitChars := afterFrac.takeWhile fun u => !(u == '.' || u.isDigit)
    let left := afterFrac.dropWhile fun u => !(u == '.' || u.isDigit)
    let unitNanos ← unitScale (String.ofList unitChars)
    guard (whole ≤ limit / unitNanos)
    let term := whole * unitNanos
    let term := if digits > 0 then term + fractionNanos digits scale unitNanos else term
    guard (term ≤ limit)
    guard (total + term ≤ limit)
    readTerms (total + term) fuel left

/-- Reads a duration; `none` when the text is not one or its value does not fit. -/
def parse? (text : String) : Option Duration :=
  let chars := text.toList
  let (negative, body) :=
    match chars with
    | '-' :: rest => (true, rest)
    | '+' :: rest => (false, rest)
    | _ => (false, chars)
  if body == ['0'] then some ⟨0⟩
  else if body.isEmpty then none
  else do
    let total ← readTerms 0 body.length body
    if negative then some ⟨-(total : Int)⟩
    else if total > limit - 1 then none
    else some ⟨total⟩

end Duration

end Testbed
