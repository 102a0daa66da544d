/-!
# Binary64 numbers for formatted output

The floating-point conversions of `printf` read their arguments as IEEE 754 binary64 values,
the way the C library's `strtod` does, and write them in the `%f`, `%e` and `%g` forms. Both
directions are exact. A decimal or hexadecimal text rounds to the nearest binary64 value,
ties to even. A binary64 value rounds to the digits asked for in the same way, from its exact
value, so `0.125` printed with two places gives `0.12` while `2.675`, stored just below, gives
`2.67`.

Throughout, `f` and `e` are a binary significand and exponent, denoting `f·2^e`, and `n / d` is
a magnitude held as a ratio of naturals.
-/

namespace Testbed

/-- A binary64 value: a finite one with its sign, significand and exponent, an infinite one, or
not a number. Each keeps its sign, since `-0` and `-nan` print with one. -/
inductive Binary64 where
  | finite (negative : Bool) (f : Nat) (e : Int)
  | infinite (negative : Bool)
  | nan (negative : Bool)
  deriving Inhabited, Repr, DecidableEq

namespace Binary64

def minExponent : Int := -1074

def maxExponent : Int := 971

def normalSignificand : Nat := Nat.pow 2 52

def roundHalfEven (n d : Nat) : Nat :=
  let q := n / d
  let r := n % d
  if 2 * r > d || (2 * r == d && q % 2 == 1) then q + 1 else q

/-- The ratio `n / d` multiplied by `base^k`, still as a ratio of naturals. -/
def scale (base : Nat) (n d : Nat) (k : Int) : Nat × Nat :=
  if 0 ≤ k then (n * Nat.pow base k.toNat, d) else (n, d * Nat.pow base k.natAbs)

/-- The value nearest to `n / d`, ties to even, with whether it is out of range: too large
for a finite value, or below the normal values and inexact. -/
def ofRatio (negative : Bool) (n d : Nat) : Binary64 × Bool :=
  if n == 0 || d == 0 then (.finite negative 0 0, false)
  else
    -- `n / d · 2^(-guess)` lies strictly between `2^51` and `2^53`.
    let guess : Int := (Nat.log2 n : Int) - (Nat.log2 d : Int) - 52
    let (a, b) := scale 2 n d (-guess)
    let e := max (if a / b < normalSignificand then guess - 1 else guess) minExponent
    let (a, b) := scale 2 n d (-e)
    let f := roundHalfEven a b
    let (f, e) := if f == 2 * normalSignificand then (normalSignificand, e + 1) else (f, e)
    if e > maxExponent then (.infinite negative, true)
    else (.finite negative f e, f < normalSignificand && a % b != 0)

def ofNat (n : Nat) : Binary64 := (ofRatio false n 1).1

/-- The value `m·base^k` with the given sign, with whether it is out of range. Exponents far
outside the range of the format settle the result without computing the power. -/
def ofScaled (negative : Bool) (m base : Nat) (k : Int) : Binary64 × Bool :=
  if m == 0 then (.finite negative 0 0, false)
  else
    let size : Int := if base == 10 then (toString m).length else Nat.log2 m + 1
    let limit : Int := if base == 10 then 310 else 1030
    if size + k > limit then (.infinite negative, true)
    else if size + k < -limit - 20 then (.finite negative 0 0, true)
    else
      let (n, d) := scale base m 1 k
      ofRatio negative n d

/-- The value of a digit in a base, if the character is one. -/
def digitIn (base : Nat) (c : Char) : Option Nat :=
  let v :=
    if c.isDigit then c.toNat - '0'.toNat
    else if 'a' ≤ c && c ≤ 'f' then c.toNat - 'a'.toNat + 10
    else if 'A' ≤ c && c ≤ 'F' then c.toNat - 'A'.toNat + 10
    else 99
  if v < base then some v else none

/-- Reads digits of a base: their value, how many there were, and what follows. -/
def readDigits (base : Nat) : List Char → Nat → Nat → Nat × Nat × List Char
  | c :: rest, value, count =>
    match digitIn base c with
    | some v => readDigits base rest (value * base + v) (count + 1)
    | none => (value, count, c :: rest)
  | [], value, count => (value, count, [])

/-- Reads a significand in a base: its digits as one number, how many digits follow the
point, how many characters it took, and what follows. It takes no point without a digit. -/
def readSignificand (base : Nat) (chars : List Char) : Nat × Nat × Nat × List Char :=
  let (whole, wholeCount, rest) := readDigits base chars 0 0
  match rest with
  | '.' :: more =>
    let (value, fractionCount, after) := readDigits base more whole 0
    if wholeCount + fractionCount == 0 then (0, 0, 0, chars)
    else (value, fractionCount, wholeCount + 1 + fractionCount, after)
  | _ => (whole, 0, wholeCount, rest)

/-- Reads an exponent after its letter: its value and how many characters it took, the letter
included, or nothing when no digit follows. -/
def readExponent (chars : List Char) : Int × Nat :=
  let (negative, signCount, rest) := match chars with
    | '-' :: more => (true, 1, more)
    | '+' :: more => (false, 1, more)
    | other => (false, 0, other)
  let (value, count, _) := readDigits 10 rest 0 0
  if count == 0 then (0, 0)
  else (if negative then -(value : Int) else value, 1 + signCount + count)

/-- Whether a text starts with a word, ignoring case. -/
def startsWithWord (chars : List Char) (word : String) : Bool :=
  let w := word.toList
  chars.length ≥ w.length && (chars.take w.length).map Char.toLower == w

/-- Reads the longest start of a text that is a number, the way `strtod` does: the value, how
many characters it took (none when the text has no number), and whether the value is out of
range. Blanks before the number and a sign are taken; then `inf`, `infinity` or `nan` in any
case, a hexadecimal significand after `0x` with a binary exponent after `p`, or a decimal
significand with a decimal exponent after `e`. -/
def read (text : String) : Binary64 × Nat × Bool :=
  let chars := text.toList
  let blanks := (chars.takeWhile fun c => " \t\n\r\x0b\x0c".toList.contains c).length
  let rest := chars.drop blanks
  let (negative, signCount, rest) := match rest with
    | '-' :: more => (true, 1, more)
    | '+' :: more => (false, 1, more)
    | other => (false, 0, other)
  let lead := blanks + signCount
  if startsWithWord rest "infinity" then (.infinite negative, lead + 8, false)
  else if startsWithWord rest "inf" then (.infinite negative, lead + 3, false)
  else if startsWithWord rest "nan" then
    let after := rest.drop 3
    let payload := after.drop 1 |>.takeWhile fun c => c.isAlphanum || c == '_'
    let closed := after.head? == some '(' && (after.drop (1 + payload.length)).head? == some ')'
    (.nan negative, lead + 3 + (if closed then payload.length + 2 else 0), false)
  else
    let hex := match rest with
      | '0' :: x :: more =>
        if x == 'x' || x == 'X' then
          let (m, places, used, after) := readSignificand 16 more
          if used == 0 then none else some (m, places, used, after)
        else none
      | _ => none
    match hex with
    | some (m, places, used, after) =>
      let (power, powerCount) := match after with
        | p :: more => if p == 'p' || p == 'P' then readExponent more else (0, 0)
        | [] => (0, 0)
      let (value, range) := ofScaled negative m 2 (power - 4 * places)
      (value, lead + 2 + used + powerCount, range)
    | none =>
      let (m, places, used, after) := readSignificand 10 rest
      if used == 0 then (.finite false 0 0, 0, false)
      else
        let (power, powerCount) := match after with
          | c :: more => if c == 'e' || c == 'E' then readExponent more else (0, 0)
          | [] => (0, 0)
        let (value, range) := ofScaled negative m 10 (power - places)
        (value, lead + used + powerCount, range)

def atLeastPowTen (n d : Nat) (x : Int) : Bool :=
  if 0 ≤ x then n ≥ d * Nat.pow 10 x.toNat else n * Nat.pow 10 x.natAbs ≥ d

/-- The decimal exponent of a positive `n / d`: the `x` with `10^x ≤ n / d < 10^(x+1)`.
Counting digits puts `n / d` strictly between `10^(guess-1)` and `10^(guess+1)`. -/
def decimalExponent (n d : Nat) : Int :=
  let guess : Int := (toString n).length - (toString d).length
  if atLeastPowTen n d guess then guess else guess - 1

/-- Writes a decimal integer with a point before its last `places` digits, padding with zeros
so that one digit stands before the point. The point is kept without decimals when
`alternate`. -/
def withPoint (digits : Nat) (places : Nat) (alternate : Bool) : String :=
  let text := toString digits
  let chars := List.replicate (places + 1 - text.length) '0' ++ text.toList
  let whole := String.ofList (chars.take (chars.length - places))
  if places == 0 then (if alternate then whole ++ "." else whole)
  else whole ++ "." ++ String.ofList (chars.drop (chars.length - places))

def fixed (n d : Nat) (places : Nat) (alternate : Bool) : String :=
  let (a, b) := scale 10 n d places
  withPoint (roundHalfEven a b) places alternate

/-- The digits of `n / d` rounded to `places + 1` significant digits, and the decimal exponent
of the first; zero has exponent zero. -/
def significant (n d : Nat) (places : Nat) : Nat × Int :=
  if n == 0 then (0, 0)
  else
    let x := decimalExponent n d
    let (a, b) := scale 10 n d ((places : Int) - x)
    let m := roundHalfEven a b
    if m == Nat.pow 10 (places + 1) then (Nat.pow 10 places, x + 1) else (m, x)

def exponentText (x : Int) : String :=
  let digits := toString x.natAbs
  (if x < 0 then "e-" else "e+") ++ (if digits.length < 2 then "0" ++ digits else digits)

/-- The magnitude `n / d` with one digit before the point and `places` after it, and an
exponent, as `%e` writes it. -/
def scientific (n d : Nat) (places : Nat) (alternate : Bool) : String :=
  let (m, x) := significant n d places
  withPoint m places alternate ++ exponentText x

/-- Removes the zeros that end the decimals of a number, and the point if no decimal is
left. -/
def trimZeros (text : String) : String :=
  if text.contains '.' then
    let kept := (text.toList.reverse.dropWhile (· == '0')).reverse
    String.ofList (if kept.getLast? == some '.' then kept.dropLast else kept)
  else text

/-- The magnitude `n / d` with `digits` significant digits, as `%g` writes it: in the `%f`
form when its exponent is at least `-4` and below the digits, in the `%e` form otherwise, and
without ending zeros unless `alternate`. -/
def general (n d : Nat) (digits : Nat) (alternate : Bool) : String :=
  let p := if digits == 0 then 1 else digits
  let (_, x) := significant n d (p - 1)
  if x < p && x ≥ -4 then
    let text := fixed n d (p - 1 - x).toNat alternate
    if alternate then text else trimZeros text
  else
    let (m, x) := significant n d (p - 1)
    let body := withPoint m (p - 1) alternate
    (if alternate then body else trimZeros body) ++ exponentText x

def isNegative : Binary64 → Bool
  | .finite negative _ _ | .infinite negative | .nan negative => negative

/-- The text of a value's magnitude in the form of a conversion letter, `f`, `e` or `g`, with
its number of places (significant digits for `g`). -/
def magnitudeText (value : Binary64) (form : Char) (places : Nat) (alternate : Bool) : String :=
  match value with
  | .infinite _ => "inf"
  | .nan _ => "nan"
  | .finite _ f e =>
    let (n, d) := scale 2 f 1 e
    match form with
    | 'e' => scientific n d places alternate
    | 'g' => general n d places alternate
    | _ => fixed n d places alternate

end Binary64

end Testbed
