/-!
# Binary floating-point numbers

A `Binary64` is a number of the 64-bit binary format, kept as the integers it is made of: a sign, a
mantissa below 2^53 and an exponent of two from -1074 on. `ofDecimal` reads a decimal number to the
nearest of them, a tie going to the even mantissa; `shortest` finds the fewest decimal digits that
read back as the number, and of those the nearest to it. All of it is exact arithmetic on naturals.
-/

namespace TypedClient

/-- A power of two. -/
def pow2 (n : Nat) : Nat := Nat.pow 2 n

/-- A power of ten. -/
def pow10 (n : Nat) : Nat := Nat.pow 10 n

/-- A number of the 64-bit binary format. The mantissa of a finite number is below 2^53; it is at
least 2^52 unless the exponent is the least one. -/
inductive Binary64 where
  | finite (negative : Bool) (mantissa : Nat) (exponent : Int)
  | infinity (negative : Bool)
  | nan
deriving DecidableEq, Repr, Inhabited

namespace Binary64

/-- The least exponent of two. -/
def minExponent : Int := -1074

/-- The greatest exponent of two. -/
def maxExponent : Int := 971

/-- `num / den` rounded to the nearest natural, a tie to the even one. -/
def roundHalfEven (num den : Nat) : Nat :=
  let q := num / den
  let r := num % den
  if 2 * r < den then q
  else if den < 2 * r then q + 1
  else if q % 2 = 0 then q else q + 1

/-- The fraction `num / den` divided by the power of two `2 ^ e`, as a fraction. -/
def dividePow2 (num den : Nat) (e : Int) : Nat × Nat :=
  if 0 ≤ e then (num, den * pow2 e.toNat) else (num * pow2 (-e).toNat, den)

/-- The number nearest to the fraction `num / den`. -/
def ofFraction (negative : Bool) (num den : Nat) : Binary64 :=
  if num = 0 then .finite negative 0 minExponent
  else
    let guess : Int := (num.log2 : Int) - (den.log2 : Int) - 52
    let tooLow := let (a, b) := dividePow2 num den guess; b * pow2 53 ≤ a
    let tooHigh := let (a, b) := dividePow2 num den guess; a < b * pow2 52
    let exact := if tooLow then guess + 1 else if tooHigh then guess - 1 else guess
    let e := max exact minExponent
    let (a, b) := dividePow2 num den e
    let m := roundHalfEven a b
    let (m, e) := if m = pow2 53 then (pow2 52, e + 1) else (m, e)
    if maxExponent < e then .infinity negative else .finite negative m e

/-- The number of decimal digits of a natural; zero has one. -/
def digitCount (n : Nat) : Nat := (Nat.toDigits 10 n).length

/-- The number nearest to `digits · 10 ^ scale`. Beyond four hundred places either way the answer is
settled by the magnitude alone. -/
def ofDecimal (negative : Bool) (digits : Nat) (scale : Int) : Binary64 :=
  let magnitude := (digitCount digits : Int) + scale
  if digits = 0 then .finite negative 0 minExponent
  else if 400 < magnitude then .infinity negative
  else if magnitude < -400 then .finite negative 0 minExponent
  else if 0 ≤ scale then ofFraction negative (digits * pow10 scale.toNat) 1
  else ofFraction negative digits (pow10 (-scale).toNat)

/-- The interval of the reals that round to a positive finite number, as `(low, high, unit, closed)`:
the reals from `low / unit` to `high / unit`, ends included when `closed`. The lower gap is half as
wide where the mantissa is the least of its exponent. -/
structure Interval where
  low : Nat
  value : Nat
  high : Nat
  unit : Nat
  closed : Bool

/-- The interval of the reals that round to `mantissa · 2 ^ exponent`. -/
def interval (mantissa : Nat) (exponent : Int) : Interval :=
  let scale := if 0 ≤ exponent then pow2 exponent.toNat else 1
  let unit := if 0 ≤ exponent then 4 else 4 * pow2 (-exponent).toNat
  let narrow := mantissa = pow2 52 && minExponent < exponent
  { low := (4 * mantissa - if narrow then 1 else 2) * scale
    value := 4 * mantissa * scale
    high := (4 * mantissa + 2) * scale
    unit := unit
    closed := mantissa % 2 = 0 }

/-- Whether `n · 10 ^ place` lies in the interval. -/
def Interval.holds (i : Interval) (n : Nat) (place : Int) : Bool :=
  let a := if 0 ≤ place then n * pow10 place.toNat * i.unit else n * i.unit
  let s := if 0 ≤ place then 1 else pow10 (-place).toNat
  if i.closed then i.low * s ≤ a && a ≤ i.high * s else i.low * s < a && a < i.high * s

/-- The decimal place of the leading digit of `value / unit`: the greatest `p` with
`10 ^ p ≤ value / unit`. -/
def leadingPlace (value unit : Nat) : Int :=
  if unit ≤ value then (digitCount (value / unit) : Int) - 1
  else
    let k := digitCount (unit / value)
    if unit ≤ value * pow10 (k - 1) then -((k : Int) - 1) else -(k : Int)

/-- The best decimal of an interval on the grid of `place`, if one of the two neighbours of the value
lies in the interval: the nearer of them, a tie going to the even one. -/
def Interval.onGrid? (i : Interval) (place : Int) : Option Nat :=
  let num := if 0 ≤ place then i.value else i.value * pow10 (-place).toNat
  let den := if 0 ≤ place then i.unit * pow10 place.toNat else i.unit
  let below := num / den
  let nearest := roundHalfEven num den
  let other := if nearest = below then below + 1 else below
  if i.holds nearest place then some nearest
  else if i.holds other place then some other
  else none

/-- The decimal with the fewest digits in an interval, trying `count` digits and more, as its digits
and the place of the last of them. -/
def Interval.search (i : Interval) (lead : Int) : Nat → Nat → Nat × Int
  | 0, count => ((i.onGrid? (lead - count + 1)).getD 0, lead - count + 1)
  | fuel + 1, count =>
    match i.onGrid? (lead - count + 1) with
    | some n => (n, lead - count + 1)
    | none => i.search lead fuel (count + 1)

/-- The fewest digits that read back as `mantissa · 2 ^ exponent`, with the place of the last digit.
Seventeen digits always suffice. -/
def shortest (mantissa : Nat) (exponent : Int) : Nat × Int :=
  let i := interval mantissa exponent
  i.search (leadingPlace i.value i.unit) 16 1

/-- Digits without the zeros at their end, and the place moved by as many. -/
def dropZeros : Nat → Nat → Int → Nat × Int
  | 0, n, place => (n, place)
  | fuel + 1, n, place =>
    if n ≠ 0 ∧ n % 10 = 0 then dropZeros fuel (n / 10) (place + 1) else (n, place)

/-- Positional from 10^-4 up to but without 10^16, with at least one digit on each side of the point;
otherwise one digit, the others after a point, and an exponent of at least two digits. -/
def decimalText (digits : Nat) (place : Int) : String :=
  let ds := Nat.toDigits 10 digits
  let point : Int := ds.length + place
  if -4 < point ∧ point ≤ 16 then
    if point ≤ 0 then "0." ++ String.ofList (List.replicate (-point).toNat '0' ++ ds)
    else if point < ds.length then
      String.ofList (ds.take point.toNat ++ '.' :: ds.drop point.toNat)
    else String.ofList (ds ++ List.replicate (point.toNat - ds.length) '0') ++ ".0"
  else
    let e := point - 1
    let size := toString e.natAbs
    let size := if size.length < 2 then "0" ++ size else size
    let tail := if ds.length ≤ 1 then "" else "." ++ String.ofList (ds.drop 1)
    String.ofList (ds.take 1) ++ tail ++ "e" ++ (if e < 0 then "-" else "+") ++ size

/-- The text of a number: its shortest decimal, with a sign when it is negative. -/
def text : Binary64 → String
  | .nan => "nan"
  | .infinity negative => if negative then "-inf" else "inf"
  | .finite negative m e =>
    let magnitude :=
      if m = 0 then "0.0"
      else
        let (n, place) := shortest m e
        let (n, place) := dropZeros 20 n place
        decimalText n place
    if negative then "-" ++ magnitude else magnitude

/-- Whether a number is zero, of either sign. -/
def isZero : Binary64 → Bool
  | .finite _ m _ => m = 0
  | _ => false

/-- The integer part of a finite number. -/
def truncate? : Binary64 → Option Int
  | .finite negative m e =>
    let n : Nat := if 0 ≤ e then m * pow2 e.toNat else m / pow2 (-e).toNat
    some (if negative then -(n : Int) else n)
  | _ => none

/-- The integer that a number is equal to. -/
def integer? : Binary64 → Option Int
  | .finite negative m e =>
    let n : Nat := if 0 ≤ e then m * pow2 e.toNat else m / pow2 (-e).toNat
    if 0 ≤ e ∨ m % pow2 (-e).toNat = 0 then some (if negative then -(n : Int) else n) else none
  | _ => none

/-- The number nearest to the product of two finite numbers. -/
def product : Binary64 → Binary64 → Binary64
  | .finite s m e, .finite t n k =>
    let scale := e + k
    if 0 ≤ scale then ofFraction (s != t) (m * n * pow2 scale.toNat) 1
    else ofFraction (s != t) (m * n) (pow2 (-scale).toNat)
  | _, _ => .nan

/-- The number with the opposite sign. -/
def negate : Binary64 → Binary64
  | .finite negative m e => .finite (!negative) m e
  | .infinity negative => .infinity (!negative)
  | .nan => .nan

end Binary64

end TypedClient
