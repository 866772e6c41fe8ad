import TypedClient.Text.Blank
import TypedClient.Text.Digit

/-!
# Integers in text

An integer is written in decimal digits of any script, with an optional sign, single low lines between
digits, and blanks around the whole. The information separators are not among these blanks. An integer of
more than 4300 digits is neither read nor written.
-/

namespace TypedClient.Number

/-- The greatest number of digits that is read or written. -/
def maxDigits : Nat := 4300

/-- Whether an integer has few enough digits to be written. -/
def isWritable (n : Int) : Bool := n.natAbs < Nat.pow 10 maxDigits

/-- The value of digits with single low lines between them, and their number; `value` and `count` are
those of the digits before. -/
def readDigits (value count : Nat) : List Char → Option (Nat × Nat)
  | [] => some (value, count)
  | '_' :: c :: rest => do
    let d ← Text.decimalValue? c
    readDigits (10 * value + d) (count + 1) rest
  | c :: rest => do
    let d ← Text.decimalValue? c
    readDigits (10 * value + d) (count + 1) rest

/-- The value of a text of digits. -/
def readNatural? : List Char → Option Nat
  | [] => none
  | c :: rest => do
    let d ← Text.decimalValue? c
    let (value, count) ← readDigits d 1 rest
    if count ≤ maxDigits then some value else none

/-- A blank that may stand around a number. -/
def isPadding (c : Char) : Bool :=
  Text.isBlank c && !(0x1C ≤ c.toNat && c.toNat ≤ 0x1F)

/-- The integer that a text stands for. -/
def readInteger? (s : String) : Option Int :=
  match Text.stripChars isPadding s.toList with
  | '-' :: rest => (readNatural? rest).map fun n => -(n : Int)
  | '+' :: rest => (readNatural? rest).map Int.ofNat
  | cs => (readNatural? cs).map Int.ofNat

end TypedClient.Number
