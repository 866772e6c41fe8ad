import TypedClient.Number.IntegerText
import TypedClient.Text.Split

/-!
# Integers in loose spelling

Where an integer is expected, a text may stand for one that is not quite spelt as an integer: blanks
around it, a plus sign, zeros in front, single low lines and a fraction of nothing but zeros do not
count. Each of them is taken away in turn, and what is left must be an integer in ASCII digits without
zeros in front. Zeros may even stand in front of a minus sign, but not behind it.
-/

namespace TypedClient.Number

/-- A digit or a sign with which an integer begins that has no zeros in front. -/
def isLeading (c : Char) : Bool := c == '-' || ('1' ≤ c && c ≤ '9')

/-- What is left behind zeros and the low lines among them; `last` is the one just passed, which stays
when nothing else is left or only a fraction. -/
def dropZeros (last : Char) : List Char → Option (List Char)
  | [] => some [last]
  | '0' :: rest => dropZeros '0' rest
  | '_' :: rest => dropZeros '_' rest
  | '.' :: rest => some (last :: '.' :: rest)
  | c :: rest => if isLeading c then some (c :: rest) else none

/-- A number without the zeros in front of it; none when it does not begin like a number. -/
def withoutZeros : List Char → Option (List Char)
  | '0' :: rest => dropZeros '0' rest
  | c :: rest => if isLeading c then some (c :: rest) else none
  | [] => none

/-- A number without a plus sign; none when another sign follows. -/
def withoutPlus : List Char → Option (List Char)
  | '+' :: '-' :: _ => none
  | '+' :: rest => some rest
  | cs => some cs

/-- A number without its fraction, if that is a row of zeros. -/
def withoutFraction (cs : List Char) : List Char :=
  match cs.dropWhile (· != '.') with
  | _ :: zeros =>
    if !zeros.isEmpty && zeros.all (· == '0') then cs.takeWhile (· != '.') else cs
  | [] => cs

/-- A number without its low lines, if each stands on its own between other characters. -/
def withoutLowLines (cs : List Char) : List Char :=
  if cs.head? = some '_' || cs.getLast? = some '_' || Text.occurs ['_', '_'] cs then cs
  else cs.filter (· != '_')

/-- The natural that ASCII digits without zeros in front spell. -/
def readPlainDigits? (ds : List Char) : Option Nat :=
  if ds.all Char.isDigit && (ds = ['0'] || ds.head? != some '0') then readNatural? ds else none

/-- The integer in a plain spelling. Its sign counts as a digit where there are too many. -/
def readPlain? (cs : List Char) : Option Int :=
  if maxDigits < cs.length then none
  else
    match cs with
    | '-' :: ds => (readPlainDigits? ds).map fun n => -(n : Int)
    | ds => (readPlainDigits? ds).map Int.ofNat

/-- The integer that a text in loose spelling stands for. -/
def readLoose? (s : String) : Option Int := do
  let cs ← withoutPlus (Text.stripChars isPadding s.toList)
  let cs ← withoutZeros cs
  readPlain? (withoutLowLines (withoutFraction cs))

end TypedClient.Number
