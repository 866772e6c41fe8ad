import TypedClient.Number.FloatText
import TypedClient.Text.Literal
import TypedClient.Text.Split
import TypedClient.Toml.Moment
import TypedClient.Toml.Trouble
import TypedClient.Value

/-!
# Scalars of settings files

Texts in quotes and numbers. A text in double quotes has escapes, one in single quotes has none; three
quotes enclose a text of several lines. A number is an integer, also a hexadecimal, octal or binary one,
or has a point or an exponent; low lines in it count for nothing.
-/

namespace TypedClient.Toml

/-- The letters that may follow a backslash, besides those of escapes by code point, with what they
stand for. -/
def escapes : List (Char × Char) :=
  [('0', '\x00'), ('b', '\x08'), ('f', '\x0C'), ('n', '\n'), ('r', '\r'), ('t', '\t'), ('"', '"')]

/-- A text with its escapes by letter resolved; escapes by code point stay. -/
def unescape : List Char → Except Trouble (List Char)
  | [] => .ok []
  | ['\\'] => .ok ['\\']
  | '\\' :: c :: rest =>
    match escapes.lookup c with
    | some d => (unescape rest).map (d :: ·)
    | none =>
      if c = '\\' then (unescape rest).map ('\\' :: ·)
      else if c = 'u' ∨ c = 'U' then (unescape rest).map fun cs => '\\' :: c :: cs
      else broken "Reserved escape sequence used"
  | c :: rest => (unescape rest).map (c :: ·)

/-- Whether every escape of a text begins with a letter that may follow a backslash. The pieces are
those between backslashes; `escaped` says that a backslash before the piece is itself escaped. -/
def checkEscapes (escaped : Bool) : List (List Char) → Except Trouble Unit
  | [] => .ok ()
  | [] :: rest => checkEscapes (!escaped) rest
  | (c :: _) :: rest =>
    if (escapes.lookup c).isNone ∧ c ≠ 'u' ∧ c ≠ 'U' ∧ ¬ escaped then
      broken "Reserved escape sequence used"
    else checkEscapes false rest

/-- Whether an odd number of backslashes stands at the end of a text. -/
def endsEscaped (cs : List Char) : Bool :=
  (cs.reverse.takeWhile (· == '\\')).length % 2 == 1

/-- A hexadecimal digit in lower case. -/
def isHexDigit (c : Char) : Bool := ('0' ≤ c && c ≤ '9') || ('a' ≤ c && c ≤ 'f')

/-- The character that the digits of an escape stand for. -/
def scalarOf (digits : List Char) : Except Trouble Char := do
  let shown := String.ofList digits
  if !(Text.stripChars isHexDigit digits).isEmpty then broken ("Invalid escape sequence: " ++ shown)
  match digits with
  | [] => fails .outOfRange
  | ['d'] => fails .outOfRange
  | 'd' :: c :: _ =>
    if !('0' ≤ c && c ≤ '7') then
      broken ("Invalid escape sequence: " ++ shown ++ ". Only scalar unicode points are allowed.")
  | _ => pure ()
  let n := digits.foldl (fun n d => 16 * n + (Text.hexValue? d).getD 0) 0
  if 0x80000000 ≤ n then fails .tooLarge
  if 0x110000 ≤ n then broken "chr() arg not in range(0x110000)"
  return if 0xD800 ≤ n ∧ n ≤ 0xDFFF then '\uFFFD' else Char.ofNat n

/-- The pieces of a text after the first, each behind an escape mark of `count` digits, resolved. A mark
whose backslash is escaped stays. -/
def resolvePieces (mark : List Char) (count : Nat) (skip : Bool) :
    List (List Char) → Except Trouble (List Char)
  | [] => .ok []
  | piece :: rest =>
    if skip then
      (resolvePieces mark count (endsEscaped piece) rest).map fun cs => mark ++ piece ++ cs
    else do
      let c ← scalarOf ((piece.take count).map Char.toLower)
      return c :: piece.drop count ++ (← resolvePieces mark count false rest)

/-- A text with its escapes of `count` digits behind a mark resolved. -/
def resolveCodePoints (mark : List Char) (count : Nat) (cs : List Char) :
    Except Trouble (List Char) :=
  match Text.splitSeq mark cs with
  | [] => .ok cs
  | first :: rest => (resolvePieces mark count (endsEscaped first) rest).map (first ++ ·)

/-- What has been seen of a text in quotes: how many empty pieces, and whether it is closed. -/
structure Closing where
  empties : Nat := 0
  closed : Bool := false

/-- Whether nothing follows a text after its closing quotes. The pieces are those between quotes. -/
def checkClosing (triple : Bool) (s : Closing) : List (List Char) → Except Trouble Unit
  | [] => .ok ()
  | [] :: rest =>
    checkClosing triple
      (if triple then { s with empties := s.empties + 1 } else { s with closed := true }) rest
  | piece :: rest =>
    if endsEscaped piece then checkClosing triple s rest
    else if s.closed then broken "Found tokens after a closed string. Invalid TOML."
    else if ¬ triple ∨ 1 < s.empties then checkClosing triple { s with closed := true } rest
    else checkClosing triple { s with empties := 0 } rest

/-- The characters of a text without its first and its last one. -/
def inner (cs : List Char) : List Char := (cs.drop 1).dropLast

/-- A text that begins with a quote. -/
def readQuoted (quote : Char) (cs : List Char) : Except Trouble String := do
  match Text.split quote (cs.drop 1) with
  | [] :: [] :: pieces => checkClosing true {} pieces
  | pieces => checkClosing false {} pieces
  let cs ←
    if quote = '"' then do
      checkEscapes false ((Text.split '\\' cs).drop 1)
      unescape (← resolveCodePoints ['\\', 'U'] 8 (← resolveCodePoints ['\\', 'u'] 4 cs))
    else pure cs
  let isTriple := cs[1]? = some quote ∧ (cs.length < 3 ∨ cs[2]? = some quote)
  return String.ofList (inner (if isTriple then inner (inner cs) else cs))

/-- The base that the first characters of a number announce, and its digits. -/
def radix (cs : List Char) : Nat × List Char :=
  match cs with
  | '0' :: c :: rest =>
    if c = 'x' ∨ c = 'X' then (16, rest)
    else if c = 'o' ∨ c = 'O' then (8, rest)
    else if c = 'b' ∨ c = 'B' then (2, rest)
    else (10, cs)
  | cs => (10, cs)

/-- The natural that digits of a base spell. A decimal number does not begin with a zero unless it is
zero. -/
def readNaturalIn? (base : Nat) (digits : List Char) : Option Nat :=
  if base = 10 then
    match Number.readNatural? digits with
    | some n => if digits.head? = some '0' ∧ n ≠ 0 then none else some n
    | none => none
  else if digits.isEmpty then none
  else
    digits.foldlM (fun n c => do
      let d ← Text.hexValue? c
      if d < base then some (base * n + d) else none) 0

/-- Whether an integer is negative, its base and its digits. -/
def integerParts (cs : List Char) : Bool × Nat × List Char :=
  match Text.stripChars Number.isPadding cs with
  | '-' :: rest => (true, radix rest)
  | '+' :: rest => (false, radix rest)
  | rest => (false, radix rest)

/-- An integer with an optional sign, in any of the bases. -/
def readIntegerIn? (cs : List Char) : Option Int :=
  let (negative, base, digits) := integerParts cs
  (readNaturalIn? base digits).map fun n => if negative then -(n : Int) else n

/-- How many decimal digits stand at the front of a text, if it is to be a decimal number. -/
def decimalCount (cs : List Char) : Nat :=
  let (_, base, digits) := integerParts cs
  if base = 10 then (digits.takeWhile fun c => (Text.decimalValue? c).isSome).length else 0

/-- What is said of a text that is no integer; of its literal at most 200 characters. -/
def integerTrouble (cs : List Char) : String :=
  if Number.maxDigits < decimalCount cs then
    "Exceeds the limit (4300 digits) for integer string conversion: value has "
      ++ toString (decimalCount cs) ++ " digits; use sys.set_int_max_str_digits() to increase the limit"
  else
    "invalid literal for int() with base 0: "
      ++ String.ofList ((Text.quote (String.ofList cs)).toList.take 200)

/-- The difference of zero and a number; zero without a sign when the number is zero. -/
def zeroMinus (x : Binary64) : Binary64 :=
  if x.isZero then .finite false 0 Binary64.minExponent else x.negate

/-- Whether a text is read as a floating-point number: it has a point, or an exponent and no `x`, or is
a word. -/
def isFloatText (cs : List Char) : Bool :=
  let word := String.ofList (cs.map Char.toLower)
  cs.contains '.' || (!cs.contains 'x' && (cs.contains 'e' || cs.contains 'E'))
    || word == "inf" || word == "nan"

/-- A floating-point number without its sign. -/
def readFloatText (cs : List Char) : Except Trouble Binary64 := do
  if cs.contains '.' ∨ (¬ cs.contains 'x' ∧ (cs.contains 'e' ∨ cs.contains 'E')) then
    if cs.contains '.' ∧ (cs.dropWhile (· != '.')).length = 1 then
      broken "This float is missing digits after the point"
    if !(cs.head?.any Char.isDigit) then broken "This float doesn't have a leading digit"
  match Number.readFloat? cs with
  | some x => return x
  | none => broken ("could not convert string to float: " ++ Text.quote (String.ofList cs))

/-- A number. -/
def readNumber (cs : List Char) : Except Trouble Value := do
  let negative := cs.head? = some '-'
  let body := (if negative ∨ cs.head? = some '+' then cs.drop 1 else cs).filter (· != '_')
  if isFloatText body then
    let x ← readFloatText body
    return .float (if negative then zeroMinus x else x)
  else
    match readIntegerIn? body with
    | some n => return .int (if negative then -n else n)
    | none => broken (integerTrouble body)

end TypedClient.Toml
