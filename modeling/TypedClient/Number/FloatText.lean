import TypedClient.Number.Binary64
import TypedClient.Number.IntegerText

/-!
# Floating-point numbers in text

A number is written with digits before or after a point, or both, and perhaps an exponent; digits are
decimal ones of any script with single low lines between them. There may be a sign in front and blanks
around the whole. The words for infinity and for what is not a number are read in any case.
-/

namespace TypedClient.Number

/-- The value of each digit at the front of a text, single low lines between them skipped, and the text
after them. -/
def spanDigits : List Char → List Nat × List Char
  | [] => ([], [])
  | c :: rest =>
    match Text.decimalValue? c with
    | none => ([], c :: rest)
    | some d =>
      let (ds, tail) := match rest with
        | '_' :: next :: more =>
          if (Text.decimalValue? next).isSome then spanDigits (next :: more) else ([], rest)
        | rest => spanDigits rest
      (d :: ds, tail)

/-- The natural with the given digits. -/
def ofDigits (ds : List Nat) : Nat := ds.foldl (fun n d => 10 * n + d) 0

/-- An exponent that makes up the rest of a text; zero for an empty rest. -/
def readExponent? : List Char → Option Int
  | [] => some 0
  | c :: rest =>
    if c = 'e' ∨ c = 'E' then
      let (negative, digits) := match rest with
        | '-' :: ds => (true, ds)
        | '+' :: ds => (false, ds)
        | ds => (false, ds)
      match spanDigits digits with
      | ([], _) => none
      | (ds, []) => some (if negative then -(ofDigits ds : Int) else ofDigits ds)
      | (_, _ :: _) => none
    else none

/-- A number without its sign. -/
def readUnsigned? (negative : Bool) (cs : List Char) : Option Binary64 := do
  let (whole, rest) := spanDigits cs
  let (fraction, rest) := match rest with
    | '.' :: after => spanDigits after
    | rest => ([], rest)
  if whole.isEmpty && fraction.isEmpty then none
  else
    let e ← readExponent? rest
    return .ofDecimal negative (ofDigits (whole ++ fraction)) (e - fraction.length)

/-- The word for a number without digits. -/
def readWord? (negative : Bool) (cs : List Char) : Option Binary64 :=
  let word := String.ofList (cs.map Char.toLower)
  if word = "inf" ∨ word = "infinity" then some (.infinity negative)
  else if word = "nan" then some .nan
  else none

/-- The number that a text stands for. -/
def readFloat? (cs : List Char) : Option Binary64 :=
  let (negative, cs) := match Text.stripChars isPadding cs with
    | '-' :: rest => (true, rest)
    | '+' :: rest => (false, rest)
    | rest => (false, rest)
  match readWord? negative cs with
  | some x => some x
  | none => readUnsigned? negative cs

end TypedClient.Number
