import TypedClient.Text.Printable

/-!
# Quoted literals

`quote` writes a text as a string literal of the generated language. Single quotes enclose it unless it
holds a single quote and no double one. Inside, the enclosing quote and the backslash are escaped, line
feed, carriage return and tab have letters of their own, and every other character that is not printable
is written by its code point in two, four or eight hexadecimal digits, whichever is the first to fit.
-/

namespace TypedClient.Text

/-- The lower-case hexadecimal digits of a number, in at least `width` places. -/
def hexDigits (width n : Nat) : List Char :=
  let ds := Nat.toDigits 16 n
  List.replicate (width - ds.length) '0' ++ ds

/-- A character by its code point. -/
def escapeCodePoint (c : Char) : List Char :=
  let n := c.toNat
  if n < 0x100 then '\\' :: 'x' :: hexDigits 2 n
  else if n < 0x10000 then '\\' :: 'u' :: hexDigits 4 n
  else '\\' :: 'U' :: hexDigits 8 n

/-- A character of a literal enclosed in `mark`. -/
def escapeChar (mark c : Char) : List Char :=
  if c = mark ∨ c = '\\' then ['\\', c]
  else if c = '\n' then ['\\', 'n']
  else if c = '\r' then ['\\', 'r']
  else if c = '\t' then ['\\', 't']
  else if isPrintable c then [c]
  else escapeCodePoint c

/-- The mark that encloses a text: a single quote, unless only single quotes occur in it. -/
def quoteMark (cs : List Char) : Char :=
  if cs.contains '\'' && !cs.contains '"' then '"' else '\''

/-- The literal of a text. -/
def quote (s : String) : String :=
  let cs := s.toList
  let mark := quoteMark cs
  String.ofList (mark :: cs.flatMap (escapeChar mark) ++ [mark])

end TypedClient.Text
