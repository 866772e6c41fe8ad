import TypedClient.Number.IntegerText
import TypedClient.Value

/-!
# Documents in text

`Json.read?` reads a document: values separated by blanks, tabs and line ends, objects whose repeated
names keep their first place and their last value, integers apart from numbers with a fraction or an
exponent, and besides these the words `NaN`, `Infinity` and `-Infinity`. A text that holds anything
after its value, or a control character inside a string, is no document. A value and what
encloses it take a step of fuel each, so twice the length of the text is enough.

How deep the values of a document may be nested is not limited here: the limit that a stack sets to it is not
modelled. Where a schema is loaded such a limit is a parameter.
-/

namespace TypedClient.Json

/-- White space between values. -/
def isSpace (c : Char) : Bool :=
  c == ' ' || c == '\t' || c == '\n' || c == '\r'

/-- The text from its first character that is not white space. -/
def skipSpace (cs : List Char) : List Char := cs.dropWhile isSpace

/-- The number that four hexadecimal digits spell, and the text after them. -/
def readHex4 : List Char → Option (Nat × List Char)
  | a :: b :: c :: d :: rest => do
    let a ← Text.hexValue? a
    let b ← Text.hexValue? b
    let c ← Text.hexValue? c
    let d ← Text.hexValue? d
    return (((a * 16 + b) * 16 + c) * 16 + d, rest)
  | _ => none

/-- The second half of a surrogate pair, when the text goes on with one. -/
def readLowSurrogate : List Char → Option (Nat × List Char)
  | '\\' :: 'u' :: rest => do
    let (n, rest) ← readHex4 rest
    if 0xDC00 ≤ n ∧ n ≤ 0xDFFF then return (n, rest) else none
  | _ => none

/-- The character of an escape by code unit, two units making one character where they are a pair. Half
a pair on its own is read as the replacement character. -/
def readUnicodeEscape (cs : List Char) : Option (Char × List Char) := do
  let (n, rest) ← readHex4 cs
  if 0xD800 ≤ n ∧ n ≤ 0xDBFF then
    match readLowSurrogate rest with
    | some (low, rest) =>
      return (Char.ofNat (0x10000 + (n - 0xD800) * 0x400 + (low - 0xDC00)), rest)
    | none => return ('\uFFFD', rest)
  else if 0xDC00 ≤ n ∧ n ≤ 0xDFFF then return ('\uFFFD', rest)
  else return (Char.ofNat n, rest)

/-- The character of an escape, after its backslash. -/
def readEscape : List Char → Option (Char × List Char)
  | '"' :: rest => some ('"', rest)
  | '\\' :: rest => some ('\\', rest)
  | '/' :: rest => some ('/', rest)
  | 'b' :: rest => some ('\x08', rest)
  | 'f' :: rest => some ('\x0C', rest)
  | 'n' :: rest => some ('\n', rest)
  | 'r' :: rest => some ('\r', rest)
  | 't' :: rest => some ('\t', rest)
  | 'u' :: rest => readUnicodeEscape rest
  | _ => none

/-- The rest of a string after its opening quote; `read` holds its characters so far, last first. -/
def readString : Nat → List Char → List Char → Option (String × List Char)
  | 0, _, _ => none
  | _, _, [] => none
  | _ + 1, read, '"' :: rest => some (String.ofList read.reverse, rest)
  | fuel + 1, read, '\\' :: rest => do
    let (c, rest) ← readEscape rest
    readString fuel (c :: read) rest
  | fuel + 1, read, c :: rest => if c.toNat < 0x20 then none else readString fuel (c :: read) rest

/-- The digits at the front of a text, and the text after them. -/
def spanDigits (cs : List Char) : List Char × List Char :=
  (cs.takeWhile Char.isDigit, cs.dropWhile Char.isDigit)

/-- The natural that ASCII digits spell. -/
def digitsValue (ds : List Char) : Nat :=
  ds.foldl (fun n d => 10 * n + (d.toNat - '0'.toNat)) 0

/-- The integer part: a zero, or digits that do not begin with one. -/
def readIntegerPart : List Char → Option (List Char × List Char)
  | '0' :: rest => some (['0'], rest)
  | c :: rest => if c.isDigit then some (spanDigits (c :: rest)) else none
  | [] => none

/-- The digits after a point; none when the text does not go on with a point and a digit. -/
def readFraction : List Char → List Char × List Char
  | '.' :: rest =>
    match spanDigits rest with
    | ([], _) => ([], '.' :: rest)
    | found => found
  | cs => ([], cs)

/-- The exponent after its letter; none when no digit follows. -/
def readExponentDigits (cs : List Char) : Option (Int × List Char) :=
  let (negative, ds) := match cs with
    | '-' :: rest => (true, rest)
    | '+' :: rest => (false, rest)
    | rest => (false, rest)
  match spanDigits ds with
  | ([], _) => none
  | (ds, rest) => some (if negative then -(digitsValue ds : Int) else digitsValue ds, rest)

/-- The exponent, if the text goes on with one. -/
def readExponent (cs : List Char) : Option (Int × List Char) :=
  match cs with
  | 'e' :: rest => readExponentDigits rest
  | 'E' :: rest => readExponentDigits rest
  | _ => none

/-- A number after its sign: an integer when it has neither fraction nor exponent. An integer of too
many digits is refused. -/
def readNumber (negative : Bool) (cs : List Char) : Option (Value × List Char) := do
  let (whole, rest) ← readIntegerPart cs
  let (fraction, rest) := readFraction rest
  match fraction, readExponent rest with
  | [], none =>
    if Number.maxDigits < whole.length then none
    else
      let n := digitsValue whole
      return (.int (if negative then -(n : Int) else n), rest)
  | fraction, none =>
    return (.float (.ofDecimal negative (digitsValue (whole ++ fraction)) (-fraction.length)), rest)
  | fraction, some (e, rest) =>
    return (.float (.ofDecimal negative (digitsValue (whole ++ fraction)) (e - fraction.length)), rest)

/-- The text after a word it begins with. -/
def afterWord? (word : String) (cs : List Char) : Option (List Char) :=
  if word.toList.isPrefixOf cs then some (cs.drop word.toList.length) else none

/-- The words that stand for values. -/
def words : List (String × Value) :=
  [("null", .null), ("true", .bool true), ("false", .bool false), ("NaN", .float .nan),
   ("Infinity", .float (.infinity false)), ("-Infinity", .float (.infinity true))]

/-- The value of the word that a text begins with. -/
def readWord (cs : List Char) : Option (Value × List Char) :=
  words.findSome? fun (word, v) => (afterWord? word cs).map fun rest => (v, rest)

mutual
/-- A value at the front of a text. -/
def readValue : Nat → List Char → Option (Value × List Char)
  | 0, _ => none
  | _, [] => none
  | fuel + 1, '"' :: rest => do
    let (s, rest) ← readString fuel [] rest
    return (.str s, rest)
  | fuel + 1, '[' :: rest =>
    match skipSpace rest with
    | ']' :: rest => some (.list [], rest)
    | rest => do
      let (items, rest) ← readItems fuel rest
      return (.list items, rest)
  | fuel + 1, '\x7b' :: rest =>
    match skipSpace rest with
    | '\x7d' :: rest => some (.object [], rest)
    | rest => do
      let (fields, rest) ← readFields fuel rest
      return (.object (Fields.ofPairs fields), rest)
  | _ + 1, cs =>
    match readWord cs with
    | some found => some found
    | none =>
      match cs with
      | '-' :: rest => readNumber true rest
      | cs => readNumber false cs
/-- The items of a list up to its closing bracket. -/
def readItems : Nat → List Char → Option (List Value × List Char)
  | 0, _ => none
  | fuel + 1, cs => do
    let (v, rest) ← readValue fuel (skipSpace cs)
    match skipSpace rest with
    | ',' :: rest =>
      let (vs, rest) ← readItems fuel rest
      return (v :: vs, rest)
    | ']' :: rest => return ([v], rest)
    | _ => none
/-- The fields of an object up to its closing brace. -/
def readFields : Nat → List Char → Option (List (String × Value) × List Char)
  | 0, _ => none
  | fuel + 1, cs =>
    match skipSpace cs with
    | '"' :: rest => do
      let (name, rest) ← readString fuel [] rest
      match skipSpace rest with
      | ':' :: rest =>
        let (v, rest) ← readValue fuel (skipSpace rest)
        match skipSpace rest with
        | ',' :: rest =>
          let (fields, rest) ← readFields fuel rest
          return ((name, v) :: fields, rest)
        | '\x7d' :: rest => return ([(name, v)], rest)
        | _ => none
      | _ => none
    | _ => none
end

/-- The document that a text holds. -/
def read? (s : String) : Option Value :=
  let cs := s.toList
  match readValue (2 * cs.length + 2) (skipSpace cs) with
  | some (v, rest) => if (skipSpace rest).isEmpty then some v else none
  | none => none

end TypedClient.Json
