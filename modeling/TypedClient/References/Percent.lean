import TypedClient.Text.Digit

/-!
# Percent encoding

In a reference a byte may be written as a percent sign and two hexadecimal digits, and the bytes of a
text are those of its UTF-8 form. `encode` writes a path so; `decode` reads it. Reading never fails: a
percent sign without two digits stands for itself, and bytes that do not belong to any character are
read as one replacement character for each sequence that is broken off or cannot begin. `decodeBytes`
leaves the bytes as they are.
-/

namespace TypedClient.References

/-- A character of several bytes of which some are read: its code point so far, how many bytes are
missing, and the bounds of the next one. -/
structure Sequence where
  code : Nat
  missing : Nat
  low : Nat
  high : Nat
deriving DecidableEq, Repr

/-- What the first byte of several announces; none when no character begins with it. The bounds leave
out what could be written shorter, the surrogates, and what lies beyond the last code point. -/
def Sequence.begin? (b : Nat) : Option Sequence :=
  if 0xC2 ≤ b ∧ b ≤ 0xDF then some ⟨b - 0xC0, 1, 0x80, 0xBF⟩
  else if b = 0xE0 then some ⟨0, 2, 0xA0, 0xBF⟩
  else if b = 0xED then some ⟨0xD, 2, 0x80, 0x9F⟩
  else if 0xE1 ≤ b ∧ b ≤ 0xEF then some ⟨b - 0xE0, 2, 0x80, 0xBF⟩
  else if b = 0xF0 then some ⟨0, 3, 0x90, 0xBF⟩
  else if b = 0xF4 then some ⟨4, 3, 0x80, 0x8F⟩
  else if 0xF1 ≤ b ∧ b ≤ 0xF3 then some ⟨b - 0xF0, 3, 0x80, 0xBF⟩
  else none

/-- A byte at the beginning of a character: what is complete, and what has begun. -/
def beginByte (b : Nat) : List Char × Option Sequence :=
  if b < 0x80 then ([Char.ofNat b], none)
  else
    match Sequence.begin? b with
    | some s => ([], some s)
    | none => (['\uFFFD'], none)

/-- One more byte. A byte that does not continue a character that has begun breaks it off. -/
def nextByte (state : Option Sequence) (b : Nat) : List Char × Option Sequence :=
  match state with
  | none => beginByte b
  | some s =>
    if s.low ≤ b ∧ b ≤ s.high then
      let code := s.code * 0x40 + (b - 0x80)
      if s.missing = 1 then ([Char.ofNat code], none)
      else ([], some ⟨code, s.missing - 1, 0x80, 0xBF⟩)
    else
      let (found, state) := beginByte b
      ('\uFFFD' :: found, state)

/-- The end of a run of bytes: a character that has begun is broken off. -/
def endBytes (state : Option Sequence) : List Char :=
  if state.isSome then ['\uFFFD'] else []

/-- The rest of a text read, in the middle of a character or not. -/
def decodeFrom (state : Option Sequence) : List Char → List Char
  | [] => endBytes state
  | '%' :: a :: b :: rest =>
    match Text.hexValue? a, Text.hexValue? b with
    | some high, some low =>
      let (found, state) := nextByte state (high * 16 + low)
      found ++ decodeFrom state rest
    | _, _ =>
      let (found, state) := nextByte state '%'.toNat
      found ++ decodeFrom state (a :: b :: rest)
  | c :: rest =>
    if c.toNat < 0x80 then
      let (found, state) := nextByte state c.toNat
      found ++ decodeFrom state rest
    else endBytes state ++ c :: decodeFrom none rest

/-- A text with its percent signs read. -/
def decode (cs : List Char) : List Char := decodeFrom none cs

/-- The bytes of a text with its percent signs read. -/
def decodeBytes : List Char → List UInt8
  | [] => []
  | '%' :: a :: b :: rest =>
    match Text.hexValue? a, Text.hexValue? b with
    | some high, some low => .ofNat (high * 16 + low) :: decodeBytes rest
    | _, _ => .ofNat '%'.toNat :: decodeBytes (a :: b :: rest)
  | c :: rest => (String.singleton c).toUTF8.toList ++ decodeBytes rest

/-- A hexadecimal digit in upper case. -/
def upperHex (n : Nat) : Char := Char.ofNat (if n < 10 then '0'.toNat + n else 'A'.toNat + n - 10)

/-- A character that is written as it is. -/
def isPlain (c : Char) : Bool :=
  c.isAlphanum || c == '_' || c == '.' || c == '-' || c == '~' || c == '/'

/-- The text of a path in a reference. -/
def encode (path : String) : String :=
  String.ofList <| path.toList.flatMap fun c =>
    if isPlain c then [c]
    else (String.singleton c).toUTF8.toList.flatMap fun b =>
      ['%', upperHex (b.toNat / 16), upperHex (b.toNat % 16)]

end TypedClient.References
