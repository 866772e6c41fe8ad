import TypedClient.Text.Alphanumeric
import TypedClient.Text.Blank
import TypedClient.Toml.Trouble

/-!
# The layout of a settings text

Before its lines are read, a settings text is gone through once, character by character. Comments are
made blank, line ends inside an array become blanks, and the line end after the opening quotes of a
text of several lines is taken into the quotes; every other character stays, and so does the length. On
the way keys are checked for their shape and quotes for their balance.

A quote is judged by the characters before it: three in a row open or close a text of several lines,
and an escaped one does neither. Before the first character of the text stands, as on a ring, its last.
-/

namespace TypedClient.Toml

/-- Where the scan is with regard to a key. -/
inductive KeyPhase where
  /-- Outside a key. -/
  | outside
  /-- Inside a part of a key. -/
  | part
  /-- After a part of a key. -/
  | ended
deriving DecidableEq, Repr

/-- The state of the scan. `before` holds the characters so far as they will stand, last first. -/
structure Scan where
  before : List Char
  /-- How many arrays are open. -/
  arrays : Int := 0
  /-- The quote that encloses the text that is open. -/
  opened : Option Char := none
  /-- Whether the text that is open may go over several lines. -/
  multiline : Bool := false
  inHeader : Bool := false
  inArrayHeader : Bool := false
  inComment : Bool := false
  lineStart : Bool := true
  key : KeyPhase := .outside
  /-- Whether the key has a point in it. -/
  dotted : Bool := false

namespace Scan

/-- Whether an odd number of backslashes stands at the end of a text, given last first. -/
def isEscaped (before : List Char) : Bool :=
  (before.takeWhile (· == '\\')).length % 2 == 1

/-- A character of the result. -/
def push (s : Scan) (c : Char) : Scan := { s with before := c :: s.before }

/-- How many of the two characters before are the given quote, counted back to the first other one. -/
def quotesBefore (s : Scan) (q : Char) : Nat :=
  ((s.before.take 2).takeWhile (· == q)).length

/-- A quote that opens or closes a text: three in a row one of several lines. -/
def toggle (s : Scan) (q : Char) : Scan :=
  if s.quotesBefore q = 2 then
    { s with multiline := !s.multiline, opened := if s.multiline then none else some q }
  else { s with opened := if s.opened.isSome then none else some q }

/-- A character as a quote. Inside a text only its own quote counts, and an escaped double quote does
not. -/
def quote (s : Scan) (c : Char) : Scan :=
  if c = '\'' ∧ s.opened ≠ some '"' then s.toggle c
  else if c = '"' ∧ s.opened ≠ some '\'' then
    let count := s.quotesBefore c
    if count ≠ 1 ∧ isEscaped (s.before.drop count) then s else s.toggle c
  else s

/-- A blank or a point after a part of a key: the next part begins with the next character that is
neither. -/
def nextPart (s : Scan) (next : Option Char) : Except Trouble Scan :=
  match next with
  | none => fails .outOfRange
  | some n => .ok (if Text.isBlank n || n == '.' then s else { s with key := .part })

/-- A character of a key, and whether the key goes on with it. -/
def keyChar (s : Scan) (c : Char) (next : Option Char) (position : Nat) :
    Except Trouble (Scan × Bool) := do
  if c = '\n' then
    .error (.malformed "Key name found without value. Reached end of line." position)
  match s.opened, s.key with
  | some q, _ =>
    if c = q ∧ ¬ isEscaped s.before then return ({ s with key := .ended, opened := none }, true)
    else return (s, true)
  | none, .part =>
    if Text.isBlank c then return ({ s with key := .ended }, true)
    if c = '.' then return ({ s with dotted := true }, true)
    if Text.isAlphanumeric c || c == '_' || c == '-' then return (s, true)
    if s.dotted ∧ s.before.head? = some '.' ∧ (c = '"' ∨ c = '\'') then
      return ({ s with opened := some c }, true)
    stop
  | none, _ =>
    if Text.isBlank c then
      return (← if s.dotted then s.nextPart next else pure s, true)
    if c = '.' then return (← nextPart { s with dotted := true } next, true)
    stop
where
  /-- The end of a key, which must be an equals sign. -/
  stop : Except Trouble (Scan × Bool) :=
    if c = '=' then .ok ({ s with key := .outside, dotted := false }, false)
    else .error (.malformed ("Found invalid character in key name: '" ++ String.singleton c
      ++ "'. Try quoting the key name.") position)

/-- An opening or a closing bracket outside of texts. -/
def bracket (s : Scan) (c : Char) (next : Option Char) : Scan :=
  if s.opened.isSome then s
  else if c = '[' ∧ ¬ s.inHeader ∧ ¬ s.inArrayHeader then
    if ¬ s.lineStart then { s with arrays := s.arrays + 1 }
    else if next = some '[' then { s with inArrayHeader := true }
    else { s with inHeader := true }
  else if c = ']' then
    if s.inHeader then { s with inHeader := false }
    else if s.inArrayHeader then
      if s.before.head? = some ']' then { s with inArrayHeader := false } else s
    else { s with arrays := s.arrays - 1 }
  else s

/-- A line end. -/
def lineEnd (s : Scan) (position : Nat) : Except Trouble Scan :=
  if s.opened.isSome ∨ s.multiline then
    if ¬ s.multiline then .error (.malformed "Unbalanced quotes" position)
    else
      match s.before with
      | a :: b :: rest =>
        if (a = '\'' ∨ a = '"') ∧ b = a then
          let rest := match rest with
            | c :: more => (if c = a then ' ' else c) :: more
            | [] => []
          .ok ({ s with before := a :: b :: rest }.push a)
        else .ok (s.push '\n')
      | _ => .ok (s.push '\n')
  else if s.arrays ≠ 0 then .ok (s.push ' ')
  else .ok { (s.push '\n') with lineStart := true }

/-- Any other character: the first one of a line that is no blank begins a key, unless it begins a
header. -/
def other (s : Scan) (c : Char) (position : Nat) : Except Trouble Scan :=
  let next := s.push c
  if ¬ s.lineStart ∨ c = ' ' ∨ c = '\t' then .ok next
  else if s.inHeader ∨ s.inArrayHeader then .ok { next with lineStart := false }
  else if c = '=' then .error (.malformed "Found empty keyname. " position)
  else .ok { next with lineStart := false, key := .part }

/-- A character outside of keys. -/
def plainChar (s : Scan) (c : Char) (next : Option Char) (position : Nat) : Except Trouble Scan :=
  let s := s.quote c
  if c = '#' ∧ s.opened.isNone ∧ ¬ s.inHeader ∧ ¬ s.inArrayHeader then
    .ok ({ s with inComment := true }.push ' ')
  else
    let s := s.bracket c next
    if c = '\n' then s.lineEnd position else s.other c position

/-- A character. -/
def step (s : Scan) (c : Char) (next : Option Char) (position : Nat) : Except Trouble Scan := do
  if s.inComment then
    if c = '\n' then lineEnd { s with inComment := false } position
    else return s.push ' '
  else if s.key = .outside then s.plainChar c next position
  else
    let (s, goesOn) ← s.keyChar c next position
    if goesOn then return s.push c else s.plainChar c next position

/-- The state after the rest of a text. -/
def run (s : Scan) (position : Nat) : List Char → Except Trouble Scan
  | [] => .ok s
  | c :: rest => do
    let s ← s.step c rest.head? position
    run s (position + 1) rest

end Scan

/-- The text as its lines will be read. -/
def layout (text : List Char) : Except Trouble (List Char) := do
  let s ← Scan.run { before := text.reverse } 0 text
  if s.key ≠ .outside then
    .error (.malformed "Key name found without value. Reached end of file." text.length)
  if s.opened.isSome then
    .error (.malformed "Unterminated string found. Reached end of file." text.length)
  return (s.before.take text.length).reverse

end TypedClient.Toml
