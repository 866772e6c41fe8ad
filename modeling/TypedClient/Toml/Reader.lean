import TypedClient.Toml.Entry
import TypedClient.Toml.Layout
import TypedClient.Toml.Writer

/-!
# Reading settings files

The lines of a settings text are read one after the other. A header in brackets names the table that the
entries below it belong to, one in double brackets begins a new table of an array. A table may be named
once, but a table that was only passed through on the way to another may still be named. An entry whose
text goes on is completed by the lines after it.
-/

namespace TypedClient.Toml

/-- A step on the way to a table. -/
inductive TableStep where
  /-- To the value under a name. -/
  | field (name : String)
  /-- To the last item of an array. -/
  | last
deriving DecidableEq, Repr

/-- The state between two lines: the table that is read, the way to the part of it that entries belong
to, the names passed through, and the entry that is still open. -/
structure Reading where
  root : Value := .object []
  place : List TableStep := []
  implied : List String := []
  pending : Option Pending := none

/-- A value with a change made at the end of a way. -/
def changeAt {α : Type} (change : Value → Except Trouble (Value × α)) :
    List TableStep → Value → Except Trouble (Value × α)
  | [], v => change v
  | .field name :: rest, .object fields => do
    let (inside, a) ← changeAt change rest ((Fields.get? fields name).getD (.object []))
    return (.object (Fields.put fields name inside), a)
  | .last :: rest, .list items =>
    match items.getLast? with
    | none => fails .outOfRange
    | some v => do
      let (inside, a) ← changeAt change rest v
      return (.list (items.dropLast ++ [inside]), a)
  | _ :: _, _ => fails .notIterable

/-- What following a header leads to: the value with the tables made that were missing, the way, and the
names passed through. -/
structure Entered where
  value : Value
  place : List TableStep
  implied : List String

/-- The value that a header makes under a new name. -/
def newTable (isArray isLast : Bool) : Value :=
  if isArray && isLast then .list [.object []] else .object []

/-- What a header finds or makes under a name of a table: the value and the names passed through. -/
def enterField (isArray isLast : Bool) (fields : Fields Value) (implied : List String)
    (name : String) : Except Trouble (Value × List String) :=
  match fields.get? name with
  | none =>
    .ok (newTable isArray isLast, if isLast then implied else implied ++ [name])
  | some v =>
    if ¬ isLast then .ok (v, implied)
    else if implied.contains name then
      if isArray then broken "An implicitly defined table can't be an array"
      else .ok (v, implied.erase name)
    else if isArray then
      match v with
      | .list items => .ok (.list (items ++ [.object []]), implied)
      | _ => fails .notObject
    else
      match (Value.object fields).shown with
      | .ok shown => broken ("What? " ++ name ++ " already exists?" ++ shown)
      | .error fault => fails fault

/-- Follows the names of a header from a value. An array is entered at its last item. -/
def enter (isArray : Bool) (names : List String) (implied : List String) (here : Value) :
    Except Trouble Entered :=
  match names with
  | [] => .ok ⟨here, [], implied⟩
  | name :: rest =>
    if name = "" then broken "Can't have a keygroup with an empty name"
    else
      match here with
      | .object fields => do
        let (v, implied) ← enterField isArray rest.isEmpty fields implied name
        let inside ← onward v rest implied
        return { inside with
          value := .object (Fields.put fields name inside.value)
          place := .field name :: inside.place }
      | .list items =>
        match items.getLast? with
        | some (.object fields) => do
          let v := (Fields.get? fields name).getD (newTable isArray rest.isEmpty)
          let inside ← onward v rest implied
          return { inside with
            value := .list (items.dropLast ++ [.object (Fields.put fields name inside.value)])
            place := .last :: .field name :: inside.place }
        | none => fails .outOfRange
        | some _ => fails .notIterable
      | .str "" => fails .outOfRange
      | _ => fails .notIterable
where
  /-- Goes on from the value under a name. The header of an array goes on from the last item. -/
  onward (v : Value) (rest : List String) (implied : List String) : Except Trouble Entered :=
    if ¬ isArray then enter isArray rest implied v
    else
      match v with
      | .object _ => enter isArray rest implied v
      | .list items =>
        match items.getLast? with
        | none => fails .outOfRange
        | some item => do
          let inside ← enter isArray rest implied item
          return { inside with
            value := .list (items.dropLast ++ [inside.value])
            place := .last :: inside.place }
      | .str "" => fails .outOfRange
      | _ => fails .notIterable

/-- Whether a text is enclosed in the quote it begins with. -/
def isEnclosed (cs : List Char) : Bool :=
  cs.length != 1 && cs.head? == cs.getLast?

/-- The quoted name that begins with the first of some parts: the part joined to as many of the next as
it takes to close it, and the parts after those. -/
def joinQuoted (part : List Char) : List (List Char) → Except Trouble (List Char × List (List Char))
  | [] =>
    if isEnclosed (strip part) then .ok (strip part, [])
    else broken ("Invalid group name '" ++ String.ofList (strip part) ++ "' Something went wrong.")
  | next :: rest =>
    if isEnclosed (strip part) then .ok (strip part, next :: rest)
    else joinQuoted (part ++ '.' :: next) rest

/-- The names of a header, from its parts between points. -/
def headerNames : Nat → List (List Char) → Except Trouble (List String)
  | 0, _ => .ok []
  | _, [] => .ok []
  | fuel + 1, part :: rest => do
    let part := strip part
    match part.head? with
    | some c =>
      if c = '"' ∨ c = '\'' then
        let (whole, rest) ← joinQuoted part rest
        return String.ofList (inner whole) :: (← headerNames fuel rest)
    | none => pure ()
    if !isBareName part then
      broken ("Invalid group name '" ++ String.ofList part ++ "'. Try quoting it.")
    return String.ofList part :: (← headerNames fuel rest)

/-- The names in a header line after its opening brackets. -/
def readHeader (close : List Char) (line : List Char) : Except Trouble (List String) := do
  let count := splitCount close false (splitOnQuotes line)
  let parts := splitSeqFirst close count line
  if parts.length < count + 1 ∨ !(strip (parts.getLast?.getD [])).isEmpty then
    broken "Key group not on a line by itself."
  let names := Text.split '.' (close.intercalate parts.dropLast)
  headerNames (names.length + 1) names

/-- The state after a header line. -/
def Reading.header (r : Reading) (line : List Char) : Except Trouble Reading := do
  let (isArray, names) ←
    match line with
    | _ :: '[' :: rest => do pure (true, ← readHeader [']', ']'] rest)
    | _ :: c :: rest => do pure (false, ← readHeader [']'] (c :: rest))
    | _ => broken "Opening key group bracket on line by itself."
  let entered ← enter isArray names r.implied r.root
  return { r with root := entered.value, place := entered.place, implied := entered.implied }

/-- The state after a change of the table that entries belong to. -/
def Reading.change (r : Reading) (f : Value → Except Trouble Assigned) : Except Trouble Reading := do
  let (root, pending) ← changeAt (fun v => do let a ← f v; return (a.table, a.pending)) r.place r.root
  return { r with root, pending }

/-- The fuel for a value in a line. -/
def fuelFor (line : List Char) : Nat := 2 * line.length + 4

/-- The state after an entry. -/
def Reading.entry (r : Reading) (line : List Char) : Except Trouble Reading :=
  r.change (setEntry (fuelFor line) line)

/-- The state after a line that is a table in braces, whose entries are set in the table above it. -/
def Reading.inlineTable (r : Reading) (line : List Char) : Except Trouble Reading := do
  if line.getLast? ≠ some '\x7d' then broken "Line breaks are not allowed in inlineobjects"
  let entries ← inlineEntries (inlineParts line)
  let r ← r.change fun table => do return { table := ← setEntries (fuelFor line) entries table }
  return { r with pending := none }

/-- Whether a line closes the text that goes on in it. -/
def isClosed (text line : List Char) : Except Trouble Bool :=
  match text.head?, line.getLast? with
  | some '[', none => fails .outOfRange
  | some '[', some c => .ok (c == ']')
  | some q, _ => .ok (2 < line.length && line.reverse.take 3 == [q, q, q])
  | none, _ => fails .outOfRange

/-- The state after a line of a text that goes on. -/
def Reading.resume (r : Reading) (p : Pending) (line : List Char) : Except Trouble Reading := do
  let text := p.text ++ line
  if ← isClosed text line then
    let (v, _) ← readValue (fuelFor text) true text
    let r ← r.change fun table =>
      match table with
      | .object fields => .ok { table := .object (Fields.put fields p.key v) }
      | _ => fails .notIterable
    return { r with pending := none }
  else return { r with pending := some (pendingText p.key text text) }

/-- The state after a line. -/
def Reading.line (r : Reading) (line : List Char) : Except Trouble Reading :=
  match r.pending with
  | some p =>
    let line := if p.continued ∨ ¬ p.text.contains '\n' then strip line else line
    if line.isEmpty ∧ p.continued then .ok r else r.resume p line
  | none =>
    let line := strip line
    match line with
    | [] => .ok r
    | '[' :: _ => r.header line
    | '\x7b' :: _ => r.inlineTable line
    | _ => if line.contains '=' then r.entry line else .ok r

/-- The state after lines, the first of which begins at a position. -/
def Reading.lines (r : Reading) (position : Nat) : List (List Char) → Except Trouble Reading
  | [] => .ok r
  | line :: rest => do
    let next ← atPosition position (r.line line)
    next.lines (position + line.length + 1) rest

/-- The table that a text holds. -/
def read (text : List Char) : Except Trouble (Fields Value) := do
  let r ← Reading.lines {} 0 (Text.split '\n' (← layout text))
  match r.root with
  | .object fields => return fields
  | _ => return []

/-- The table that a settings file holds. -/
def readFile (path : String) (text : String) : Except Fault (Fields Value) :=
  match read text.toList with
  | .ok fields => .ok fields
  | .error (.malformed message position) =>
    .error (.unreadableSettings path (located text.toList message position))
  | .error (.fault cause) => .error cause

end TypedClient.Toml
