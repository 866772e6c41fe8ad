import TypedClient.Toml.Scalar

/-!
# Values and entries of settings files

An entry is a key, an equals sign and a value. A key may have several parts with points between them and
then stands in the subtable that its first parts name. A value is a scalar, an array, whose items are
all of one type, or a table in braces, whose entries are set in order. The value of an entry may begin a
text of several lines; then the entry is `Pending` until that text is complete.

Values nest, and every value inside another is shorter than it, so the length of a line is enough fuel.
-/

namespace TypedClient.Toml

/-- The types that the items of an array must share. -/
inductive ValueType where
  | bool
  | text
  | array
  | table
  | time
  | date
  | integer
  | float
deriving DecidableEq, Repr

/-- An entry whose text goes on in the next line: its key and the text so far. A line that ends with a
backslash is `continued` without a line end. -/
structure Pending where
  key : String
  text : List Char
  continued : Bool
deriving Repr

/-- A table, and the entry in it that is still open. -/
structure Assigned where
  table : Value
  pending : Option Pending := none

/-- A text split at quotes, so that every other part is a quoted one. Single quotes count up to the
first double quote and where they open a quotation before it. -/
def splitOnQuotes (line : List Char) : List (List Char) :=
  match Text.split '"' line with
  | first :: second :: rest =>
    if first.contains '\'' then
      let (quoted, left) := absorb (Text.split '\'' first) (second :: rest)
      quoted ++ finish left
    else finish (first :: second :: rest)
  | parts => finish parts
where
  /-- Parts with an open single quote take in what follows up to its end. -/
  absorb (quoted : List (List Char)) : List (List Char) → List (List Char) × List (List Char)
    | [] => (quoted, [])
    | next :: rest =>
      if quoted.length % 2 = 0 then
        let last := (quoted.getLast?.getD []) ++ '"' :: next
        absorb (quoted.dropLast ++ Text.split '\'' last) rest
      else (quoted, next :: rest)
  /-- The first of the parts is split at single quotes too. -/
  finish : List (List Char) → List (List Char)
    | [] => []
    | first :: rest => Text.split '\'' first ++ rest

/-- How many separators of a line are to be split at: those inside quotes before the first part outside
of quotes that has one, and that one. -/
def splitCount (sep : List Char) (quoted : Bool) : List (List Char) → Nat
  | [] => 1
  | part :: rest =>
    if ¬ quoted ∧ Text.occurs sep part then 1
    else ((Text.splitSeq sep part).length - 1) + splitCount sep (!quoted) rest

/-- The parts of a text between the first `count` occurrences of a sequence. -/
def splitSeqFirst (sep : List Char) (count : Nat) (cs : List Char) : List (List Char) :=
  let parts := Text.splitSeq sep cs
  if parts.length ≤ count + 1 then parts
  else parts.take count ++ [sep.intercalate (parts.drop count)]

/-- A text without blanks at its ends. -/
def strip (cs : List Char) : List Char := Text.stripChars Text.isBlank cs

/-- Whether the value after an equals sign can stand there without a blank between them. -/
def isTightValue (cs : List Char) : Except Trouble Bool :=
  match cs with
  | [] => .ok true
  | c :: _ => do
    if c == ' ' || c == '\t' || c == '\'' || c == '"' || c == '[' || c == '\x7b'
        || strip cs == "true".toList || strip cs == "false".toList
        || (Number.readFloat? cs).isSome then
      return true
    return (← readDate cs).isSome || (timeParts? cs).isSome

/-- A value that begins with a digit, without the low lines in it. -/
def plainDigits (cs : List Char) : List Char :=
  if cs.head?.any Char.isDigit then cs.filter (· != '_') else cs

/-- Whether a text keeps to the rules that a number has beside its digits: it neither begins nor ends
with a low line, has none beside a point and no two in a row, and begins with a zero only before a point
or the letter of a base; behind a sign a zero stands alone or before a point. -/
def isStrictNumber (cs : List Char) : Bool :=
  let cs := strip cs
  match cs with
  | [] => false
  | [c] => c != '_'
  | c :: d :: rest =>
    let isSigned := c == '+' || c == '-'
    let signedZero := isSigned && d == '0' && rest.head?.any (· != '.')
    let plainZero := c == '0' && !(['.', 'o', 'b', 'x'].contains d)
    c != '_' && cs.getLast? != some '_' && !Text.occurs ['_', '.'] cs && !Text.occurs ['.', '_'] cs
      && !signedZero && !plainZero && !Text.occurs ['_', '_'] cs

/-- An entry split into its key and its value. -/
structure Split where
  key : List Char
  value : List Char
  /-- Whether a number may stand as the value. -/
  isStrict : Bool

/-- The parts of a line between its first equals signs, all but the last and the last one. -/
def splitSigns (line : List Char) (count : Nat) : List (List Char) × List Char :=
  let parts := Text.splitFirst '=' count line
  (parts.dropLast, parts.getLast?.getD [])

/-- Goes on with a value behind `count` equals signs. As long as it cannot stand there, it begins behind
one more of them; `more` may still be passed over. -/
def splitBehind (line : List Char) :
    Nat → Nat → List (List Char) → List Char → Bool → Except Trouble Split
  | 0, _, _, _, _ => broken "Invalid date or number"
  | more + 1, count, before, value, isStrict => do
    if ← isTightValue value then return ⟨strip (['='].intercalate before), strip value, isStrict⟩
    let (before, next) := splitSigns line (count + 1)
    if next = value then broken "Invalid date or number"
    else splitBehind line more (count + 1) before next (isStrict && isStrictNumber next)

/-- The key and the value of an entry. They are split at the first equals sign outside of quotes behind
which a value can stand. -/
def splitEntry (line : List Char) : Except Trouble Split :=
  let count := splitCount ['='] false (splitOnQuotes line)
  let (before, value) := splitSigns line count
  splitBehind line (line.count '=' + 2) count before (plainDigits value) (isStrictNumber value)

/-- The parts of a key with quotes and points in it: quoted parts as they are, the others without the
blanks around them. -/
def quotedKeyParts (quoted : Bool) : List (List Char) → List (List Char)
  | [] => []
  | part :: rest =>
    (if quoted then [part] else (Text.split '.' part).map strip) ++ quotedKeyParts (!quoted) rest

/-- The parts of a key with points in it. Without quotes, blanks around a point belong to the parts. -/
def keyParts (key : List Char) : List (List Char) :=
  if key.contains '"' ∨ key.contains '\'' then quotedKeyParts false (splitOnQuotes key)
  else Text.split '.' key

/-- The tables that lead to a key, and the last part of the key without the blanks around it. -/
def readKey (key : List Char) : Except Trouble (List String × String) := do
  if key.contains '.' then
    let parts := ((keyParts key).reverse.dropWhile List.isEmpty).reverse
    match parts.getLast? with
    | none => fails .outOfRange
    | some last =>
      return ((parts.dropLast.filter (!·.isEmpty)).map String.ofList, String.ofList (strip last))
  else
    match key.head?, key.getLast? with
    | some a, some b =>
      if a = b ∧ (a = '"' ∨ a = '\'') then return ([], String.ofList (← unescape (inner key)))
      else return ([], String.ofList key)
    | _, _ => fails .outOfRange

/-- Whether an array begins with a text. -/
def isTextArray (cs : List Char) : Bool :=
  match (strip (inner cs)).head? with
  | some c => c == '"' || c == '\''
  | none => false

/-- The last piece of an array that begins with a quote, pieces that do not are joined to those before.
The pieces come last first. -/
def lastText : List (List Char) → Except Trouble (List Char)
  | [] => .ok []
  | [piece] => .ok piece
  | piece :: before :: rest =>
    match piece.head? with
    | none => fails .outOfRange
    | some c =>
      if c = '"' ∨ c = '\'' then .ok piece else lastText ((before ++ ',' :: piece) :: rest)
termination_by pieces => pieces.length

/-- The text of several lines that a value begins and does not end, if it does. -/
def openText (value : List Char) : Except Trouble (Option (List Char)) := do
  if value.length < 3 then return none
  let cs ←
    if value.head? = some '[' ∧ (strip value).getLast? ≠ some ']' ∧ isTextArray value then
      lastText (Text.split ',' (strip (value.drop 1))).reverse
    else pure value
  match cs with
  | [] => fails .outOfRange
  | q :: rest =>
    if q ≠ '"' ∧ q ≠ '\'' then return none
    match rest with
    | [] => fails .outOfRange
    | second :: rest =>
      if second ≠ q then return none
      match rest with
      | [] => fails .outOfRange
      | third :: _ =>
        if third ≠ q ∨ (5 < cs.length ∧ cs.reverse.take 3 = [q, q, q]) then return none
        return some cs

/-- A text that goes on in the next line. -/
def pendingText (key : String) (value opened : List Char) : Pending :=
  if endsEscaped opened then { key, text := value.dropLast, continued := true }
  else { key, text := value ++ ['\n'], continued := false }

/-- Whether a piece of an array is an open text: it does not end with the quote it begins with, or it
begins with three quotes and does not end with them. -/
def isOpenPiece (cs : List Char) : Bool :=
  match cs with
  | [] => false
  | q :: rest =>
    let last := cs.reverse
    if last.head? ≠ some q || endsEscaped rest.dropLast then true
    else rest.take 2 == [q, q] && last[1]? != some q && last[2]? != some q

/-- Pieces of an array with the open texts among them joined to what follows. `joined` says that the
first piece is a join, which must not stay open. -/
def joinTexts (joined : Bool) (pieces : List (List Char)) : Except Trouble (List (List Char)) :=
  match pieces with
  | [] => .ok []
  | [piece] => if joined ∧ isOpenPiece (strip piece) then fails .outOfRange else .ok [piece]
  | piece :: next :: rest =>
    if isOpenPiece (strip piece) then joinTexts true ((piece ++ ',' :: next) :: rest)
    else (joinTexts false (next :: rest)).map (piece :: ·)
termination_by pieces.length

/-- The tables in braces of an array: what stands between an opening brace and the brace that closes
it, braces in quotes not counted. `group` holds the table so far, last first, and `depth` its open
braces; `skip` passes over the character after a table. -/
def braceGroups (group : List Char) (depth : Nat) (quoted skip : Bool) :
    List Char → List (List Char)
  | [] => []
  | c :: rest =>
    if skip then braceGroups [] 0 false false rest
    else if group.isEmpty then
      if c = '\x7b' then braceGroups [c] 1 quoted false rest else braceGroups [] 0 quoted false rest
    else
      let isQuote := (c == '"' || c == '\'') && !(quoted && endsEscaped group.reverse)
      let quoted := if isQuote then !quoted else quoted
      let group := c :: group
      if quoted then braceGroups group depth quoted false rest
      else if c = '\x7b' then braceGroups group (depth + 1) quoted false rest
      else if c ≠ '\x7d' then braceGroups group depth quoted false rest
      else if 1 < depth then braceGroups group (depth - 1) quoted false rest
      else group.reverse :: braceGroups [] 0 quoted true rest

/-- The parts of an array of arrays between the commas outside of the inner ones. -/
def splitOutside (depth : Int) (part : List Char) : List Char → List (List Char)
  | [] => [part.reverse]
  | c :: rest =>
    if c = '[' then splitOutside (depth + 1) (c :: part) rest
    else if c = ']' then splitOutside (depth - 1) (c :: part) rest
    else if c = ',' ∧ depth = 0 then part.reverse :: splitOutside depth [] rest
    else splitOutside depth (c :: part) rest

/-- The texts of the items of an array. -/
def arrayPieces (cs : List Char) : Except Trouble (List (List Char)) :=
  let after := cs.drop 1
  if after.contains '[' ∧ (strip (after.takeWhile (· != '['))).isEmpty then
    .ok (splitOutside 0 [] (inner cs))
  else
    let pieces :=
      if (strip (inner cs)).head? = some '\x7b' then braceGroups [] 0 false false (inner cs)
      else Text.split ',' (inner cs)
    if isTextArray cs then joinTexts false pieces else .ok pieces

/-- Whether a text is the whole of a value in a table in braces. -/
def isInlineValue (value : List Char) (first : Char) : Bool :=
  let last := value.getLast?
  ((first == '"' || first == '\'') && last == some first)
    || first == '-' || first.isDigit || value == "true".toList || value == "false".toList
    || (first == '[' && last == some ']') || (first == '\x7b' && last == some '\x7d')

/-- The texts of the entries of a table in braces: parts between commas, joined until the value of each
is whole. -/
def inlineEntries (parts : List (List Char)) : Except Trouble (List (List Char)) :=
  match parts with
  | [] => .ok []
  | part :: rest =>
    match part.dropWhile (· != '=') with
    | [] => broken "Invalid inline table encountered"
    | _ :: after =>
      let value := strip after
      match value with
      | [] => fails .outOfRange
      | first :: _ =>
        if isInlineValue value first then (inlineEntries rest).map (part :: ·)
        else
          match rest with
          | [] => broken "Invalid inline table value encountered"
          | next :: more => inlineEntries ((part ++ ',' :: next) :: more)
termination_by parts.length

/-- The parts of a table in braces between its commas, none when it is blank. -/
def inlineParts (cs : List Char) : List (List Char) :=
  if (strip (inner cs)).isEmpty then [] else Text.split ',' (inner cs)

/-- A table with a change made in the subtable that names lead to. Subtables that are missing are
made. -/
def changeIn (change : Value → Except Trouble Assigned) : List String → Value → Except Trouble Assigned
  | [], table => change table
  | name :: rest, .object fields => do
    let inside ← changeIn change rest ((Fields.get? fields name).getD (.object []))
    return { inside with table := .object (Fields.put fields name inside.table) }
  | _ :: _, _ => fails .notIterable

/-- A table with a new name in it. -/
def setNew (table : Value) (name : String) (v : Value) : Except Trouble Value :=
  match table with
  | .object fields =>
    if Fields.has fields name then broken "Duplicate keys!" else .ok (.object (Fields.put fields name v))
  | _ => broken "Duplicate keys!"

/-- The items of an array so far, last first, and their type. -/
abbrev Items := List Value × Option ValueType

/-- One item more for an array. Its type must be that of the others. -/
def addItem (items : Items) (item : Value × ValueType) : Except Trouble Items :=
  match items.2 with
  | some type =>
    if type = item.2 then .ok (item.1 :: items.1, items.2) else broken "Not a homogeneous array"
  | none => .ok (item.1 :: items.1, some item.2)

/-- Why there is no such time of day: the first of its parts that is too great. -/
def impossibleTime (hour minute : Nat) : String :=
  if 24 ≤ hour then "hour must be in 0..23"
  else if 60 ≤ minute then "minute must be in 0..59"
  else "second must be in 0..59"

/-- A value that is neither an array nor a table; it is no number unless it may be one. -/
def readScalar (isStrict : Bool) (cs : List Char) : Except Trouble (Value × ValueType) := do
  let word := String.ofList cs
  if cs.isEmpty then broken "Empty value is invalid"
  if word = "true" then return (.bool true, .bool)
  if word = "false" then return (.bool false, .bool)
  let lower := String.ofList (cs.map Char.toLower)
  if lower = "true" ∨ lower = "false" then broken "Only all lowercase booleans allowed"
  match cs with
  | '"' :: _ => return (.str (← readQuoted '"' cs), .text)
  | '\'' :: _ => return (.str (← readQuoted '\'' cs), .text)
  | _ =>
    match timeParts? cs with
    | some (hour, minute, second, micros) =>
      match timeOfDay? hour minute second micros with
      | some t => return (.moment (.time t), .time)
      | none => broken (impossibleTime hour minute)
    | none =>
      match ← readDate cs with
      | some m => return (.moment m, .date)
      | none =>
        if !isStrict then broken "Weirdness with leading zeroes or underscores in your number."
        match ← readNumber cs with
        | .float x => return (.float x, .float)
        | v => return (v, .integer)

mutual
/-- A value. -/
def readValue : Nat → Bool → List Char → Except Trouble (Value × ValueType)
  | 0, _, _ => fails .outOfRange
  | fuel + 1, isStrict, cs =>
    match cs with
    | '[' :: _ => do
      let pieces := ((← arrayPieces cs).map strip).filter (!·.isEmpty)
      let items ← pieces.foldlM (fun items piece => do addItem items (← readValue fuel true piece))
        (([], none) : Items)
      return (.list items.1.reverse, .array)
    | '\x7b' :: _ => do
      let entries ← inlineEntries (inlineParts cs)
      let filled ← setEntries fuel entries (.object [])
      return (filled, .table)
    | cs => readScalar isStrict cs
/-- A table with an entry set in it. -/
def setEntry : Nat → List Char → Value → Except Trouble Assigned
  | 0, _, _ => fails .outOfRange
  | fuel + 1, line, table => do
    let split ← splitEntry line
    let (path, name) ← readKey split.key
    changeIn (fun table => do
      match ← openText split.value with
      | some opened =>
        let _ ← setNew table name .null
        if name = "" then fails .namelessText
        return { table, pending := some (pendingText name split.value opened) }
      | none =>
        let (v, _) ← readValue fuel split.isStrict split.value
        return { table := ← setNew table name v }) path table
/-- A table with entries set in it, up to one whose text does not end. -/
def setEntries : Nat → List (List Char) → Value → Except Trouble Value
  | 0, _, _ => fails .outOfRange
  | _, [], table => .ok table
  | fuel + 1, line :: rest, table => do
    let assigned ← setEntry fuel line table
    match assigned.pending with
    | some _ => return assigned.table
    | none => setEntries fuel rest assigned.table
end

end TypedClient.Toml
