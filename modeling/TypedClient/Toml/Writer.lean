import TypedClient.Links
import TypedClient.Text.Split

/-!
# Writing settings files

A table is written as its plain entries, one a line, then its arrays of tables, then its subtables, each
under a header with the full name. Nulls are left out of tables. A text is written as a quoted literal
in double quotes; the format has no escape of two hexadecimal digits, so such escapes are spelled out in
place, which `mendEscapes` does from the left.
-/

namespace TypedClient.Toml

/-- A character of a bare name. -/
def isBareChar (c : Char) : Bool :=
  c.isAlphanum || c == '_' || c == '-'

/-- A name that needs no quotes. A line end after it does not count. -/
def isBareName (cs : List Char) : Bool :=
  let body := match cs.reverse with
    | '\n' :: rest => rest
    | rest => rest
  !body.isEmpty && body.all isBareChar

/-- The number of backslashes at the end of a text. -/
def trailingBackslashes (cs : List Char) : Nat :=
  (cs.reverse.takeWhile (· == '\\')).length

/-- What takes the place of `\x` after a text: the letter alone, or the beginning of a longer escape
when the backslashes before it leave one over. -/
def escapeJoiner (before : List Char) : List Char :=
  let count := trailingBackslashes before
  let counted := min count (before.length - 1)
  if (count == 0) != (counted % 2 == 1) then ['x'] else ['u', '0', '0']

/-- A text in pieces around the escapes of two digits, put together again; `none` when it has nothing
but one such escape at its front. -/
def mendEscapes : Nat → List (List Char) → Option (List Char)
  | 0, _ => none
  | _, [] => some []
  | _, [whole] => some whole
  | fuel + 1, first :: rest =>
    match (if first.isEmpty then rest else first :: rest) with
    | [] => some []
    | [_] => none
    | first :: next :: others =>
      let first := Text.replaceSeq ['\\', '\\'] ['\\'] first
      mendEscapes fuel ((first ++ escapeJoiner first ++ next) :: others)

/-- A text in double quotes. -/
def quote (s : String) : Except Fault String :=
  let literal := (Text.quote s).toList
  let single := literal.head? == some '\''
  let body := (literal.drop 1).dropLast
  let body := if single then
      Text.replaceSeq ['"'] ['\\', '"'] (Text.replaceSeq ['\\', '\''] ['\''] body)
    else body
  let pieces := Text.splitSeq ['\\', 'x'] body
  match mendEscapes pieces.length pieces with
  | some cs => .ok ("\"" ++ String.ofList cs ++ "\"")
  | none => .error .outOfRange

/-- A name as it is written. -/
def writeName (name : String) : Except Fault String :=
  if isBareName name.toList then .ok name else quote name

/-- A floating-point number: without a leading zero in its exponent. -/
def floatText (x : Binary64) : String :=
  String.ofList <|
    Text.replaceSeq ['e', '-', '0'] ['e', '-'] (Text.replaceSeq ['e', '+', '0'] ['e', '+'] x.text.toList)

/-- The items of an array in its brackets. -/
def bracket (items : List String) : String :=
  "[" ++ String.join (items.map fun s => " " ++ s ++ ",") ++ "]"

mutual
/-- A value on the right of an equals sign. A table inside an array is written as the array of its
names, a null as the text `None`. -/
def writeValue (v : Value) : Except Fault String := match v with
  | .null => quote "None"
  | .bool b => .ok (if b then "true" else "false")
  | .int n => if Number.isWritable n then .ok (toString n) else .error .notNumber
  | .float x => .ok (floatText x)
  | .str s => quote s
  | .moment m => if m.hasClock then .ok m.storedText else .error .impossibleOffset
  | .list items => (writeItems items).map bracket
  | .object fields => (fields.mapM fun f => quote f.1).map bracket
  | .link _ _ fields => (fields.mapM fun f => quote f.1).map bracket
termination_by structural v
/-- The items of an array. -/
def writeItems (items : List Value) : Except Fault (List String) := match items with
  | [] => .ok []
  | v :: rest => do
    let s ← writeValue v
    return s :: (← writeItems rest)
termination_by structural items
end

/-- Whether a value is a table. -/
def isTable : Value → Bool
  | .object _ => true
  | _ => false

/-- What a table is written as: its own lines, and its subtables under their written names. -/
structure Section where
  lines : String := ""
  tables : Fields (Fields Value) := []

/-- A name under a table. -/
def qualify (parent name : String) : String :=
  if parent = "" then name
  else if parent.toList.getLast? = some '.' then parent ++ name
  else parent ++ "." ++ name

/-- The subtables of a table of an array, level by level, each under its header if it has lines. -/
def writeInner (writeTable : Fields Value → String → Except Fault Section) (parent : String) :
    Nat → Fields (Fields Value) → Except Fault String
  | 0, _ => .ok ""
  | _, [] => .ok ""
  | fuel + 1, tables => do
    let written ← tables.mapM fun t => do
      let s ← writeTable t.2 (qualify parent t.1)
      let text := if s.lines = "" then "" else "[" ++ qualify parent t.1 ++ "]\n" ++ s.lines
      return (text, s.tables.map fun inner => (t.1 ++ "." ++ inner.1, inner.2))
    let deeper ← writeInner writeTable parent fuel (Fields.ofPairs (written.flatMap (·.2)))
    return String.join (written.map (·.1)) ++ deeper

/-- An array of tables: each table under the header of the array. What is in the array and is not a
table must be empty. -/
def writeTableArray (writeTable : Fields Value → String → Except Fault Section) (fuel : Nat)
    (name : String) (items : List Value) : Except Fault String := do
  let parts ← items.mapM fun v => do
    match v with
    | .object fields =>
      let s ← writeTable fields name
      let inner ← writeInner writeTable name fuel s.tables
      let header := "[[" ++ name ++ "]]\n"
      return if s.lines.toList.head? = some '[' then header ++ "\n" ++ s.lines ++ inner
        else header ++ s.lines ++ "\n" ++ inner
    | v =>
      match ← Links.none.items v with
      | [] => return "[[" ++ name ++ "]]\n\n"
      | first :: _ =>
        let _ ← writeName (← first.shown)
        throw .notIterable
  return String.join parts

/-- The lines and the subtables of a table. Arrays of tables may nest up to a depth. -/
def writeTable : Nat → Fields Value → String → Except Fault Section
  | 0, _, _ => .ok {}
  | depth + 1, fields, name => do
    let parts ← fields.mapM fun f => do
      let key ← writeName f.1
      match f.2 with
      | .object inner => return (("", ""), [(key, inner)])
      | .null => return (("", ""), [])
      | .list items =>
        if items.any isTable then
          let text ← writeTableArray (writeTable depth) (depth + 1) (qualify name key) items
          return (("", text), [])
        else return ((key ++ " = " ++ (← writeValue (.list items)) ++ "\n", ""), [])
      | v => return ((key ++ " = " ++ (← writeValue v) ++ "\n", ""), [])
    return {
      lines := String.join (parts.map (·.1.1)) ++ String.join (parts.map (·.1.2))
      tables := Fields.ofPairs (parts.flatMap (·.2)) }

/-- Appends a table under its header, unless it has nothing but subtables. -/
def appendSection (text : String) (name : String) (s : Section) : String :=
  if s.lines = "" ∧ s.tables ≠ [] then text
  else
    let gap := if text = "" ∨ text.toList.reverse.take 2 = ['\n', '\n'] then "" else "\n"
    text ++ gap ++ "[" ++ name ++ "]\n" ++ s.lines

/-- Appends subtables level by level. -/
def appendSections (depth : Nat) : Nat → String → Fields (Fields Value) → Except Fault String
  | 0, text, _ => .ok text
  | _, text, [] => .ok text
  | fuel + 1, text, tables => do
    let (text, deeper) ← tables.foldlM (fun (text, deeper) t => do
      let s ← writeTable depth t.2 t.1
      return (appendSection text t.1 s, deeper ++ s.tables.map fun inner => (t.1 ++ "." ++ inner.1, inner.2)))
      (text, ([] : Fields (Fields Value)))
    appendSections depth fuel text (Fields.ofPairs deeper)

mutual
/-- How deep lists and objects nest in a value. -/
def depthOf (v : Value) : Nat := match v with
  | .list items => depthOfItems items + 1
  | .object fields => depthOfFields fields + 1
  | _ => 1
termination_by structural v
/-- How deep the deepest of some items is. -/
def depthOfItems (items : List Value) : Nat := match items with
  | [] => 0
  | v :: rest => max (depthOf v) (depthOfItems rest)
termination_by structural items
/-- How deep the value of a field is. -/
def depthOfField (f : String × Value) : Nat := match f with
  | (_, v) => depthOf v
termination_by structural f
/-- How deep the deepest of some fields is. -/
def depthOfFields (fields : List (String × Value)) : Nat := match fields with
  | [] => 0
  | f :: rest => max (depthOfField f) (depthOfFields rest)
termination_by structural fields
end

/-- The text of a table. -/
def write (table : Fields Value) : Except Fault String := do
  let depth := depthOfFields table + 1
  let s ← writeTable depth table ""
  appendSections depth depth s.lines s.tables

end TypedClient.Toml
