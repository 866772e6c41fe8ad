import TypedClient.Proofs.Outcome
import TypedClient.Toml.Reader

/-!
# The lines of a settings file

Settings are written one line to a name: a text in double quotes, the header of a table, or an array of texts
in a table. `Reading.lines_cons` goes through a file line by line, and for each of these kinds of lines there
is what reading it does: `Reading.line_text`, `Reading.line_header` and `Reading.line_entry`.

What a line must have for that (`IsEntry`, `IsTextLine`, `IsHeaderLine`) can be decided.
-/

namespace TypedClient.Toml

/-- What comes of a line goes on with the lines behind it. -/
theorem Reading.lines_cons {r next : Reading} {line : List Char} {rest : List (List Char)} (position : Nat)
    (h : r.line line = .ok next) :
    r.lines position (line :: rest) = next.lines (position + line.length + 1) rest := by
  rw [lines, h]
  rfl

/-! ## Entries -/

/-- A line that is an entry with a bare name: the name, and the text of its value. -/
def IsEntry (line : List Char) (name : String) (value : List Char) : Prop :=
  strip line = line ∧ line.head?.any (fun c => c != '[' && c != '\x7b') = true ∧ line.contains '=' = true ∧
    (splitEntry line >>= fun s => return (← readKey s.key, s.value, s.isStrict)).toOption =
      some (([], name), value, true) ∧
    (openText value).toOption = some none

instance (line : List Char) (name : String) (value : List Char) : Decidable (IsEntry line name value) :=
  inferInstanceAs (Decidable (_ ∧ _))

/-- An entry sets its value under its name in the table that entries belong to. Of the fuel for a line its value
has all but one step. -/
theorem Reading.line_entry {r : Reading} {line value : List Char} {name : String} {v : Value} {type : ValueType}
    (idle : r.pending = none) (entry : IsEntry line name value)
    (read : readValue (2 * line.length + 3) true value = .ok (v, type)) :
    r.line line = r.change fun table => do return { table := ← setNew table name v } := by
  obtain ⟨stripped, start, sign, parts, whole⟩ := entry
  obtain ⟨⟨key, _, _⟩, split, parts⟩ := bind_eq_ok.mp (toOption_eq_some.mp parts)
  obtain ⟨path, named, parts⟩ := bind_eq_ok.mp parts
  cases parts
  have one : r.line line = r.entry line := by
    simp only [Reading.line, idle, stripped]
    split
    · cases start
    · cases start
    · cases start
    · rw [if_pos sign]
  have set (table : Value) : setEntry (2 * line.length + 4) line table =
      (do return { table := ← setNew table name v } : Except Trouble Assigned) := by
    rw [setEntry, split, ok_bind, named]
    simp only [ok_bind, changeIn, toOption_eq_some.mp whole, read]
  rw [one]
  exact congrArg r.change (funext set)

/-! ## Values -/

/-- A text in double quotes is a value. -/
theorem readValue_text {cs : List Char} {text : String} (read : (readQuoted '"' ('"' :: cs)).toOption = some text)
    (fuel : Nat) (isStrict : Bool) : readValue (fuel + 1) isStrict ('"' :: cs) = .ok (.str text, .text) := by
  have noWord (cs : List Char) (w : String) (h : w.toList.head? ≠ some '"') : String.ofList ('"' :: cs) ≠ w := by
    rintro rfl
    simp at h
  have scalar : readValue (fuel + 1) isStrict ('"' :: cs) = readScalar isStrict ('"' :: cs) := by
    rw [readValue]
    all_goals
      intro tail same
      cases same
  have lower : ('"' :: cs).map Char.toLower = '"' :: cs.map Char.toLower := rfl
  rw [scalar, readScalar]
  simp only [lower, noWord _ "true" (by decide), noWord _ "false" (by decide), List.isEmpty_cons,
    Bool.false_eq_true, if_false, or_self, toOption_eq_some.mp read]
  rfl

/-- An array with one text in it is a value. -/
theorem readValue_singleText {cs item : List Char} {text : String} {fuel : Nat}
    (parts : (arrayPieces ('[' :: cs)).toOption.map (fun pieces => (pieces.map strip).filter (!·.isEmpty)) =
      some ['"' :: item])
    (read : (readQuoted '"' ('"' :: item)).toOption = some text) (isStrict : Bool) :
    readValue (fuel + 2) isStrict ('[' :: cs) = .ok (.list [.str text], .array) := by
  obtain ⟨pieces, found, single⟩ := Option.map_eq_some_iff.mp parts
  rw [readValue, toOption_eq_some.mp found, ok_bind]
  dsimp only
  rw [single, List.foldlM_cons, readValue_text read]
  rfl

/-! ## Texts and headers -/

/-- The characters of a text in double quotes behind the first of them. -/
def quotedRest (text : String) : List Char := text.toList ++ ['"']

/-- The line that sets a name to a text. -/
def textLine (name text : String) : List Char := name.toList ++ [' ', '=', ' ', '"'] ++ quotedRest text

/-- The line that sets a name to a text is read as that. -/
def IsTextLine (name text : String) : Prop :=
  IsEntry (textLine name text) name ('"' :: quotedRest text) ∧
    (readQuoted '"' ('"' :: quotedRest text)).toOption = some text

instance (name text : String) : Decidable (IsTextLine name text) := inferInstanceAs (Decidable (_ ∧ _))

/-- A text is set at the root while no header has been read. -/
theorem Reading.line_text (fields : Fields Value) {name text : String} (h : IsTextLine name text)
    (fresh : Fields.has fields name = false) :
    ({ root := .object fields } : Reading).line (textLine name text) =
      .ok { root := .object (Fields.put fields name (.str text)) } := by
  rw [line_entry rfl h.1 (readValue_text h.2 _ _), Reading.change]
  simp only [changeAt, setNew, fresh, Bool.false_eq_true, if_false]
  rfl

/-- The line that begins a table. -/
def headerLine (name : String) : List Char := '[' :: (name.toList ++ [']'])

/-- The line that begins a table is read as that. -/
def IsHeaderLine (name : String) : Prop :=
  strip (headerLine name) = headerLine name ∧ name.toList.head?.any (· != '[') = true ∧
    (readHeader [']'] (name.toList ++ [']'])).toOption = some [name]

instance (name : String) : Decidable (IsHeaderLine name) := inferInstanceAs (Decidable (_ ∧ _))

/-- A header with one new name makes a table under it. -/
theorem enter_new {fields : Fields Value} {name : String} (named : name ≠ "") (fresh : fields.get? name = none) :
    enter false [name] [] (.object fields) =
      .ok ⟨.object (Fields.put fields name (.object [])), [.field name], []⟩ := by
  simp only [enter, enter.onward, enterField, newTable, named, fresh, List.isEmpty_nil, if_true, if_false, ok_bind,
    Bool.false_and, Bool.false_eq_true, not_false_eq_true]
  rfl

/-- Entries behind the header belong to the table it makes. -/
theorem Reading.line_header {fields : Fields Value} {name : String} (h : IsHeaderLine name)
    (fresh : fields.get? name = none) :
    ({ root := .object fields } : Reading).line (headerLine name) =
      .ok { root := .object (Fields.put fields name (.object [])), place := [.field name] } := by
  obtain ⟨stripped, single, names⟩ := h
  have named : name ≠ "" := by
    rintro rfl
    cases single
  have header : ({ root := .object fields } : Reading).line (headerLine name) =
      ({ root := .object fields } : Reading).header (headerLine name) := by
    rw [Reading.line, stripped]
    rfl
  rw [header, headerLine]
  unfold Reading.header
  cases chars : name.toList with
  | nil =>
    rw [chars] at single
    cases single
  | cons c rest =>
    rw [chars] at single names
    split
    · next same =>
      cases same
      cases single
    · next same =>
      cases same
      have found : readHeader [']'] (c :: rest.append [']']) = .ok [name] := toOption_eq_some.mp names
      simp only [found, ok_bind, pure_eq_ok, enter_new named fresh]
    · next other => exact absurd rfl (other _ _ _)

end TypedClient.Toml
