import TypedClient.Fields
import TypedClient.Moment
import TypedClient.Number.Binary64
import TypedClient.Number.IntegerText
import TypedClient.Text.Literal

/-!
# Dynamic values

Documents and settings are read as a `Value` before anything is known of their shape. Integers and
floating-point numbers are told apart, and the fields of an object keep their order. A `link` stands
where a loaded document has an object with a `$ref` text: it is followed only when its content is
looked at. `Value.text` writes a value the way the generated package would print it: texts and moments as
they are, everything else as a literal.
-/

namespace TypedClient

/-- Where a link stands: the document it was read from and the steps to it from the root. -/
structure Place where
  document : String
  steps : List String
deriving DecidableEq, Repr, Inhabited

/-- A value of a document or a setting. -/
inductive Value where
  | null
  | bool (b : Bool)
  | int (n : Int)
  | float (x : Binary64)
  | str (s : String)
  | moment (m : Moment)
  | list (items : List Value)
  | object (fields : List (String × Value))
  | link (place : Place) (target : String) (fields : List (String × Value))
deriving Repr, Inhabited

namespace Value

/-- Whether a value counts as present: null, false, zero and whatever is empty do not. A link is not
followed here. -/
def truthy : Value → Bool
  | .null => false
  | .bool b => b
  | .int n => n != 0
  | .float x => !x.isZero
  | .str s => s != ""
  | .moment _ => true
  | .list items => !items.isEmpty
  | .object fields => !fields.isEmpty
  | .link .. => true

mutual
/-- The literal of a value. A link is written as the object it stands for. -/
def literal (v : Value) : String := match v with
  | .null => "None"
  | .bool b => if b then "True" else "False"
  | .int n => toString n
  | .float x => x.text
  | .str s => Text.quote s
  | .moment m => m.literal
  | .list items => "[" ++ ", ".intercalate (itemLiterals items) ++ "]"
  | .object fields => "\x7b" ++ ", ".intercalate (fieldLiterals fields) ++ "\x7d"
  | .link _ _ fields => "\x7b" ++ ", ".intercalate (fieldLiterals fields) ++ "\x7d"
termination_by structural v
/-- The literals of the items of a list. -/
def itemLiterals (items : List Value) : List String := match items with
  | [] => []
  | v :: rest => literal v :: itemLiterals rest
termination_by structural items
/-- The literal of a field, its name and its value. -/
def fieldLiteral (field : String × Value) : String := match field with
  | (name, v) => Text.quote name ++ ": " ++ literal v
termination_by structural field
/-- The literals of the fields of an object. -/
def fieldLiterals (fields : List (String × Value)) : List String := match fields with
  | [] => []
  | f :: rest => fieldLiteral f :: fieldLiterals rest
termination_by structural fields
end

/-- The text of a value: a text as it is, a moment as it is shown, everything else as a literal. -/
def text : Value → String
  | .str s => s
  | .moment m => m.text
  | v => literal v

mutual
/-- A value without links, so one of a document whose references are plain objects. -/
def isPlain (v : Value) : Bool := match v with
  | .list items => arePlain items
  | .object fields => fieldsPlain fields
  | .link .. => false
  | _ => true
termination_by structural v
/-- Items without links. -/
def arePlain (items : List Value) : Bool := match items with
  | [] => true
  | v :: rest => isPlain v && arePlain rest
termination_by structural items
/-- A field without links. -/
def fieldPlain (field : String × Value) : Bool := match field with
  | (_, v) => isPlain v
termination_by structural field
/-- Fields without links. -/
def fieldsPlain (fields : List (String × Value)) : Bool := match fields with
  | [] => true
  | f :: rest => fieldPlain f && fieldsPlain rest
termination_by structural fields
end

mutual
/-- A value whose integers can all be written. -/
def isWritable (v : Value) : Bool := match v with
  | .int n => Number.isWritable n
  | .list items => areWritable items
  | .object fields => fieldsWritable fields
  | .link _ _ fields => fieldsWritable fields
  | _ => true
termination_by structural v
/-- Items that can be written. -/
def areWritable (items : List Value) : Bool := match items with
  | [] => true
  | v :: rest => isWritable v && areWritable rest
termination_by structural items
/-- A field that can be written. -/
def fieldWritable (field : String × Value) : Bool := match field with
  | (_, v) => isWritable v
termination_by structural field
/-- Fields that can be written. -/
def fieldsWritable (fields : List (String × Value)) : Bool := match fields with
  | [] => true
  | f :: rest => fieldWritable f && fieldsWritable rest
termination_by structural fields
end

mutual
/-- Whether two values are alike: of the same shape, with links at the same places. -/
def isAlike (a b : Value) : Bool := match a, b with
  | .null, .null => true
  | .bool x, .bool y => x == y
  | .int x, .int y => x == y
  | .float x, .float y => x == y
  | .str x, .str y => x == y
  | .moment x, .moment y => x == y
  | .list xs, .list ys => areAlike xs ys
  | .object xs, .object ys => fieldsAlike xs ys
  | .link x _ _, .link y _ _ => x == y
  | _, _ => false
termination_by structural a
/-- Whether two lists have alike items. -/
def areAlike (as bs : List Value) : Bool := match as, bs with
  | [], [] => true
  | a :: as, b :: bs => isAlike a b && areAlike as bs
  | _, _ => false
termination_by structural as
/-- Whether two fields have one name and alike values. -/
def fieldAlike (f g : String × Value) : Bool := match f, g with
  | (name, a), (other, b) => name == other && isAlike a b
termination_by structural f
/-- Whether two objects have alike fields. -/
def fieldsAlike (fs gs : List (String × Value)) : Bool := match fs, gs with
  | [], [] => true
  | f :: fs, g :: gs => fieldAlike f g && fieldsAlike fs gs
  | _, _ => false
termination_by structural fs
end

/-- What is written for a list or an object inside itself. -/
def ellipsis : Value → String
  | .list _ => "[...]"
  | _ => "\x7b...\x7d"

end Value

end TypedClient
