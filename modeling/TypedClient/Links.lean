import TypedClient.Fault
import TypedClient.Value

/-!
# Looking at values through links

A document is inspected field by field, and a link is followed at the moment its content is needed. The
functions here are the ways of inspecting a value: its fields, its items, whether it is present, whether
it is a given text. Each fails with the fault of the first thing that goes wrong. On a value without
links none of them consults `Links`.
-/

namespace TypedClient

/-- How the links of a document are followed. `follow` gives the value that a link stands for, which is
never itself a link; `budget` bounds how often a composition may be continued behind a link. -/
structure Links where
  follow : Place → String → Fields Value → Except Fault Value
  budget : Nat

namespace Links

/-- For documents without links. -/
def none : Links where
  follow _ _ _ := .error .brokenReference
  budget := 0

variable (links : Links)

/-- The value itself, or the value a link stands for. -/
def look : Value → Except Fault Value
  | .link place target fields => links.follow place target fields
  | v => .ok v

/-- The fields of an object. -/
def fields (v : Value) : Except Fault (Fields Value) := do
  match ← links.look v with
  | .object fs => .ok fs
  | _ => .error .notObject

/-- Whether a value counts as present. -/
def present (v : Value) : Except Fault Bool := do
  return (← links.look v).truthy

/-- Whether a value is the given text. -/
def isText (v : Value) (s : String) : Except Fault Bool := do
  match ← links.look v with
  | .str t => return t == s
  | _ => return false

/-- The characters of a text, each as a text of its own. -/
def characters (s : String) : List Value :=
  s.toList.map fun c => .str (String.singleton c)

/-- What a value yields when it is gone through: the items of a list, the characters of a text, the
names of an object's fields. -/
def items (v : Value) : Except Fault (List Value) := do
  match ← links.look v with
  | .list vs => .ok vs
  | .str s => .ok (characters s)
  | .object fs => .ok (fs.map fun f => .str f.1)
  | _ => .error .notIterable

/-- The fields of a present object; none when the value is not present. -/
def fieldsIfPresent (v : Value) : Except Fault (Fields Value) := do
  if ← links.present v then links.fields v else .ok []

/-- The items of a present value; none when the value is not present. -/
def itemsIfPresent (v : Value) : Except Fault (List Value) := do
  if ← links.present v then links.items v else .ok []

/-- A list for a field that takes a list or nothing. A link may stand for the list, or for a text, which
is then taken as the list of its characters. -/
def optionalList (v : Value) : Except Fault (Option (List Value)) :=
  match v with
  | .null => .ok Option.none
  | .list vs => .ok (some vs)
  | .link place target fs =>
    match links.follow place target fs with
    | .ok (.list vs) => .ok (some vs)
    | .ok (.str s) => .ok (some (characters s))
    | _ => .error .invalidField
  | _ => .error .invalidField

mutual
/-- The literal of a value, links written as what they stand for. `around` are the lists and objects that
the value stands in; a link back to one of them is only hinted at. What other links stand for is written
by `onward`. -/
def literalWith (onward : List Value → Value → Except Fault String) (around : List Value) (v : Value) :
    Except Fault String := match v with
  | .list vs => do
    return "[" ++ ", ".intercalate (← itemLiterals onward (.list vs :: around) vs) ++ "]"
  | .object fs => do
    return "\x7b" ++ ", ".intercalate (← fieldLiterals onward (.object fs :: around) fs) ++ "\x7d"
  | .link place target fs => do
    let w ← links.follow place target fs
    if around.any w.isAlike then return w.ellipsis else onward around w
  | v => .ok v.literal
termination_by structural v
/-- The literals of the items of a list. -/
def itemLiterals (onward : List Value → Value → Except Fault String) (around vs : List Value) :
    Except Fault (List String) := match vs with
  | [] => .ok []
  | v :: rest => do
    let s ← literalWith onward around v
    return s :: (← itemLiterals onward around rest)
termination_by structural vs
/-- The literal of a field, its name and its value. -/
def fieldLiteral (onward : List Value → Value → Except Fault String) (around : List Value)
    (f : String × Value) : Except Fault String := match f with
  | (name, v) => do return Text.quote name ++ ": " ++ (← literalWith onward around v)
termination_by structural f
/-- The literals of the fields of an object. -/
def fieldLiterals (onward : List Value → Value → Except Fault String) (around : List Value)
    (fs : List (String × Value)) : Except Fault (List String) := match fs with
  | [] => .ok []
  | f :: rest => do
    let s ← fieldLiteral onward around f
    return s :: (← fieldLiterals onward around rest)
termination_by structural fs
end

/-- The literal of a value, links behind links written up to a depth. -/
def literalTo : Nat → List Value → Value → Except Fault String
  | 0 => links.literalWith fun _ _ => .error .endlessReference
  | depth + 1 => links.literalWith (literalTo depth)

/-- The text of a value, links written as what they stand for. An integer is written however long it is: a
document in text has none of more digits than `Number.maxDigits`. -/
def text (v : Value) : Except Fault String := do
  match ← links.look v with
  | .str s => return s
  | w => links.literalTo links.budget [] w

end Links

/-- The text of a field that takes a text or nothing. A link is not a text. -/
def Value.optionalText : Value → Except Fault (Option String)
  | .null => .ok Option.none
  | .str s => .ok (some s)
  | _ => .error .invalidField

/-- The text of a field that takes a text. A link is not a text. -/
def Value.requiredText : Value → Except Fault String
  | .str s => .ok s
  | _ => .error .invalidField

/-- The text of a value that is to be shown. A moment that no clock shows has none, nor has a value with
an integer of too many digits. -/
def Value.shown (v : Value) : Except Fault String :=
  match v with
  | .moment m => if m.hasClock then .ok m.text else .error .impossibleOffset
  | v => if v.isWritable then .ok v.text else .error .notNumber

/-- The value of a field, null when the field is absent. -/
def Fields.value (fs : Fields Value) (name : String) : Value :=
  (fs.get? name).getD .null

end TypedClient
