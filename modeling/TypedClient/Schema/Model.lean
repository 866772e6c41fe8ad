import TypedClient.Schema.Property

/-!
# Reading models

A model is a reference, a composition, or plain. A composition lists its parts under `allOf`; properties
that stand beside `allOf` make one more part, which comes last. A plain model has properties, and may be
an enumeration with names for its literals.
-/

namespace TypedClient.Schema

/-- The fields that may name the literals of an enumeration, the preferred one first. -/
def literalNameFields : List String := ["x-enumNames", "x-enum-varnames"]

/-- The texts of a list of names. -/
def readNames (links : Links) (v : Value) : Except Fault (List String) := do
  (← links.items v).mapM links.text

/-- The names for the literals, from the first of the fields that is present. -/
def readLiteralNames (links : Links) (fields : Fields Value) :
    List String → Except Fault (Option (List String))
  | [] => .ok none
  | name :: rest => do
    let v := fields.value name
    if ← links.present v then return some (← readNames links v)
    readLiteralNames links fields rest

/-- The names listed as required. A list or an object cannot be listed; what is not a text is
listed without effect. -/
def readRequired (links : Links) (fields : Fields Value) : Except Fault (List String) := do
  let listed ← links.itemsIfPresent (fields.value "required")
  let names ← listed.mapM fun v => do
    match ← links.look v with
    | .str s => return some s
    | .list _ | .object _ => .error .notHashable
    | _ => return none
  return names.filterMap id

/-- The properties of an object's fields, each required if it is listed. -/
def readProperties (links : Links) (required : List String) (fields : Fields Value) :
    Except Fault (Fields Property) :=
  fields.mapM fun f => do return (f.1, ← Property.read links (required.contains f.1) f.2)

/-- A model without regard to `allOf`. -/
def Model.readPlain (links : Links) (fields : Fields Value) : Except Fault Model := do
  let required ← readRequired links fields
  let described ← links.fieldsIfPresent (fields.value "properties")
  let properties ← readProperties links required described
  let literalNames ← readLiteralNames links fields literalNameFields
  let type ← typeOf links (fields.value "type")
  let type ← type.optionalText
  let format ← (fields.value "format").optionalText
  let literals ← links.optionalList (fields.value "enum")
  return { type, format, properties, literals, literalNames }

/-- The part that the properties beside `allOf` make, if there are any. -/
def Model.readOwnPart (links : Links) (fields : Fields Value) : Except Fault (List Model) := do
  if ← links.present (fields.value "properties") then return [← Model.readPlain links fields]
  return []

mutual
/-- The model that a value describes. A list of parts that stands behind a link is read by `onward`. -/
def Model.readWith (links : Links) (onward : List Value → Except Fault (List Model)) (v : Value) :
    Except Fault Model := match v with
  | .link _ target _ => .ok { target := some (lastSegment target) }
  | .object fields =>
    match refTarget? fields with
    | some target => .ok { target := some (lastSegment target) }
    | none => do
      if ← links.present (Fields.value fields "allOf") then
        let parts ← Model.readParts links onward fields
        let own ← Model.readOwnPart links fields
        let type ← typeOf links (Fields.value fields "type")
        let type ← type.optionalText
        return { type, parts := parts ++ own }
      Model.readPlain links fields
  | _ => .error .notObject
termination_by structural v
/-- The parts under `allOf`. -/
def Model.readParts (links : Links) (onward : List Value → Except Fault (List Model))
    (fields : List (String × Value)) : Except Fault (List Model) := match fields with
  | [] => .ok []
  | f :: rest =>
    if f.1 = "allOf" then Model.readPartsField links onward f else Model.readParts links onward rest
termination_by structural fields
/-- The parts of an `allOf` field that is present. -/
def Model.readPartsField (links : Links) (onward : List Value → Except Fault (List Model))
    (field : String × Value) : Except Fault (List Model) := match field with
  | (_, .list items) => Model.readEach links onward items
  | (_, .link place target fields) => do
    onward (← links.items (.link place target fields))
  | (_, .str _) => .error .notObject
  | (_, .object _) => .error .notObject
  | (_, _) => .error .notIterable
termination_by structural field
/-- The models that the items of a list describe. -/
def Model.readEach (links : Links) (onward : List Value → Except Fault (List Model))
    (items : List Value) : Except Fault (List Model) := match items with
  | [] => .ok []
  | v :: rest => do
    let m ← Model.readWith links onward v
    return m :: (← Model.readEach links onward rest)
termination_by structural items
end

/-- The model that a value describes, where lists of parts may stand behind links up to a depth. -/
def Model.readTo (links : Links) : Nat → Value → Except Fault Model
  | 0 => Model.readWith links fun _ => .error .endlessReference
  | depth + 1 => Model.readWith links fun items => items.mapM (Model.readTo links depth)

/-- The model that a value describes. -/
def Model.read (links : Links) (v : Value) : Except Fault Model :=
  Model.readTo links links.budget v

end TypedClient.Schema
