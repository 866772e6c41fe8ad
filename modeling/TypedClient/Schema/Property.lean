import TypedClient.Links
import TypedClient.Schema.Basic

/-!
# Reading properties

A reference is recognised before anything else and is only named, never followed. A boolean and a value
that is not present describe any object. Otherwise the type decides: an array has items, no type or
`object` is an object, everything else is a primitive with its format and literals. Where a list of
types is given, the first that is not `null` counts.
-/

namespace TypedClient.Schema

/-- What follows the last slash of a reference. -/
def lastSegment (target : String) : String :=
  String.ofList ((target.toList.reverse.takeWhile (· != '/')).reverse)

/-- There is no slash in the last segment. -/
theorem slash_not_mem_lastSegment (target : String) : '/' ∉ (lastSegment target).toList := by
  rw [lastSegment, String.toList_ofList, List.mem_reverse]
  intro slash
  have kept := List.all_eq_true.mp (List.all_takeWhile (p := (· != '/'))) '/' slash
  exact absurd kept (by decide)

/-- A name without a slash is the last segment of a reference to something under it. -/
theorem lastSegment_under (place : String) {name : String} (whole : '/' ∉ name.toList) :
    lastSegment (place ++ "/" ++ name) = name := by
  have chars : (place ++ "/" ++ name).toList.reverse = name.toList.reverse ++ '/' :: place.toList.reverse := by
    simp
  have within : ∀ c ∈ name.toList.reverse, (c != '/') = true := by
    intro c hc
    exact bne_iff_ne.mpr fun slash => whole (slash ▸ List.mem_reverse.mp hc)
  rw [lastSegment, chars, List.takeWhile_append_of_pos within]
  simp

/-- The target of an object that is a reference: its field `$ref`, when that is a text. -/
def refTarget? (fields : Fields Value) : Option String :=
  match fields.get? "$ref" with
  | some (.str s) => some s
  | _ => none

/-- The name that a reference gives its target, if the value is a reference. -/
def refName? : Value → Option String
  | .link _ target _ => some (lastSegment target)
  | .object fields => (refTarget? fields).map lastSegment
  | _ => none

/-- The first item that is not the text `null`; null when there is none. -/
def firstType (links : Links) : List Value → Except Fault Value
  | [] => .ok .null
  | v :: rest => do
    if ← links.isText v "null" then firstType links rest else return v

/-- The type that a `type` field states. It need not be a text. -/
def typeOf (links : Links) (v : Value) : Except Fault Value := do
  match ← links.look v with
  | .list vs => firstType links vs
  | _ => return v

/-- A property that refers to a model. -/
def Property.reference (name : String) (required : Bool) : Property :=
  { kind := .reference, type := some "ref", target := some name, required }

/-- A property that may be any object. -/
def Property.anyObject (required : Bool) : Property :=
  { kind := .object, type := some "object", required }

/-- A property that is a list. -/
def Property.arrayOf (items : Option Property) (required : Bool) : Property :=
  { kind := .array, type := some "array", items, required }

/-- A property of a type that is neither an array nor an object. -/
def Property.readPrimitive (links : Links) (type : Value) (fields : Fields Value) (required : Bool) :
    Except Fault Property := do
  let type ← type.optionalText
  let format ← (fields.value "format").optionalText
  let literals ← links.optionalList (fields.value "enum")
  return { kind := .primitive, type, format, required, literals }

mutual
/-- The property that a value describes. -/
def Property.read (links : Links) (required : Bool) (v : Value) : Except Fault Property := match v with
  | .link _ target _ => .ok (.reference (lastSegment target) required)
  | .object fields =>
    match refTarget? fields with
    | some target => .ok (.reference (lastSegment target) required)
    | none =>
      if fields.isEmpty then .ok (.anyObject required)
      else do
        let type ← typeOf links (Fields.value fields "type")
        if ← links.isText type "array" then
          return .arrayOf (← Property.readItems links fields) required
        match type with
        | .null => return .anyObject required
        | type =>
          if ← links.isText type "object" then return .anyObject required
          Property.readPrimitive links type fields required
  | .bool _ => .ok (.anyObject required)
  | v => if v.truthy then .error .notObject else .ok (.anyObject required)
termination_by structural v
/-- The property under `items`, if there is one. -/
def Property.readItems (links : Links) (fields : List (String × Value)) :
    Except Fault (Option Property) := match fields with
  | [] => .ok none
  | f :: rest => if f.1 = "items" then Property.readItem links f else Property.readItems links rest
termination_by structural fields
/-- The property of an `items` field; an item of a list is always required. -/
def Property.readItem (links : Links) (field : String × Value) :
    Except Fault (Option Property) := match field with
  | (_, .null) => .ok none
  | (_, v) => (Property.read links true v).map some
termination_by structural field
end

/-- The property that a value describes, none for null. -/
def Property.readOptional (links : Links) (required : Bool) (v : Value) :
    Except Fault (Option Property) :=
  match v with
  | .null => .ok none
  | v => (Property.read links required v).map some

end TypedClient.Schema
