import TypedClient.Fault
import TypedClient.Value

/-!
# Links in a document

A document that is loaded has a link for every object with a `$ref` text. A link keeps its place and the
fields of the object, whose values are linked too. Where the `$ref` of an object is such an object itself,
that link is followed at once: the object is a link if a text is found, and stays an object otherwise.
-/

namespace TypedClient.References

/-- How a link is followed while its document is being linked. -/
abbrev Follow := Place → String → Except Fault Value

/-- The object at a place, or the link that it is. -/
def linkObject (follow : Follow) (place : Place) (fields : Fields Value) : Except Fault Value :=
  match fields.get? "$ref" with
  | some (.str target) => .ok (.link place target fields)
  | some (.link other target _) => do
    match ← follow other target with
    | .str target => return .link place target fields
    | _ => return .object fields
  | _ => .ok (.object fields)

mutual
/-- A value of a document with its links; `steps` lead to it from the root. -/
def linked (follow : Follow) (document : String) (steps : List String) (v : Value) :
    Except Fault Value := match v with
  | .list vs => (linkedItems follow document steps 0 vs).map .list
  | .object fs => do linkObject follow ⟨document, steps⟩ (← linkedFields follow document steps fs)
  | v => .ok v
termination_by structural v
/-- The items of a list, from a position on. -/
def linkedItems (follow : Follow) (document : String) (steps : List String) (n : Nat)
    (vs : List Value) : Except Fault (List Value) := match vs with
  | [] => .ok []
  | v :: rest => do
    let v ← linked follow document (steps ++ [toString n]) v
    return v :: (← linkedItems follow document steps (n + 1) rest)
termination_by structural vs
/-- A field of an object. -/
def linkedField (follow : Follow) (document : String) (steps : List String) (f : String × Value) :
    Except Fault (String × Value) := match f with
  | (name, v) => (linked follow document (steps ++ [name]) v).map (Prod.mk name)
termination_by structural f
/-- The fields of an object. -/
def linkedFields (follow : Follow) (document : String) (steps : List String)
    (fs : List (String × Value)) : Except Fault (List (String × Value)) := match fs with
  | [] => .ok []
  | f :: rest => do
    let f ← linkedField follow document steps f
    return f :: (← linkedFields follow document steps rest)
termination_by structural fs
end

end TypedClient.References
