import TypedClient.Value

/-!
# The schema of an interface

What is read from a document: named models, and operations by path and verb. A `Property` describes a
single value, a `Model` a named type with properties, possibly composed of parts, an `Operation` what
can be asked of the interface. The types hold whatever a document may say; which combinations the reader
produces is the matter of the modules that read them.
-/

namespace TypedClient.Schema

/-- What a property is. -/
inductive PropertyKind where
  | reference
  | array
  | primitive
  | object
deriving DecidableEq, Repr, Inhabited

/-- Where a parameter is passed. -/
inductive Location where
  | path
  | query
  | body
  | header
  | formData
  | other
deriving DecidableEq, Repr, Inhabited

/-- The description of a value. `target` names the model that a reference leads to, `literals` are the
values a primitive is restricted to. -/
structure Property where
  kind : PropertyKind
  type : Option String := none
  format : Option String := none
  required : Bool := false
  target : Option String := none
  items : Option Property := none
  literals : Option (List Value) := none
deriving Repr, Inhabited

/-- A named type. A model that is composed has `parts`; a part that is given by reference has a `target`
and nothing else. -/
structure Model where
  type : Option String := none
  format : Option String := none
  properties : Fields Property := []
  literals : Option (List Value) := none
  literalNames : Option (List String) := none
  parts : List Model := []
  target : Option String := none
deriving Repr, Inhabited

/-- Whether a model has parts. -/
def Model.isComposed (m : Model) : Bool := !m.parts.isEmpty

/-- A parameter of an operation. A body has a `schema`; the others are described by their type. -/
structure Parameter where
  name : String
  location : Location := .other
  type : Option String := none
  format : Option String := none
  required : Bool := false
  literals : Option (List Value) := none
  items : Option Property := none
  schema : Option Property := none
deriving Repr, Inhabited

/-- A response of an operation. -/
structure Response where
  description : Option String := none
  schema : Option Property := none
deriving Repr, Inhabited

/-- What can be asked of the interface under a path. -/
structure Operation where
  verb : String
  operationId : Option String := none
  parameters : List Parameter := []
  responses : Fields Response := []
  summary : Option String := none
  deprecated : Bool := false
deriving Repr, Inhabited

/-- A whole schema. -/
structure Document where
  definitions : Fields Model := []
  paths : Fields (Fields Operation) := []
deriving Repr, Inhabited

/-- Whether a document has neither definitions nor paths. -/
def Document.isEmpty (d : Document) : Bool :=
  d.definitions.isEmpty && d.paths.isEmpty

/-- An operation with the path it stands under. -/
structure Endpoint where
  path : String
  verb : String
  operation : Operation
deriving Repr, Inhabited

/-- The operations in the order of the document: by path, then by verb. -/
def Document.endpoints (d : Document) : List Endpoint :=
  d.paths.flatMap fun p => p.2.map fun o => ⟨p.1, o.1, o.2⟩

end TypedClient.Schema
