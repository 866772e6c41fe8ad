import TypedClient.Fields

/-!
# The interface in the abstract

What generation produces before any source text is written: enumerations, models with typed fields, and
an interface with one method per operation. A `TypeRef` is a scalar, a name, a list, or the deferred
result of a method. Its record can also hold combinations that no schema leads to, such as a list
without an item; `TypeRef.WellFormed` tells them apart.
-/

namespace TypedClient.Api

/-- What a type reference is. -/
inductive TypeKind where
  | primitive
  | reference
  | list
  | deferred
deriving DecidableEq, Repr, Inhabited

/-- The scalar types; `unit` stands for a result without data. -/
inductive Primitive where
  | int32
  | int64
  | float
  | double
  | string
  | bool
  | unit
deriving DecidableEq, Repr, Inhabited

/-- A type where it is used. A list and a deferred result have an `item`. -/
structure TypeRef where
  kind : TypeKind
  primitive : Option Primitive := none
  name : Option String := none
  item : Option TypeRef := none
  nullable : Bool := false
deriving Repr, Inhabited

namespace TypeRef

/-- A scalar type. -/
def scalar (p : Primitive) : TypeRef := { kind := .primitive, primitive := some p }

/-- A type by its name. -/
def named (name : String) : TypeRef := { kind := .reference, name := some name }

/-- The lists of a type. -/
def listOf (item : TypeRef) : TypeRef := { kind := .list, item := some item }

/-- A result that is delivered later. -/
def deferred (payload : TypeRef) : TypeRef := { kind := .deferred, item := some payload }

/-- A result without data, delivered later. -/
def noPayload : TypeRef := deferred (scalar .unit)

/-- The same type, nullable or not. -/
def withNullable (t : TypeRef) (nullable : Bool) : TypeRef := { t with nullable }

/-- Whether a type is a result without data. -/
def isNoPayload (t : TypeRef) : Bool :=
  match t with
  | { kind := .deferred, item := some { primitive := some .unit, .. }, .. } => true
  | _ => false

/-- The names a type refers to. A reference may lack its name. -/
def referencedNames (t : TypeRef) : List (Option String) := match t with
  | ⟨.reference, _, name, _, _⟩ => [name]
  | ⟨_, _, _, some item, _⟩ => item.referencedNames
  | _ => []
termination_by structural t

/-- Every list and every deferred result has an item, every scalar its primitive, every reference its
name. -/
def WellFormed (t : TypeRef) : Prop := match t with
  | ⟨.primitive, primitive, _, _, _⟩ => primitive.isSome
  | ⟨.reference, _, name, _, _⟩ => name.isSome
  | ⟨_, _, _, some item, _⟩ => item.WellFormed
  | _ => False
termination_by structural t

end TypeRef

/-- The value of a member of an enumeration. -/
inductive ConstantValue where
  | int (n : Int)
  | str (s : String)
deriving DecidableEq, Repr, Inhabited

/-- A member of an enumeration. -/
structure Constant where
  name : String
  value : ConstantValue
deriving DecidableEq, Repr, Inhabited

/-- An enumeration. -/
structure EnumType where
  name : String
  constants : List Constant := []
deriving DecidableEq, Repr, Inhabited

/-- A field of a model. -/
structure ModelField where
  name : String
  type : TypeRef
deriving Repr, Inhabited

/-- A model. -/
structure ModelType where
  name : String
  fields : List ModelField := []
deriving Repr, Inhabited

/-- The first field of a model with a given name. -/
def ModelType.field? (m : ModelType) (name : String) : Option ModelField :=
  m.fields.find? (·.name == name)

/-- What an argument of a method is bound to. -/
inductive Binding where
  | path
  | query
  | body
deriving DecidableEq, Repr, Inhabited

/-- A parameter of a method, with the name it has in the request. -/
structure MethodParameter where
  name : String
  wireName : String
  type : TypeRef
  binding : Binding
deriving Repr, Inhabited

/-- The verbs of methods. -/
inductive Verb where
  | get
  | post
  | put
  | patch
  | delete
deriving DecidableEq, Repr, Inhabited

/-- A method of the interface. -/
structure Method where
  name : String
  verb : Verb
  path : String
  parameters : List MethodParameter := []
  returns : TypeRef
  headers : List String := []
  summary : Option String := none
  deprecated : Bool := false
deriving Repr, Inhabited

/-- The interface. -/
structure Interface where
  name : String
  methods : List Method := []
deriving Repr, Inhabited

/-- The first method with a given name. -/
def Interface.method? (i : Interface) (name : String) : Option Method :=
  i.methods.find? (·.name == name)

/-- All that is generated from a schema. -/
structure Description where
  interface : Interface
  models : List ModelType := []
  enums : List EnumType := []
  modelNames : List String := []
deriving Repr, Inhabited

/-- Whether there is nothing to render. -/
def Description.isEmpty (d : Description) : Bool :=
  d.interface.methods.isEmpty && d.models.isEmpty && d.enums.isEmpty

end TypedClient.Api
