import TypedClient.Api.Basic
import TypedClient.Naming
import TypedClient.Schema.Basic

/-!
# From descriptions to types

A property becomes a `TypeRef`. Types known to the schema language become scalars, any other type name
becomes a reference to a type of that name. A reference to an enumeration that was generated becomes the
scalar its literals are made of; inside an array a reference stays a reference. Only the outermost type
is ever nullable: it is so when the property is not required.

Arrays may be nested to any depth: the limit that a stack sets to them is not modelled.
-/

namespace TypedClient.Api

open Schema

/-- The type of a number format: integers. -/
def integerType (format : Option String) : TypeRef :=
  if format = some "int64" then .scalar .int64 else .scalar .int32

/-- The type of a type name and a format. -/
def resolveScalar (type format : Option String) : TypeRef :=
  match type with
  | some "integer" => integerType format
  | some "number" => .scalar .double
  | some "string" => .scalar .string
  | some "boolean" => .scalar .bool
  | some "array" => .listOf (.scalar .string)
  | some "" => .named "Object"
  | some name => .named (capitalize name)
  | none => .named "Object"

/-- A text that is there and not empty, or a substitute. -/
def textOr (s : Option String) (substitute : String) : String :=
  match s with
  | none => substitute
  | some "" => substitute
  | some s => s

/-- What references are resolved against: the definitions of the schema and the names of the
enumerations that are generated. -/
structure TypeContext where
  definitions : Fields Model
  enumNames : List String

namespace TypeContext

variable (context : TypeContext)

/-- The type of a reference: that of the literals, when it leads to an enumeration. -/
def resolveTarget (name : String) : TypeRef :=
  if context.enumNames.contains (modelName name) then
    match context.definitions.get? name with
    | some { type, format, literals := some (_ :: _), .. } => resolveScalar type format
    | _ => .named name
  else .named name

/-- The type of a property as the item of an array. Items that are not described are texts. -/
def itemType (p : Property) : TypeRef := match p with
  | ⟨.reference, _, _, _, target, _, _⟩ => .named (target.getD "")
  | ⟨.array, _, _, _, _, none, _⟩ => .listOf (.scalar .string)
  | ⟨.array, _, _, _, _, some inner, _⟩ => .listOf (itemType inner)
  | ⟨_, type, format, _, _, _, _⟩ =>
    match type, format with
    | some "integer", format => integerType format
    | some "number", some "float" => .scalar .float
    | some "number", _ => .scalar .double
    | type, format => resolveScalar (textOr type "object") format
termination_by structural p

/-- The type of the items of an array, text when the array does not describe them. -/
def resolveItem : Option Property → TypeRef
  | none => .scalar .string
  | some p => itemType p

/-- The type of an array with the given items. -/
def resolveArray (items : Option Property) : TypeRef :=
  .listOf (resolveItem items)

/-- The type of a property, nullable when the property is not required. -/
def resolve (p : Property) : TypeRef :=
  let type := match p.kind with
    | .reference => context.resolveTarget (p.target.getD "")
    | .array => resolveArray p.items
    | .primitive => resolveScalar p.type p.format
    | .object => resolveScalar (textOr p.type "object") none
  type.withNullable (!p.required)

end TypeContext

end TypedClient.Api
