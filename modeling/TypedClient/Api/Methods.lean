import TypedClient.Api.Resolve
import TypedClient.Api.Verb
import TypedClient.Links
import TypedClient.Report

/-!
# Methods of a schema

Every operation with an identifier becomes a method; one without is reported and left out. Parameters in
the path, the query and the body are bound, others are left out. The result of a method is known only
when the response `200` is a reference to a generated model or an array of such references; any other
method delivers no data.
-/

namespace TypedClient.Api

open Schema

/-- The code of the response that describes the result. -/
def okResponse : String := "200"

/-- The type of a body: a reference goes by the model name of the capitalised target, a schema of any
other kind that is not an array, a text or a truth value goes by the capitalised parameter name. -/
def bodyType (p : Parameter) : TypeRef :=
  match p.schema with
  | none => .named (capitalize p.name)
  | some s =>
    match s.kind, s.type with
    | .reference, _ => .named (modelName (capitalize (s.target.getD "")))
    | .array, _ => TypeContext.resolveArray s.items
    | _, some "string" => .scalar .string
    | _, some "boolean" => .scalar .bool
    | _, _ => .named (capitalize p.name)

/-- The type of an array in the query. -/
def queryArrayType (p : Parameter) : TypeRef :=
  match p.items with
  | none => .listOf (.scalar .string)
  | some items => .listOf (resolveScalar items.type items.format)

/-- The binding and the type of a parameter; none when it is passed elsewhere. -/
def boundType? (p : Parameter) : Option (Binding × TypeRef) :=
  match p.location with
  | .body => some (.body, bodyType p)
  | .query =>
    some (.query, if p.type = some "array" then queryArrayType p else resolveScalar p.type p.format)
  | .path => some (.path, resolveScalar p.type p.format)
  | _ => none

/-- The parameter of the method, nullable when it is not required. -/
def methodParameter? (p : Parameter) : Option MethodParameter :=
  (boundType? p).map fun (binding, type) =>
    { name := flattenDots p.name, wireName := p.name, type := type.withNullable (!p.required), binding }

/-- The schema of the result. -/
def resultSchema? (o : Operation) : Option Property :=
  (o.responses.get? okResponse).bind (·.schema)

/-- The type of the result, deferred. -/
def returnType (modelNames : List String) (o : Operation) : TypeRef :=
  match resultSchema? o with
  | some { kind := .reference, target, .. } =>
    let name := modelName (target.getD "")
    if modelNames.contains name then .deferred (.named name) else .noPayload
  | some { kind := .array, items := some { kind := .reference, target, .. }, .. } =>
    let name := modelName (target.getD "")
    if modelNames.contains name then .deferred (.listOf (.named name)) else .noPayload
  | _ => .noPayload

/-- The headers set for an operation; each must be a text. -/
def headersFor (overrides : Value) (operationId : String) : Except Fault (List String) := do
  if overrides.truthy then
    let table ← Links.none.fields overrides
    match table.get? operationId with
    | none => return []
    | some v => return ← (← Links.none.items v).mapM Value.requiredText
  return []

/-- A path without the slash it may begin with. -/
def relativePath (path : String) : String :=
  match path.toList with
  | '/' :: rest => String.ofList rest
  | _ => path

/-- The method of an operation. -/
def methodOf (modelNames : List String) (overrides : Value) (e : Endpoint) : Except Fault Method :=
  match e.operation.operationId with
  | none | some "" => .error (.noOperationId e.path e.verb)
  | some id => do
    let headers ← headersFor overrides id
    return {
      name := id
      verb := .find e.verb
      path := relativePath e.path
      parameters := e.operation.parameters.filterMap methodParameter?
      returns := returnType modelNames e.operation
      headers
      summary := e.operation.summary
      deprecated := e.operation.deprecated }

/-- The notices that the names of an operation's bound parameters give rise to. -/
def nameNotices (e : Endpoint) : List Event :=
  match e.operation.operationId with
  | none | some "" => []
  | some _ =>
    (e.operation.parameters.filter fun p => (boundType? p).isSome && hasManyDots p.name).map fun p =>
      .notice (.manyDots (Text.quote p.name))

/-- The methods of the operations, and what happened on the way. -/
def methods (modelNames : List String) (overrides : Value) : List Endpoint → List Method × List Event
  | [] => ([], [])
  | e :: rest =>
    let (found, later) := methods modelNames overrides rest
    match methodOf modelNames overrides e with
    | .ok m => (m :: found, nameNotices e ++ later)
    | .error fault => (found, nameNotices e ++ .failure fault :: later)

end TypedClient.Api
