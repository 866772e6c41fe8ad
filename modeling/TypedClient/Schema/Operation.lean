import TypedClient.Schema.Property

/-!
# Reading operations

A parameter is described in place or, when it states no type, by its `schema`. An operation has its own
parameters, then those of its path that it does not override by name and location, then its request
body, which is a parameter named `body`. A response has a schema in place or by media type.
-/

namespace TypedClient.Schema

/-- The locations that a parameter can name. -/
def namedLocations : Fields Location :=
  [("path", .path), ("query", .query), ("body", .body), ("header", .header), ("formData", .formData),
   ("other", .other)]

/-- The location of a name; any other name is some other location. -/
def Location.ofName (s : String) : Location :=
  (namedLocations.get? s).getD .other

/-- The name of a location. -/
def Location.name : Location → String
  | .path => "path"
  | .query => "query"
  | .body => "body"
  | .header => "header"
  | .formData => "formData"
  | .other => "other"

/-- The location that a value names. -/
def Location.read (links : Links) (v : Value) : Except Fault Location := do
  match ← links.look v with
  | .str s => return .ofName s
  | _ => return .other

/-- The value of a field that must be there. -/
def demand (fields : Fields Value) (name : String) : Except Fault Value :=
  match fields.get? name with
  | some v => .ok v
  | none => .error (.missingField name)

/-- The fields that describe a parameter outside the body: those of its `schema` when it states no type
and the schema is not a reference, otherwise its own. -/
def describingFields (links : Links) (fields : Fields Value) : Except Fault (Fields Value) :=
  let schema := fields.value "schema"
  match fields.has "type", schema, refName? schema with
  | false, .null, _ => .ok fields
  | false, schema, none => links.fields schema
  | _, _, _ => .ok fields

/-- The parameter that a value describes. -/
def Parameter.read (links : Links) (v : Value) : Except Fault Parameter := do
  let fields ← links.fields v
  let location ← Location.read links (fields.value "in")
  if location = .body then
    let name ← demand fields "name"
    let required ← links.present (fields.value "required")
    let schema ← Property.readOptional links false (fields.value "schema")
    let name ← name.requiredText
    return { name, location, required, schema }
  let source ← describingFields links fields
  let name ← demand fields "name"
  let type ← typeOf links (source.value "type")
  let required ← links.present (fields.value "required")
  let items ← Property.readOptional links true (source.value "items")
  let name ← name.requiredText
  let type ← type.optionalText
  let format ← (source.value "format").optionalText
  let literals ← links.optionalList (source.value "enum")
  return { name, location, type, format, required, literals, items }

/-- The media type that is preferred. -/
def preferredMediaType : String := "application/json"

/-- The schema of a content by media type: that of the preferred media type when it is present,
otherwise that of the first. -/
def contentSchema (links : Links) (content : Value) : Except Fault Value := do
  if ← links.present content then
    let media ← links.fields content
    let preferred := media.value preferredMediaType
    let chosen ←
      if ← links.present preferred then pure preferred
      else match media with
        | [] => pure .null
        | (_, first) :: _ => pure first
    let fields ← links.fieldsIfPresent chosen
    return fields.value "schema"
  return .null

/-- The response that a value describes. -/
def Response.read (links : Links) (v : Value) : Except Fault Response := do
  let fields ← links.fields v
  let stated := fields.value "schema"
  let schema ←
    match stated with
    | .null => contentSchema links (fields.value "content")
    | v => pure v
  let schema ← Property.readOptional links false schema
  let description ← (fields.value "description").optionalText
  return { description, schema }

/-- The parameter that a request body makes; none when there is no body. -/
def readRequestBody (links : Links) (v : Value) : Except Fault (List Parameter) := do
  if ← links.present v then
    let fields ← links.fields v
    let schema ← contentSchema links (fields.value "content")
    let required ← links.present (fields.value "required")
    let schema ← Property.readOptional links false schema
    return [{ name := "body", location := .body, required, schema }]
  return []

/-- Whether a parameter is overridden: one of the declared has its name and location. -/
def isOverridden (declared : List Parameter) (p : Parameter) : Bool :=
  declared.any fun d => d.name == p.name && d.location == p.location

/-- The operation that a value describes, under a path with shared parameters. -/
def Operation.read (links : Links) (verb : String) (v shared : Value) :
    Except Fault Operation := do
  let fields ← links.fields v
  let declared ← (← links.itemsIfPresent (fields.value "parameters")).mapM (Parameter.read links)
  let common ← (← links.itemsIfPresent shared).mapM (Parameter.read links)
  let body ← readRequestBody links (fields.value "requestBody")
  let responses ← (← links.fieldsIfPresent (fields.value "responses")).mapM fun f => do
    return (f.1, ← Response.read links f.2)
  let deprecated ← links.present (fields.value "deprecated")
  let operationId ← (fields.value "operationId").optionalText
  let summary ← (fields.value "summary").optionalText
  return {
    verb, operationId, summary, deprecated, responses
    parameters := declared ++ common.filter (!isOverridden declared ·) ++ body }

end TypedClient.Schema
