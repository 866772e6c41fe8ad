import TypedClient.Api.Basic
import TypedClient.Links
import TypedClient.Naming
import TypedClient.Number.IntegerText
import TypedClient.Report
import TypedClient.Schema.Basic

/-!
# Enumerations of a schema

Two passes collect the enumerations. The first goes over the path parameters with literals, operation by
operation; a literal that cannot be written ends its operation with a failure. The second goes over the
properties of the definitions: a text property with literals makes an enumeration of its own, a reference
to a definition with named literals makes that definition one; a property at fault is passed over in
silence. Of several enumerations with one name the first is kept.
-/

namespace TypedClient.Api

open Schema

/-- Adds an enumeration unless its name is taken. -/
def addEnum (enums : List EnumType) (e : EnumType) : List EnumType :=
  if enums.any (·.name == e.name) then enums else enums ++ [e]

/-- The enumeration whose members are named by their own literals. -/
def literalEnum (links : Links) (name : String) (literals : List Value) : Except Fault EnumType := do
  let texts ← literals.mapM links.text
  return ⟨name, texts.map fun t => ⟨t, .str t⟩⟩

/-- The integer that a literal stands for: a number without its fraction, a truth value as one or zero,
a text that is read as an integer. -/
def integerOf (links : Links) (v : Value) : Except Fault Int := do
  match ← links.look v with
  | .int n => return n
  | .bool b => return if b then 1 else 0
  | .float .nan => .error .notNumber
  | .float x =>
    match x.truncate? with
    | some n => return n
    | none => .error .tooLarge
  | .str s =>
    match Number.readInteger? s with
    | some n => return n
    | none => .error .notNumber
  | _ => .error .notIterable

/-- The values of the literals of a definition: integers for an integer definition, otherwise texts. -/
def constantValues (links : Links) (m : Model) (literals : List Value) :
    Except Fault (List ConstantValue) :=
  if m.type = some "integer" then literals.mapM fun v => return .int (← integerOf links v)
  else literals.mapM fun v => return .str (← links.text v)

/-- The enumeration of a definition whose literals have names; names and literals are paired up to the
shorter of the two lists. None when the definition has no literals. -/
def definitionEnum? (links : Links) (target : String) (m : Model) : Except Fault (Option EnumType) := do
  match m.literals, m.literalNames with
  | some (first :: rest), some (name :: names) =>
    let values ← constantValues links m (first :: rest)
    return some ⟨modelName target, List.zipWith Constant.mk (name :: names) values⟩
  | some (_ :: _), _ => .error .notNumber
  | _, _ => return none

/-- Adds the enumerations of an operation's path parameters, up to the first that is at fault. -/
def addParameterEnums (links : Links) : List Parameter → List EnumType → List EnumType × List Event
  | [], enums => (enums, [])
  | p :: rest, enums =>
    match p.location, p.literals with
    | .path, some (first :: others) =>
      match literalEnum links (capitalize p.name) (first :: others) with
      | .ok e => addParameterEnums links rest (addEnum enums e)
      | .error fault => (enums, [.failure fault])
    | _, _ => addParameterEnums links rest enums

/-- Adds the enumerations of the path parameters of all operations. -/
def addEndpointEnums (links : Links) : List Endpoint → List EnumType → List EnumType × List Event
  | [], enums => (enums, [])
  | e :: rest, enums =>
    let (enums, events) := addParameterEnums links e.operation.parameters enums
    let (enums, later) := addEndpointEnums links rest enums
    (enums, events ++ later)

/-- Adds the enumeration that a property brings with it, if any. A reference without a target brings
none. -/
def addPropertyEnum (links : Links) (definitions : Fields Model) (enums : List EnumType)
    (field : String × Property) : List EnumType :=
  let (key, p) := field
  match p.kind with
  | .reference =>
    match p.target with
    | none => enums
    | some target =>
      if enums.any (·.name == modelName target) then enums
      else match definitions.get? target with
        | none => enums
        | some m =>
          match definitionEnum? links target m with
          | .ok (some e) => addEnum enums e
          | _ => enums
  | _ =>
    match p.type, p.literals with
    | some "string", some (first :: rest) =>
      match literalEnum links (capitalize key) (first :: rest) with
      | .ok e => addEnum enums e
      | .error _ => enums
    | _, _ => enums

/-- The enumerations of a document, and the failures on the way. -/
def extractEnums (links : Links) (d : Document) : List EnumType × List Event :=
  let (enums, events) := addEndpointEnums links d.endpoints []
  (d.definitions.foldl
    (fun enums m => m.2.properties.foldl (addPropertyEnum links d.definitions) enums) enums, events)

end TypedClient.Api
