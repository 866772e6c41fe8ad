import TypedClient.Report
import TypedClient.Schema.Model
import TypedClient.Schema.Operation

/-!
# Reading documents

A document is read as far as possible: a top-level part that is not an object counts as empty, and a
definition, a path or an operation that cannot be read is left out. Each of these is an event, and the
faults do not touch what stands beside them.
-/

namespace TypedClient.Schema

/-- The verbs that an operation can stand under. -/
def operationVerbs : List String := ["get", "put", "post", "delete", "options", "head", "patch"]

/-- The definitions of a document: under `definitions`, or under `components` and `schemas`. -/
def findDefinitions (links : Links) (root : Value) : Except Fault Value := do
  let fields ← links.fields root
  let stated := fields.value "definitions"
  if ← links.present stated then return stated
  let components ← links.fieldsIfPresent (fields.value "components")
  return components.value "schemas"

/-- The paths of a document. -/
def findPaths (links : Links) (root : Value) : Except Fault Value := do
  return (← links.fields root).value "paths"

/-- The fields of a top-level part, which must be an object if it is present. -/
def partFields (links : Links) (name : String) (found : Except Fault Value) :
    Except Fault (Fields Value) := do
  let v ← found
  if ← links.present v then
    match ← links.look v with
    | .object fs => return fs
    | _ => .error (.partNotObject name)
  return []

/-- A top-level part, empty and reported when it is at fault. -/
def readPart (links : Links) (name : String) (found : Except Fault Value) :
    Fields Value × List Event :=
  match partFields links name found with
  | .ok fs => (fs, [])
  | .error fault => ([], [.notice (.partSkipped name fault), .failure fault])

/-- The definitions that can be read, and the failures of the others. -/
def readDefinitions (links : Links) : Fields Value → Fields Model × List Event
  | [] => ([], [])
  | (name, v) :: rest =>
    let (models, events) := readDefinitions links rest
    match Model.read links v with
    | .ok m => ((name, m) :: models, events)
    | .error fault => (models, .failure fault :: events)

/-- The operations of a path that can be read, and the failures of the others. -/
def readOperations (links : Links) (shared : Value) :
    Fields Value → Fields Operation × List Event
  | [] => ([], [])
  | (verb, v) :: rest =>
    let (operations, events) := readOperations links shared rest
    match Operation.read links verb v shared with
    | .ok o => ((verb, o) :: operations, events)
    | .error fault => (operations, .failure fault :: events)

/-- What stands under a path: the values under the verbs, in order, and the shared parameters. -/
structure PathItem where
  verbs : Fields Value
  shared : Value

/-- What stands under a path. -/
def PathItem.read (links : Links) (v : Value) : Except Fault PathItem := do
  let fields ← links.fields v
  let shared := fields.value "parameters"
  let _ ← links.present shared
  return ⟨fields.filter fun f => operationVerbs.contains f.1, shared⟩

/-- The paths that can be read, and the failures on the way. -/
def readPaths (links : Links) : Fields Value → Fields (Fields Operation) × List Event
  | [] => ([], [])
  | (path, v) :: rest =>
    let (paths, later) := readPaths links rest
    match PathItem.read links v with
    | .ok item =>
      let (operations, events) := readOperations links item.shared item.verbs
      ((path, operations) :: paths, events ++ later)
    | .error fault => (paths, .failure fault :: later)

/-- The document that a value describes, and what happened on the way. -/
def Document.read (links : Links) (root : Value) : Document × List Event :=
  let root := match links.present root with
    | .ok false => .object []
    | _ => root
  let (definitions, skipped) := readPart links "definitions" (findDefinitions links root)
  let (models, failed) := readDefinitions links definitions
  let (paths, skippedPaths) := readPart links "paths" (findPaths links root)
  let (operations, failedPaths) := readPaths links paths
  (⟨models, operations⟩, skipped ++ failed ++ skippedPaths ++ failedPaths)

end TypedClient.Schema
