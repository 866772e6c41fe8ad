import TypedClient.Api.Basic
import TypedClient.Naming
import TypedClient.Report

/-!
# Class names of the package

Every enumeration and every model that is rendered has a class name. An enumeration whose class name is
taken by an earlier one is not rendered. A model without fields that shares its class name with an
enumeration is that enumeration; one with fields is renamed. Any other model whose class name is taken
is not rendered. A reference is looked up under its own name and then under its model name, among the
models before the enumerations.
-/

namespace TypedClient.Client

open Api

/-- The class names by the names in the description. -/
structure ClassNames where
  enums : Fields String := []
  models : Fields String := []
deriving Repr, Inhabited

/-- The enumerations that are rendered, with their class names. -/
def enumsByClass (enums : List EnumType) : Fields EnumType :=
  enums.foldl (fun kept e =>
    let name := className e.name
    if kept.has name then kept else kept ++ [(name, e)]) []

/-- The class names of the enumerations. -/
def enumClassNames (enums : List EnumType) : Fields String :=
  Fields.ofPairs ((enumsByClass enums).map fun p => (p.2.name, p.1))

/-- The naming of models so far: the class names that are taken and the names given. -/
structure ModelNaming where
  taken : List String
  given : Fields String := []
  events : List Event := []

/-- A name for a model whose class name belongs to an enumeration. -/
def renamedModel (taken : List String) (name : String) : String :=
  freshName taken (underlined ("Model" ++ name))

/-- Names one model more. -/
def ModelNaming.add (enumClasses : List String) (naming : ModelNaming) (m : ModelType) : ModelNaming :=
  let name := className m.name
  if enumClasses.contains name then
    if m.fields.isEmpty then naming
    else
      let renamed := renamedModel naming.taken name
      { taken := naming.taken ++ [renamed]
        given := naming.given.put m.name renamed
        events := naming.events ++ [.notice (.modelRenamed name renamed)] }
  else if naming.taken.contains name then naming
  else { naming with taken := naming.taken ++ [name], given := naming.given.put m.name name }

/-- The naming of all models, given the class names of the enumerations. -/
def nameModels (enumClasses : List String) (models : List ModelType) : ModelNaming :=
  models.foldl (ModelNaming.add enumClasses) { taken := enumClasses }

namespace ClassNames

/-- The class names of a description, and the notices of models renamed. -/
def ofDescription (d : Description) : ClassNames × List Event :=
  let enums := enumClassNames d.enums
  let naming := nameModels enums.values d.models
  (⟨enums, naming.given⟩, naming.events)

variable (names : ClassNames)

/-- The class under exactly one name. -/
def ownClass? (name : String) : Option String :=
  match names.models.get? name with
  | some c => some c
  | none => names.enums.get? name

/-- The class that a reference leads to; none when no such class is generated. -/
def class? (name : String) : Option String :=
  match names.ownClass? name with
  | some c => some c
  | none => names.ownClass? (modelName name)

end ClassNames

end TypedClient.Client
