import TypedClient.Client.Types
import TypedClient.Text.Literal

/-!
# The models of the package

A model is a class with one attribute per field, in order. An attribute never has the name of something
that every model class has, and a name that is taken gets low lines at its end. An attribute whose name
is not that of its field carries the field's name as an alias. After the last class each class is
rebuilt, so that the classes can refer to each other in any order.
-/

namespace TypedClient.Client

open Api Source

/-- The names that every model class has. -/
def modelAttributes : List String :=
  ["construct", "copy", "dict", "from_orm", "json", "model_computed_fields", "model_config",
   "model_construct", "model_copy", "model_dump", "model_dump_json", "model_extra", "model_fields",
   "model_fields_set", "model_json_schema", "model_parametrized_name", "model_post_init",
   "model_rebuild", "model_validate", "model_validate_json", "model_validate_strings", "mro",
   "parse_file", "parse_obj", "parse_raw", "register", "schema", "schema_json",
   "update_forward_refs", "validate"]

/-- The name of an attribute before clashes are resolved. -/
def attributeBase (field : String) : String :=
  let name := argumentName field
  if modelAttributes.contains name ∨ name.toList.head? = some '_' then
    String.ofList (name.toList.dropWhile (· == '_')) ++ "_field"
  else name

/-- The names of the attributes for the fields, beside the names used before. -/
def attributeNames : List String → List ModelField → List String
  | _, [] => []
  | used, f :: rest =>
    let name := freshName used (underlined (attributeBase f.name))
    name :: attributeNames (used ++ [name]) rest

/-- The default of an attribute. Under another name it is a field with an alias. -/
def attributeDefault (name : String) (f : ModelField) : Option String :=
  if name = f.name then (if f.type.nullable then some "None" else none)
  else if f.type.nullable then some ("Field(default=None, alias=" ++ Text.quote f.name ++ ")")
  else some ("Field(alias=" ++ Text.quote f.name ++ ")")

/-- The attribute of a field under a name. -/
def fieldAttribute (names : ClassNames) (name : String) (f : ModelField) : Except Fault Parameter := do
  let a ← typeHint names f.type
  return { name, hint := some a, default := attributeDefault name f }

/-- The settings that every model class begins with. -/
def modelConfig : Block :=
  { code := "model_config = ConfigDict(populate_by_name=True, protected_namespaces=())" }

/-- The class of a model. -/
def modelClass (names : ClassNames) (name : String) (m : ModelType) : Except Fault ClassDecl := do
  let attributes ← ((attributeNames [] m.fields).zip m.fields).mapM fun p => fieldAttribute names p.1 p.2
  return { name, bases := ["BaseModel"], blocks := [modelConfig], attributes }

/-- The models that are rendered, with their class names. Of several models with one class the first
counts. -/
def modelsByClass (names : ClassNames) (models : List ModelType) : Fields ModelType :=
  models.foldl (fun kept m =>
    match names.models.get? m.name with
    | none => kept
    | some c => if kept.has c then kept else kept ++ [(c, m)]) []

/-- The block that rebuilds the classes, after everything else. -/
def rebuildBlocks (classes : List String) : List Block :=
  if classes.isEmpty then []
  else [{ code := "\n".intercalate (classes.map (· ++ ".model_rebuild()")), order := -100 }]

/-- The file of the models. -/
def modelsFile (names : ClassNames) (models : List ModelType) : Except Fault File := do
  let rendered := modelsByClass names models
  let classes ← rendered.mapM fun p => do return (p.1, ← modelClass names p.1 p.2)
  let used := rendered.flatMap fun p => p.2.fields.flatMap fun f => usedClasses names f.type
  return {
    name := "models.py"
    imports := typingImports ++ ["from pydantic import BaseModel, ConfigDict, Field"]
      ++ importLines "enums" (importedNames used names.enums.values)
    classes
    blocks := rebuildBlocks rendered.names }

end TypedClient.Client
