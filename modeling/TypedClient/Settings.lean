import TypedClient.Links
import TypedClient.Text.Blank

/-!
# Settings

The settings of a run are read from a table, merged with the arguments of the command line and written
back as a table. A setting is kept as the value it was given; the headers of an operation are kept as a
list of texts. `Settings.WellTyped` holds of settings whose values have the types that generation
expects.
-/

namespace TypedClient

/-- The settings of a run. `headerOverrides` is the table of the headers by operation. -/
structure Settings where
  source : Value := .null
  packageName : Value := .null
  componentName : Value := .str "Api"
  moduleName : Value := .str "api"
  dirname : Value := .null
  headerOverrides : Value := .object []
deriving Repr, Inhabited

/-- What the command line sets. Among the headers there is nothing for one that was given without a
value. -/
structure SettingArguments where
  source : Option String := none
  package : Option String := none
  component : Option String := none
  module : Option String := none
  dirname : Option String := none
  headers : List (Option String) := []
deriving Repr, Inhabited

/-- Headers by operation. -/
abbrev HeaderTable := Fields (List String)

/-- The parts of a header argument: the operation before the first equals sign and the header after it,
both trimmed. None when there is no sign or one of them is blank. -/
def splitHeaderArgument (s : String) : Option (String × String) :=
  match s.toList.dropWhile (· != '=') with
  | [] => none
  | _ :: after =>
    let operation := Text.trim (String.ofList (s.toList.takeWhile (· != '=')))
    let header := Text.trim (String.ofList after)
    if operation = "" ∨ header = "" then none else some (operation, header)

/-- Adds a header to those of an operation. -/
def addHeader (table : HeaderTable) (operation header : String) : HeaderTable :=
  table.put operation ((table.get? operation).getD [] ++ [header])

/-- The table with the header of one argument added. -/
def addHeaderArgument (table : HeaderTable) : Option String → Except Fault HeaderTable
  | none => .error .notObject
  | some s =>
    match splitHeaderArgument s with
    | some (operation, header) => .ok (addHeader table operation header)
    | none => .error (.badHeaderArgument (Text.quote s))

/-- The headers by operation that header arguments state, each operation at its first argument. -/
def readHeaderArguments (arguments : List (Option String)) : Except Fault HeaderTable :=
  arguments.foldlM addHeaderArgument []

/-- A list of texts as a value. -/
def Value.ofTexts (texts : List String) : Value := .list (texts.map .str)

namespace Settings

/-- The name of the settings file. -/
def fileName : String := "swagger.toml"

/-- The directory that is generated into when none is set. -/
def defaultDirname : String := "api_interface"

/-- The name of the interface. -/
def interfaceName (s : Settings) : String := s.componentName.text ++ "ApiInterface"

/-- A headers table as read: a single text is a list of one, and every header is written as a text. -/
def readHeaders (table : Fields Value) : Except Fault (Fields Value) :=
  table.mapM fun (operation, v) => do
    let values ← match v with
      | .str s => pure [.str s]
      | v => Links.none.items v
    return (operation, .ofTexts (← values.mapM Value.shown))

/-- The settings that a table states, each with its default when it is absent. -/
def ofTable (table : Fields Value) : Except Fault Settings := do
  let headers ← match table.get? "headers" with
    | none => pure []
    | some (.object fs) => pure fs
    | some _ => .error .headersNotTable
  let headers ← readHeaders headers
  return {
    source := (table.get? "source").getD .null
    packageName := (table.get? "package_name").getD .null
    componentName := (table.get? "component_name").getD (.str "Api")
    moduleName := (table.get? "module_name").getD (.str "api")
    dirname := (table.get? "dirname").getD (.str defaultDirname)
    headerOverrides := .object headers }

/-- The settings that a value states, which must be a table. -/
def ofValue (v : Value) : Except Fault Settings := do
  ofTable (← Links.none.fields v)

/-- Whether a value is null. -/
def isNull : Value → Bool
  | .null => true
  | _ => false

/-- The table of the settings that are not null. -/
def toTable (s : Settings) : Fields Value :=
  [("source", s.source), ("package_name", s.packageName), ("component_name", s.componentName),
   ("module_name", s.moduleName), ("dirname", s.dirname), ("headers", s.headerOverrides)].filter
    fun f => !isNull f.2

/-- An argument that is given and not empty, otherwise the setting. -/
def argumentOr (argument : Option String) (setting : Value) : Value :=
  match argument with
  | none | some "" => setting
  | some s => .str s

/-- The headers by operation of the settings. Whatever is empty counts as an empty table. -/
def headerFields (overrides : Value) : Except Fault (Fields Value) :=
  match overrides with
  | .object fs => .ok fs
  | .list [] | .str "" => .ok []
  | _ => .error .notIterable

/-- The settings with the arguments put over them. -/
def merge (s : Settings) (a : SettingArguments) : Except Fault Settings := do
  let overrides ← headerFields s.headerOverrides
  let table ← readHeaderArguments a.headers
  return {
    source := argumentOr a.source s.source
    packageName := argumentOr a.package s.packageName
    componentName := argumentOr a.component s.componentName
    moduleName := argumentOr a.module s.moduleName
    dirname := argumentOr a.dirname s.dirname
    headerOverrides := .object (overrides.putAll (table.map fun h => (h.1, .ofTexts h.2))) }

/-- A text, or null. -/
def isTextOrNull : Value → Bool
  | .null | .str _ => true
  | _ => false

/-- A text. -/
def isText : Value → Bool
  | .str _ => true
  | _ => false

/-- A list of texts. -/
def isTextList : Value → Bool
  | .list vs => vs.all isText
  | _ => false

/-- A table of lists of texts. -/
def isHeaderTable : Value → Bool
  | .object fs => fs.all fun f => isTextList f.2
  | _ => false

/-- The values have the types that generation expects. -/
def WellTyped (s : Settings) : Prop :=
  isTextOrNull s.source ∧ isTextOrNull s.packageName ∧ isText s.componentName ∧ isText s.moduleName ∧
    isTextOrNull s.dirname ∧ isHeaderTable s.headerOverrides

end Settings

end TypedClient
