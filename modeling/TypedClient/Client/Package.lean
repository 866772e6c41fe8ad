import TypedClient.Client.Enums
import TypedClient.Client.FixedCode
import TypedClient.Client.Methods
import TypedClient.Client.Models
import TypedClient.Settings
import TypedClient.Toml.Writer

/-!
# The package

`package` turns a description into the files of a package: enumerations, models, the interface, the
modules that hardly change, and the settings when they name a source. `packageFiles` are the texts of
the files by their names.
-/

namespace TypedClient.Client

open Api Source

/-- The name of the package, `api` unless one is set. -/
def packageName (settings : Settings) : Except Fault String :=
  if settings.packageName.truthy then settings.packageName.requiredText else .ok "api"

/-- What one item of a module name contributes to it: alphanumeric texts and low lines stay. -/
def moduleNamePart : Value → Except Fault String
  | .str s =>
    .ok (if (!s.isEmpty && s.toList.all Text.isAlphanumeric) || s == "_" then s else "_")
  | _ => .error .notObject

/-- The name under which the client holds the interface. A list of texts counts as their
concatenation. -/
def moduleName (settings : Settings) : Except Fault String := do
  let parts ← (← Links.none.items settings.moduleName).mapM moduleNamePart
  return argumentName (String.join parts)

/-- A file that is one block of code. -/
def codeFile (name code : String) : File := { name, blocks := [{ code }] }

/-- The file of the settings, when they name a source. -/
def settingsFiles (settings : Settings) : Except Fault (List File) :=
  if settings.source.truthy then do
    return [codeFile Settings.fileName (← Toml.write settings.toTable)]
  else .ok []

/-- The notices of the models of a description that are renamed. -/
def renamings (d : Description) : List Event := (ClassNames.ofDescription d).2

/-- The package for a description under the settings. -/
def package (settings : Settings) (d : Description) : Except Fault Project := do
  let name ← packageName settings
  let names := (ClassNames.ofDescription d).1
  let interface := className d.interface.name
  let models ← modelsFile names d.models
  let methods ← interfaceFile names interface ("Методы API " ++ settings.componentName.text)
    d.interface.methods
  let module ← moduleName settings
  let settingsFile ← settingsFiles settings
  let files := [enumsFile d.enums, models, methods, codeFile "common.py" commonCode,
    codeFile "client.py" (clientCode interface module), codeFile "__init__.py" (packageCode interface)]
  return { name, files := files ++ settingsFile }

/-- The texts of the files of a package, by their names. -/
def packageFiles (p : Project) : Fields String :=
  p.files.map fun f => (f.name, f.text)

end TypedClient.Client
