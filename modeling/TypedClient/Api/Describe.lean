import TypedClient.Api.Enums
import TypedClient.Api.Methods
import TypedClient.Api.Models
import TypedClient.Settings

/-!
# From a schema to a description

`describe` is one run of generation: the enumerations first, since references to them are resolved to
scalars, then the models, then the methods, whose results may only be models that were generated.
-/

namespace TypedClient.Api

open Schema

/-- The description of a document, and what happened on the way. -/
def describe (links : Links) (settings : Settings) (d : Document) : Description × List Event :=
  let (enums, enumEvents) := extractEnums links d
  let context : TypeContext := ⟨d.definitions, enums.map (·.name)⟩
  let models := models context
  let modelNames := models.map (·.name)
  let (methods, methodEvents) := methods modelNames settings.headerOverrides d.endpoints
  ({ interface := ⟨settings.interfaceName, methods⟩, models, enums, modelNames },
    enumEvents ++ methodEvents)

end TypedClient.Api
