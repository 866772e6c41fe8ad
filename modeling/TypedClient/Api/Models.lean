import TypedClient.Api.Resolve

/-!
# Models of a schema

Every definition becomes a model whose fields are its effective properties. A composition contributes
the properties of its parts in order, a later property of the same name taking the place of the earlier
one; a part given by reference contributes the properties of its definition. A reference that leads back
to a definition that is already being gone through contributes nothing, nor does one without a target.

Compositions may be nested to any depth, and references may lead through any number of definitions: the limit
that a stack sets to both is not modelled.
-/

namespace TypedClient.Api

open Schema

mutual
/-- The effective properties of a model, where `onward` gives those behind a reference. -/
def propertiesWith (onward : String → Fields Property) (m : Model) : Fields Property := match m with
  | ⟨_, _, _, _, _, _, some target⟩ => onward target
  | ⟨_, _, properties, _, _, [], none⟩ => properties
  | ⟨_, _, _, _, _, parts, none⟩ => propertiesOfParts onward [] parts
termination_by structural m
/-- The properties of parts put over those gathered so far. -/
def propertiesOfParts (onward : String → Fields Property) (gathered : Fields Property)
    (parts : List Model) : Fields Property := match parts with
  | [] => gathered
  | m :: rest => propertiesOfParts onward (gathered.putAll (propertiesWith onward m)) rest
termination_by structural parts
end

/-- The effective properties of a model, having come through the definitions in `visited`. Every step
through a reference visits one definition more, so `fuel` need not exceed their number. -/
def propertiesFrom (definitions : Fields Model) : Nat → List String → Model → Fields Property
  | fuel, visited => propertiesWith fun target =>
    match definitions.get? target with
    | none => []
    | some m =>
      if visited.contains target then []
      else match fuel with
        | 0 => []
        | fuel + 1 => propertiesFrom definitions fuel (target :: visited) m

/-- The effective properties of a model. -/
def effectiveProperties (definitions : Fields Model) (m : Model) : Fields Property :=
  propertiesFrom definitions definitions.length [] m

/-- The model of a definition. -/
def modelOf (context : TypeContext) (definition : String × Model) : ModelType where
  name := modelName definition.1
  fields := (effectiveProperties context.definitions definition.2).map fun p =>
    ⟨p.1, context.resolve p.2⟩

/-- The models of all definitions, in order. -/
def models (context : TypeContext) : List ModelType :=
  context.definitions.map (modelOf context)

end TypedClient.Api
