import TypedClient.Proofs.Fields
import TypedClient.Schema.Basic

/-!
# The literals of a schema

The literals that properties, models and parameters are restricted to are the values of the document, kept
as they were found; everything else in a schema has been read into a type of its own. `allLiterals` gathers
the literals of each part of a schema and `mapLiterals` changes them in their places. The literals of what
was changed are the changed ones (`allLiterals_mapLiterals`), and a change that leaves every literal as it
is leaves the whole as it is (`mapLiterals_eq_self`).
-/

namespace TypedClient.Schema

variable {f : Value → Value}

/-! ## Literals that are stated or not -/

/-- The literals that are stated, none when there is no statement. -/
def stated (literals : Option (List Value)) : List Value := literals.getD []

theorem stated_map (literals : Option (List Value)) :
    stated (literals.map (List.map f)) = (stated literals).map f := by
  cases literals <;> rfl

theorem map_stated_eq_self {literals : Option (List Value)} (h : ∀ v ∈ stated literals, f v = v) :
    literals.map (List.map f) = literals := by
  cases literals with
  | none => rfl
  | some vs =>
    have same : vs.map f = vs.map id := List.map_congr_left h
    rw [Option.map_some, same, List.map_id]

/-! ## Properties -/

/-- A property with its literals changed, those of its items too. -/
def Property.mapLiterals (f : Value → Value) (p : Property) : Property := match p with
  | ⟨kind, type, format, required, target, none, literals⟩ =>
    ⟨kind, type, format, required, target, none, literals.map (List.map f)⟩
  | ⟨kind, type, format, required, target, some items, literals⟩ =>
    ⟨kind, type, format, required, target, some (items.mapLiterals f), literals.map (List.map f)⟩
termination_by structural p

/-- The literals of a property and of its items. -/
def Property.allLiterals (p : Property) : List Value := match p with
  | ⟨_, _, _, _, _, none, literals⟩ => stated literals
  | ⟨_, _, _, _, _, some items, literals⟩ => items.allLiterals ++ stated literals
termination_by structural p

theorem Property.allLiterals_mapLiterals (p : Property) :
    (p.mapLiterals f).allLiterals = p.allLiterals.map f := by
  obtain ⟨kind, type, format, required, target, items, literals⟩ := p
  cases items with
  | none => rw [mapLiterals, allLiterals, allLiterals, stated_map]
  | some items =>
    rw [mapLiterals, allLiterals, allLiterals, allLiterals_mapLiterals items, stated_map, List.map_append]
termination_by structural p

theorem Property.mapLiterals_eq_self (p : Property) (h : ∀ v ∈ p.allLiterals, f v = v) :
    p.mapLiterals f = p := by
  obtain ⟨kind, type, format, required, target, items, literals⟩ := p
  cases items with
  | none =>
    rw [allLiterals] at h
    rw [mapLiterals, map_stated_eq_self h]
  | some items =>
    rw [allLiterals] at h
    have inner := mapLiterals_eq_self items fun v hv => h v (List.mem_append_left _ hv)
    rw [mapLiterals, inner, map_stated_eq_self fun v hv => h v (List.mem_append_right _ hv)]
termination_by structural p

/-! ## Gathering and changing under names -/

section

variable {α : Type} {change : α → α} {gather : α → List Value}

theorem flatMap_change (h : ∀ a, gather (change a) = (gather a).map f) (fs : Fields α) :
    (fs.change fun _ => change).flatMap (fun p => gather p.2) = (fs.flatMap fun p => gather p.2).map f := by
  rw [Fields.change, List.flatMap_map, List.map_flatMap]
  exact List.flatMap_congr fun p _ => h p.2

theorem change_eq_self {fs : Fields α} (same : ∀ a, (∀ v ∈ gather a, f v = v) → change a = a)
    (h : ∀ v ∈ fs.flatMap fun p => gather p.2, f v = v) : fs.change (fun _ => change) = fs := by
  have each : ∀ p ∈ fs, (p.1, change p.2) = id p := fun p hp =>
    congrArg (p.1, ·) (same p.2 fun v hv => h v (List.mem_flatMap.mpr ⟨p, hp, hv⟩))
  rw [Fields.change, List.map_congr_left each, List.map_id]

end

/-! ## Models -/

mutual
/-- A model with its literals changed, those of its properties and parts too. -/
def Model.mapLiterals (f : Value → Value) (m : Model) : Model := match m with
  | ⟨type, format, properties, literals, literalNames, parts, target⟩ =>
    ⟨type, format, properties.change fun _ => Property.mapLiterals f, literals.map (List.map f), literalNames,
      Model.mapPartLiterals f parts, target⟩
termination_by structural m
/-- The parts of a model with their literals changed. -/
def Model.mapPartLiterals (f : Value → Value) (parts : List Model) : List Model := match parts with
  | [] => []
  | m :: rest => Model.mapLiterals f m :: Model.mapPartLiterals f rest
termination_by structural parts
end

mutual
/-- The literals of a model, of its properties and of its parts. -/
def Model.allLiterals (m : Model) : List Value := match m with
  | ⟨_, _, properties, literals, _, parts, _⟩ =>
    properties.flatMap (fun p => p.2.allLiterals) ++ stated literals ++ Model.partLiterals parts
termination_by structural m
/-- The literals of the parts of a model. -/
def Model.partLiterals (parts : List Model) : List Value := match parts with
  | [] => []
  | m :: rest => Model.allLiterals m ++ Model.partLiterals rest
termination_by structural parts
end

mutual
theorem Model.allLiterals_mapLiterals (m : Model) : (m.mapLiterals f).allLiterals = m.allLiterals.map f := by
  obtain ⟨type, format, properties, literals, literalNames, parts, target⟩ := m
  rw [mapLiterals, allLiterals, allLiterals, flatMap_change Property.allLiterals_mapLiterals, stated_map,
    partLiterals_mapPartLiterals parts, List.map_append, List.map_append]
termination_by structural m
theorem Model.partLiterals_mapPartLiterals (parts : List Model) :
    partLiterals (mapPartLiterals f parts) = (partLiterals parts).map f := by
  cases parts with
  | nil => rfl
  | cons m rest =>
    rw [mapPartLiterals, partLiterals, partLiterals, allLiterals_mapLiterals m,
      partLiterals_mapPartLiterals rest, List.map_append]
termination_by structural parts
end

mutual
theorem Model.mapLiterals_eq_self (m : Model) (h : ∀ v ∈ m.allLiterals, f v = v) : m.mapLiterals f = m := by
  obtain ⟨type, format, properties, literals, literalNames, parts, target⟩ := m
  rw [allLiterals] at h
  have own : properties.change (fun _ => Property.mapLiterals f) = properties :=
    change_eq_self Property.mapLiterals_eq_self fun v hv => h v (List.mem_append_left _ (List.mem_append_left _ hv))
  have inner := mapPartLiterals_eq_self parts fun v hv => h v (List.mem_append_right _ hv)
  have stated := map_stated_eq_self fun v hv => h v (List.mem_append_left _ (List.mem_append_right _ hv))
  rw [mapLiterals, own, inner, stated]
termination_by structural m
theorem Model.mapPartLiterals_eq_self (parts : List Model) (h : ∀ v ∈ partLiterals parts, f v = v) :
    mapPartLiterals f parts = parts := by
  cases parts with
  | nil => rfl
  | cons m rest =>
    rw [partLiterals] at h
    rw [mapPartLiterals, mapLiterals_eq_self m fun v hv => h v (List.mem_append_left _ hv),
      mapPartLiterals_eq_self rest fun v hv => h v (List.mem_append_right _ hv)]
termination_by structural parts
end

/-! ## Operations and documents -/

/-- The literals of a property, if there is one. -/
def optionalLiterals (p : Option Property) : List Value := (p.map Property.allLiterals).getD []

theorem optionalLiterals_map (p : Option Property) :
    optionalLiterals (p.map (Property.mapLiterals f)) = (optionalLiterals p).map f := by
  cases p with
  | none => rfl
  | some p => exact p.allLiterals_mapLiterals

theorem map_mapLiterals_eq_self {p : Option Property} (h : ∀ v ∈ optionalLiterals p, f v = v) :
    p.map (Property.mapLiterals f) = p := by
  cases p with
  | none => rfl
  | some p => exact congrArg some (p.mapLiterals_eq_self h)

/-- A parameter with its literals changed. -/
def Parameter.mapLiterals (f : Value → Value) (p : Parameter) : Parameter :=
  { p with
    literals := p.literals.map (List.map f)
    items := p.items.map (Property.mapLiterals f)
    schema := p.schema.map (Property.mapLiterals f) }

/-- The literals of a parameter, of its items and of its schema. -/
def Parameter.allLiterals (p : Parameter) : List Value :=
  stated p.literals ++ optionalLiterals p.items ++ optionalLiterals p.schema

theorem Parameter.allLiterals_mapLiterals (p : Parameter) :
    (p.mapLiterals f).allLiterals = p.allLiterals.map f := by
  simp only [allLiterals, mapLiterals, stated_map, optionalLiterals_map, List.map_append]

theorem Parameter.mapLiterals_eq_self (p : Parameter) (h : ∀ v ∈ p.allLiterals, f v = v) :
    p.mapLiterals f = p := by
  simp only [allLiterals, List.mem_append, or_imp, forall_and] at h
  obtain ⟨⟨own, items⟩, schema⟩ := h
  rw [mapLiterals, map_stated_eq_self own, map_mapLiterals_eq_self items, map_mapLiterals_eq_self schema]

/-- A response with its literals changed. -/
def Response.mapLiterals (f : Value → Value) (r : Response) : Response :=
  { r with schema := r.schema.map (Property.mapLiterals f) }

/-- The literals of the schema of a response. -/
def Response.allLiterals (r : Response) : List Value := optionalLiterals r.schema

theorem Response.allLiterals_mapLiterals (r : Response) :
    (r.mapLiterals f).allLiterals = r.allLiterals.map f := optionalLiterals_map r.schema

theorem Response.mapLiterals_eq_self (r : Response) (h : ∀ v ∈ r.allLiterals, f v = v) :
    r.mapLiterals f = r := by
  rw [mapLiterals, map_mapLiterals_eq_self h]

/-- An operation with its literals changed. -/
def Operation.mapLiterals (f : Value → Value) (o : Operation) : Operation :=
  { o with
    parameters := o.parameters.map (Parameter.mapLiterals f)
    responses := o.responses.change fun _ => Response.mapLiterals f }

/-- The literals of the parameters and responses of an operation. -/
def Operation.allLiterals (o : Operation) : List Value :=
  o.parameters.flatMap Parameter.allLiterals ++ o.responses.flatMap fun r => r.2.allLiterals

theorem Operation.allLiterals_mapLiterals (o : Operation) :
    (o.mapLiterals f).allLiterals = o.allLiterals.map f := by
  have own : (o.parameters.map (Parameter.mapLiterals f)).flatMap Parameter.allLiterals =
      (o.parameters.flatMap Parameter.allLiterals).map f := by
    rw [List.flatMap_map, List.map_flatMap]
    exact List.flatMap_congr fun p _ => p.allLiterals_mapLiterals
  simp only [allLiterals, mapLiterals, own, flatMap_change Response.allLiterals_mapLiterals, List.map_append]

theorem Operation.mapLiterals_eq_self (o : Operation) (h : ∀ v ∈ o.allLiterals, f v = v) :
    o.mapLiterals f = o := by
  simp only [allLiterals, List.mem_append, or_imp, forall_and] at h
  obtain ⟨own, responses⟩ := h
  have parameters : o.parameters.map (Parameter.mapLiterals f) = o.parameters.map id :=
    List.map_congr_left fun p hp => p.mapLiterals_eq_self fun v hv => own v (List.mem_flatMap.mpr ⟨p, hp, hv⟩)
  rw [mapLiterals, parameters, List.map_id, change_eq_self Response.mapLiterals_eq_self responses]

/-- A document with its literals changed. -/
def Document.mapLiterals (f : Value → Value) (d : Document) : Document where
  definitions := d.definitions.change fun _ => Model.mapLiterals f
  paths := d.paths.change fun _ operations => operations.change fun _ => Operation.mapLiterals f

/-- The literals of a document. -/
def Document.allLiterals (d : Document) : List Value :=
  d.definitions.flatMap (fun m => m.2.allLiterals) ++
    d.paths.flatMap fun p => p.2.flatMap fun o => o.2.allLiterals

theorem Document.allLiterals_mapLiterals (d : Document) :
    (d.mapLiterals f).allLiterals = d.allLiterals.map f := by
  have operations := flatMap_change (f := f) Operation.allLiterals_mapLiterals
  rw [allLiterals, mapLiterals, flatMap_change Model.allLiterals_mapLiterals, flatMap_change operations,
    allLiterals, List.map_append]

theorem Document.mapLiterals_eq_self (d : Document) (h : ∀ v ∈ d.allLiterals, f v = v) :
    d.mapLiterals f = d := by
  simp only [allLiterals, List.mem_append, or_imp, forall_and] at h
  obtain ⟨models, operations⟩ := h
  rw [mapLiterals, change_eq_self Model.mapLiterals_eq_self models,
    change_eq_self (fun _ h => change_eq_self Operation.mapLiterals_eq_self h) operations]

end TypedClient.Schema
