import TypedClient.Proofs.ClassNames
import TypedClient.Proofs.Completion
import TypedClient.Proofs.Rendering

/-!
# Which types have a class

Two definitions may lead to one class name, and so may two enumerations. The later one is passed over:
not every type that is generated is rendered.

**What is proved.** `kept_types_rendered`: an enumeration has a class of its own unless an earlier one
leads to the same class name. A definition with fields has one, with exactly its fields, when its class
name is an enumeration's, in which case it is renamed, or is free when its turn comes. Distinct
definitions of this kind have distinct classes. `collidingRoot` shows that the condition is needed.

Nothing is said of a definition whose model name an earlier one has.
-/

namespace TypedClient.Client

open Schema Api Source

/-- A definition that has fields and a class of its own: no earlier definition has its model name, and
its class name belongs to an enumeration or is free when its turn comes. -/
def Kept (context : TypeContext) (enumClasses : List String) (key : String) (m : Model) : Prop :=
  effectiveProperties context.definitions m ≠ [] ∧
    ∃ before after, context.definitions = before ++ (key, m) :: after ∧
      (∀ p ∈ before, modelName p.1 ≠ modelName key) ∧
      (className (modelName key) ∈ enumClasses ∨
        className (modelName key) ∉ (nameModels enumClasses (before.map (modelOf context))).taken)

/-- A class has an attribute for each of the properties, with its type and the default that goes with its
name. -/
def HasFields (names : ClassNames) (context : TypeContext) (properties : Fields Property)
    (decl : ClassDecl) : Prop :=
  List.Forall₂
    (fun p a => ∃ hint, typeHint names (context.resolve p.2) = .ok hint ∧ a.hint = some hint ∧
      a.default = attributeDefault a.name ⟨p.1, context.resolve p.2⟩)
    properties decl.attributes

variable {context : TypeContext} {enumClasses : List String} {key : String} {m : Model}

/-- A definition that is kept is the first of its model name. -/
theorem Kept.firstOf (h : Kept context enumClasses key m) :
    FirstOf (fun p => modelName p.1) context.definitions (key, m) := by
  obtain ⟨_, before, after, split, first, _⟩ := h
  exact ⟨before, after, split, first⟩

/-- A definition that is kept does not pass. -/
theorem Kept.not_passes (h : Kept context enumClasses key m) :
    ∃ before after, models context = before ++ modelOf context (key, m) :: after ∧
      (∀ m' ∈ before, m'.name ≠ modelName key) ∧
      ¬ (nameModels enumClasses before).Passes enumClasses (modelOf context (key, m)) := by
  obtain ⟨fields, before, after, split, first, free⟩ := h
  refine ⟨before.map (modelOf context), after.map (modelOf context), ?_, ?_, ?_⟩
  · rw [models, split, List.map_append, List.map_cons]
  · intro m' hm'
    obtain ⟨p, hp, rfl⟩ := List.mem_map.mp hm'
    exact first p hp
  · unfold ModelNaming.Passes
    split
    · exact fun bare => fields (List.map_eq_nil_iff.mp bare)
    · next clash => exact free.resolve_left clash

/-- The class of a definition has exactly its fields. -/
theorem modelClass_hasFields {names : ClassNames} {c : String} {decl : ClassDecl}
    (h : modelClass names c (modelOf context (key, m)) = .ok decl) :
    HasFields names context (effectiveProperties context.definitions m) decl := by
  obtain ⟨attributes, ha, rfl⟩ := modelClass_eq_ok h
  have each := forall₂_of_zip (length_attributeNames [] _) ha
  refine (List.forall₂_map_left_iff.mp each).imp fun p a hp => ?_
  obtain ⟨name, ha⟩ := hp
  obtain ⟨hint, hh, rfl⟩ := fieldAttribute_eq_ok.mp ha
  exact ⟨hint, hh, rfl, rfl⟩

/-- **Which types are rendered.** From every document, the first enumeration of each class name has its
class, and every definition that is kept has a class of its own with exactly its fields. -/
theorem kept_types_rendered (links : Links) (settings : Settings) (document : Document) :
    let d := (describe links settings document).1
    let names := namesOf d
    let context : TypeContext := ⟨document.definitions, d.enums.map (·.name)⟩
    (∀ e, FirstOf (fun e => className e.name) d.enums e →
      (className e.name, enumClass (className e.name) e) ∈ (enumsFile d.enums).classes) ∧
    (∀ e e', FirstOf (fun e => className e.name) d.enums e →
      FirstOf (fun e => className e.name) d.enums e' → className e.name = className e'.name → e = e') ∧
    ∃ models, modelsFile names d.models = .ok models ∧ ∃ classOf : String → String,
      (∀ key m, Kept context names.enums.values key m → ∃ decl, (classOf key, decl) ∈ models.classes ∧
        HasFields names context (effectiveProperties document.definitions m) decl) ∧
      ∀ key m key' m', Kept context names.enums.values key m → Kept context names.enums.values key' m' →
        classOf key = classOf key' → key = key' := by
  intro d names context
  obtain ⟨models, hm⟩ := exists_modelsFile names (describe_wellFormed links settings document).models
  have given : ∀ {key m}, Kept context names.enums.values key m →
      ∃ c, names.models.get? (modelName key) = some c ∧
        (c, modelOf context (key, m)) ∈ modelsByClass names d.models := by
    intro key m kept
    obtain ⟨before, after, split, first, stays⟩ := kept.not_passes
    have split : d.models = before ++ modelOf context (key, m) :: after := split
    -- the class may be another than the one given at its turn, when a later model has its name
    have has := mem_names_nameModels stays after
    rw [← split] at has
    obtain ⟨c, hc⟩ := Option.ne_none_iff_exists'.mp (mt Fields.get?_eq_none.mp (not_not.mpr has))
    exact ⟨c, hc, ClassNames.mem_modelsByClass d split first hc⟩
  refine ⟨?_, ?_, models, hm, fun key => (names.models.get? (modelName key)).getD "", ?_, ?_⟩
  · rintro e ⟨before, after, split, first⟩
    refine List.mem_map.mpr ⟨(className e.name, e), ?_, rfl⟩
    rw [enumsByClass_eq]
    exact mem_keepFirst.mpr ⟨before, after, split, rfl, fun y hy h => first y hy (Option.some.inj h)⟩
  · exact fun e e' he he' h => he.unique he' h
  · intro key m kept
    obtain ⟨c, hc, rendered⟩ := given kept
    obtain ⟨⟨c', decl⟩, hdecl, same, built⟩ := exists_of_mem_left (modelsFile_eq_ok hm).1 rendered
    cases same
    refine ⟨decl, ?_, modelClass_hasFields built⟩
    dsimp only
    rwa [hc]
  · intro key m key' m' kept kept' h
    obtain ⟨c, hc, _⟩ := given kept
    obtain ⟨c', hc', _⟩ := given kept'
    dsimp only at h
    rw [hc, hc'] at h
    cases h
    have same : modelName key = modelName key' := ClassNames.name_eq_of_class_eq d hc hc'
    exact congrArg Prod.fst (kept.firstOf.unique kept'.firstOf same)

/-- A document with two definitions that lead to one class name. -/
def collidingRoot : Value :=
  .object [("definitions", .object [
    ("foo-bar", .object [("properties", .object [("a", .object [("type", .str "string")])])]),
    ("ModelFooBar", .object [("properties", .object [("b", .object [("type", .str "string")])])])])]

/-- The first of two definitions that collide has a class with its one field. -/
theorem kept_types_rendered_colliding :
    ∃ models c decl,
      modelsFile (namesOf (describe .none {} (Document.read .none collidingRoot).1).1)
        (describe .none {} (Document.read .none collidingRoot).1).1.models = .ok models ∧
      (c, decl) ∈ models.classes ∧ decl.attributes.length = 1 := by
  obtain ⟨_, _, models, hm, classOf, rendered, _⟩ :=
    kept_types_rendered .none {} (Document.read .none collidingRoot).1
  obtain ⟨decl, hdecl, fields⟩ := rendered "foo-bar" _
    ⟨by decide +kernel, [], _, rfl, fun _ h => (nomatch h), .inr (by decide)⟩
  refine ⟨models, _, decl, hm, hdecl, fields.length_eq.symm.trans ?_⟩
  decide +kernel

/-! ## Types without a class -/

/-- Every definition with fields has a class of its own. -/
def EveryDefinitionRendered (links : Links) (settings : Settings) (document : Document) : Prop :=
  let d := (describe links settings document).1
  ∃ models, modelsFile (namesOf d) d.models = .ok models ∧ ∃ classOf : String → String,
    (∀ p ∈ document.definitions, effectiveProperties document.definitions p.2 ≠ [] →
      classOf p.1 ∈ models.classes.names) ∧
    ∀ p ∈ document.definitions, ∀ q ∈ document.definitions,
      effectiveProperties document.definitions p.2 ≠ [] → effectiveProperties document.definitions q.2 ≠ [] →
      classOf p.1 = classOf q.1 → p.1 = q.1

/-- Not every definition has a class of its own. -/
theorem not_everyDefinitionRendered :
    ¬ EveryDefinitionRendered .none {} (Document.read .none collidingRoot).1 := by
  rintro ⟨models, hm, classOf, total, injective⟩
  have classes : models.classes.names = ["ModelFooBar"] := by
    rw [names_modelsFile hm]
    decide
  have keys : (Document.read .none collidingRoot).1.definitions.names = ["foo-bar", "ModelFooBar"] := by
    decide
  have fields : ∀ p ∈ (Document.read .none collidingRoot).1.definitions,
      effectiveProperties (Document.read .none collidingRoot).1.definitions p.2 ≠ [] := by
    decide +kernel
  have same : ∀ p ∈ (Document.read .none collidingRoot).1.definitions, classOf p.1 = "ModelFooBar" := by
    intro p hp
    have := total p hp (fields p hp)
    rw [classes] at this
    exact List.mem_singleton.mp this
  obtain ⟨m, hm⟩ : ∃ m, ("foo-bar", m) ∈ (Document.read .none collidingRoot).1.definitions := by
    rw [← Fields.mem_names, keys]
    exact .head _
  obtain ⟨m', hm'⟩ : ∃ m, ("ModelFooBar", m) ∈ (Document.read .none collidingRoot).1.definitions := by
    rw [← Fields.mem_names, keys]
    exact .tail _ (.head _)
  have collide := injective _ hm _ hm' (fields _ hm) (fields _ hm') ((same _ hm).trans (same _ hm').symm)
  exact absurd collide (by decide : "foo-bar" ≠ "ModelFooBar")

end TypedClient.Client
