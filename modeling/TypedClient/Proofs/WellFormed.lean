import TypedClient.Api.Describe
import TypedClient.Proofs.Outcome

/-!
# Well-formed descriptions

A `TypeRef` can hold combinations that mean nothing: a list without an item, a scalar without its
primitive. Rendering has no answer for these. No type that generation produces is of this kind,
whatever the document: `describe_wellFormed` carries `TypeRef.WellFormed` from the resolution of a
single property to every field, parameter and result of a description.

What a property or a parameter is resolved to is told apart more closely by `TypeRef.Resolved`: it is
made of scalars, names and lists, with no deferral and nothing nullable in it.
-/

namespace TypedClient.Api

open Schema

/-- The types of the fields of a model are well-formed. -/
def ModelType.WellFormed (m : ModelType) : Prop := ∀ f ∈ m.fields, f.type.WellFormed

/-- The types of the parameters and of the result of a method are well-formed. -/
structure Method.WellFormed (m : Method) : Prop where
  parameters : ∀ p ∈ m.parameters, p.type.WellFormed
  returns : m.returns.WellFormed

/-- All types in a description are well-formed. -/
structure Description.WellFormed (d : Description) : Prop where
  models : ∀ m ∈ d.models, m.WellFormed
  methods : ∀ m ∈ d.interface.methods, m.WellFormed

namespace TypeRef

/-- Whether a type may be null has no part in its being well-formed. -/
theorem WellFormed.withNullable {t : TypeRef} (h : t.WellFormed) (nullable : Bool) :
    (t.withNullable nullable).WellFormed := by
  obtain ⟨kind, primitive, name, item, _⟩ := t
  cases kind <;> cases item <;> exact h

/-- A type that descriptions are resolved to, before it is known whether it may be null: a scalar, a name or a
list. -/
inductive Resolved : TypeRef → Prop
  | scalar (p : Primitive) (valued : p ≠ .unit) : Resolved (.scalar p)
  | named (name : String) : Resolved (.named name)
  | listOf {item : TypeRef} (resolved : Resolved item) : Resolved (.listOf item)

theorem Resolved.wellFormed {t : TypeRef} (h : t.Resolved) : t.WellFormed := by
  induction h with
  | scalar => rfl
  | named => rfl
  | listOf _ ih => exact ih

theorem Resolved.withNullable_false {t : TypeRef} (h : t.Resolved) : t.withNullable false = t := by
  cases h <;> rfl

end TypeRef

open TypeRef

theorem integerType_resolved (format : Option String) : (integerType format).Resolved := by
  unfold integerType
  split
  · exact .scalar _ nofun
  · exact .scalar _ nofun

theorem resolveScalar_resolved (type format : Option String) : (resolveScalar type format).Resolved := by
  unfold resolveScalar
  split
  · exact integerType_resolved format
  · exact .scalar _ nofun
  · exact .scalar _ nofun
  · exact .scalar _ nofun
  · exact .listOf (.scalar _ nofun)
  · exact .named _
  · exact .named _
  · exact .named _

namespace TypeContext

theorem itemType_resolved (p : Property) : (itemType p).Resolved := by
  fun_induction itemType p with
  | case1 => exact .named _
  | case2 => exact .listOf (.scalar _ nofun)
  | case3 _ _ _ _ _ _ ih => exact .listOf ih
  | case4 => exact integerType_resolved _
  | case5 => exact .scalar _ nofun
  | case6 => exact .scalar _ nofun
  | case7 => exact resolveScalar_resolved _ _

theorem resolveArray_resolved (items : Option Property) : (resolveArray items).Resolved := by
  cases items with
  | none => exact .listOf (.scalar _ nofun)
  | some p => exact .listOf (itemType_resolved p)

theorem resolveTarget_resolved (context : TypeContext) (name : String) :
    (context.resolveTarget name).Resolved := by
  unfold resolveTarget
  split
  · split
    · exact resolveScalar_resolved _ _
    · exact .named name
  · exact .named name

/-- The type of a property is a resolved one, nullable when the property is not required. -/
theorem exists_resolved (context : TypeContext) (p : Property) :
    ∃ t : TypeRef, t.Resolved ∧ context.resolve p = t.withNullable (!p.required) := by
  refine ⟨_, ?_, rfl⟩
  cases p.kind with
  | reference => exact resolveTarget_resolved context _
  | array => exact resolveArray_resolved p.items
  | primitive => exact resolveScalar_resolved _ _
  | object => exact resolveScalar_resolved _ _

/-- Every property has a type that can be rendered. -/
theorem resolve_wellFormed (context : TypeContext) (p : Property) :
    (context.resolve p).WellFormed := by
  obtain ⟨t, resolved, heq⟩ := context.exists_resolved p
  rw [heq]
  exact resolved.wellFormed.withNullable _

end TypeContext

theorem modelOf_wellFormed (context : TypeContext) (definition : String × Model) :
    (modelOf context definition).WellFormed := by
  intro f hf
  obtain ⟨p, _, rfl⟩ := List.mem_map.mp hf
  exact context.resolve_wellFormed p.2

theorem bodyType_resolved (p : Parameter) : (bodyType p).Resolved := by
  unfold bodyType
  split
  · exact .named _
  · split
    · exact .named _
    · exact TypeContext.resolveArray_resolved _
    · exact .scalar _ nofun
    · exact .scalar _ nofun
    · exact .named _

theorem queryArrayType_resolved (p : Parameter) : (queryArrayType p).Resolved := by
  unfold queryArrayType
  split
  · exact .listOf (.scalar _ nofun)
  · exact .listOf (resolveScalar_resolved _ _)

theorem boundType_resolved {p : Parameter} {bound : Binding × TypeRef}
    (h : boundType? p = some bound) : bound.2.Resolved := by
  unfold boundType? at h
  split at h
  · cases h
    exact bodyType_resolved p
  · cases h
    show TypeRef.Resolved (if _ then _ else _)
    split
    · exact queryArrayType_resolved p
    · exact resolveScalar_resolved _ _
  · cases h
    exact resolveScalar_resolved _ _
  · cases h

/-- What is bound is a parameter of the method, nullable when it is not required. -/
theorem exists_parameter {p : Parameter} {b : Binding} {t : TypeRef} (h : boundType? p = some (b, t)) :
    ∃ q, methodParameter? p = some q ∧ q.binding = b ∧ q.type = t.withNullable (!p.required) := by
  rw [methodParameter?, h]
  exact ⟨_, rfl, rfl, rfl⟩

theorem returnType_wellFormed (modelNames : List String) (o : Operation) :
    (returnType modelNames o).WellFormed := by
  unfold returnType
  split
  · dsimp only
    split <;> rfl
  · dsimp only
    split <;> rfl
  · rfl

theorem methodOf_wellFormed {modelNames : List String} {overrides : Value} {e : Endpoint} {m : Method}
    (h : methodOf modelNames overrides e = .ok m) : m.WellFormed := by
  unfold methodOf at h
  split at h
  · cases h
  · cases h
  · obtain ⟨headers, _, heq⟩ := bind_eq_ok.mp h
    cases heq
    refine ⟨fun p hp => ?_, returnType_wellFormed _ _⟩
    obtain ⟨q, _, hq⟩ := List.mem_filterMap.mp hp
    obtain ⟨bound, hb, rfl⟩ := Option.map_eq_some_iff.mp hq
    exact (boundType_resolved hb).wellFormed.withNullable _

theorem methods_wellFormed (modelNames : List String) (overrides : Value) (endpoints : List Endpoint) :
    ∀ m ∈ (methods modelNames overrides endpoints).1, m.WellFormed := by
  induction endpoints with
  | nil =>
    intro m hm
    cases hm
  | cons e rest ih =>
    intro m hm
    simp only [methods] at hm
    split at hm
    · next found h =>
      rcases List.mem_cons.mp hm with rfl | hm
      · exact methodOf_wellFormed h
      · exact ih m hm
    · exact ih m hm

/-- **Generation only makes types that can be rendered**, from any document. -/
theorem describe_wellFormed (links : Links) (settings : Settings) (d : Document) :
    (describe links settings d).1.WellFormed where
  models m hm := by
    obtain ⟨definition, _, rfl⟩ := List.mem_map.mp hm
    exact modelOf_wellFormed _ definition
  methods := methods_wellFormed _ _ _

end TypedClient.Api
