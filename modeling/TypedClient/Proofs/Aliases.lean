import TypedClient.Proofs.Expansion

/-!
# Definitions that are references

A definition may be nothing but a reference to another one, its alias. Both become models, and one expects them
to have the same fields. But gathering starts from a definition without having come through it, and from an
alias by coming through it: a reference that leads back to the definition is followed once more in the first case
and not in the second.

**What is proved.** `alias_fields`: an alias has fields of the same names, and the properties that the definition
would have if the references back to it led nowhere. So both have the same fields, in the same order and of the
same types, when the definition is not composed of itself. `entangled` has two definitions that are composed of
each other and declare the same property; there the alias has another type for it.

What a model gathers depends on the way to it only through the definitions that are still to come
(`Gathers.carried`). This is all that is used of the gathering.
-/

namespace TypedClient.Api

open Schema

/-- The definition that a reference leads on to: none when the way has come through it. -/
def onwardFrom (definitions : Fields Model) (visited : List String) (name : String) : Option Model :=
  if name ∈ visited then none else definitions.get? name

variable {definitions others : Fields Model}

theorem onwardFrom_eq_some {visited : List String} {name : String} {d : Model} :
    onwardFrom definitions visited name = some d ↔ name ∉ visited ∧ definitions.get? name = some d := by
  rw [onwardFrom]
  split
  · next known => simp [known]
  · next new => simp [new]

theorem onwardFrom_cons (visited : List String) (target name : String) :
    onwardFrom definitions (target :: visited) name =
      if name = target then none else onwardFrom definitions visited name := by
  by_cases same : name = target
  · simp [onwardFrom, same]
  · simp [onwardFrom, same]

/-- A reference that leads nowhere gathers nothing. -/
theorem gathers_nowhere {visited : List String} {m : Model} {target : String} (named : m.target = some target)
    (closed : onwardFrom definitions visited target = none) : Gathers definitions visited m [] := by
  by_cases known : target ∈ visited
  · exact .circular named known
  · rw [onwardFrom, if_neg known] at closed
    exact .missing named closed

/-- Two ways to a model, through two sets of definitions, are alike to it: the references that are still to come
lead on to the same definitions. -/
def SameOnward (definitions others : Fields Model) (visited elsewhere : List String) (m : Model) : Prop :=
  ∀ name, m.ComesTo definitions name → onwardFrom definitions visited name = onwardFrom others elsewhere name

mutual
/-- What is gathered on one way is gathered on every other that is alike. -/
theorem Gathers.carried : ∀ {visited elsewhere : List String} {m : Model} {ps : Fields Property},
    Gathers definitions visited m ps → SameOnward definitions others visited elsewhere m →
    Gathers others elsewhere m ps
  | _, _, _, _, .whole whole, _ => .whole whole
  | _, _, _, _, .composed own inhabited each, same =>
    .composed own inhabited (each.carried fun _ member name h => same name (h.of_part own member))
  | _, elsewhere, m, _, .behind named defined new within, same => by
    have stated := Model.mem_targets_of_named named
    have onward := (same _ ⟨_, stated, .refl⟩).symm.trans (onwardFrom_eq_some.mpr ⟨new, defined⟩)
    obtain ⟨new', defined'⟩ := onwardFrom_eq_some.mp onward
    refine .behind named defined' new' (within.carried fun name h => ?_)
    rw [onwardFrom_cons, onwardFrom_cons, same name (h.of_behind stated defined)]
  | _, _, m, _, .missing named undefined, same => by
    have stated := Model.mem_targets_of_named named
    refine gathers_nowhere named ((same _ ⟨_, stated, .refl⟩).symm.trans ?_)
    simp [onwardFrom, undefined]
  | _, _, m, _, .circular named known, same => by
    have stated := Model.mem_targets_of_named named
    refine gathers_nowhere named ((same _ ⟨_, stated, .refl⟩).symm.trans ?_)
    simp [onwardFrom, known]
theorem GathersParts.carried : ∀ {visited elsewhere : List String} {gathered ps : Fields Property}
    {parts : List Model}, GathersParts definitions visited gathered parts ps →
    (∀ part ∈ parts, SameOnward definitions others visited elsewhere part) →
    GathersParts others elsewhere gathered parts ps
  | _, _, _, _, _, .nil, _ => .nil
  | _, _, _, _, _, .cons first later, same => by
    obtain ⟨sameFirst, same⟩ := List.forall_mem_cons.mp same
    exact .cons (first.carried sameFirst) (later.carried same)
end

/-! ## An alias and its definition -/

variable {key : String} {m d : Model}

/-- On a way that has not come through the definition, a reference to it gathers what the definition gathers. -/
theorem gathers_named_iff {visited : List String} (named : m.target = some key) (defined : definitions.get? key = some d)
    (new : key ∉ visited) (ps : Fields Property) :
    Gathers definitions visited m ps ↔ Gathers definitions (key :: visited) d ps := by
  constructor
  · intro gathers
    cases gathers with
    | whole whole => cases whole.1.symm.trans named
    | composed own => cases own.symm.trans named
    | behind named' defined' _ within =>
      cases named.symm.trans named'
      cases defined.symm.trans defined'
      exact within
    | missing named' undefined =>
      cases named.symm.trans named'
      cases defined.symm.trans undefined
    | circular named' known =>
      cases named.symm.trans named'
      exact absurd known new
  · exact .behind named defined new

/-- What an alias gathers is gathered from its definition, having come through it. -/
theorem gathers_alias (named : m.target = some key) (defined : definitions.get? key = some d) :
    Gathers definitions [key] d (effectiveProperties definitions m) :=
  (gathers_named_iff named defined List.not_mem_nil _).mp (gathers_effectiveProperties definitions m)

/-- An alias has the properties that its definition would have if references back to it led nowhere. -/
theorem effectiveProperties_alias (named : m.target = some key) (defined : definitions.get? key = some d) :
    effectiveProperties definitions m = effectiveProperties (definitions.without [key]) d := by
  have same : SameOnward definitions (definitions.without [key]) [key] [] d := by
    intro name _
    simp [onwardFrom, Fields.get?_without]
  exact ((gathers_alias named defined).carried same).unique (gathers_effectiveProperties _ d)

/-- A definition that is not composed of itself does not need its own name. -/
theorem effectiveProperties_without (defined : definitions.get? key = some d)
    (free : ¬ Relation.TransGen (ComposedOf definitions) key key) :
    effectiveProperties (definitions.without [key]) d = effectiveProperties definitions d := by
  have same : SameOnward definitions (definitions.without [key]) [] [] d := by
    intro name h
    have other : name ≠ key := by
      rintro rfl
      exact free ((comesTo_own_iff defined).mp h)
    simp [onwardFrom, Fields.get?_without, other]
  exact ((gathers_effectiveProperties definitions d).carried same).unique (gathers_effectiveProperties _ d) |>.symm

/-- An alias reaches the whole models that its definition reaches. -/
theorem reaches_alias (named : m.target = some key) (defined : definitions.get? key = some d) {c : Model}
    (whole : c.IsWhole) : Model.Reaches definitions m c ↔ Model.Reaches definitions d c := by
  constructor
  · intro way
    cases way.cases_head with
    | inl same => cases (same ▸ whole.1).symm.trans named
    | inr step =>
      obtain ⟨next, leads, way⟩ := step
      cases leads with
      | part own => cases own.symm.trans named
      | reference named' defined' =>
        cases named.symm.trans named'
        cases defined.symm.trans defined'
        exact way
  · exact fun way => .head (.reference named defined) way

/-- An alias has properties of the same names as its definition. -/
theorem mem_names_alias (named : m.target = some key) (defined : definitions.get? key = some d) {name : String} :
    name ∈ (effectiveProperties definitions m).names ↔ name ∈ (effectiveProperties definitions d).names := by
  rw [mem_names_effectiveProperties, mem_names_effectiveProperties]
  refine exists_congr fun c => ⟨?_, ?_⟩
  · rintro ⟨way, whole, member⟩
    exact ⟨(reaches_alias named defined whole).mp way, whole, member⟩
  · rintro ⟨way, whole, member⟩
    exact ⟨(reaches_alias named defined whole).mpr way, whole, member⟩

theorem names_modelOf (context : TypeContext) (definition : String × Model) :
    (modelOf context definition).fields.map (·.name) =
      (effectiveProperties context.definitions definition.2).names := by
  rw [modelOf, List.map_map]
  rfl

/-- **An alias against its definition.** In every document, a definition that is a reference to another one has
fields of the same names as that one, and the properties that it would have if the references back to it led
nowhere. Where the definition is not composed of itself, both have the same fields, in one order and of the
same types. -/
theorem alias_fields (context : TypeContext) {label key : String} {m d : Model}
    (named : m.target = some key) (defined : context.definitions.get? key = some d) :
    let aliased := modelOf context (label, m)
    let own := modelOf context (key, d)
    (∀ name, name ∈ aliased.fields.map (·.name) ↔ name ∈ own.fields.map (·.name)) ∧
      effectiveProperties context.definitions m = effectiveProperties (context.definitions.without [key]) d ∧
      (¬ Relation.TransGen (ComposedOf context.definitions) key key → aliased.fields = own.fields) := by
  intro aliased own
  have properties := effectiveProperties_alias named defined
  refine ⟨fun name => ?_, properties, fun free => ?_⟩
  · rw [names_modelOf, names_modelOf]
    exact mem_names_alias named defined
  · show (effectiveProperties context.definitions m).map _ = (effectiveProperties context.definitions d).map _
    rw [properties, effectiveProperties_without defined free]

/-- A definition that is composed of another one, and its alias. -/
def petAlias : TypeContext where
  definitions := [
    ("Base", { properties := [("id", textProperty)] }),
    ("Pet", { parts := [{ target := some "Base" }, { properties := [("age", numberProperty)] }] }),
    ("Animal", { target := some "Pet" })]
  enumNames := []

/-- The definition. -/
def petComposition : Model := { parts := [{ target := some "Base" }, { properties := [("age", numberProperty)] }] }

/-- The alias has the two fields of the definition. -/
theorem alias_fields_animal :
    petAlias.definitions.get? "Pet" = some petComposition ∧
      ¬ Relation.TransGen (ComposedOf petAlias.definitions) "Pet" "Pet" ∧
      (modelOf petAlias ("Animal", { target := some "Pet" })).fields =
        (modelOf petAlias ("Pet", petComposition)).fields := by
  have defined : petAlias.definitions.get? "Pet" = some petComposition := rfl
  have acyclic : IsAcyclic petAlias.definitions := by
    refine isAcyclic_of_rank (fun name => if name = "Animal" then 2 else if name = "Pet" then 1 else 0) ?_
    decide
  obtain ⟨_, _, same⟩ := @alias_fields petAlias "Animal" "Pet" { target := some "Pet" } petComposition rfl defined
  exact ⟨defined, acyclic "Pet", same (acyclic "Pet")⟩

/-! ## A definition that is composed of itself -/

/-- Every alias has the fields of its definition. -/
def EveryAliasAlike (context : TypeContext) : Prop :=
  ∀ label key d, (label, ({ target := some key } : Model)) ∈ context.definitions →
    context.definitions.get? key = some d →
    (modelOf context (label, { target := some key })).fields = (modelOf context (key, d)).fields

/-- Two definitions that are composed of each other and declare the same property, and an alias of the first. -/
def entangled : TypeContext where
  definitions := [
    ("Pet", { parts := [{ properties := [("age", textProperty)] }, { target := some "Owner" }] }),
    ("Owner", { parts := [{ properties := [("age", numberProperty)] }, { target := some "Pet" }] }),
    ("Animal", { target := some "Pet" })]
  enumNames := []

/-- The age of a pet is a text, since its own declaration comes once more behind that of the owner. The age of an
animal is a number: behind the owner the pet has been come through. -/
theorem not_everyAliasAlike : ¬ EveryAliasAlike entangled := by
  intro every
  have member : ("Animal", ({ target := some "Pet" } : Model)) ∈ entangled.definitions := by
    simp [entangled]
  have same := every "Animal" "Pet" _ member rfl
  have types := congrArg (List.map fun f => f.type.primitive) same
  revert types
  decide +kernel

end TypedClient.Api
