import TypedClient.Client.Models
import TypedClient.Client.Enums
import TypedClient.Proofs.Fields
import TypedClient.Proofs.FreshNames

/-!
# The class names of a description

The models are named one by one, beside the classes of the enumerations, and a name that was given may
be given up again when a later model has the same name. What holds throughout is `ModelNaming.Sound`:
whatever is taken stays taken, and the classes given are distinct and none of them is an enumeration's.

**What is proved.** `nodup_classes`: the classes of the enumerations and of the models are distinct, all
together. `values_enums` and `mem_values_models`: they are the classes of what is rendered.
`class?_eq_some` and `class?_eq_none`: a reference leads to one of these classes, and it leads nowhere
exactly when neither its name nor its model name has one.
-/

namespace TypedClient.Client

open Api

/-! ## What is rendered -/

theorem enumsByClass_eq (enums : List EnumType) :
    enumsByClass enums = keepFirst (fun e => some (className e.name)) enums := rfl

theorem modelsByClass_eq (names : ClassNames) (models : List ModelType) :
    modelsByClass names models = keepFirst (fun m => names.models.get? m.name) models := rfl

theorem nodup_names_enumsByClass (enums : List EnumType) : (enumsByClass enums).names.Nodup := by
  rw [enumsByClass_eq]
  exact nodup_names_keepFirst _ enums

theorem nodup_names_modelsByClass (names : ClassNames) (models : List ModelType) :
    (modelsByClass names models).names.Nodup := by
  rw [modelsByClass_eq]
  exact nodup_names_keepFirst _ models

theorem mem_names_modelsByClass {names : ClassNames} {models : List ModelType} {c : String} :
    c ∈ (modelsByClass names models).names ↔ ∃ m ∈ models, names.models.get? m.name = some c := by
  rw [modelsByClass_eq]
  exact mem_names_keepFirst

/-- A rendered enumeration has the class name that its name leads to. -/
theorem className_of_mem_enumsByClass {enums : List EnumType} {p : String × EnumType}
    (h : p ∈ enumsByClass enums) : className p.2.name = p.1 := by
  obtain ⟨_, _, _, hc, _⟩ := mem_keepFirst.mp (enumsByClass_eq enums ▸ h)
  exact Option.some.inj hc

/-- A rendered model is one of the models, and its class is the one given to its name. -/
theorem of_mem_modelsByClass {names : ClassNames} {models : List ModelType} {p : String × ModelType}
    (h : p ∈ modelsByClass names models) : p.2 ∈ models ∧ names.models.get? p.2.name = some p.1 := by
  obtain ⟨before, after, rfl, hc, _⟩ := mem_keepFirst.mp (modelsByClass_eq names models ▸ h)
  exact ⟨List.mem_append_right _ List.mem_cons_self, hc⟩

/-! ## The enumerations -/

/-- Every rendered enumeration has its class name under its name. -/
theorem enumClassNames_eq (enums : List EnumType) :
    enumClassNames enums = (enumsByClass enums).map fun p => (p.2.name, p.1) := by
  refine Fields.ofPairs_eq_self (List.Nodup.of_map className ?_)
  have classes : (enumsByClass enums).map (fun p => className p.2.name) = (enumsByClass enums).names :=
    List.map_congr_left fun _ => className_of_mem_enumsByClass
  rw [Fields.names, List.map_map, List.map_map]
  exact classes ▸ nodup_names_enumsByClass enums

theorem values_enumClassNames (enums : List EnumType) :
    (enumClassNames enums).values = (enumsByClass enums).names := by
  rw [enumClassNames_eq, Fields.values, List.map_map]
  rfl

/-! ## The models -/

namespace ModelNaming

/-- Whether a model gets no class: it stands for an enumeration, or its class name is taken. -/
def Passes (enumClasses : List String) (naming : ModelNaming) (m : ModelType) : Prop :=
  if className m.name ∈ enumClasses then m.fields = [] else className m.name ∈ naming.taken

/-- What has been named so far: the taken names contain those of the enumerations and all that were
given, and those given to the models are distinct and none is an enumeration's. -/
structure Sound (enumClasses : List String) (models : List ModelType) (naming : ModelNaming) : Prop where
  enums : ∀ c ∈ enumClasses, c ∈ naming.taken
  taken : ∀ c ∈ naming.given.values, c ∈ naming.taken
  apart : ∀ c ∈ naming.given.values, c ∉ enumClasses
  distinct : naming.given.values.Nodup
  names : naming.given.names.Nodup
  named : ∀ name ∈ naming.given.names, ∃ m ∈ models, m.name = name

variable {enumClasses : List String} {naming : ModelNaming} {models : List ModelType} {m : ModelType}

/-- What naming one model more does: nothing, or it gives the model a class name that was free. -/
theorem add_cases (enumClasses : List String) (naming : ModelNaming) (m : ModelType) :
    naming.Passes enumClasses m ∧ naming.add enumClasses m = naming ∨
    ¬ naming.Passes enumClasses m ∧ ∃ c, c ∉ naming.taken ∧
      (naming.add enumClasses m).taken = naming.taken ++ [c] ∧
      (naming.add enumClasses m).given = naming.given.put m.name c := by
  simp only [Passes, add, List.contains_iff_mem, List.isEmpty_iff]
  by_cases clash : className m.name ∈ enumClasses
  · by_cases bare : m.fields = []
    · exact .inl (by simp only [clash, bare, if_true, and_self])
    · simp only [clash, bare, if_true, if_false, not_false_eq_true, true_and]
      exact .inr ⟨_, freshName_not_mem (underlined_injective _), rfl, rfl⟩
  · by_cases used : className m.name ∈ naming.taken
    · exact .inl (by simp only [clash, used, if_true, if_false, and_self])
    · simp only [clash, used, if_false, not_false_eq_true, true_and]
      exact .inr ⟨_, used, rfl, rfl⟩

/-- Naming one model more keeps the naming sound. -/
theorem Sound.add (h : naming.Sound enumClasses models) (m : ModelType) :
    (naming.add enumClasses m).Sound enumClasses (models ++ [m]) := by
  obtain ⟨_, same⟩ | ⟨_, c, free, taken, given⟩ := add_cases enumClasses naming m
  · rw [same]
    exact { h with
      named := fun name hn => (h.named name hn).imp fun _ => And.imp_left (List.mem_append_left _) }
  · have new : c ∉ naming.given.values := fun hc => free (h.taken c hc)
    exact {
      enums := fun d hd => taken ▸ List.mem_append_left _ (h.enums d hd)
      taken := by
        intro d hd
        rw [given] at hd
        rw [taken]
        rcases Fields.mem_values_put hd with rfl | hd
        · exact List.mem_append_right _ List.mem_cons_self
        · exact List.mem_append_left _ (h.taken d hd)
      apart := by
        intro d hd
        rw [given] at hd
        rcases Fields.mem_values_put hd with rfl | hd
        · exact fun he => free (h.enums d he)
        · exact h.apart d hd
      distinct := given ▸ Fields.nodup_values_put h.distinct new
      names := given ▸ Fields.nodup_names_put h.names
      named := by
        intro name hn
        rw [given] at hn
        obtain ⟨d, hd⟩ := Fields.mem_names.mp hn
        rcases (Fields.mem_put h.names).mp hd with heq | ⟨_, hd⟩
        · exact ⟨m, List.mem_append_right _ List.mem_cons_self, (congrArg Prod.fst heq).symm⟩
        · obtain ⟨m', hm', rfl⟩ := h.named name (Fields.mem_names.mpr ⟨d, hd⟩)
          exact ⟨m', List.mem_append_left _ hm', rfl⟩ }

/-- A name that has a class keeps one. -/
theorem names_subset_add (naming : ModelNaming) (m : ModelType) :
    naming.given.names ⊆ (naming.add enumClasses m).given.names := by
  intro name h
  obtain ⟨_, same⟩ | ⟨_, c, _, _, given⟩ := add_cases enumClasses naming m
  · rw [same]
    exact h
  · rw [given, Fields.names_put]
    split
    · exact h
    · exact List.mem_append_left _ h

/-- A model that does not pass has a class. -/
theorem mem_names_add (h : ¬ naming.Passes enumClasses m) :
    m.name ∈ (naming.add enumClasses m).given.names := by
  obtain ⟨passes, _⟩ | ⟨_, c, _, _, given⟩ := add_cases enumClasses naming m
  · exact absurd passes h
  · rw [given, Fields.names_put]
    split
    · assumption
    · exact List.mem_append_right _ List.mem_cons_self

end ModelNaming

theorem nameModels_concat (enumClasses : List String) (models : List ModelType) (m : ModelType) :
    nameModels enumClasses (models ++ [m]) = (nameModels enumClasses models).add enumClasses m :=
  List.foldl_concat ..

/-- **Naming the models is sound.** -/
theorem nameModels_sound (enumClasses : List String) (models : List ModelType) :
    (nameModels enumClasses models).Sound enumClasses models := by
  induction models using List.reverseRecOn with
  | nil =>
    exact {
      enums := fun _ h => h
      taken := fun _ h => nomatch h
      apart := fun _ h => nomatch h
      distinct := List.nodup_nil
      names := List.nodup_nil
      named := fun _ h => nomatch h }
  | append_singleton models m ih => exact nameModels_concat enumClasses models m ▸ ih.add m

/-- A model that does not pass when its turn comes has a class in the end. -/
theorem mem_names_nameModels {enumClasses : List String} {before : List ModelType} {m : ModelType}
    (h : ¬ (nameModels enumClasses before).Passes enumClasses m) (after : List ModelType) :
    m.name ∈ (nameModels enumClasses (before ++ m :: after)).given.names := by
  induction after using List.reverseRecOn with
  | nil => exact nameModels_concat enumClasses before m ▸ ModelNaming.mem_names_add h
  | append_singleton after m' ih =>
    rw [← List.cons_append, ← List.append_assoc, nameModels_concat]
    exact ModelNaming.names_subset_add _ m' ih

/-! ## All class names -/

/-- The class names of a description, without the notices. -/
abbrev namesOf (d : Description) : ClassNames := (ClassNames.ofDescription d).1

namespace ClassNames

variable (d : Description)

theorem enums_namesOf : (namesOf d).enums = enumClassNames d.enums := rfl

/-- A name has an enumeration's class when a rendered enumeration bears it. -/
theorem mem_names_enums {name : String} : name ∈ (namesOf d).enums.names ↔
    ∃ p ∈ enumsByClass d.enums, p.2.name = name := by
  rw [enums_namesOf, enumClassNames_eq, Fields.names, List.map_map, List.mem_map]
  rfl

/-- A name has a model's class when a rendered model bears it. -/
theorem mem_names_models {name : String} : name ∈ (namesOf d).models.names ↔
    ∃ p ∈ modelsByClass (namesOf d) d.models, p.2.name = name := by
  have sound := nameModels_sound (enumClassNames d.enums).values d.models
  constructor
  · intro h
    -- what is rendered under the class need not be `m`: the first model that has the name is
    obtain ⟨m, hm, rfl⟩ := sound.named name h
    obtain ⟨c, hc⟩ := Fields.mem_names.mp h
    have hc : (namesOf d).models.get? m.name = some c := Fields.get?_of_mem sound.names hc
    obtain ⟨m', hm'⟩ := Fields.mem_names.mp (mem_names_modelsByClass.mpr ⟨m, hm, hc⟩)
    have given := (of_mem_modelsByClass hm').2
    exact ⟨(c, m'), hm', Fields.name_eq_of_value_eq sound.distinct (Fields.mem_of_get? given)
      (Fields.mem_of_get? hc)⟩
  · rintro ⟨p, hp, rfl⟩
    exact Fields.mem_names.mpr ⟨p.1, Fields.mem_of_get? (of_mem_modelsByClass hp).2⟩

/-- The classes of the enumerations are those that are rendered. -/
theorem values_enums : (namesOf d).enums.values = (enumsByClass d.enums).names :=
  values_enumClassNames d.enums

/-- The classes of the models are those that are rendered. -/
theorem mem_values_models {c : String} : c ∈ (namesOf d).models.values ↔
    c ∈ (modelsByClass (namesOf d) d.models).names := by
  have sound := nameModels_sound (enumClassNames d.enums).values d.models
  constructor
  · intro h
    obtain ⟨name, hn⟩ := Fields.mem_values.mp h
    obtain ⟨m, hm, rfl⟩ := sound.named name (Fields.mem_names.mpr ⟨c, hn⟩)
    exact mem_names_modelsByClass.mpr ⟨m, hm, Fields.get?_of_mem sound.names hn⟩
  · intro h
    obtain ⟨m, hm⟩ := Fields.mem_names.mp h
    exact Fields.mem_values.mpr ⟨m.name, Fields.mem_of_get? (of_mem_modelsByClass hm).2⟩

/-- **The classes of a description are distinct**, those of its enumerations and those of its models. -/
theorem nodup_classes : ((enumsByClass d.enums).names ++
    (modelsByClass (namesOf d) d.models).names).Nodup := by
  have sound := nameModels_sound (enumClassNames d.enums).values d.models
  refine List.nodup_append'.mpr ⟨?_, ?_, ?_⟩
  · exact nodup_names_enumsByClass d.enums
  · exact nodup_names_modelsByClass _ d.models
  · intro c he hm
    rw [← values_enums] at he
    exact sound.apart c ((mem_values_models d).mpr hm) he

/-- Two names with one class are one name. -/
theorem name_eq_of_class_eq {a b c : String} (ha : (namesOf d).models.get? a = some c)
    (hb : (namesOf d).models.get? b = some c) : a = b :=
  Fields.name_eq_of_value_eq (nameModels_sound (enumClassNames d.enums).values d.models).distinct
    (Fields.mem_of_get? ha) (Fields.mem_of_get? hb)

/-- The first model of its name is rendered under the class of its name. -/
theorem mem_modelsByClass {before after : List ModelType} {m : ModelType} {c : String}
    (split : d.models = before ++ m :: after) (first : ∀ m' ∈ before, m'.name ≠ m.name)
    (given : (namesOf d).models.get? m.name = some c) :
    (c, m) ∈ modelsByClass (namesOf d) d.models := by
  rw [modelsByClass_eq]
  refine mem_keepFirst.mpr ⟨before, after, split, given, fun m' hm' h => ?_⟩
  exact first m' hm' (name_eq_of_class_eq d h given)

variable {names : ClassNames} {name c : String}

/-- A reference leads to the class of a model or of an enumeration. -/
theorem class?_eq_some (h : names.class? name = some c) :
    c ∈ names.models.values ∨ c ∈ names.enums.values := by
  have own : ∀ n, names.ownClass? n = some c → c ∈ names.models.values ∨ c ∈ names.enums.values := by
    intro n hn
    rw [ownClass?] at hn
    cases hm : names.models.get? n with
    | some m =>
      rw [hm] at hn
      cases hn
      exact .inl (Fields.mem_values.mpr ⟨n, Fields.mem_of_get? hm⟩)
    | none =>
      rw [hm] at hn
      exact .inr (Fields.mem_values.mpr ⟨n, Fields.mem_of_get? hn⟩)
  rw [class?] at h
  cases hn : names.ownClass? name with
  | some m =>
    rw [hn] at h
    exact own name (hn.trans h)
  | none =>
    rw [hn] at h
    exact own (modelName name) h

theorem ownClass?_eq_none :
    names.ownClass? name = none ↔ name ∉ names.models.names ∧ name ∉ names.enums.names := by
  rw [ownClass?, ← Fields.get?_eq_none, ← Fields.get?_eq_none]
  cases names.models.get? name <;> simp

/-- A reference leads nowhere exactly when neither its name nor its model name has a class. -/
theorem class?_eq_none : names.class? name = none ↔
    (name ∉ names.models.names ∧ name ∉ names.enums.names) ∧
      modelName name ∉ names.models.names ∧ modelName name ∉ names.enums.names := by
  rw [class?, ← ownClass?_eq_none, ← ownClass?_eq_none]
  cases names.ownClass? name <;> simp

end ClassNames

end TypedClient.Client
