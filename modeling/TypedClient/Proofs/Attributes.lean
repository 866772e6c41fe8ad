import TypedClient.Proofs.CleanNames
import TypedClient.Proofs.Functions

/-!
# The attributes of a model

The class of a model has an attribute for each field. Its name goes through three steps: it is made of
alphanumeric characters and low lines, it gets an ending when every model class has something of that name,
and low lines go behind it as long as an earlier attribute has it. No step undoes what another one is for,
because nothing that every model class has ends with `_field` or with a low line.

**What is proved.** `modelClass_attributes`: a model whose types are filled has a class, with an attribute for
each field in order. The names are distinct, none begins with a low line and none is that of something that
every model class has. An attribute bears the name of its field, or it has an alias that is this name.
-/

namespace TypedClient.Client

open Api Source

/-- The ending of an attribute that would hide something that every model class has. -/
def fieldMark : String := "_field"

/-- Nothing that every model class has ends with a low line or with the mark of a field. -/
theorem modelAttributes_unmarked : ∀ name ∈ modelAttributes, name.toList.getLast? ≠ some '_' ∧
    ¬ fieldMark.toList <:+ name.toList := by decide +kernel

theorem attributeBase_eq (field : String) : attributeBase field =
    if modelAttributes.contains (argumentName field) then argumentName field ++ fieldMark
    else argumentName field := by
  obtain ⟨c, first, letter⟩ := head?_argumentName field
  have noLine : (argumentName field).toList.head? ≠ some '_' := by simpa [first] using letter
  have whole : (argumentName field).toList.dropWhile (· == '_') = (argumentName field).toList := by
    obtain ⟨rest, chars⟩ := List.head?_eq_some_iff.mp first
    rw [chars, List.dropWhile_cons_of_neg (by simpa using letter)]
  simp only [attributeBase, noLine, or_false, whole, String.ofList_toList]
  rfl

/-- Before clashes are resolved an attribute has a name that no model class has. -/
theorem attributeBase_not_mem (field : String) : attributeBase field ∉ modelAttributes := by
  rw [attributeBase_eq]
  split
  · intro member
    refine (modelAttributes_unmarked _ member).2 ?_
    rw [String.toList_append]
    exact List.suffix_append ..
  · next free => simpa using free

theorem head?_attributeBase (field : String) : ∃ c, (attributeBase field).toList.head? = some c ∧ c ≠ '_' := by
  obtain ⟨c, first, letter⟩ := head?_argumentName field
  rw [attributeBase_eq]
  split
  · rw [String.toList_append, List.head?_append, first]
    exact ⟨c, rfl, letter⟩
  · exact ⟨c, first, letter⟩

/-- No model class has the name of an attribute. -/
theorem underlined_attributeBase_not_mem (field : String) (n : Nat) :
    underlined (attributeBase field) n ∉ modelAttributes := by
  cases n with
  | zero => simpa [underlined] using attributeBase_not_mem field
  | succ n =>
    intro member
    refine (modelAttributes_unmarked _ member).1 ?_
    rw [underlined, String.toList_append, String.toList_ofList, List.replicate_succ', ← List.append_assoc,
      List.getLast?_concat]

theorem head?_underlined_attributeBase (field : String) (n : Nat) :
    (underlined (attributeBase field) n).toList.head? ≠ some '_' := by
  obtain ⟨c, first, letter⟩ := head?_attributeBase field
  rw [underlined, String.toList_append, List.head?_append, first]
  simpa using letter

/-- How an attribute keeps the name of its field: it bears it, or it has it as its alias. -/
inductive KeepsName (f : ModelField) (a : Parameter) : Prop
  | own (name : a.name = f.name) (plain : a.default = if f.type.nullable then some "None" else none)
  | alias (other : a.name ≠ f.name) (field : a.default = some ("Field(" ++
      (if f.type.nullable then "default=None, " else "") ++ "alias=" ++ Text.quote f.name ++ ")"))

/-- An attribute for a field. -/
structure AttributeFor (names : ClassNames) (f : ModelField) (a : Parameter) : Prop where
  hint : ∃ hint, typeHint names f.type = .ok hint ∧ a.hint = some hint
  plain : a.name.toList.head? ≠ some '_'
  free : a.name ∉ modelAttributes
  keeps : KeepsName f a

/-- A class for a model: an attribute for each field, all under names of their own. -/
structure ModelClassFor (names : ClassNames) (c : String) (m : ModelType) (decl : ClassDecl) : Prop where
  name : decl.name = c
  attributes : List.Forall₂ (AttributeFor names) m.fields decl.attributes
  renamed : Renamed (fun f => underlined (attributeBase f.name)) [] m.fields (decl.attributes.map (·.name))
  distinct : (decl.attributes.map (·.name)).Nodup

variable {names : ClassNames}

theorem attributeDefault_keepsName {name : String} {f : ModelField} {a : Parameter} (own : a.name = name)
    (default : a.default = attributeDefault name f) : KeepsName f a := by
  subst own
  by_cases same : a.name = f.name
  · exact .own same (by rw [default, attributeDefault, if_pos same])
  · refine .alias same ?_
    rw [default, attributeDefault, if_neg same]
    split <;> rfl

theorem attributeFor_of_fieldAttribute {name : String} {f : ModelField} {a : Parameter}
    (made : fieldAttribute names name f = .ok a) {n : Nat}
    (candidate : a.name = underlined (attributeBase f.name) n) : AttributeFor names f a := by
  obtain ⟨hint, hh, rfl⟩ := fieldAttribute_eq_ok.mp made
  refine ⟨⟨hint, hh, rfl⟩, ?_, ?_, attributeDefault_keepsName rfl rfl⟩
  · exact candidate ▸ head?_underlined_attributeBase f.name n
  · exact candidate ▸ underlined_attributeBase_not_mem f.name n

theorem modelClassFor_of_modelClass {c : String} {m : ModelType} {decl : ClassDecl}
    (made : modelClass names c m = .ok decl) : ModelClassFor names c m decl := by
  obtain ⟨attributes, each, rfl⟩ := modelClass_eq_ok made
  have length := length_attributeNames [] m.fields
  have named : attributes.map (·.name) = attributeNames [] m.fields := by
    rw [← List.map_fst_zip (Nat.le_of_eq length)]
    refine (map_eq_map (each.imp fun p a ha => ?_)).symm
    obtain ⟨hint, _, rfl⟩ := fieldAttribute_eq_ok.mp ha
    rfl
  have renamed := renamed_attributeNames [] m.fields
  rw [← named] at renamed
  refine ⟨rfl, ?_, renamed, renamed.nodup⟩
  have candidates := List.forall₂_map_right_iff.mp renamed.candidates
  refine List.Forall₂.mp (fun f a made candidate => ?_) (forall₂_of_zip length each) candidates
  obtain ⟨name, made⟩ := made
  obtain ⟨n, candidate⟩ := candidate
  exact attributeFor_of_fieldAttribute made candidate

/-- **The attributes of a model.** A model whose types are filled has a class with an attribute for each field in
order. Their names are distinct, none begins with a low line and none is something that every model class has;
each is that of the field, or the field's name is the alias. -/
theorem modelClass_attributes (names : ClassNames) (c : String) {m : ModelType}
    (filled : ∀ f ∈ m.fields, f.type.Filled) :
    ∃ decl, modelClass names c m = .ok decl ∧ ModelClassFor names c m decl := by
  have each : ∀ p ∈ (attributeNames [] m.fields).zip m.fields, ∃ a, fieldAttribute names p.1 p.2 = .ok a := by
    intro p hp
    obtain ⟨hint, hh⟩ := (exists_typeHint_iff names _).mpr (filled p.2 (List.of_mem_zip hp).2)
    exact ⟨_, fieldAttribute_eq_ok.mpr ⟨hint, hh, rfl⟩⟩
  obtain ⟨attributes, made⟩ := exists_mapM_eq_ok each
  have written : modelClass names c m =
      .ok { name := c, bases := ["BaseModel"], blocks := [modelConfig], attributes } :=
    bind_eq_ok.mpr ⟨attributes, made, rfl⟩
  exact ⟨_, written, modelClassFor_of_modelClass written⟩

/-- A model with fields whose names become one, that every model class has, or that are reserved. -/
def clashingModel : ModelType where
  name := "Pet"
  fields := ["a-b", "a_b", "json", "json_field", "class", "_id", "id"].map fun name =>
    { name, type := .scalar .string }

theorem modelClass_attributes_clashing :
    (∀ f ∈ clashingModel.fields, f.type.Filled) ∧
      ∃ decl, modelClass {} "Pet" clashingModel = .ok decl ∧ ModelClassFor {} "Pet" clashingModel decl ∧
        decl.attributes.map (·.name) =
          ["a_b", "a_b_", "json_field", "json_field_", "class_field", "id", "id_"] := by
  have filled : ∀ f ∈ clashingModel.fields, f.type.Filled := by
    simp [clashingModel, TypeRef.scalar, TypeRef.Filled]
  obtain ⟨decl, made, holds⟩ := modelClass_attributes {} "Pet" filled
  have spelled : (modelClass {} "Pet" clashingModel).toOption.map (fun decl => decl.attributes.map (·.name)) =
      some ["a_b", "a_b_", "json_field", "json_field_", "class_field", "id", "id_"] := by decide +kernel
  rw [made, toOption_ok, Option.map_some] at spelled
  exact ⟨filled, decl, made, holds, Option.some.inj spelled⟩

end TypedClient.Client
