import TypedClient.Api.Describe
import TypedClient.Proofs.Candidates

/-!
# Fields that refer to enumerations

Whether a definition becomes an enumeration is found out from the references to it, and these are looked
for among the own properties of the definitions. The fields of a model come from its effective properties,
which a composition takes from its parts as well.

**What is proved.** `reference_resolved`: a field that refers to a definition with named literals has the
scalar type of the literals, and the enumeration is generated, when some definition has such a reference
among its own properties. Of the field itself nothing is asked: it may come from anywhere in a composition.
`paintRoot` shows that the condition is needed: a part of a composition is not gone through.
-/

namespace TypedClient.Api

open Schema

variable {links : Links} {document : Document}

/-- A property that refers to a definition. -/
structure RefersTo (p : Property) (key : String) : Prop where
  kind : p.kind = .reference
  target : p.target = some key

/-- A definition that can become an enumeration: it has literals, as many names, and all of the literals
can be converted. -/
structure NamesLiterals (links : Links) (m : Model) (literals : List Value) : Prop where
  stated : m.literals = some literals
  nonempty : literals ≠ []
  names : ∃ names, m.literalNames = some names ∧ names.length = literals.length
  converted : ∃ values, constantValues links m literals = .ok values

/-- What a field is that refers to an enumeration: there is the enumeration, and the field of the model has
the type of its literals. -/
structure ResolvedToLiterals (d : Description) (definition field key : String) (m : Model) (p : Property) :
    Prop where
  extracted : ∃ e ∈ d.enums, e.name = modelName key
  resolved : ∃ model ∈ d.models, model.name = modelName definition ∧ ∃ f ∈ model.fields, f.name = field ∧
    f.type = (resolveScalar m.type m.format).withNullable (!p.required)

/-- A definition with named literals makes an enumeration. -/
theorem exists_definitionEnum {m : Model} {literals : List Value} (h : NamesLiterals links m literals)
    (key : String) : ∃ e, definitionEnum? links key m = .ok (some e) := by
  obtain ⟨stated, nonempty, ⟨names, named, length⟩, values, converted⟩ := h
  unfold definitionEnum?
  cases literals with
  | nil => exact absurd rfl nonempty
  | cons first rest =>
    cases names with
    | nil => cases length
    | cons name others =>
      rw [stated, named]
      dsimp only
      rw [converted]
      exact ⟨_, rfl⟩

/-- A reference that a definition states itself brings the enumeration it refers to. -/
theorem exists_propertyCandidate {m : Model} {literals : List Value} (h : NamesLiterals links m literals)
    {key : String} (found : document.definitions.get? key = some m) {field : String × Property}
    (refers : RefersTo field.2 key) :
    ∃ e, propertyCandidate? links document.definitions field = some e ∧ e.name = modelName key := by
  obtain ⟨e, made⟩ := exists_definitionEnum h key
  refine ⟨e, ?_, name_of_definitionEnum? made⟩
  unfold propertyCandidate?
  rw [refers.kind, refers.target]
  simp [found, made]

/-- The enumeration of a definition with named literals is extracted where a definition refers to it. -/
theorem mem_names_extractEnums {m : Model} {literals : List Value} (h : NamesLiterals links m literals)
    {key : String} (found : document.definitions.get? key = some m) {q : String × Model}
    (hq : q ∈ document.definitions) {field : String × Property} (hfield : field ∈ q.2.properties)
    (refers : RefersTo field.2 key) :
    modelName key ∈ (extractEnums links document).1.map (·.name) := by
  obtain ⟨e, brought, name⟩ := exists_propertyCandidate h found refers
  rw [extractEnums_pass, mem_names_keepNew]
  right
  rw [← name]
  apply List.mem_map_of_mem
  exact List.mem_flatMap.mpr ⟨q, hq, List.mem_filterMap.mpr ⟨field, hfield, brought⟩⟩

/-- A reference to an enumeration that was extracted has the type of its literals. -/
theorem resolve_literals {context : TypeContext} {m : Model} {literals : List Value}
    (h : NamesLiterals links m literals) {key : String} (found : context.definitions.get? key = some m)
    (extracted : modelName key ∈ context.enumNames) {p : Property} (refers : RefersTo p key) :
    context.resolve p = (resolveScalar m.type m.format).withNullable (!p.required) := by
  obtain ⟨type, format, properties, stated, names, parts, target⟩ := m
  have given : stated = some literals := h.stated
  cases literals with
  | nil => exact absurd rfl h.nonempty
  | cons first rest =>
    have isEnum : context.enumNames.contains (modelName key) = true := List.contains_iff_mem.mpr extracted
    unfold TypeContext.resolve
    rw [refers.kind, refers.target]
    simp only [Option.getD_some, TypeContext.resolveTarget, isEnum, if_true, found, given]

/-- **A field that refers to an enumeration has the type of its literals**, wherever in a composition it
comes from, when a definition refers to the enumeration among its own properties. -/
theorem reference_resolved (links : Links) (settings : Settings) {definition : String × Model}
    (hd : definition ∈ document.definitions) {field : String × Property}
    (hfield : field ∈ effectiveProperties document.definitions definition.2) {key : String}
    (refers : RefersTo field.2 key) {m : Model} (found : document.definitions.get? key = some m)
    {literals : List Value} (h : NamesLiterals links m literals)
    (own : ∃ q ∈ document.definitions, ∃ r ∈ q.2.properties, RefersTo r.2 key) :
    ResolvedToLiterals (describe links settings document).1 definition.1 field.1 key m field.2 := by
  obtain ⟨q, hq, r, hr, refersToo⟩ := own
  have extracted := mem_names_extractEnums h found hq hr refersToo
  constructor
  · obtain ⟨e, he, name⟩ := List.mem_map.mp extracted
    exact ⟨e, he, name⟩
  · refine ⟨_, List.mem_map_of_mem hd, rfl, _, List.mem_map_of_mem hfield, rfl, ?_⟩
    exact resolve_literals h found extracted refers

/-! ## References in compositions -/

/-- A definition of colors by name. -/
def colorNode : Value :=
  .object [("type", .str "string"), ("enum", .list [.str "r"]), ("x-enumNames", .list [.str "Red"])]

/-- A node with a property that refers to them. -/
def coloredNode : Value :=
  .object [("properties", .object [("color", .object [("$ref", .str "#/definitions/Color")])])]

/-- A document where a definition and a part of a composition refer to the colors. -/
def glossRoot : Value :=
  .object [("definitions", .object [("Color", colorNode), ("Paint", coloredNode),
    ("Gloss", .object [("allOf", .list [coloredNode])])])]

/-- A document where only a part of a composition does. -/
def paintRoot : Value :=
  .object [("definitions", .object [("Color", colorNode), ("Paint", .object [("allOf", .list [coloredNode])])])]

/-- What is read of the colors. -/
def colorModel : Model :=
  { type := some "string", literals := some [.str "r"], literalNames := some ["Red"] }

/-- What is read of the node that refers to them. -/
def coloredModel : Model := { properties := [("color", .reference "Color" false)] }

theorem namesLiterals_color : NamesLiterals .none colorModel [.str "r"] :=
  ⟨rfl, by simp, ⟨["Red"], rfl, rfl⟩, ⟨_, rfl⟩⟩

/-- The properties of a composition of one part are those of the part. -/
theorem effectiveProperties_colored (definitions : Fields Model) :
    effectiveProperties definitions { parts := [coloredModel] } = coloredModel.properties := by
  unfold effectiveProperties propertiesFrom
  rfl

/-- The field of the composition has the type of the colors. -/
theorem reference_resolved_gloss :
    ResolvedToLiterals (describe .none {} (Document.read .none glossRoot).1).1 "Gloss" "color" "Color"
      colorModel (.reference "Color" false) := by
  have definitions : (Document.read .none glossRoot).1.definitions =
      [("Color", colorModel), ("Paint", coloredModel), ("Gloss", { parts := [coloredModel] })] := rfl
  have field : ("color", Property.reference "Color" false) ∈
      effectiveProperties (Document.read .none glossRoot).1.definitions { parts := [coloredModel] } := by
    rw [effectiveProperties_colored]
    exact List.mem_cons_self
  refine @reference_resolved (Document.read .none glossRoot).1 .none {} ("Gloss", { parts := [coloredModel] })
    ?_ _ field _ ⟨rfl, rfl⟩ _ ?_ _ namesLiterals_color ?_
  · rw [definitions]
    simp
  · rw [definitions]
    rfl
  · refine ⟨("Paint", coloredModel), ?_, _, List.mem_cons_self, rfl, rfl⟩
    rw [definitions]
    simp

/-- Whether every field that refers to an enumeration has the type of its literals. -/
def EveryReferenceResolved (links : Links) (settings : Settings) (document : Document) : Prop :=
  ∀ definition ∈ document.definitions,
    ∀ field ∈ effectiveProperties document.definitions definition.2, ∀ key, RefersTo field.2 key →
      ∀ m, document.definitions.get? key = some m → ∀ literals, NamesLiterals links m literals →
        ResolvedToLiterals (describe links settings document).1 definition.1 field.1 key m field.2

/-- A reference in a part of a composition is passed over, and its enumeration is not generated. -/
theorem not_everyReferenceResolved : ¬ EveryReferenceResolved .none {} (Document.read .none paintRoot).1 := by
  intro every
  have definitions : (Document.read .none paintRoot).1.definitions =
      [("Color", colorModel), ("Paint", { parts := [coloredModel] })] := rfl
  have field : ("color", Property.reference "Color" false) ∈
      effectiveProperties (Document.read .none paintRoot).1.definitions { parts := [coloredModel] } := by
    rw [effectiveProperties_colored]
    exact List.mem_cons_self
  have paint : ("Paint", { parts := [coloredModel] }) ∈ (Document.read .none paintRoot).1.definitions := by
    rw [definitions]
    simp
  obtain ⟨⟨e, he, _⟩, _⟩ := every _ paint _ field "Color" ⟨rfl, rfl⟩ colorModel rfl _ namesLiterals_color
  have none : (describe .none {} (Document.read .none paintRoot).1).1.enums = [] := rfl
  rw [none] at he
  cases he

end TypedClient.Api
