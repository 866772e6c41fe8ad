import TypedClient.Proofs.Capitals
import TypedClient.Proofs.Requiredness

/-!
# The names of a reference

A reference to a definition is named in two ways. As a result it goes by the model name of its target, which is
the name of the model that is generated for it; as a body it goes by the model name of the target capitalised.

**What is proved.** `references_named`: in every method that refers to a definition, its bodies and its result
go by these names, and the result is never without data. The two are one name exactly when the key of the
definition is capitalised already or when it is a valid name neither as it stands nor capitalised: capitalising
twice changes nothing more, and `Model` in front of a name cannot be taken for the name. A definition `pet` has
a model `pet` and bodies of type `Pet`.
-/

namespace TypedClient

open Schema Api Text

/-! ## The two names -/

theorem length_le_capitalize (s : String) : s.length ≤ (capitalize s).length := by
  cases chars : s.toList with
  | nil =>
    rw [← String.length_toList, chars]
    exact Nat.zero_le _
  | cons c rest =>
    obtain ⟨first, more, upper, _⟩ := exists_capital c
    rw [← String.length_toList, chars, capitalize, chars]
    simp [upper]
    omega

/-- What a name becomes with `Model` in front of it and capitalised is longer than the name. -/
theorem model_append_capitalize_ne (s : String) : "Model" ++ capitalize s ≠ s := by
  intro same
  have longer := length_le_capitalize s
  have length := congrArg String.length same
  rw [String.length_append, show "Model".length = 5 from by decide] at length
  omega

/-- A name and the name capitalised have one model name. -/
def NamedAlike (key : String) : Prop :=
  capitalize key = key ∨ isValidName key = false ∧ isValidName (capitalize key) = false

instance (key : String) : Decidable (NamedAlike key) :=
  inferInstanceAs (Decidable (_ ∨ _))

theorem modelName_of_valid {s : String} (valid : isValidName s = true) : modelName s = s := if_pos valid

theorem modelName_of_invalid {s : String} (invalid : isValidName s = false) :
    modelName s = "Model" ++ capitalize s := by
  rw [modelName, if_neg (by simp [invalid])]

/-- **The two names of a reference are one** exactly when its target is capitalised already or is a valid name
neither as it stands nor capitalised. -/
theorem modelName_capitalize_iff (key : String) : modelName (capitalize key) = modelName key ↔ NamedAlike key := by
  constructor
  · intro same
    cases own : isValidName key with
    | true =>
      rw [modelName_of_valid own] at same
      cases capital : isValidName (capitalize key) with
      | true => exact .inl (modelName_of_valid capital ▸ same)
      | false =>
        rw [modelName_of_invalid capital, capitalize_capitalize] at same
        exact absurd same (model_append_capitalize_ne key)
    | false =>
      cases capital : isValidName (capitalize key) with
      | true =>
        rw [modelName_of_valid capital, modelName_of_invalid own] at same
        have twice := model_append_capitalize_ne (capitalize key)
        rw [capitalize_capitalize] at twice
        exact absurd same.symm twice
      | false => exact .inr ⟨own, capital⟩
  · rintro (same | ⟨own, capital⟩)
    · rw [same]
    · rw [modelName_of_invalid own, modelName_of_invalid capital, capitalize_capitalize]

/-- The two names differ for a valid name in lower case and for one that is valid only as it stands or only capitalised. -/
example : NamedAlike "Pet" ∧ NamedAlike "a pet" ∧ ¬ NamedAlike "pet" ∧ ¬ NamedAlike "none" ∧ ¬ NamedAlike "class" := by
  decide

/-! ## References in methods -/

/-- A schema is a reference to a definition. -/
def IsReferenceTo (key : String) (schema : Option Property) : Prop :=
  ∃ s, schema = some s ∧ s.kind = .reference ∧ s.target = some key

/-- What a value is read as is a reference to a definition exactly when the value refers to it. -/
theorem isReferenceTo_iff {links : Links} {required : Bool} {v : Value} {schema : Option Property}
    (read : Property.readOptional links required v = .ok schema) (key : String) :
    IsReferenceTo key schema ↔ refName? v = some key := by
  rcases Property.readOptional_eq_ok read with ⟨rfl, rfl⟩ | ⟨p, described, rfl⟩
  · simp [IsReferenceTo, refName?]
  · cases Property.readAs_of_read described with
    | reference named => simp [IsReferenceTo, Property.reference, named]
    | anyObject other => simp [IsReferenceTo, Property.anyObject, other]
    | arrayOf other => simp [IsReferenceTo, Property.arrayOf, other]
    | primitive other => simp [IsReferenceTo, other]

/-- What a method makes of the references of its operation to a definition. -/
structure ReferencesNamed (key : String) (o : Operation) (method : Method) : Prop where
  /-- A body that refers to it goes by the model name of the capitalised key. -/
  bodies : ∀ p ∈ o.parameters, p.location = .body → IsReferenceTo key p.schema →
    ∃ q ∈ method.parameters, methodParameter? p = some q ∧ q.binding = .body ∧
      q.type = (TypeRef.named (modelName (capitalize key))).withNullable (!p.required)
  /-- A result that refers to it goes by the model name of the key. -/
  result : IsReferenceTo key (resultSchema? o) → method.returns = .deferred (.named (modelName key))

/-- A body that refers to a definition. -/
theorem bodyType_reference {p : Parameter} {key : String} (refers : IsReferenceTo key p.schema) :
    bodyType p = .named (modelName (capitalize key)) := by
  obtain ⟨s, schema, kind, target⟩ := refers
  simp [bodyType, schema, kind, target]

/-- A result that refers to a definition of which there is a model. -/
theorem returnType_reference {modelNames : List String} {o : Operation} {key : String}
    (refers : IsReferenceTo key (resultSchema? o)) (known : modelName key ∈ modelNames) :
    returnType modelNames o = .deferred (.named (modelName key)) := by
  obtain ⟨⟨kind, type, format, required, target, items, literals⟩, schema, isReference, named⟩ := refers
  cases isReference
  cases named
  simp [returnType, schema, known]

theorem referencesNamed_of_methodOf {modelNames : List String} {overrides : Value} {e : Endpoint} {method : Method}
    {key : String} (known : modelName key ∈ modelNames) (made : methodOf modelNames overrides e = .ok method) :
    ReferencesNamed key e.operation method := by
  obtain ⟨parameters, returns⟩ := Client.methodOf_eq_ok made
  constructor
  · intro p member location refers
    have bound : boundType? p = some (.body, bodyType p) := by
      rw [boundType?, location]
    obtain ⟨q, made, binding, type⟩ := exists_parameter bound
    refine ⟨q, ?_, made, binding, ?_⟩
    · rw [parameters]
      exact List.mem_filterMap.mpr ⟨p, member, made⟩
    · rw [type, bodyType_reference refers]
  · intro refers
    rw [returns]
    exact returnType_reference refers known

/-! ## References in a document -/

/-- **The names of the references to a definition.** Of every definition of a document there is a model by its
model name. What is read as a reference to the definition is a value that refers to it. Each operation with an
identifier gives a method, whose result goes by the name of the model where it refers to the definition, and whose
bodies go by the model name of the capitalised key. -/
theorem references_named (links : Links) (settings : Settings) (root : Value) {key : String} {m : Model}
    (defined : (key, m) ∈ (Document.read links root).1.definitions) :
    let document := (Document.read links root).1
    let d := (describe links settings document).1
    (∃ model ∈ d.models, model = modelOf (Client.contextOf document d) (key, m) ∧ model.name = modelName key) ∧
      (∀ required v schema, Property.readOptional links required v = .ok schema →
        (IsReferenceTo key schema ↔ refName? v = some key)) ∧
      (settings.WellTyped → ∀ e ∈ document.endpoints,
        ((∃ method, methodOf d.modelNames settings.headerOverrides e = .ok method) ↔
          ∃ id, e.operation.operationId = some id ∧ id ≠ "")) ∧
      List.Forall₂ (fun e method => ReferencesNamed key e.operation method)
        (document.endpoints.filter fun e =>
          (methodOf d.modelNames settings.headerOverrides e).toOption.isSome)
        d.interface.methods ∧
      (modelName (capitalize key) = modelName key ↔ NamedAlike key) := by
  intro document d
  have model : modelOf (Client.contextOf document d) (key, m) ∈ d.models := List.mem_map_of_mem defined
  have known : modelName key ∈ d.modelNames := List.mem_map.mpr ⟨_, model, rfl⟩
  refine ⟨⟨_, model, rfl, rfl⟩, fun _ _ _ read => isReferenceTo_iff read key,
    fun typed e _ => exists_methodOf typed _ e, ?_, modelName_capitalize_iff key⟩
  have methods : d.interface.methods = document.endpoints.filterMap fun e =>
      (methodOf d.modelNames settings.headerOverrides e).toOption := (methods_eq ..).1
  rw [methods]
  refine (forall₂_filterMap _ _).imp fun e method made => ?_
  exact referencesNamed_of_methodOf known (toOption_eq_some.mp made)

/-- A document of one definition and an operation that takes and delivers what it describes. -/
def exchangeRoot (key : String) : Value :=
  .object [
    ("definitions", .object [(key, .object [("properties", .object [("id", .object [("type", .str "string")])])])]),
    ("paths", .object [("/pets", .object [("post", .object [
      ("operationId", .str "exchange"),
      ("parameters", .list [.object [("name", .str "p"), ("in", .str "body"), ("required", .bool true),
        ("schema", .object [("$ref", .str ("#/definitions/" ++ key))])]]),
      ("responses", .object [("200", .object [
        ("schema", .object [("$ref", .str ("#/definitions/" ++ key))])])])])])])]

/-- Its operation. -/
def exchange (key : String) : Endpoint :=
  ⟨"/pets", "post",
    { verb := "post", operationId := some "exchange"
      parameters := [{ name := "p", location := .body, required := true, schema := some (.reference key false) }]
      responses := [("200", { schema := some (.reference key false) })] }⟩

/-- A reserved word is named in two ways: what is delivered goes by the name of the model, what is taken does not. -/
theorem references_named_class :
    let d := (describe .none {} (Document.read .none (exchangeRoot "class")).1).1
    (∃ model ∈ d.models, model.name = "ModelClass") ∧ ¬ NamedAlike "class" ∧
      ∃ method ∈ d.interface.methods, ReferencesNamed "class" (exchange "class").operation method ∧
        method.returns = .deferred (.named "ModelClass") ∧
        ∃ q ∈ method.parameters, q.binding = .body ∧ q.type = .named "Class" := by
  intro d
  have endpoints : (Document.read .none (exchangeRoot "class")).1.endpoints = [exchange "class"] := rfl
  have defined : ("class", { properties := [("id", { kind := .primitive, type := some "string" })] }) ∈
      (Document.read .none (exchangeRoot "class")).1.definitions := List.mem_cons_self
  obtain ⟨⟨model, member, _, named⟩, _, _, methods, alike⟩ :=
    references_named .none {} (exchangeRoot "class") defined
  have entry : exchange "class" ∈ (Document.read .none (exchangeRoot "class")).1.endpoints.filter fun e =>
      (methodOf d.modelNames ({} : Settings).headerOverrides e).toOption.isSome := by
    rw [endpoints]
    exact List.mem_filter.mpr ⟨List.mem_cons_self, rfl⟩
  obtain ⟨method, made, names⟩ := exists_of_mem_left methods entry
  have reference : IsReferenceTo "class" (some (.reference "class" false)) := ⟨_, rfl, rfl, rfl⟩
  have result : modelName "class" = "ModelClass" := by decide
  have body : modelName (capitalize "class") = "Class" := by decide
  refine ⟨⟨_, member, named.trans result⟩, ?_, method, made, names, ?_, ?_⟩
  · rw [← alike, result, body]
    decide
  · rw [← result]
    exact names.result reference
  · obtain ⟨q, parameter, _, binding, type⟩ := names.bodies _ List.mem_cons_self rfl reference
    exact ⟨q, parameter, binding, body ▸ type⟩

/-! ## A definition in lower case -/

/-- Every operation that takes and delivers what a definition describes goes by the name of its model in both. -/
def EveryReferenceNamedAlike (links : Links) (settings : Settings) (document : Document) : Prop :=
  let d := (describe links settings document).1
  ∀ key m, (key, m) ∈ document.definitions → ∀ e ∈ document.endpoints, ∀ p ∈ e.operation.parameters,
    p.location = .body → IsReferenceTo key p.schema → IsReferenceTo key (resultSchema? e.operation) →
    ∀ method, methodOf d.modelNames settings.headerOverrides e = .ok method →
      method.returns = .deferred (.named (modelOf (Client.contextOf document d) (key, m)).name) ∧
      ∃ q, methodParameter? p = some q ∧ q.type.name = some (modelOf (Client.contextOf document d) (key, m)).name

/-- Not every reference goes by the name of the model: the body is of type `Pet`, and the model is `pet`. -/
theorem not_everyReferenceNamedAlike :
    ¬ EveryReferenceNamedAlike .none {} (Document.read .none (exchangeRoot "pet")).1 := by
  intro alike
  have reference : IsReferenceTo "pet" (some (.reference "pet" false)) := ⟨_, rfl, rfl, rfl⟩
  have entry : exchange "pet" ∈ (Document.read .none (exchangeRoot "pet")).1.endpoints := List.mem_cons_self
  obtain ⟨_, q, found, name⟩ := alike "pet"
    { properties := [("id", { kind := .primitive, type := some "string" })] } List.mem_cons_self _ entry _
    List.mem_cons_self rfl reference reference _ rfl
  cases found
  exact absurd name (by decide)

end TypedClient
