import TypedClient.Proofs.Accounting
import TypedClient.Proofs.ClosedPackage
import TypedClient.Proofs.RenderedTypes

/-!
# Where a reference leads

A reference to a definition is rendered by looking a name up: the target itself in a property or an array,
its model name in a result, that of the capitalised target in a body. A class is found under the name or
under its model name, and it is that of the first definition with such a model name or of an enumeration
of that name, wherever the enumeration came from. `MadeOf` says that a class is a definition's own, and
`Owns` that a definition has a name to itself.

**What is proved.** `references_leadHome`: wherever a reference to a definition that owns the name it is
looked up by is rendered, it names the class that is made of this definition, or no class but for the
type that stands for the literals of the definition. `strayingRoot` has a body that leads to another
definition than the one it refers to.

An array in the query does not say what its items refer to: a reference among them is looked up as `Ref`.
-/

namespace TypedClient

open Schema Api Source

/-- The definition that a property refers to, by itself or by its items. -/
def Schema.Property.referent? (p : Property) : Option String := match p with
  | ⟨.reference, _, _, _, target, _, _⟩ => some (target.getD "")
  | ⟨.array, _, _, _, _, some items, _⟩ => items.referent?
  | _ => none
termination_by structural p

/-- A bound parameter refers to a definition, and this is the name by which the reference is looked up. -/
inductive Schema.Parameter.Refers (p : Schema.Parameter) : (key name : String) → Prop
  | body {s : Property} (bound : p.location = .body) (schema : p.schema = some s)
    (kind : s.kind = .reference) : p.Refers (s.target.getD "") (modelName (capitalize (s.target.getD "")))
  | bodyItem {s : Property} {key : String} (bound : p.location = .body) (schema : p.schema = some s)
    (kind : s.kind = .array) (item : s.referent? = some key) : p.Refers key key
  | queryItem {s : Property} (bound : p.location = .query) (array : p.type = some "array")
    (items : p.items = some s) (kind : s.kind = .reference) (type : s.type = some "ref") :
    p.Refers (s.target.getD "") "Ref"

namespace Client

/-! ## Classes and their definitions -/

/-- What the references of a document are resolved against. -/
abbrev contextOf (document : Document) (d : Description) : TypeContext :=
  ⟨document.definitions, d.enums.map (·.name)⟩

section

variable (links : Links) (document : Document) (d : Description) (models : File)

/-- A class is made of a definition: it is the class of its model, the first of its name, or that of the
enumeration of its literals. -/
inductive MadeOf (key c : String) : Prop
  | model (m : Model) (decl : ClassDecl) (first : FirstOf (fun p => modelName p.1) document.definitions (key, m))
    (given : (namesOf d).models.get? (modelName key) = some c)
    (built : modelClass (namesOf d) c (modelOf (contextOf document d) (key, m)) = .ok decl)
    (here : (c, decl) ∈ models.classes)
  | enum (m : Model) (e : EnumType) (defined : document.definitions.get? key = some m)
    (extracted : definitionEnum? links key m = .ok (some e))
    (here : (c, enumClass c e) ∈ (enumsFile d.enums).classes)

/-- A definition has a name to itself: where the name or its model name is the model name of definitions, it
is the first of them, and every enumeration of such a name is that of its literals. -/
def Owns (key name : String) : Prop :=
  ∀ n ∈ [name, modelName name],
    (∀ p, FirstOf (fun p => modelName p.1) document.definitions p → modelName p.1 = n → p.1 = key) ∧
    ∀ e ∈ d.enums, e.name = n →
      ∃ m, document.definitions.get? key = some m ∧ definitionEnum? links key m = .ok (some e)

/-- What the type hint of a reference to a definition names. -/
inductive Leads (key : String) (hint : TypeHint) : Prop
  /-- No class. -/
  | nowhere (leaf : hint.leaves = ["Any"] ∨ hint.leaves = ["None"])
  /-- The class that is made of the definition. -/
  | home (c : String) (leaf : hint.leaves = [c]) (made : MadeOf links document d models key c)
  /-- The built-in type of the definition's literals. -/
  | literals (m : Model) (nullable : Bool) (p : Primitive) (defined : document.definitions.get? key = some m)
    (stated : m.literals.isSome = true)
    (spelled : typeHint (namesOf d) ((resolveScalar m.type m.format).withNullable nullable) = .ok hint)
    (leaf : hint.leaves = [builtin p])

/-- The function of an endpoint, where some references to definitions are `allowed` under some names. -/
structure FunctionLeads (allowed : String → String → Prop) (overrides : Value) (e : Endpoint)
    (f : FunctionDecl) : Prop where
  arguments : ∃ arguments, f.parameters = { name := "self" } :: arguments ∧
    List.Forall₂
      (fun p a => ∃ hint, a.hint = some hint ∧
        ∀ key name, p.Refers key name → allowed key name → Leads links document d models key hint)
      (e.operation.parameters.filter fun p => (methodParameter? p).isSome) arguments
  /-- The result, and the model that it is said to be made of. -/
  result : ∃ m hint model isList, methodOf d.modelNames overrides e = .ok m ∧ f.response = hint.text ∧
    f.decorators = methodDecorators m
      (bindingArguments (namedParameters m) ++ responseArguments model isList) ∧
    ∀ s key, resultSchema? e.operation = some s → s.referent? = some key → allowed key (modelName key) →
      Leads links document d models key hint ∧ ∀ c, model = some c → MadeOf links document d models key c

/-- References lead to the definitions that they refer to, as far as they are `allowed`. -/
structure LeadHome (allowed : String → String → Prop) (overrides : Value) (interface : File) : Prop where
  /-- Each class of a model is made of a definition, and has an attribute for each of its properties. A
  reference is looked up by its key, or by what the type of its literals refers to when this takes its place. -/
  fields : ∀ q ∈ models.classes, ∃ p ∈ document.definitions, MadeOf links document d models p.1 q.1 ∧
    List.Forall₂
      (fun f a => ∃ hint, a.hint = some hint ∧ ∀ key, f.2.referent? = some key →
        (∀ name, ((contextOf document d).resolve f.2).reference? = some name → allowed key name) →
        Leads links document d models key hint)
      (effectiveProperties document.definitions p.2) q.2.attributes
  /-- The interface has a function for each endpoint that makes a method. -/
  methods : ∃ name decl, interface.classes = [(name, decl)] ∧
    List.Forall₂ (fun e q => FunctionLeads links document d models allowed overrides e q.2)
      (document.endpoints.filter fun e => (methodOf d.modelNames overrides e).toOption.isSome)
      decl.functions

end

/-! ## Types of references -/

theorem reference?_withNullable (t : TypeRef) (nullable : Bool) :
    (t.withNullable nullable).reference? = t.reference? := by
  obtain ⟨kind, primitive, name, item, _⟩ := t
  cases kind <;> cases item <;> rfl

/-- What refers to a definition is a reference or an array. -/
theorem kind_of_referent? {p : Property} {key : String} (h : p.referent? = some key) :
    p.kind = .reference ∧ p.target.getD "" = key ∨ p.kind = .array := by
  obtain ⟨kind, type, format, required, target, items, literals⟩ := p
  cases kind with
  | reference => exact .inl ⟨rfl, Option.some.inj h⟩
  | array => exact .inr rfl
  | primitive => cases h
  | object => cases h

/-- The type of an item refers to what the item refers to. -/
theorem reference?_itemType (p : Property) {key : String} (h : p.referent? = some key) :
    (TypeContext.itemType p).reference? = some key := by
  obtain ⟨kind, type, format, required, target, items, literals⟩ := p
  cases kind with
  | reference => exact h
  | array =>
    cases items with
    | none => cases h
    | some inner => exact reference?_itemType inner h
  | primitive => cases h
  | object => cases h
termination_by structural p

/-- What an array refers to is what its items refer to. -/
theorem reference?_resolveArray {p : Property} (kind : p.kind = .array) {key : String}
    (h : p.referent? = some key) : (TypeContext.resolveArray p.items).reference? = some key := by
  obtain ⟨_, type, format, required, target, items, literals⟩ := p
  cases kind
  cases items with
  | none => cases h
  | some inner => exact reference?_itemType inner h

/-- A property is looked up by what it refers to, unless the type of the literals takes its place. -/
theorem reference?_resolve (context : TypeContext) {p : Property} {key : String} (h : p.referent? = some key) :
    (context.resolve p).reference? = some key ∨ ∃ m, context.definitions.get? key = some m ∧
      m.literals.isSome = true ∧ context.resolve p = (resolveScalar m.type m.format).withNullable (!p.required) := by
  rw [TypeContext.resolve]
  rcases kind_of_referent? h with ⟨kind, target⟩ | kind
  · rw [kind]
    dsimp only
    rw [target, TypeContext.resolveTarget]
    split
    · split
      · next found => exact .inr ⟨_, found, rfl, rfl⟩
      · exact .inl rfl
    · exact .inl rfl
  · rw [kind]
    exact .inl ((reference?_withNullable _ _).trans (reference?_resolveArray kind h))

/-- A reference in a bound parameter is looked up by its name. -/
theorem reference?_boundType {p : Schema.Parameter} {key name : String} (h : p.Refers key name) {b : Binding}
    {t : TypeRef} (bound : boundType? p = some (b, t)) : t.reference? = some name := by
  cases h with
  | body location schema kind =>
    simp only [boundType?, location, bodyType, schema, kind, Option.some.injEq, Prod.mk.injEq] at bound
    rw [← bound.2]
    rfl
  | bodyItem location schema kind item =>
    simp only [boundType?, location, bodyType, schema, kind, Option.some.injEq, Prod.mk.injEq] at bound
    rw [← bound.2]
    exact reference?_resolveArray kind item
  | queryItem location array items kind type =>
    simp only [boundType?, location, array, if_true, queryArrayType, items, type, Option.some.injEq,
      Prod.mk.injEq] at bound
    have named : capitalize "ref" = "Ref" := by decide
    rw [← bound.2, ← named]
    rfl

/-- The result of an endpoint is looked up by the model name of what its schema refers to, or has no data. -/
theorem payload_returnType (modelNames : List String) (o : Operation) :
    ∃ t, payload (returnType modelNames o) = some t ∧ ∀ s key, resultSchema? o = some s →
      s.referent? = some key → t = .scalar .unit ∨ t.reference? = some (modelName key) := by
  unfold returnType
  split
  · next found =>
    dsimp only
    split
    · refine ⟨_, rfl, fun s key hs referent => .inr ?_⟩
      cases found.symm.trans hs
      cases referent
      rfl
    · exact ⟨_, rfl, fun _ _ _ _ => .inl rfl⟩
  · next found =>
    dsimp only
    split
    · refine ⟨_, rfl, fun s key hs referent => .inr ?_⟩
      cases found.symm.trans hs
      cases referent
      rfl
    · exact ⟨_, rfl, fun _ _ _ _ => .inl rfl⟩
  · exact ⟨_, rfl, fun _ _ _ _ => .inl rfl⟩

/-- What a method takes and delivers is stated by its endpoint. -/
theorem methodOf_eq_ok {modelNames : List String} {overrides : Value} {e : Endpoint} {m : Method}
    (h : methodOf modelNames overrides e = .ok m) :
    m.parameters = e.operation.parameters.filterMap methodParameter? ∧
      m.returns = returnType modelNames e.operation := by
  unfold methodOf at h
  split at h
  · cases h
  · cases h
  · obtain ⟨headers, _, heq⟩ := bind_eq_ok.mp h
    cases heq
    exact ⟨rfl, rfl⟩

theorem annotated_of_typeHint {names : ClassNames} {t : TypeRef} {hint : TypeHint}
    (h : typeHint names t = .ok hint) : Annotated names (fun _ => True) t hint :=
  typeHint_annotated h fun _ _ => trivial

/-! ## Classes by name -/

section

variable {links : Links} {document : Document} {d : Description} {models : File} {key name c : String}

/-- A model that is rendered is that of the first definition of its name. -/
theorem exists_firstOf (described : d.models = Api.models (contextOf document d)) {m : ModelType}
    (rendered : (c, m) ∈ modelsByClass (namesOf d) d.models) :
    ∃ p, FirstOf (fun p => modelName p.1) document.definitions p ∧ m = modelOf (contextOf document d) p := by
  obtain ⟨before, after, split, given, first⟩ := mem_keepFirst.mp (modelsByClass_eq _ _ ▸ rendered)
  rw [described, Api.models] at split
  obtain ⟨bs, ps, defined, rfl, rest⟩ := List.map_eq_append_iff.mp split
  obtain ⟨p, as, rfl, rfl, rfl⟩ := List.map_eq_cons_iff.mp rest
  refine ⟨p, ⟨bs, as, defined, fun q hq same => ?_⟩, rfl⟩
  -- an earlier definition of the name would have been rendered in its place
  refine first _ (List.mem_map_of_mem hq) ?_
  have same : modelName q.1 = modelName p.1 := same
  show (namesOf d).models.get? (modelName q.1) = some c
  rw [same]
  exact given

/-- Every class of a model is made of a definition. -/
theorem exists_madeOf (described : d.models = Api.models (contextOf document d))
    (file : modelsFile (namesOf d) d.models = .ok models) {m : ModelType}
    (rendered : (c, m) ∈ modelsByClass (namesOf d) d.models) :
    ∃ p, FirstOf (fun p => modelName p.1) document.definitions p ∧ m = modelOf (contextOf document d) p ∧
      MadeOf links document d models p.1 c := by
  obtain ⟨p, first, rfl⟩ := exists_firstOf described rendered
  obtain ⟨⟨_, decl⟩, here, same, built⟩ := exists_of_mem_left (modelsFile_eq_ok file).1 rendered
  cases same
  exact ⟨p, first, rfl, .model p.2 decl first (of_mem_modelsByClass rendered).2 built here⟩

variable (described : d.models = Api.models (contextOf document d))
  (file : modelsFile (namesOf d) d.models = .ok models)

include described file

/-- A class under a name that a definition owns is made of this definition. -/
theorem madeOf_of_class? (owns : Owns links document d key name) (found : (namesOf d).class? name = some c) :
    MadeOf links document d models key c := by
  have own : ∀ n ∈ [name, modelName name], (namesOf d).ownClass? n = some c →
      MadeOf links document d models key c := by
    intro n hn found
    rw [ClassNames.ownClass?] at found
    cases given : (namesOf d).models.get? n with
    | some c' =>
      rw [given] at found
      cases found
      have value : c ∈ (namesOf d).models.values := Fields.mem_values.mpr ⟨n, Fields.mem_of_get? given⟩
      obtain ⟨m, rendered⟩ := Fields.mem_names.mp ((ClassNames.mem_values_models d).mp value)
      have named : m.name = n := ClassNames.name_eq_of_class_eq d (of_mem_modelsByClass rendered).2 given
      obtain ⟨p, first, rfl, made⟩ := @exists_madeOf links _ _ _ _ described file _ rendered
      exact (owns n hn).1 p first named ▸ made
    | none =>
      rw [given] at found
      rw [ClassNames.enums_namesOf, enumClassNames_eq] at found
      obtain ⟨⟨_, e⟩, rendered, same⟩ := List.mem_map.mp (Fields.mem_of_get? found)
      cases same
      obtain ⟨before, after, split, _⟩ := mem_keepFirst.mp (enumsByClass_eq d.enums ▸ rendered)
      have member : e ∈ d.enums := split ▸ List.mem_append_right _ List.mem_cons_self
      obtain ⟨m, defined, extracted⟩ := (owns _ hn).2 e member rfl
      exact .enum m e defined extracted (List.mem_map.mpr ⟨_, rendered, rfl⟩)
  rw [ClassNames.class?] at found
  cases first : (namesOf d).ownClass? name with
  | some c' =>
    rw [first] at found
    cases found
    exact own name List.mem_cons_self first
  | none =>
    rw [first] at found
    exact own (modelName name) (List.mem_cons_of_mem _ List.mem_cons_self) found

/-- A type that refers to a definition by a name that it owns leads to it. -/
theorem leads_of_reference (owns : Owns links document d key name) {t : TypeRef} {hint : TypeHint}
    (refers : t.reference? = some name) (spelled : typeHint (namesOf d) t = .ok hint) :
    Leads links document d models key hint := by
  cases annotated_of_typeHint spelled with
  | scalar p none leaf => cases none.symm.trans refers
  | unknown name' refers' missing leaf => exact .nowhere (.inl leaf)
  | known name' c refers' found leaf =>
    cases refers'.symm.trans refers
    exact .home c leaf (madeOf_of_class? described file owns found)

/-- A property that refers to a definition that owns the name it is looked up by leads to it, or to the type
of its literals. -/
theorem leads_of_property {p : Property} {hint : TypeHint} (refers : p.referent? = some key)
    (owns : ∀ name, ((contextOf document d).resolve p).reference? = some name → Owns links document d key name)
    (spelled : typeHint (namesOf d) ((contextOf document d).resolve p) = .ok hint) :
    Leads links document d models key hint := by
  cases named : ((contextOf document d).resolve p).reference? with
  | some name => exact leads_of_reference described file (owns name named) named spelled
  | none =>
    rcases reference?_resolve (contextOf document d) refers with same | ⟨m, defined, stated, literals⟩
    · cases named.symm.trans same
    · cases annotated_of_typeHint spelled with
      | scalar q _ leaf => exact .literals m _ q defined stated (literals ▸ spelled) leaf
      | unknown _ refers => cases named.symm.trans refers
      | known _ _ refers => cases named.symm.trans refers

/-- The references of an endpoint lead to the definitions that own the names they are looked up by. -/
theorem function_leads {overrides : Value} {e : Endpoint} {m : Method} {f : FunctionDecl}
    (he : methodOf d.modelNames overrides e = .ok m) (hf : methodFunction (namesOf d) m = .ok f) (own : String) :
    FunctionLeads links document d models (Owns links document d) overrides e { f with name := own } := by
  obtain ⟨arguments, model, response, ha, delivers, rfl⟩ := methodFunction_eq_ok hf
  obtain ⟨parameters, returns⟩ := methodOf_eq_ok he
  refine { arguments := ⟨arguments, rfl, ?_⟩, result := ?_ }
  · have hinted := List.forall₂_map_left_iff.mp (arguments_hinted ha)
    rw [parameters] at hinted
    refine (forall₂_trans (forall₂_filterMap methodParameter? _) hinted).imp fun p a hpa => ?_
    obtain ⟨q, taken, hint, spelled, hinted⟩ := hpa
    refine ⟨hint, hinted, fun key name refers owns => ?_⟩
    obtain ⟨⟨binding, t⟩, bound, rfl⟩ := Option.map_eq_some_iff.mp taken
    refine leads_of_reference described file owns ?_ spelled
    exact (reference?_withNullable t _).trans (reference?_boundType refers bound)
  · obtain ⟨t, payload, referent⟩ := payload_returnType d.modelNames e.operation
    cases delivers with
    | nothing delivered => cases (returns ▸ delivered).symm.trans payload
    | result t' hint delivered found spelled text =>
      cases (returns ▸ delivered).symm.trans payload
      refine ⟨m, hint, model, _, he, text, rfl, fun s key hs refers owns => ?_⟩
      rcases referent s key hs refers with rfl | refers
      · cases spelled
        cases found
        exact ⟨.nowhere (.inr rfl), by simp⟩
      · refine ⟨leads_of_reference described file owns refers spelled, ?_⟩
        rintro c rfl
        obtain ⟨name, refers', found⟩ := mem_usedClasses.mp (responseModel_used found).1
        cases refers.symm.trans refers'
        exact madeOf_of_class? described file owns found

end

/-- **References lead home.** From every document and under all settings: wherever a reference to a
definition that owns the name it is looked up by is rendered, in the files of the models and of the
interface that a package has, it names the class that is made of this definition or no class, or it stands
for the literals of the definition. -/
theorem references_leadHome (links : Links) (settings config : Settings) (document : Document) :
    let d := (describe links settings document).1
    ∃ models interface,
      modelsFile (namesOf d) d.models = .ok models ∧
      interfaceFile (namesOf d) (className d.interface.name) ("Методы API " ++ config.componentName.text)
        d.interface.methods = .ok interface ∧
      LeadHome links document d models (Owns links document d) settings.headerOverrides interface ∧
      ∀ p, package config d = .ok p →
        ∃ others, p.files = enumsFile d.enums :: models :: interface :: others := by
  intro d
  have wellFormed := describe_wellFormed links settings document
  obtain ⟨models, hm⟩ := exists_modelsFile (namesOf d) wellFormed.models
  obtain ⟨interface, hi⟩ := exists_interfaceFile (namesOf d) (className d.interface.name)
    ("Методы API " ++ config.componentName.text) wellFormed.methods
  have described : d.models = Api.models (contextOf document d) := rfl
  refine ⟨models, interface, hm, hi, { fields := ?_, methods := ?_ }, ?_⟩
  · intro q hq
    obtain ⟨⟨c, m⟩, rendered, same, built⟩ := exists_of_mem_right (modelsFile_eq_ok hm).1 hq
    obtain ⟨p, ⟨before, after, defined, _⟩, rfl, made⟩ := @exists_madeOf links _ _ _ _ described hm _ rendered
    have member : p ∈ document.definitions := defined ▸ List.mem_append_right _ List.mem_cons_self
    refine ⟨p, member, by rwa [same], (modelClass_hasFields built).imp fun f a hfa => ?_⟩
    obtain ⟨hint, spelled, hinted, _⟩ := hfa
    exact ⟨hint, hinted, fun key refers owns => leads_of_property described hm refers owns spelled⟩
  · obtain ⟨functions, each, classes, _⟩ := interfaceFile_eq_ok hi
    refine ⟨_, _, classes, ?_⟩
    have made : d.interface.methods = document.endpoints.filterMap fun e =>
        (methodOf d.modelNames settings.headerOverrides e).toOption := (methods_eq _ _ _).1
    rw [made] at each
    refine (forall₂_trans (forall₂_filterMap _ _) each).imp fun e q heq => ?_
    obtain ⟨m, he, g, hg, named⟩ := heq
    rw [named]
    exact function_leads described hm (toOption_eq_some.mp he) hg q.1
  · intro p hp
    obtain ⟨models', interface', others, hm', hi', files⟩ := package_eq_ok hp
    cases hm.symm.trans hm'
    cases hi.symm.trans hi'
    exact ⟨others, files⟩

/-- A definition that refers to itself. -/
def recursiveRoot : Value :=
  .object [("definitions", .object [("Pet", .object [("properties", .object
    [("parent", .object [("$ref", .str "#/definitions/Pet")])])])])]

/-- The attribute for its reference leads to it. -/
theorem references_leadHome_recursive :
    let document := (Document.read .none recursiveRoot).1
    let d := (describe .none {} document).1
    Owns .none document d "Pet" "Pet" ∧
    ∃ models, modelsFile (namesOf d) d.models = .ok models ∧ ∃ q ∈ models.classes, ∃ a ∈ q.2.attributes,
      ∃ hint, a.hint = some hint ∧ Leads .none document d models "Pet" hint := by
  intro document d
  have defined : document.definitions =
      [("Pet", { properties := [("parent", .reference "Pet" false)] })] := rfl
  have owns : Owns .none document d "Pet" "Pet" := by
    intro n _
    refine ⟨?_, fun e he => nomatch he⟩
    rintro p ⟨before, after, split, _⟩ _
    have member : p ∈ document.definitions := split ▸ List.mem_append_right _ List.mem_cons_self
    rw [defined, List.mem_singleton] at member
    rw [member]
  obtain ⟨models, interface, hm, _, home, _⟩ :=
    references_leadHome .none {} {} (Document.read .none recursiveRoot).1
  have classes : models.classes.names = ["Pet"] := by
    rw [names_modelsFile hm]
    decide
  obtain ⟨decl, hq⟩ := Fields.mem_names.mp (classes ▸ List.mem_singleton_self "Pet")
  obtain ⟨p, hp, _, each⟩ := home.fields _ hq
  have only : p = ("Pet", { properties := [("parent", .reference "Pet" false)] }) :=
    List.mem_singleton.mp (defined ▸ hp)
  subst only
  have properties : effectiveProperties document.definitions
      { properties := [("parent", .reference "Pet" false)] } = [("parent", .reference "Pet" false)] := by
    rw [effectiveProperties, propertiesFrom]
    rfl
  obtain ⟨a, ha, hint, hinted, leads⟩ := exists_of_mem_left each (properties ▸ List.mem_cons_self)
  refine ⟨owns, models, hm, _, hq, a, ha, hint, hinted, leads "Pet" rfl fun name named => ?_⟩
  cases named
  exact owns

/-! ## References that stray -/

/-- Every reference leads home, by whatever name it is looked up. -/
def EveryReferenceLeadsHome (links : Links) (settings : Settings) (document : Document) : Prop :=
  let d := (describe links settings document).1
  ∃ models interface,
    modelsFile (namesOf d) d.models = .ok models ∧
    interfaceFile (namesOf d) (className d.interface.name) ("Методы API " ++ settings.componentName.text)
      d.interface.methods = .ok interface ∧
    LeadHome links document d models (fun _ _ => True) settings.headerOverrides interface

/-- A document with two definitions whose keys differ in the case of a letter, and a body that refers to the
one in lower case. -/
def strayingRoot : Value :=
  .object [
    ("definitions", .object [
      ("pet", .object [("properties", .object [("a", .object [("type", .str "string")])])]),
      ("Pet", .object [("properties", .object [("b", .object [("type", .str "string")])])])]),
    ("paths", .object [("/pets", .object [("post", .object [
      ("operationId", .str "add"),
      ("parameters", .list [.object [("name", .str "p"), ("in", .str "body"),
        ("schema", .object [("$ref", .str "#/definitions/pet")])]])])])])]

/-- What is read from it. -/
abbrev strayingDocument : Document := (Document.read .none strayingRoot).1

/-- What is generated from it. -/
abbrev strayingDescription : Description := (describe .none {} strayingDocument).1

/-- The names in the type hints of the arguments of a file's functions. -/
def argumentLeaves (f : File) : List (List String) :=
  f.classes.flatMap fun c => c.2.functions.flatMap fun g =>
    g.2.parameters.filterMap fun a => a.hint.map TypeHint.leaves

/-- The body is of the class of the definition in upper case. -/
theorem argumentLeaves_straying :
    (interfaceFile (namesOf strayingDescription) (className strayingDescription.interface.name)
      ("Методы API " ++ ({} : Settings).componentName.text) strayingDescription.interface.methods).toOption.map
        argumentLeaves = some [["Pet"]] := by
  decide +kernel

/-- The class of the definition in lower case is another. -/
theorem models_straying : (namesOf strayingDescription).models.get? (modelName "pet") = some "pet" := by
  decide +kernel

/-- Not every reference leads home: the body refers to the definition in lower case. -/
theorem not_everyReferenceLeadsHome : ¬ EveryReferenceLeadsHome .none {} strayingDocument := by
  rintro ⟨models, interface, hm, hi, home⟩
  have hints := argumentLeaves_straying
  rw [hi] at hints
  obtain ⟨name, decl, classes, each⟩ := home.methods
  have leaves : ∀ q ∈ decl.functions, ∀ a ∈ q.2.parameters, ∀ hint, a.hint = some hint →
      hint.leaves = ["Pet"] := by
    intro q hq a ha hint hinted
    have found := Option.some.inj hints
    rw [argumentLeaves, classes, List.flatMap_singleton] at found
    have member : hint.leaves ∈ [["Pet"]] := by
      rw [← found]
      exact List.mem_flatMap.mpr ⟨q, hq, List.mem_filterMap.mpr ⟨a, ha, by rw [hinted]; rfl⟩⟩
    exact List.mem_singleton.mp member
  have body : ∃ e ∈ strayingDocument.endpoints.filter fun e =>
      (methodOf strayingDescription.modelNames ({} : Settings).headerOverrides e).toOption.isSome,
      ∃ p ∈ e.operation.parameters.filter fun p => (methodParameter? p).isSome,
        p.Refers "pet" (modelName (capitalize "pet")) :=
    ⟨⟨"/pets", "post", { verb := "post", operationId := some "add", parameters :=
        [{ name := "p", location := .body, schema := some (.reference "pet" false) }] }⟩,
      List.mem_filter.mpr ⟨.head _, rfl⟩, _, .head _, .body (s := .reference "pet" false) rfl rfl rfl⟩
  obtain ⟨e, he, p, hp, refers⟩ := body
  obtain ⟨q, hq, leads⟩ := exists_of_mem_left each he
  obtain ⟨arguments, parameters, each⟩ := leads.arguments
  obtain ⟨a, ha, hint, hinted, leads⟩ := exists_of_mem_left each hp
  have named := leaves q hq a (parameters ▸ List.mem_cons_of_mem _ ha) hint hinted
  cases leads "pet" _ refers trivial with
  | nowhere leaf =>
    rw [named] at leaf
    exact absurd leaf (by decide)
  | home c leaf made =>
    cases named.symm.trans leaf
    cases made with
    | model m decl first given => exact nomatch models_straying.symm.trans given
    | enum m e defined extracted here => exact nomatch here
  | literals m nullable scalar defined stated =>
    cases defined
    exact nomatch stated

end Client

end TypedClient
