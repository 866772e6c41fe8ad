import TypedClient.Proofs.Annotations
import TypedClient.Proofs.ClassNames
import TypedClient.Proofs.Completion
import TypedClient.Proofs.Rendering

/-!
# The package refers to what is there

The file of the models and that of the interface name classes in their annotations, and import some of
them. Which classes are named, imported and defined comes from three different computations.

**What is proved.** `package_closed`: they agree. In the models each class that is named is defined there
or imported from the enumerations; in the interface each is imported from the file that defines it;
whatever is imported is defined where it is imported from, and named. The classes of both files are
distinct. A reference is `Any` exactly when nothing that is rendered bears its name or its model name.

Names are those at the leaves of the type hints. What a class is called is not the matter here: one that
is called `Any` counts as a class where a reference leads to it.
-/

namespace TypedClient

namespace Source

/-- A name stands in the annotation of a parameter. -/
def Parameter.Mentions (a : Parameter) (c : String) : Prop :=
  ∃ hint, a.hint = some hint ∧ c ∈ hint.leaves

/-- A name stands in the annotation of a parameter or of the result. -/
def FunctionDecl.Mentions (f : FunctionDecl) (c : String) : Prop :=
  (∃ a ∈ f.parameters, a.Mentions c) ∨ ∃ hint : TypeHint, f.response = hint.text ∧ c ∈ hint.leaves

end Source

namespace Client

open Api Source

/-- Parameters annotated with types, one by one. -/
def AnnotatedAll (names : ClassNames) (known : String → Prop) (types : List TypeRef)
    (parameters : List Parameter) : Prop :=
  List.Forall₂ (fun t a => ∃ hint, a.hint = some hint ∧ Annotated names known t hint) types parameters

/-- The file of the models, with the classes that it imports from that of the enumerations. -/
structure ModelsClosed (d : Description) (enums models : File) (imported : List String) : Prop where
  imports : models.imports = typingImports ++ ["from pydantic import BaseModel, ConfigDict, Field"] ++
    importLines "enums" imported
  /-- Each class is annotated with the types of its model, with classes that are there or imported. -/
  classes : List.Forall₂
    (fun p q => q.1 = p.1 ∧
      AnnotatedAll (namesOf d) (fun c => c ∈ models.classes.names ∨ c ∈ imported)
        (p.2.fields.map (·.type)) q.2.attributes)
    (modelsByClass (namesOf d) d.models) models.classes
  imported_defined : ∀ c ∈ imported, c ∈ enums.classes.names
  imported_used : ∀ c ∈ imported, ∃ q ∈ models.classes, ∃ a ∈ q.2.attributes, a.Mentions c

/-- A function of the interface against its method. Of the classes that it names something is `known`. -/
structure FunctionClosed (names : ClassNames) (known : String → Prop) (m : Method) (f : FunctionDecl) :
    Prop where
  arguments : ∃ arguments, f.parameters = { name := "self" } :: arguments ∧
    AnnotatedAll names known (m.parameters.map (·.type)) arguments
  response : payload m.returns = none ∧ f.response = "None" ∨
    ∃ t hint, payload m.returns = some t ∧ f.response = hint.text ∧ Annotated names known t hint
  /-- The response model is a model, and as much is known of it. -/
  model : ∃ model isList, f.decorators = methodDecorators m
      (bindingArguments (namedParameters m) ++ responseArguments model isList) ∧
    ∀ c, model = some c → known c ∧ c ∈ names.models.values

/-- A class is imported from the file that defines it, and from no other. -/
structure Imported (enums models : File) (fromEnums fromModels : List String) (c : String) : Prop where
  models : c ∈ fromModels ↔ c ∈ models.classes.names
  enums : c ∈ fromEnums ↔ c ∈ enums.classes.names
  somewhere : c ∈ fromModels ∨ c ∈ fromEnums

/-- The file of the interface, with the classes that it imports. -/
structure InterfaceClosed (d : Description) (enums models interface : File)
    (fromEnums fromModels : List String) : Prop where
  imports : interface.imports = typingImports ++ importLines "common" (commonNames d.interface.methods) ++
    importLines "enums" fromEnums ++ importLines "models" fromModels
  /-- Each function names classes that are imported from where they are defined. -/
  functions : ∃ name decl, interface.classes = [(name, decl)] ∧
    List.Forall₂
      (fun m p => FunctionClosed (namesOf d) (Imported enums models fromEnums fromModels) m p.2)
      d.interface.methods decl.functions
  imported_defined : (∀ c ∈ fromEnums, c ∈ enums.classes.names) ∧ ∀ c ∈ fromModels, c ∈ models.classes.names
  imported_used : ∀ c, c ∈ fromEnums ∨ c ∈ fromModels →
    ∃ q ∈ interface.classes, ∃ p ∈ q.2.functions, p.2.Mentions c

/-- The files of a description refer to what is there. -/
structure Closed (d : Description) (enums models interface : File) : Prop where
  distinct : (enums.classes.names ++ models.classes.names).Nodup
  /-- A reference has no class when nothing that is rendered bears its name or its model name. -/
  missing : ∀ n, (namesOf d).class? n = none ↔
    ∀ name ∈ [n, modelName n],
      (∀ p ∈ modelsByClass (namesOf d) d.models, p.2.name ≠ name) ∧
        ∀ p ∈ enumsByClass d.enums, p.2.name ≠ name
  modelsClosed : ∃ imported, ModelsClosed d enums models imported
  interfaceClosed : ∃ fromEnums fromModels, InterfaceClosed d enums models interface fromEnums fromModels

/-! ## Imported names -/

theorem mem_importedNames {used available : List String} {c : String} :
    c ∈ importedNames used available ↔ c ∈ used ∧ c ∈ available := by
  rw [importedNames, sortedNames, List.mem_mergeSort, List.mem_eraseDups, List.mem_filter,
    List.contains_iff_mem]

theorem names_enumsFile (enums : List EnumType) :
    (enumsFile enums).classes.names = (enumsByClass enums).names := by
  rw [enumsFile, Fields.names, List.map_map]
  rfl

variable {d : Description}

/-- A class that a type uses is that of a rendered model or of a rendered enumeration. -/
theorem defined_of_used {t : TypeRef} {c : String} (h : c ∈ usedClasses (namesOf d) t) :
    c ∈ (namesOf d).models.values ∨ c ∈ (namesOf d).enums.values := by
  obtain ⟨_, _, found⟩ := mem_usedClasses.mp h
  exact ClassNames.class?_eq_some found

/-! ## The models -/

variable {names : ClassNames} {known : String → Prop}

/-- Parameters with the hints of types say what the types refer to. -/
theorem annotated_of_hinted {types : List TypeRef} {parameters : List Parameter}
    (h : Hinted names types parameters) (used : ∀ t ∈ types, ∀ c ∈ usedClasses names t, known c) :
    AnnotatedAll names known types parameters := by
  refine ((List.forall₂_and_left _ _).mpr ⟨used, h⟩).imp fun t a ht => ?_
  obtain ⟨used, hint, spelled, hinted⟩ := ht
  exact ⟨hint, hinted, typeHint_annotated spelled used⟩

/-- A class that one of the types uses is mentioned by one of the parameters. -/
theorem mentions_of_annotated {types : List TypeRef} {parameters : List Parameter}
    (h : AnnotatedAll names known types parameters) {t : TypeRef} (ht : t ∈ types) {c : String}
    (hc : c ∈ usedClasses names t) : ∃ a ∈ parameters, a.Mentions c := by
  obtain ⟨a, ha, hint, hinted, said⟩ := exists_of_mem_left h ht
  exact ⟨a, ha, hint, hinted, said.mem_leaves hc⟩

theorem modelsFile_closed {models : File} (h : modelsFile (namesOf d) d.models = .ok models) :
    ∃ imported, ModelsClosed d (enumsFile d.enums) models imported := by
  obtain ⟨classes, imports⟩ := modelsFile_eq_ok h
  have closed : List.Forall₂
      (fun p q => q.1 = p.1 ∧
        AnnotatedAll (namesOf d)
          (fun c => c ∈ models.classes.names ∨
            c ∈ importedNames (modelUses (namesOf d) (modelsByClass (namesOf d) d.models))
              (namesOf d).enums.values)
          (p.2.fields.map (·.type)) q.2.attributes)
      (modelsByClass (namesOf d) d.models) models.classes := by
    refine ((List.forall₂_and_left _ _).mpr ⟨fun p hp => hp, classes⟩).imp fun p q hq => ?_
    obtain ⟨hp, name, decl⟩ := hq
    refine ⟨name, annotated_of_hinted (modelClass_hinted decl) fun t ht c hc => ?_⟩
    obtain ⟨f, hf, rfl⟩ := List.mem_map.mp ht
    rcases defined_of_used hc with model | enum
    · exact .inl (names_modelsFile h ▸ (ClassNames.mem_values_models d).mp model)
    · refine .inr (mem_importedNames.mpr ⟨?_, enum⟩)
      exact List.mem_flatMap.mpr ⟨p, hp, List.mem_flatMap.mpr ⟨f, hf, hc⟩⟩
  refine ⟨_, imports, closed, ?_, ?_⟩
  · intro c hc
    rw [names_enumsFile, ← ClassNames.values_enums]
    exact (mem_importedNames.mp hc).2
  · intro c hc
    obtain ⟨p, hp, hc⟩ := List.mem_flatMap.mp (mem_importedNames.mp hc).1
    obtain ⟨f, hf, hc⟩ := List.mem_flatMap.mp hc
    obtain ⟨q, hq, _, annotated⟩ := exists_of_mem_left closed hp
    exact ⟨q, hq, mentions_of_annotated annotated (List.mem_map_of_mem hf) hc⟩

/-! ## The interface -/

/-- The response model of a result is used by its type, and is a model. -/
theorem responseModel_used {t : TypeRef} {c : String} (h : responseModel names t = .ok (some c)) :
    c ∈ usedClasses names t ∧ c ∈ names.models.values := by
  unfold responseModel at h
  split at h
  · next _ name nullable item target =>
    obtain ⟨found, model⟩ := Option.filter_eq_some_iff.mp (Except.ok.inj h)
    refine ⟨mem_usedClasses.mpr ⟨name, ?_, found⟩, List.contains_iff_mem.mp model⟩
    obtain ⟨kind, p, n, i, nullable'⟩ := t
    cases kind <;> cases target <;> rfl
  · cases h
  · cases h

theorem mem_methodClasses_of_parameter {m : Method} {p : MethodParameter} (hp : p ∈ m.parameters)
    {c : String} (hc : c ∈ usedClasses names p.type) : c ∈ methodClasses names m :=
  List.mem_append_left _ (List.mem_flatMap.mpr ⟨p, hp, hc⟩)

theorem mem_methodClasses_of_payload {m : Method} {t : TypeRef} (ht : payload m.returns = some t)
    {c : String} (hc : c ∈ usedClasses names t) : c ∈ methodClasses names m := by
  refine List.mem_append_right _ ?_
  rw [ht]
  exact hc

theorem function_closed {m : Method} {f : FunctionDecl} (h : methodFunction names m = .ok f)
    (used : ∀ c ∈ methodClasses names m, known c) (name : String) :
    FunctionClosed names known m { f with name } := by
  obtain ⟨arguments, model, response, ha, delivers, rfl⟩ := methodFunction_eq_ok h
  have annotated : AnnotatedAll names known (m.parameters.map (·.type)) arguments := by
    refine annotated_of_hinted (arguments_hinted ha) fun t ht c hc => ?_
    obtain ⟨p, hp, rfl⟩ := List.mem_map.mp ht
    exact used c (mem_methodClasses_of_parameter hp hc)
  cases delivers with
  | nothing delivered noModel text =>
    exact {
      arguments := ⟨arguments, rfl, annotated⟩
      response := .inl ⟨delivered, text⟩
      model := ⟨model, _, rfl, by simp [noModel]⟩ }
  | result t hint delivered found spelled text =>
    exact {
      arguments := ⟨arguments, rfl, annotated⟩
      response := .inr ⟨t, hint, delivered, text, typeHint_annotated spelled fun c hc =>
        used c (mem_methodClasses_of_payload delivered hc)⟩
      model := by
        refine ⟨model, _, rfl, ?_⟩
        rintro c rfl
        obtain ⟨hc, model⟩ := responseModel_used found
        exact ⟨used c (mem_methodClasses_of_payload delivered hc), model⟩ }

/-- A class that a method uses stands in an annotation of its function. -/
theorem function_mentions {m : Method} {f : FunctionDecl} (h : FunctionClosed names known m f) {c : String}
    (hc : c ∈ methodClasses names m) : f.Mentions c := by
  rcases List.mem_append.mp hc with hc | hc
  · obtain ⟨p, hp, hc⟩ := List.mem_flatMap.mp hc
    obtain ⟨arguments, parameters, annotated⟩ := h.arguments
    obtain ⟨a, ha, mentions⟩ := mentions_of_annotated annotated (List.mem_map_of_mem hp) hc
    exact .inl ⟨a, parameters ▸ List.mem_cons_of_mem _ ha, mentions⟩
  · rcases h.response with ⟨delivered, _⟩ | ⟨t, hint, delivered, text, said⟩
    · rw [delivered] at hc
      cases hc
    · rw [delivered] at hc
      exact .inr ⟨hint, text, said.mem_leaves hc⟩

/-- A class that a method uses is imported from where it is defined. -/
theorem imported_of_used {models : File} (h : modelsFile (namesOf d) d.models = .ok models)
    {m : Method} (hm : m ∈ d.interface.methods) {c : String}
    (hc : c ∈ methodClasses (namesOf d) m) :
    Imported (enumsFile d.enums) models
      (importedNames (interfaceUses (namesOf d) d.interface.methods) (namesOf d).enums.values)
      (importedNames (interfaceUses (namesOf d) d.interface.methods) (namesOf d).models.values) c := by
  have used : c ∈ interfaceUses (namesOf d) d.interface.methods :=
    List.mem_flatMap.mpr ⟨m, hm, hc⟩
  have somewhere : c ∈ (namesOf d).models.values ∨ c ∈ (namesOf d).enums.values := by
    rcases List.mem_append.mp hc with hc | hc
    · obtain ⟨p, _, hc⟩ := List.mem_flatMap.mp hc
      exact defined_of_used hc
    · cases hp : payload m.returns with
      | none => rw [hp] at hc; cases hc
      | some t => rw [hp] at hc; exact defined_of_used hc
  refine ⟨?_, ?_, ?_⟩
  · rw [mem_importedNames, names_modelsFile h, ClassNames.mem_values_models, and_iff_right used]
  · rw [mem_importedNames, names_enumsFile, ClassNames.values_enums, and_iff_right used]
  · rw [mem_importedNames, mem_importedNames, and_iff_right used, and_iff_right used]
    exact somewhere

theorem interfaceFile_closed {name description : String} {models interface : File}
    (hm : modelsFile (namesOf d) d.models = .ok models)
    (h : interfaceFile (namesOf d) name description d.interface.methods = .ok interface) :
    ∃ fromEnums fromModels,
      InterfaceClosed d (enumsFile d.enums) models interface fromEnums fromModels := by
  obtain ⟨functions, each, classes, imports⟩ := interfaceFile_eq_ok h
  refine ⟨_, _, imports, ⟨name, _, classes, ?_⟩, ⟨?_, ?_⟩, ?_⟩
  · refine ((List.forall₂_and_left _ _).mpr ⟨fun m hm => hm, each⟩).imp fun m p hp => ?_
    obtain ⟨hmem, g, hg, heq⟩ := hp
    exact heq ▸ function_closed hg (fun c hc => imported_of_used hm hmem hc) p.1
  · intro c hc
    rw [names_enumsFile, ← ClassNames.values_enums]
    exact (mem_importedNames.mp hc).2
  · intro c hc
    rw [names_modelsFile hm, ← ClassNames.mem_values_models]
    exact (mem_importedNames.mp hc).2
  · intro c hc
    have used : c ∈ interfaceUses (namesOf d) d.interface.methods :=
      hc.elim (fun hc => (mem_importedNames.mp hc).1) fun hc => (mem_importedNames.mp hc).1
    obtain ⟨m, hmem, hc⟩ := List.mem_flatMap.mp used
    obtain ⟨p, hp, g, hg, heq⟩ := exists_of_mem_left each hmem
    -- nothing has to be known of the classes for them to be mentioned
    have closed := @function_closed _ (fun _ => True) _ _ hg (fun _ _ => trivial) p.1
    rw [classes]
    exact ⟨_, List.mem_cons_self, p, hp, heq ▸ function_mentions closed hc⟩

/-- Nothing that is rendered bears the names under which a reference without a class is looked up. -/
theorem class?_missing (d : Description) (n : String) :
    (namesOf d).class? n = none ↔
      ∀ name ∈ [n, modelName n],
        (∀ p ∈ modelsByClass (namesOf d) d.models, p.2.name ≠ name) ∧
          ∀ p ∈ enumsByClass d.enums, p.2.name ≠ name := by
  rw [ClassNames.class?_eq_none]
  simp only [ClassNames.mem_names_models, ClassNames.mem_names_enums, not_exists, not_and,
    List.forall_mem_cons, List.not_mem_nil, false_imp_iff, implies_true, and_true]

/-- **The package refers to what is there.** From every document and under all settings, the files of the
models and of the interface can be rendered, they are closed, and they are the ones that a package has. -/
theorem package_closed (links : Links) (settings config : Settings) (document : Schema.Document) :
    let d := (describe links settings document).1
    let names := namesOf d
    ∃ models interface,
      modelsFile names d.models = .ok models ∧
      interfaceFile names (className d.interface.name) ("Методы API " ++ config.componentName.text)
        d.interface.methods = .ok interface ∧
      Closed d (enumsFile d.enums) models interface ∧
      ∀ p, package config d = .ok p →
        ∃ others, p.files = enumsFile d.enums :: models :: interface :: others := by
  intro d names
  have wellFormed := describe_wellFormed links settings document
  obtain ⟨models, hm⟩ := exists_modelsFile names wellFormed.models
  obtain ⟨interface, hi⟩ := exists_interfaceFile names (className d.interface.name)
    ("Методы API " ++ config.componentName.text) wellFormed.methods
  refine ⟨models, interface, hm, hi, ?_, ?_⟩
  · exact {
      distinct := by
        rw [names_enumsFile, names_modelsFile hm]
        exact ClassNames.nodup_classes d
      missing := class?_missing d
      modelsClosed := modelsFile_closed hm
      interfaceClosed := interfaceFile_closed hm hi }
  · intro p hp
    obtain ⟨models', interface', others, hm', hi', files⟩ := package_eq_ok hp
    cases hm.symm.trans hm'
    cases hi.symm.trans hi'
    exact ⟨others, files⟩

end Client

end TypedClient
