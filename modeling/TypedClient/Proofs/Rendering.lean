import TypedClient.Client.Package
import TypedClient.Proofs.FreshNames
import TypedClient.Proofs.Outcome

/-!
# What is rendered

The functions that render a model, a method, a file and the package succeed in one way each. The lemmas
here say which: what each part of the result is made of, one by one in the order of what it is made from.
They are what the properties of the package are proved from, with nothing of it unfolded again.
-/

namespace TypedClient.Client

open Api Source

variable {names : ClassNames}

/-- Parameters with the type hints of some types, one by one. -/
def Hinted (names : ClassNames) (types : List TypeRef) (parameters : List Parameter) : Prop :=
  List.Forall₂ (fun t a => ∃ hint, typeHint names t = .ok hint ∧ a.hint = some hint) types parameters

/-! ## Enumerations -/

theorem renamed_memberNames (used : List String) (constants : List Constant) :
    Renamed (fun c => numbered (memberName c.name)) used constants (memberNames used constants) :=
  renamed_of_steps (fun _ => rfl) (fun _ _ _ => rfl) (fun _ => numbered_injective _) used constants

/-- The members of an enumeration have the names that were chosen for them. -/
theorem names_enumMembers (constants : List Constant) :
    (enumMembers constants).map (·.name) = memberNames [] constants := by
  have firsts := List.map_fst_zip (Nat.le_of_eq (renamed_memberNames [] constants).length_eq)
  rw [List.zip, List.map_zipWith] at firsts
  rw [enumMembers, List.map_zipWith]
  exact firsts

/-! ## Models -/

theorem renamed_attributeNames (used : List String) (fields : List ModelField) :
    Renamed (fun f => underlined (attributeBase f.name)) used fields (attributeNames used fields) :=
  renamed_of_steps (fun _ => rfl) (fun _ _ _ => rfl) (fun _ => underlined_injective _) used fields

theorem length_attributeNames (used : List String) (fields : List ModelField) :
    (attributeNames used fields).length = fields.length :=
  (renamed_attributeNames used fields).length_eq

theorem fieldAttribute_eq_ok {name : String} {f : ModelField} {a : Parameter} :
    fieldAttribute names name f = .ok a ↔ ∃ hint, typeHint names f.type = .ok hint ∧
      a = { name, hint := some hint, default := attributeDefault name f } := by
  rw [fieldAttribute, bind_eq_ok]
  refine exists_congr fun hint => and_congr_right fun _ => ?_
  rw [pure_eq_ok, Except.ok.injEq, eq_comm]

/-- The class of a model has an attribute for each field, under the name chosen for it. -/
theorem modelClass_eq_ok {c : String} {m : ModelType} {decl : ClassDecl}
    (h : modelClass names c m = .ok decl) :
    ∃ attributes, List.Forall₂ (fun p a => fieldAttribute names p.1 p.2 = .ok a)
        ((attributeNames [] m.fields).zip m.fields) attributes ∧
      decl = { name := c, bases := ["BaseModel"], blocks := [modelConfig], attributes } := by
  obtain ⟨attributes, ha, heq⟩ := bind_eq_ok.mp h
  cases heq
  exact ⟨attributes, mapM_eq_ok.mp ha, rfl⟩

theorem modelClass_hinted {c : String} {m : ModelType} {decl : ClassDecl}
    (h : modelClass names c m = .ok decl) : Hinted names (m.fields.map (·.type)) decl.attributes := by
  obtain ⟨attributes, ha, rfl⟩ := modelClass_eq_ok h
  have each := forall₂_of_zip (length_attributeNames [] m.fields) ha
  refine List.forall₂_map_left_iff.mpr (each.imp fun f a hf => ?_)
  obtain ⟨name, ha⟩ := hf
  obtain ⟨hint, hh, rfl⟩ := fieldAttribute_eq_ok.mp ha
  exact ⟨hint, hh, rfl⟩

/-- The classes that the fields of rendered models use. -/
def modelUses (names : ClassNames) (rendered : Fields ModelType) : List String :=
  rendered.flatMap fun p => p.2.fields.flatMap fun f => usedClasses names f.type

/-- The file of the models has a class for each rendered model. -/
theorem modelsFile_eq_ok {models : List ModelType} {f : File} (h : modelsFile names models = .ok f) :
    List.Forall₂ (fun p q => q.1 = p.1 ∧ modelClass names p.1 p.2 = .ok q.2)
        (modelsByClass names models) f.classes ∧
      f.imports = typingImports ++ ["from pydantic import BaseModel, ConfigDict, Field"] ++
        importLines "enums"
          (importedNames (modelUses names (modelsByClass names models)) names.enums.values) := by
  obtain ⟨classes, hc, heq⟩ := bind_eq_ok.mp h
  cases heq
  refine ⟨(mapM_eq_ok.mp hc).imp fun p q hq => ?_, rfl⟩
  obtain ⟨decl, hd, heq⟩ := bind_eq_ok.mp hq
  cases heq
  exact ⟨rfl, hd⟩

/-- The classes of the file of the models are those of the rendered models. -/
theorem names_modelsFile {models : List ModelType} {f : File} (h : modelsFile names models = .ok f) :
    f.classes.names = (modelsByClass names models).names :=
  (map_eq_map ((modelsFile_eq_ok h).1.imp fun _ _ hq => hq.1.symm)).symm

/-! ## Methods -/

theorem renamed_argumentNames (used : List String) (parameters : List MethodParameter) :
    Renamed (fun p => underlined (argumentName p.name)) used parameters (argumentNames used parameters) :=
  renamed_of_steps (fun _ => rfl) (fun _ _ _ => rfl) (fun _ => underlined_injective _) used parameters

theorem length_argumentNames (used : List String) (parameters : List MethodParameter) :
    (argumentNames used parameters).length = parameters.length :=
  (renamed_argumentNames used parameters).length_eq

theorem argument_eq_ok {p : String × MethodParameter} {a : Parameter} :
    argument names p = .ok a ↔ ∃ hint, typeHint names p.2.type = .ok hint ∧
      a = { name := p.1, hint := some hint
            default := if p.2.type.nullable then some "None" else none } := by
  rw [argument, bind_eq_ok]
  refine exists_congr fun hint => and_congr_right fun _ => ?_
  rw [pure_eq_ok, Except.ok.injEq, eq_comm]

theorem arguments_hinted {m : Method} {arguments : List Parameter}
    (h : List.Forall₂ (fun p a => argument names p = .ok a) (namedParameters m) arguments) :
    Hinted names (m.parameters.map (·.type)) arguments := by
  have each := forall₂_of_zip (length_argumentNames ["self"] m.parameters) h
  refine List.forall₂_map_left_iff.mpr (each.imp fun p a hp => ?_)
  obtain ⟨name, ha⟩ := hp
  obtain ⟨hint, hh, rfl⟩ := argument_eq_ok.mp ha
  exact ⟨hint, hh, rfl⟩

/-- What a method says about what it delivers: its response model and the text of its result. -/
inductive Delivers (names : ClassNames) (m : Method) (model : Option String) (response : String) : Prop where
  | nothing (delivered : payload m.returns = none) (noModel : model = none) (text : response = "None")
  | result (t : TypeRef) (hint : TypeHint) (delivered : payload m.returns = some t)
    (found : responseModel names t = .ok model) (spelled : typeHint names t = .ok hint)
    (text : response = hint.text)

/-- The function of a method takes `self` and an argument for each parameter. -/
theorem methodFunction_eq_ok {m : Method} {f : FunctionDecl} (h : methodFunction names m = .ok f) :
    ∃ arguments model response,
      List.Forall₂ (fun p a => argument names p = .ok a) (namedParameters m) arguments ∧
      Delivers names m model response ∧
      f = {
        name := argumentName m.name
        parameters := { name := "self" } :: arguments
        response
        isAsync := true
        decorators := methodDecorators m (bindingArguments (namedParameters m) ++
          responseArguments model ((payload m.returns).any (·.kind == .list)))
        description := methodDescription m } := by
  obtain ⟨arguments, ha, h⟩ := bind_eq_ok.mp h
  refine ⟨arguments, ?_⟩
  cases hp : payload m.returns with
  | none =>
    rw [hp] at h
    exact ⟨none, "None", mapM_eq_ok.mp ha, .nothing hp rfl rfl, (Except.ok.inj h).symm⟩
  | some t =>
    rw [hp] at h
    obtain ⟨model, hm, h⟩ := bind_eq_ok.mp h
    obtain ⟨hint, hh, h⟩ := bind_eq_ok.mp h
    exact ⟨model, hint.text, mapM_eq_ok.mp ha, .result t hint hp hm hh rfl, (Except.ok.inj h).symm⟩

/-- Before clashes are resolved a function has the name that the name of its method becomes. -/
theorem name_methodFunction {m : Method} {f : FunctionDecl} (made : methodFunction names m = .ok f) :
    f.name = argumentName m.name := by
  obtain ⟨_, _, _, _, _, heq⟩ := methodFunction_eq_ok made
  rw [heq]

/-- The classes that the methods use. -/
def interfaceUses (names : ClassNames) (methods : List Method) : List String :=
  methods.flatMap (methodClasses names)

/-- Functions are kept under names of their own, found one after the other, and stay the same otherwise. -/
theorem renamed_nameFunctions (named : Fields FunctionDecl) (functions : List FunctionDecl) :
    ∃ more, nameFunctions named functions = named ++ more ∧
      List.Forall₂ (fun f q => q.2 = { f with name := q.1 }) functions more ∧
      Renamed (fun f => numbered f.name) named.names functions more.names := by
  induction functions generalizing named with
  | nil => exact ⟨[], (List.append_nil named).symm, .nil, .nil⟩
  | cons f rest ih =>
    let name := freshName named.names (numbered f.name)
    obtain ⟨more, kept, each, later⟩ := ih (named ++ [(name, { f with name })])
    rw [Fields.names, List.map_append] at later
    refine ⟨(name, { f with name }) :: more, kept.trans (List.append_assoc ..), .cons rfl each, ?_⟩
    exact .cons (freshName_firstFree (numbered_injective _)) later

/-- The file of the interface has one class, whose functions are those of the methods under names of their
own. -/
theorem interfaceFile_functions {name description : String} {methods : List Method} {f : File}
    (h : interfaceFile names name description methods = .ok f) :
    ∃ bare, List.Forall₂ (fun m g => methodFunction names m = .ok g) methods bare ∧
      f.classes = [(name, { name, bases := ["ApiInterface"], description := some description
                            functions := nameFunctions [] bare })] ∧
      f.imports = typingImports ++ importLines "common" (commonNames methods) ++
        importLines "enums" (importedNames (interfaceUses names methods) names.enums.values) ++
        importLines "models" (importedNames (interfaceUses names methods) names.models.values) := by
  obtain ⟨decl, hd, h⟩ := bind_eq_ok.mp h
  obtain ⟨bare, hb, heq⟩ := bind_eq_ok.mp hd
  cases heq
  cases h
  exact ⟨bare, mapM_eq_ok.mp hb, rfl, rfl⟩

/-- The file of the interface has one class, with a function for each method. -/
theorem interfaceFile_eq_ok {name description : String} {methods : List Method} {f : File}
    (h : interfaceFile names name description methods = .ok f) :
    ∃ functions, List.Forall₂ (fun m p => ∃ g, methodFunction names m = .ok g ∧ p.2 = { g with name := p.1 })
        methods functions ∧
      f.classes = [(name,
        { name, bases := ["ApiInterface"], description := some description, functions })] ∧
      f.imports = typingImports ++ importLines "common" (commonNames methods) ++
        importLines "enums" (importedNames (interfaceUses names methods) names.enums.values) ++
        importLines "models" (importedNames (interfaceUses names methods) names.models.values) := by
  obtain ⟨bare, each, classes, imports⟩ := interfaceFile_functions h
  obtain ⟨functions, heq, named, _⟩ := renamed_nameFunctions [] bare
  refine ⟨functions, forall₂_trans each named, ?_, imports⟩
  rw [classes, heq, List.nil_append]

/-! ## The package -/

/-- The first files of a package are those of the enumerations, the models and the interface. -/
theorem package_eq_ok {settings : Settings} {d : Description} {p : Project}
    (h : package settings d = .ok p) :
    ∃ models interface others,
      modelsFile (ClassNames.ofDescription d).1 d.models = .ok models ∧
      interfaceFile (ClassNames.ofDescription d).1 (className d.interface.name)
        ("Методы API " ++ settings.componentName.text) d.interface.methods = .ok interface ∧
      p.files = enumsFile d.enums :: models :: interface :: others := by
  simp only [package, bind_eq_ok] at h
  obtain ⟨_, _, models, hm, interface, hi, _, _, _, _, heq⟩ := h
  cases heq
  exact ⟨models, interface, _, hm, hi, rfl⟩

/-- What the files at the head of a package are. -/
theorem files_of_package {settings : Settings} {d : Description} {p : Project} (h : package settings d = .ok p)
    {enums models interface : File} {others : List File} (files : p.files = enums :: models :: interface :: others) :
    enums = enumsFile d.enums ∧ modelsFile (ClassNames.ofDescription d).1 d.models = .ok models ∧
      interfaceFile (ClassNames.ofDescription d).1 (className d.interface.name)
        ("Методы API " ++ settings.componentName.text) d.interface.methods = .ok interface := by
  obtain ⟨models', interface', _, hm, hi, files'⟩ := package_eq_ok h
  rw [files] at files'
  obtain ⟨rfl, later⟩ := List.cons.inj files'
  obtain ⟨rfl, rest⟩ := List.cons.inj later
  obtain ⟨rfl, _⟩ := List.cons.inj rest
  exact ⟨rfl, hm, hi⟩

end TypedClient.Client
