import TypedClient.Api.Describe
import TypedClient.Proofs.ClassNames
import TypedClient.Proofs.Completion
import TypedClient.Proofs.Rendering

/-!
# Names that the package relies on

The decorators of the interface are looked up among the functions written before them, and the annotations
of the models among the classes. A function or a class that bears the name of something imported there hides
it. The naming resolves the clashes among the functions and those of models with enumerations, and knows
nothing of the imports.

**What is proved.** `interface_captures_iff`: a function of the interface bears a name that the interface
relies on exactly when the name of some method becomes this name. `classes_capture_iff`: a name that the
files of the types rely on is that of a class exactly when the name of some enumeration or model becomes this
name. So the package is free of such clashes when its names are, and `getDescription` and `listDescription`
show that they need not be.
-/

namespace TypedClient.Client

open Schema Api Source

/-! ## The functions of the interface -/

/-- The names that the decorators of the methods use. -/
def decoratorNames (methods : List Method) : List String :=
  methods.map (·.verb.decorator) ++ (if methods.any (!·.headers.isEmpty) then ["headers"] else [])

/-- What an interface relies on: its decorators, and the attribute that its base class gives each instance. -/
def reliedOn (methods : List Method) : List String :=
  decoratorNames methods ++ ["client"]

/-- No name that an interface relies on has a low line. -/
theorem lowLine_not_mem_reliedOn {methods : List Method} {name : String} (h : name ∈ reliedOn methods) :
    '_' ∉ name.toList := by
  have verbs : ∀ v : Verb, '_' ∉ v.decorator.toList := by
    intro v
    cases v <;> decide
  rcases List.mem_append.mp h with used | client
  · rcases List.mem_append.mp used with verb | header
    · obtain ⟨m, _, rfl⟩ := List.mem_map.mp verb
      exact verbs m.verb
    · split at header
      · rw [List.mem_singleton.mp header]
        decide
      · cases header
  · rw [List.mem_singleton.mp client]
    decide

/-- Every later candidate has a low line. -/
theorem lowLine_mem_numbered (name : String) (n : Nat) : '_' ∈ (numbered name (n + 1)).toList := by
  simp [numbered]

/-- A name without low lines is among the names when a further one is numbered exactly when it was before or
is the further name itself. -/
theorem mem_or_eq_freshName {taken : List String} {name c : String} (plain : '_' ∉ c.toList) :
    (c ∈ taken ∨ c = freshName taken (numbered name)) ↔ (c ∈ taken ∨ c = name) := by
  by_cases known : name ∈ taken
  · obtain ⟨n, found⟩ := exists_freshName_eq taken (numbered name)
    rw [found]
    cases n with
    | zero => exact Iff.rfl
    | succ n =>
      have other : c ≠ numbered name (n + 1) := by
        rintro rfl
        exact plain (lowLine_mem_numbered name n)
      constructor
      · rintro (h | h)
        · exact .inl h
        · exact absurd h other
      · rintro (h | rfl)
        · exact .inl h
        · exact .inl known
  · have own : freshName taken (numbered name) = name := freshName_eq_first known
    rw [own]

/-- The names of the functions without low lines are those that the functions had. -/
theorem mem_names_nameFunctions {c : String} (plain : '_' ∉ c.toList) (named : Fields FunctionDecl)
    (functions : List FunctionDecl) :
    c ∈ (nameFunctions named functions).names ↔ c ∈ named.names ∨ ∃ f ∈ functions, f.name = c := by
  induction functions generalizing named with
  | nil => simp [nameFunctions]
  | cons f rest ih =>
    have step : c ∈ named.names ∨ c = freshName named.names (numbered f.name) ↔ c ∈ named.names ∨ c = f.name :=
      mem_or_eq_freshName plain
    rw [nameFunctions, ih, Fields.names, List.map_append, List.mem_append, List.map_singleton,
      List.mem_singleton]
    simp only [List.mem_cons, exists_eq_or_imp, ← or_assoc, eq_comm (a := f.name)]
    exact or_congr_left step

/-- Functions have the names that they are kept under. -/
theorem exists_value_nameFunctions {functions : List FunctionDecl} {c : String} :
    (∃ f ∈ (nameFunctions [] functions).values, f.name = c) ↔ c ∈ (nameFunctions [] functions).names := by
  obtain ⟨named, heq, each, _⟩ := renamed_nameFunctions [] functions
  rw [heq, List.nil_append]
  constructor
  · rintro ⟨f, h, rfl⟩
    obtain ⟨name, h⟩ := Fields.mem_values.mp h
    obtain ⟨g, _, own⟩ := exists_of_mem_right each h
    rw [show f.name = name from congrArg FunctionDecl.name own]
    exact Fields.mem_names.mpr ⟨f, h⟩
  · intro h
    obtain ⟨f, h⟩ := Fields.mem_names.mp h
    obtain ⟨g, _, own⟩ := exists_of_mem_right each h
    exact ⟨f, Fields.mem_values.mpr ⟨c, h⟩, congrArg FunctionDecl.name own⟩

/-- A decorator begins with a name that the interface relies on. -/
theorem exists_decoratorName {methods : List Method} {m : Method} {arguments : List String} {text : String}
    (member : m ∈ methods) (h : text ∈ methodDecorators m arguments) :
    ∃ name ∈ decoratorNames methods, ∃ rest, text = "@" ++ name ++ "(" ++ rest := by
  rw [methodDecorators] at h
  rcases List.mem_cons.mp h with rfl | h
  · refine ⟨m.verb.decorator, ?_, ", ".intercalate (Text.quote m.path :: arguments) ++ ")", ?_⟩
    · exact List.mem_append_left _ (List.mem_map_of_mem member)
    · simp only [String.append_assoc]
  · split at h
    · cases h
    · next some =>
      have headers : methods.any (!·.headers.isEmpty) = true := by
        apply List.any_eq_true.mpr
        exact ⟨m, member, by simpa using some⟩
      refine ⟨"headers", ?_, ", ".intercalate (m.headers.map Text.quote) ++ ")", ?_⟩
      · rw [decoratorNames, if_pos headers]
        exact List.mem_append_right _ (List.mem_singleton_self _)
      · rw [List.mem_singleton.mp h, String.append_assoc]
        rfl

/-- A function of the interface bears a name without low lines exactly when the name of a method becomes it. -/
theorem exists_function_iff {names : ClassNames} {methods : List Method} {bare : List FunctionDecl}
    (each : List.Forall₂ (fun m f => methodFunction names m = .ok f) methods bare) {used : String}
    (plain : '_' ∉ used.toList) :
    (∃ f ∈ (nameFunctions [] bare).values, f.name = used) ↔ ∃ m ∈ methods, argumentName m.name = used := by
  rw [exists_value_nameFunctions, mem_names_nameFunctions plain]
  constructor
  · rintro (none | ⟨f, hf, rfl⟩)
    · cases none
    · obtain ⟨m, hm, made⟩ := exists_of_mem_right each hf
      exact ⟨m, hm, (name_methodFunction made).symm⟩
  · rintro ⟨m, hm, rfl⟩
    obtain ⟨f, hf, made⟩ := exists_of_mem_left each hm
    exact .inr ⟨f, hf, name_methodFunction made⟩

/-- **Which functions hide what the interface relies on**: the decorators of a package's interface begin with
names that it relies on, and a function bears such a name exactly when the name of some method becomes it. -/
theorem interface_captures_iff {settings : Settings} {d : Description} {p : Project}
    (rendered : package settings d = .ok p) :
    ∃ enums models interface others name decl,
      p.files = enums :: models :: interface :: others ∧ interface.classes = [(name, decl)] ∧
      (∀ f ∈ decl.functions.values, ∀ text ∈ f.decorators,
        ∃ used ∈ decoratorNames d.interface.methods, ∃ rest, text = "@" ++ used ++ "(" ++ rest) ∧
      ∀ used ∈ reliedOn d.interface.methods,
        (∃ f ∈ decl.functions.values, f.name = used) ↔
          ∃ m ∈ d.interface.methods, argumentName m.name = used := by
  obtain ⟨models, interface, others, _, file, files⟩ := package_eq_ok rendered
  obtain ⟨bare, each, classes, _⟩ := interfaceFile_functions file
  refine ⟨_, models, interface, others, _, _, files, classes, ?_, ?_⟩
  · intro f hf text ht
    obtain ⟨named, heq, own, _⟩ := renamed_nameFunctions [] bare
    rw [heq, List.nil_append] at hf
    obtain ⟨name, hf⟩ := Fields.mem_values.mp hf
    obtain ⟨g, hg, same⟩ := exists_of_mem_right own hf
    obtain ⟨m, hm, made⟩ := exists_of_mem_right each hg
    obtain ⟨_, _, _, _, _, rfl⟩ := methodFunction_eq_ok made
    rw [show f = _ from same] at ht
    exact exists_decoratorName hm ht
  · intro used hused
    exact exists_function_iff each (lowLine_not_mem_reliedOn hused)

/-- A document with an operation called `get`, and another one with this verb. -/
def getRoot : Value :=
  .object [("paths", .object [
    ("/pets", .object [("get", .object [("operationId", .str "get")])]),
    ("/cats", .object [("get", .object [("operationId", .str "cats")])])])]

/-- What is generated from it. -/
abbrev getDescription : Description := (describe .none {} (Document.read .none getRoot).1).1

theorem methods_get : getDescription.interface.methods =
    [{ name := "get", verb := .get, path := "pets", returns := .noPayload },
     { name := "cats", verb := .get, path := "cats", returns := .noPayload }] := rfl

theorem package_get : ∃ p, package {} getDescription = .ok p :=
  exists_defaultPackage ..

/-- The decorator `get` is used. -/
theorem used_get : "get" ∈ reliedOn getDescription.interface.methods := by
  rw [methods_get]
  exact List.mem_append_left _ (List.mem_append_left _ List.mem_cons_self)

/-- One of the methods is called so. -/
theorem called_get : ∃ m ∈ getDescription.interface.methods, argumentName m.name = "get" := by
  rw [methods_get]
  exact ⟨_, List.mem_cons_self, by decide +kernel⟩

/-- Its interface has a function called `get`, the name of the decorator that follows. -/
theorem interface_captures_get :
    ∃ p enums models interface others name decl, package {} getDescription = .ok p ∧
      p.files = enums :: models :: interface :: others ∧ interface.classes = [(name, decl)] ∧
      "get" ∈ reliedOn getDescription.interface.methods ∧
      ∃ f ∈ decl.functions.values, f.name = "get" := by
  obtain ⟨p, rendered⟩ := package_get
  obtain ⟨enums, models, interface, others, name, decl, files, classes, _, captures⟩ :=
    interface_captures_iff rendered
  exact ⟨p, enums, models, interface, others, name, decl, rendered, files, classes, used_get,
    (captures "get" used_get).mpr called_get⟩

/-- Whether no function of the interface bears a name that it relies on. -/
def HygienicInterface (settings : Settings) (d : Description) : Prop :=
  ∀ p, package settings d = .ok p → ∃ enums models interface others name decl,
    p.files = enums :: models :: interface :: others ∧ interface.classes = [(name, decl)] ∧
    ∀ f ∈ decl.functions.values, f.name ∉ reliedOn d.interface.methods

/-- The interface is not always free of them: the function `get` hides the decorator of the next one. -/
theorem not_hygienicInterface : ¬ HygienicInterface {} getDescription := by
  intro hygienic
  obtain ⟨p, rendered⟩ := package_get
  obtain ⟨_, _, interface, _, name, decl, files, classes, apart⟩ := hygienic p rendered
  obtain ⟨_, _, file⟩ := files_of_package rendered files
  obtain ⟨bare, each, classes', _⟩ := interfaceFile_functions file
  have same := (List.cons.inj (classes.symm.trans classes')).1
  obtain rfl := (Prod.mk.inj same).2
  have plain : '_' ∉ "get".toList := by decide
  obtain ⟨f, hf, own⟩ := (exists_function_iff each plain).mpr called_get
  apply apart f hf
  rw [own]
  exact used_get

/-! ## The classes of the types -/

/-- What the files of the models and the enumerations import and rely on. -/
def typeNames : List String :=
  ["Any", "List", "Optional", "BaseModel", "ConfigDict", "Field", "Enum", "int", "float", "str", "bool"]

namespace ModelNaming

/-- What has been named so far against one class name that is not an enumeration's and that no renaming
leads to: where it is taken a model has it, and no model has it but by its own name. -/
structure Owns (c : String) (models : List ModelType) (naming : ModelNaming) : Prop where
  own : ∀ name, (name, c) ∈ naming.given → className name = c
  taken : c ∈ naming.taken → c ∈ naming.given.values
  named : ∀ m ∈ models, className m.name = c → c ∈ naming.given.values

variable {enumClasses : List String} {naming : ModelNaming} {models : List ModelType} {c : String}

/-- No model is renamed to a name that does not begin with `Model`. -/
theorem renamedModel_ne (plain : ¬ "Model".toList <+: c.toList) (taken : List String) (name : String) :
    renamedModel taken name ≠ c := by
  rintro rfl
  obtain ⟨n, chosen⟩ := exists_freshName_eq taken (underlined ("Model" ++ name))
  apply plain
  rw [renamedModel, chosen, underlined, String.toList_append, String.toList_append, List.append_assoc]
  exact List.prefix_append _ _

/-- What naming one model more means for such a class name: the model is passed over, and then it has another
name or the name is taken, or it is given a class, and then this one exactly when it is its own. -/
theorem add_owned (plain : ¬ "Model".toList <+: c.toList) (apart : c ∉ enumClasses) (naming : ModelNaming)
    (m : ModelType) :
    naming.add enumClasses m = naming ∧ (className m.name = c → c ∈ naming.taken) ∨
    ∃ x, (naming.add enumClasses m).taken = naming.taken ++ [x] ∧
      (naming.add enumClasses m).given = naming.given.put m.name x ∧ (x = c ↔ className m.name = c) := by
  simp only [add, List.contains_iff_mem, List.isEmpty_iff]
  by_cases clash : className m.name ∈ enumClasses
  · have other : className m.name ≠ c := by
      rintro rfl
      exact apart clash
    by_cases bare : m.fields = []
    · left
      simp only [clash, bare, if_true]
      exact ⟨trivial, fun same => absurd same other⟩
    · right
      simp only [clash, bare, if_true, if_false]
      exact ⟨_, rfl, rfl, iff_of_false (renamedModel_ne plain _ _) other⟩
  · by_cases used : className m.name ∈ naming.taken
    · left
      simp only [clash, used, if_true, if_false]
      refine ⟨trivial, ?_⟩
      rintro rfl
      exact used
    · right
      simp only [clash, used, if_false]
      exact ⟨_, rfl, rfl, Iff.rfl⟩

/-- Naming one model more keeps to it. -/
theorem Owns.add (h : naming.Owns c models) (names : naming.given.names.Nodup)
    (plain : ¬ "Model".toList <+: c.toList) (apart : c ∉ enumClasses) (m : ModelType) :
    (naming.add enumClasses m).Owns c (models ++ [m]) := by
  rcases add_owned plain apart naming m with ⟨same, passed⟩ | ⟨x, taken, given, own⟩
  · rw [same]
    refine ⟨h.own, h.taken, ?_⟩
    intro m' hm' called
    rcases List.mem_append.mp hm' with before | last
    · exact h.named m' before called
    · rw [List.mem_singleton.mp last] at called
      exact h.taken (passed called)
  · have put : ∀ {p}, p ∈ naming.given.put m.name x ↔ p = (m.name, x) ∨ p.1 ≠ m.name ∧ p ∈ naming.given :=
      Fields.mem_put names
    have new : x = c → c ∈ (naming.given.put m.name x).values := by
      rintro rfl
      exact Fields.mem_values.mpr ⟨m.name, put.mpr (.inl rfl)⟩
    -- a name that has the class keeps it: were it this model's, the model would be given the class again
    have stays : c ∈ naming.given.values → c ∈ (naming.given.put m.name x).values := by
      intro old
      obtain ⟨name, old⟩ := Fields.mem_values.mp old
      by_cases here : name = m.name
      · exact new (own.mpr (here ▸ h.own name old))
      · exact Fields.mem_values.mpr ⟨name, put.mpr (.inr ⟨here, old⟩)⟩
    constructor
    · intro name hname
      rw [given] at hname
      rcases put.mp hname with here | ⟨_, old⟩
      · obtain ⟨rfl, rfl⟩ := Prod.mk.inj here
        exact own.mp rfl
      · exact h.own name old
    · intro htaken
      rw [taken] at htaken
      rw [given]
      rcases List.mem_append.mp htaken with old | here
      · exact stays (h.taken old)
      · exact new (List.mem_singleton.mp here).symm
    · intro m' hm' called
      rw [given]
      rcases List.mem_append.mp hm' with before | last
      · exact stays (h.named m' before called)
      · rw [List.mem_singleton.mp last] at called
        exact new (own.mpr called)

end ModelNaming

/-- Naming all models keeps to it. -/
theorem nameModels_owns {enumClasses : List String} {c : String} (plain : ¬ "Model".toList <+: c.toList)
    (apart : c ∉ enumClasses) (models : List ModelType) : (nameModels enumClasses models).Owns c models := by
  induction models using List.reverseRecOn with
  | nil =>
    constructor
    · intro _ h
      cases h
    · intro h
      exact absurd h apart
    · intro _ h
      cases h
  | append_singleton models m ih =>
    rw [nameModels_concat]
    exact ih.add (nameModels_sound enumClasses models).names plain apart m

variable {d : Description} {c : String}

/-- The class names of the enumerations are those that their names become. -/
theorem mem_enumClasses : c ∈ (enumsByClass d.enums).names ↔ ∃ e ∈ d.enums, className e.name = c := by
  rw [enumsByClass_eq, mem_names_keepFirst]
  simp only [Option.some.injEq]

/-- A class name that no renaming leads to is a model's exactly when some model's name becomes it and no
enumeration's does. -/
theorem mem_modelClasses (plain : ¬ "Model".toList <+: c.toList) :
    c ∈ (modelsByClass (namesOf d) d.models).names ↔
      (∃ m ∈ d.models, className m.name = c) ∧ ∀ e ∈ d.enums, className e.name ≠ c := by
  have sound := nameModels_sound (enumClassNames d.enums).values d.models
  rw [← ClassNames.mem_values_models]
  constructor
  · intro h
    have apart : c ∉ (enumClassNames d.enums).values := sound.apart c h
    obtain ⟨name, given⟩ := Fields.mem_values.mp h
    obtain ⟨m, hm, rfl⟩ := sound.named name (Fields.mem_names.mpr ⟨c, given⟩)
    refine ⟨⟨m, hm, (nameModels_owns plain apart d.models).own m.name given⟩, ?_⟩
    intro e he called
    rw [values_enumClassNames] at apart
    exact apart (mem_enumClasses.mpr ⟨e, he, called⟩)
  · rintro ⟨⟨m, hm, called⟩, others⟩
    have apart : c ∉ (enumClassNames d.enums).values := by
      intro enum
      rw [values_enumClassNames] at enum
      obtain ⟨e, he, called⟩ := mem_enumClasses.mp enum
      exact others e he called
    exact (nameModels_owns plain apart d.models).named m hm called

/-- No name that the types rely on is one that a renaming leads to. -/
theorem plain_of_mem_typeNames (h : c ∈ typeNames) : ¬ "Model".toList <+: c.toList := by
  have each : ∀ c ∈ typeNames, ¬ "Model".toList <+: c.toList := by decide
  exact each c h

/-- The classes of the file of the enumerations have the names that they are kept under. -/
theorem exists_enumClass_iff {enums : List EnumType} :
    (∃ decl ∈ (enumsFile enums).classes.values, decl.name = c) ↔ c ∈ (enumsByClass enums).names := by
  simp only [enumsFile, Fields.values, Fields.names, List.map_map, List.mem_map]
  constructor
  · rintro ⟨_, ⟨p, hp, rfl⟩, rfl⟩
    exact ⟨p, hp, rfl⟩
  · rintro ⟨p, hp, rfl⟩
    exact ⟨_, ⟨p, hp, rfl⟩, rfl⟩

/-- The classes of the file of the models have the names that they are kept under. -/
theorem exists_modelClass_iff {names : ClassNames} {models : List ModelType} {f : File}
    (file : modelsFile names models = .ok f) :
    (∃ decl ∈ f.classes.values, decl.name = c) ↔ c ∈ (modelsByClass names models).names := by
  obtain ⟨each, _⟩ := modelsFile_eq_ok file
  constructor
  · rintro ⟨decl, hdecl, rfl⟩
    obtain ⟨kept, hdecl⟩ := Fields.mem_values.mp hdecl
    obtain ⟨p, hp, _, made⟩ := exists_of_mem_right each hdecl
    obtain ⟨_, _, rfl⟩ := modelClass_eq_ok made
    exact List.mem_map_of_mem hp
  · intro h
    obtain ⟨m, hm⟩ := Fields.mem_names.mp h
    obtain ⟨q, hq, _, made⟩ := exists_of_mem_left each hm
    refine ⟨q.2, List.mem_map_of_mem hq, ?_⟩
    obtain ⟨_, _, heq⟩ := modelClass_eq_ok made
    rw [heq]

/-- **Which classes hide what the types rely on**: a class of an enumeration bears such a name exactly when
the name of some enumeration becomes it, and a class of a model exactly when that of some model does and that
of no enumeration. -/
theorem classes_capture_iff {settings : Settings} {p : Project} (rendered : package settings d = .ok p) :
    ∃ enums models interface others, p.files = enums :: models :: interface :: others ∧
      ∀ used ∈ typeNames,
        ((∃ decl ∈ enums.classes.values, decl.name = used) ↔ ∃ e ∈ d.enums, className e.name = used) ∧
        ((∃ decl ∈ models.classes.values, decl.name = used) ↔
          (∃ m ∈ d.models, className m.name = used) ∧ ∀ e ∈ d.enums, className e.name ≠ used) := by
  obtain ⟨models, interface, others, file, _, files⟩ := package_eq_ok rendered
  refine ⟨_, models, interface, others, files, ?_⟩
  intro used hused
  constructor
  · rw [exists_enumClass_iff, mem_enumClasses]
  · rw [exists_modelClass_iff file, mem_modelClasses (plain_of_mem_typeNames hused)]

/-- A document that defines a type called `List`, which has a list. -/
def listRoot : Value :=
  .object [("definitions", .object [("List", .object [("properties", .object [
    ("names", .object [("type", .str "array"), ("items", .object [("type", .str "string")])])])])])]

/-- What is generated from it. -/
abbrev listDescription : Description := (describe .none {} (Document.read .none listRoot).1).1

theorem package_list : ∃ p, package {} listDescription = .ok p :=
  exists_defaultPackage ..

theorem models_list : ∃ m ∈ listDescription.models, className m.name = "List" := by decide +kernel

theorem enums_list : ∀ e ∈ listDescription.enums, className e.name ≠ "List" := by decide +kernel

/-- Its file of models has a class called `List`, the name that its own annotation uses. -/
theorem classes_capture_list :
    ∃ p enums models interface others, package {} listDescription = .ok p ∧
      p.files = enums :: models :: interface :: others ∧
      ∃ decl ∈ models.classes.values, decl.name = "List" := by
  obtain ⟨p, rendered⟩ := package_list
  obtain ⟨enums, models, interface, others, files, captures⟩ := classes_capture_iff rendered
  have used : "List" ∈ typeNames := by decide
  exact ⟨p, enums, models, interface, others, rendered, files,
    (captures "List" used).2.mpr ⟨models_list, enums_list⟩⟩

/-- Whether no class of the types bears a name that they rely on. -/
def HygienicTypes (settings : Settings) (d : Description) : Prop :=
  ∀ p, package settings d = .ok p → ∃ enums models interface others,
    p.files = enums :: models :: interface :: others ∧
    ∀ decl ∈ enums.classes.values ++ models.classes.values, decl.name ∉ typeNames

/-- The types are not always free of them: the class `List` hides the list of its annotation. -/
theorem not_hygienicTypes : ¬ HygienicTypes {} listDescription := by
  intro hygienic
  obtain ⟨p, rendered⟩ := package_list
  obtain ⟨_, models, _, _, files, apart⟩ := hygienic p rendered
  obtain ⟨_, file, _⟩ := files_of_package rendered files
  have used : "List" ∈ typeNames := by decide
  have kept := (mem_modelClasses (plain_of_mem_typeNames used)).mpr ⟨models_list, enums_list⟩
  obtain ⟨decl, hdecl, own⟩ := (exists_modelClass_iff file).mpr kept
  apply apart decl (List.mem_append_right _ hdecl)
  rw [own]
  exact used

end TypedClient.Client
