import TypedClient.Proofs.Provenance

/-!
# What a method declares and what it returns

The annotation of a method's result and the arguments of its decorator are computed apart. The one knows
every class that is generated, the other only those of the models, since a result is validated by a model.

**What is proved.** `results_declared`: `None` is declared exactly for a result without data, and then
there is no response model. Where the result leads to the class of a model this class is the response
model, `many` is set exactly when a list of it is declared, and otherwise the class itself is declared. So
what is declared is what the decorator returns, except where a result leads to no model: then nothing is
returned, and an enumeration or `Any` is declared, or a list of it. `colorRoot` is a document of this kind.
-/

namespace TypedClient

/-! ## Names that classes have -/

/-- A class name is valid or ends in `Model`. -/
theorem className_cases (s : String) :
    Text.isValidName (className s) = true ∨ ∃ named, className s = named ++ "Model" := by
  unfold className
  dsimp only
  split
  · next valid => exact .inl valid
  · generalize (if startsWithDigit (joinedWords s) = true then "Model" ++ joinedWords s else joinedWords s) = named
    split
    · next valid => exact .inl valid
    · exact .inr ⟨named, rfl⟩

/-- A text of five characters is neither `None` nor empty. -/
theorem named_of_length {s : String} (long : 5 ≤ s.length) : s ≠ "None" ∧ s ≠ "" := by
  constructor
  · rintro rfl
    exact absurd long (by decide)
  · rintro rfl
    exact absurd long (by decide)

theorem className_named (s : String) : className s ≠ "None" ∧ className s ≠ "" := by
  rcases className_cases s with valid | ⟨named, ends⟩
  · constructor
    · intro none
      have reserved : Text.isReserved (className s) = true := by
        rw [none]
        decide
      simp [Text.isValidName, reserved] at valid
    · exact Text.ne_empty_of_isValidName valid
  · apply named_of_length
    rw [ends, String.length_append]
    exact Nat.le_add_left 5 _

namespace Client

open Api Source

theorem renamedModel_named (taken : List String) (name : String) :
    renamedModel taken name ≠ "None" ∧ renamedModel taken name ≠ "" := by
  obtain ⟨n, chosen⟩ := exists_freshName_eq taken (underlined ("Model" ++ name))
  apply named_of_length
  rw [renamedModel, chosen, underlined, String.length_append, String.length_append]
  have five : "Model".length = 5 := by decide
  omega

/-- What a model is given, if it is given a class. -/
theorem given_add (enumClasses : List String) (naming : ModelNaming) (m : ModelType) :
    (naming.add enumClasses m).given = naming.given ∨
      ∃ c, (c ≠ "None" ∧ c ≠ "") ∧ (naming.add enumClasses m).given = naming.given.put m.name c := by
  unfold ModelNaming.add
  dsimp only
  split
  · split
    · exact .inl rfl
    · exact .inr ⟨_, renamedModel_named _ _, rfl⟩
  · split
    · exact .inl rfl
    · exact .inr ⟨_, className_named _, rfl⟩

theorem given_named (enumClasses : List String) (models : List ModelType) :
    ∀ c ∈ (nameModels enumClasses models).given.values, c ≠ "None" ∧ c ≠ "" := by
  induction models using List.reverseRecOn with
  | nil =>
    intro _ h
    cases h
  | append_singleton models m ih =>
    intro c hc
    rw [nameModels_concat] at hc
    rcases given_add enumClasses (nameModels enumClasses models) m with same | ⟨d, named, given⟩
    · rw [same] at hc
      exact ih c hc
    · rw [given] at hc
      rcases Fields.mem_values_put hc with rfl | hc
      · exact named
      · exact ih c hc

/-- No class is called `None`, and none goes without a name. -/
theorem class?_named {d : Description} {name c : String} (h : (namesOf d).class? name = some c) :
    c ≠ "None" ∧ c ≠ "" := by
  rcases ClassNames.class?_eq_some h with model | enum
  · exact given_named _ _ c model
  · rw [ClassNames.values_enums] at enum
    obtain ⟨e, he⟩ := Fields.mem_names.mp enum
    have named : className e.name = c := className_of_mem_enumsByClass he
    exact named ▸ className_named e.name

/-! ## Results -/

/-- The type of a result: nothing, what a name leads to, or a list of it. -/
def resultType : Option (String × Bool) → TypeRef
  | none => .noPayload
  | some (name, false) => .deferred (.named name)
  | some (name, true) => .deferred (.listOf (.named name))

/-- A type, or a list of it. -/
def listedIf (many : Bool) (c : String) : String := if many then "List[" ++ c ++ "]" else c

/-- What a decorator makes of a response: nothing without a response model, with it the model or, where it
is asked for many, a list of it. -/
def returnedType (model : Option String) (many : Bool) : String :=
  match model with
  | none => "None"
  | some c => listedIf many c

/-- What a function declares as its result, and what its decorator says about it. -/
structure ResultDeclared (names : ClassNames) (m : Method) (f : FunctionDecl) (model : Option String)
    (many : Bool) : Prop where
  decorators : f.decorators =
    methodDecorators m (bindingArguments (namedParameters m) ++ responseArguments model many)
  /-- `None` is declared exactly for a result without data. -/
  nothing : f.response = "None" ↔ m.returns = .noPayload
  /-- Where `None` is declared nothing is returned. -/
  silent : f.response = "None" → model = none
  /-- Many are asked for exactly when a list of the response model is declared. -/
  list : many = true ↔ ∃ c, model = some c ∧ f.response = "List[" ++ c ++ "]"
  /-- Otherwise the response model itself is declared. -/
  one : ∀ c, model = some c → many = false → f.response = c
  /-- The response model is the class of the model that the result leads to. -/
  found : ∀ c, model = some c ↔ c ∈ usedClasses names m.returns ∧ c ∈ names.models.values
  /-- A result that leads to no model is declared as an enumeration or as `Any`, or as a list of it. -/
  unmodelled : model = none → m.returns ≠ .noPayload → ∃ name isList c,
    m.returns = resultType (some (name, isList)) ∧ f.response = listedIf isList c ∧
      (names.class? name = none ∧ c = "Any" ∨ names.class? name = some c ∧ c ∈ names.enums.values)

variable {names : ClassNames} {m : Method} {f : FunctionDecl}

theorem exists_resultType (modelNames : List String) (o : Schema.Operation) :
    ∃ result, returnType modelNames o = resultType result := by
  unfold returnType
  split
  · dsimp only
    split
    · exact ⟨some (_, false), rfl⟩
    · exact ⟨none, rfl⟩
  · dsimp only
    split
    · exact ⟨some (_, true), rfl⟩
    · exact ⟨none, rfl⟩
  · exact ⟨none, rfl⟩

/-- The model class that a result leads to. -/
def modelOfResult (names : ClassNames) (result : Option (String × Bool)) : Option String :=
  result.bind fun r => (names.class? r.1).filter (names.models.values.contains ·)

/-- The text of what a method declares as its result. -/
def declaredResult (names : ClassNames) : Option (String × Bool) → String
  | none => "None"
  | some (name, many) => listedIf many ((names.class? name).getD "Any")

theorem text_of (c : String) : (TypeHint.of c).text = c := by
  unfold TypeHint.of
  simp [TypeHint.text, TypeHint.texts]

theorem text_listOf {a : TypeHint} (h : a.text ≠ "") :
    (TypeHint.group [a] (some "List")).text = "List[" ++ a.text ++ "]" := by
  simp [TypeHint.text, TypeHint.texts, h]

/-- The response model is the class of a model. -/
theorem modelOfResult_eq_some {result : Option (String × Bool)} {c : String} :
    modelOfResult names result = some c ↔
      ∃ r, result = some r ∧ names.class? r.1 = some c ∧ c ∈ names.models.values := by
  cases result with
  | none => simp [modelOfResult]
  | some r => simp [modelOfResult, Option.filter_eq_some_iff]

/-- What is delivered as a result: its response model, and how it is spelled. -/
theorem payload_resultType (named : ∀ name c, names.class? name = some c → c ≠ "")
    (result : Option (String × Bool)) :
    ∃ t hint, payload (resultType result) = some t ∧ (t.kind == .list) = result.any (·.2) ∧
      responseModel names t = .ok (modelOfResult names result) ∧ typeHint names t = .ok hint ∧
      hint.text = declaredResult names result := by
  rcases result with _ | ⟨name, _ | _⟩
  · exact ⟨_, _, rfl, rfl, rfl, rfl, rfl⟩
  · exact ⟨_, _, rfl, rfl, rfl, rfl, text_of _⟩
  · refine ⟨_, _, rfl, rfl, rfl, rfl, ?_⟩
    have spelled := text_of ((names.class? name).getD "Any")
    have nonempty : (names.class? name).getD "Any" ≠ "" := by
      cases known : names.class? name with
      | none => decide
      | some c => exact named name c known
    rw [← spelled] at nonempty
    refine (text_listOf nonempty).trans ?_
    rw [spelled]
    rfl

/-- What the function of a method declares, and what its decorator asks for. -/
theorem function_result {result : Option (String × Bool)} (h : methodFunction names m = .ok f)
    (named : ∀ name c, names.class? name = some c → c ≠ "") (returns : m.returns = resultType result) :
    f.response = declaredResult names result ∧
      f.decorators = methodDecorators m (bindingArguments (namedParameters m) ++
        responseArguments (modelOfResult names result) (result.any (·.2))) := by
  obtain ⟨arguments, model, response, _, delivers, rfl⟩ := methodFunction_eq_ok h
  obtain ⟨t, hint, delivered, list, found, spelled, text⟩ := payload_resultType named result
  rw [← returns] at delivered
  cases delivers with
  | nothing delivered' => cases delivered.symm.trans delivered'
  | result t' hint' delivered' found' spelled' text' =>
    cases delivered.symm.trans delivered'
    cases found.symm.trans found'
    cases spelled.symm.trans spelled'
    refine ⟨text'.trans text, ?_⟩
    rw [delivered, Option.any_some, list]

theorem usedClasses_resultType (names : ClassNames) (result : Option (String × Bool)) :
    usedClasses names (resultType result) = (result.bind fun r => names.class? r.1).toList := by
  rcases result with _ | ⟨name, _ | _⟩ <;> rfl

theorem resultType_eq_noPayload {result : Option (String × Bool)} :
    resultType result = .noPayload ↔ result = none := by
  rcases result with _ | ⟨name, _ | _⟩
  · simp [resultType]
  · simp [resultType, TypeRef.deferred, TypeRef.noPayload, TypeRef.named, TypeRef.scalar]
  · simp [resultType, TypeRef.deferred, TypeRef.noPayload, TypeRef.listOf, TypeRef.scalar]

theorem list_ne_none (c : String) : "List[" ++ c ++ "]" ≠ "None" := by
  intro h
  have lengths := congrArg String.length h
  simp only [String.length_append] at lengths
  have five : "List[".length = 5 := by decide
  have four : "None".length = 4 := by decide
  omega

/-- The class of a list is not the class. -/
theorem list_ne_self (c : String) : c ≠ "List[" ++ c ++ "]" := by
  intro h
  have lengths := congrArg String.length h
  simp only [String.length_append] at lengths
  have five : "List[".length = 5 := by decide
  omega

theorem listedIf_eq_list {many : Bool} {c : String} : listedIf many c = "List[" ++ c ++ "]" ↔ many = true := by
  cases many with
  | true => simp [listedIf]
  | false => simp [listedIf, list_ne_self]

theorem declaredResult_eq_none (named : ∀ name c, names.class? name = some c → c ≠ "None")
    {result : Option (String × Bool)} : declaredResult names result = "None" ↔ result = none := by
  rcases result with _ | ⟨name, _ | _⟩
  · simp [declaredResult]
  · have other : (names.class? name).getD "Any" ≠ "None" := by
      cases known : names.class? name with
      | none => decide
      | some c => exact named name c known
    simp [declaredResult, listedIf, other]
  · simp [declaredResult, listedIf, list_ne_none]

/-- The model that a result leads to is declared, or a list of it. -/
theorem declaredResult_of_model {result : Option (String × Bool)} {c : String}
    (h : modelOfResult names result = some c) : declaredResult names result = listedIf (result.any (·.2)) c := by
  obtain ⟨⟨name, many⟩, rfl, found, _⟩ := modelOfResult_eq_some.mp h
  rw [declaredResult, found]
  rfl

/-- A result that leads to no model leads to an enumeration, or to no class. -/
theorem class?_of_noModel {name : String} {isList : Bool} (h : modelOfResult names (some (name, isList)) = none) :
    names.class? name = none ∨ ∃ c, names.class? name = some c ∧ c ∈ names.enums.values := by
  cases found : names.class? name with
  | none => exact .inl rfl
  | some c =>
    refine .inr ⟨c, rfl, ?_⟩
    rcases ClassNames.class?_eq_some found with model | enum
    · cases h.symm.trans (modelOfResult_eq_some.mpr ⟨_, rfl, found, model⟩)
    · exact enum

/-- The function of a method declares its result. -/
theorem function_declares {d : Description} (h : methodFunction (namesOf d) m = .ok f)
    {modelNames : List String} {o : Schema.Operation} (returns : m.returns = returnType modelNames o) :
    ∃ model many, ResultDeclared (namesOf d) m f model many := by
  obtain ⟨result, typed⟩ := exists_resultType modelNames o
  have returns := returns.trans typed
  obtain ⟨response, decorators⟩ := function_result h (fun _ _ found => (class?_named found).2) returns
  have nothing : f.response = "None" ↔ result = none := by
    rw [response]
    exact declaredResult_eq_none fun _ _ found => (class?_named found).1
  refine ⟨modelOfResult (namesOf d) result, result.any (·.2) && (modelOfResult (namesOf d) result).isSome, ?_⟩
  constructor
  · rw [decorators]
    cases modelOfResult (namesOf d) result <;> simp [responseArguments]
  · rw [nothing, returns, resultType_eq_noPayload]
  · intro none
    rw [nothing.mp none]
    rfl
  · cases model : modelOfResult (namesOf d) result with
    | none => simp
    | some c => simp [response, declaredResult_of_model model, listedIf_eq_list]
  · intro c model notMany
    have one : result.any (·.2) = false := by simpa [model] using notMany
    rw [response, declaredResult_of_model model, one]
    rfl
  · intro c
    rw [returns, usedClasses_resultType, Option.mem_toList, modelOfResult_eq_some]
    cases result <;> simp
  · intro noModel data
    cases result with
    | none => exact absurd returns data
    | some r =>
      obtain ⟨name, isList⟩ := r
      refine ⟨name, isList, _, returns, response, ?_⟩
      rcases class?_of_noModel noModel with unknown | ⟨c, found, enum⟩
      · rw [unknown]
        exact .inl ⟨rfl, rfl⟩
      · rw [found]
        exact .inr ⟨rfl, enum⟩

/-- **A method declares what its decorator returns**, where its result leads to a model or has no data.
From every document and under all settings the file of the interface can be rendered, each of its functions
declares its result, and the file is the one that a package has. -/
theorem results_declared (links : Links) (settings config : Settings) (document : Schema.Document) :
    let d := (describe links settings document).1
    ∃ interface name decl,
      interfaceFile (namesOf d) (className d.interface.name) ("Методы API " ++ config.componentName.text)
        d.interface.methods = .ok interface ∧
      interface.classes = [(name, decl)] ∧
      List.Forall₂ (fun m p => ∃ model many, ResultDeclared (namesOf d) m p.2 model many)
        d.interface.methods decl.functions ∧
      ∀ p, package config d = .ok p →
        ∃ enums models others, p.files = enums :: models :: interface :: others := by
  intro d
  have wellFormed := describe_wellFormed links settings document
  obtain ⟨interface, rendered⟩ := exists_interfaceFile (namesOf d) (className d.interface.name)
    ("Методы API " ++ config.componentName.text) wellFormed.methods
  obtain ⟨functions, each, classes, _⟩ := interfaceFile_eq_ok rendered
  refine ⟨interface, _, _, rendered, classes, ?_, ?_⟩
  · refine ((List.forall₂_and_left _ _).mpr ⟨fun m hm => hm, each⟩).imp fun m p hp => ?_
    obtain ⟨hm, f, made, placed⟩ := hp
    -- every method is that of an operation
    have listed : d.interface.methods = document.endpoints.filterMap fun e =>
        (methodOf d.modelNames settings.headerOverrides e).toOption := (methods_eq ..).1
    rw [listed] at hm
    obtain ⟨e, _, found⟩ := List.mem_filterMap.mp hm
    have returns := (methodOf_eq_ok (toOption_eq_some.mp found)).2
    obtain ⟨model, many, declared⟩ := function_declares made returns
    rw [placed]
    exact ⟨model, many, { declared with }⟩
  · intro p hp
    obtain ⟨models, interface', others, _, rendered', files⟩ := package_eq_ok hp
    cases rendered.symm.trans rendered'
    exact ⟨_, models, others, files⟩

/-! ## A result without a model -/

/-- Whether every function declares what its decorator returns. -/
def EveryResultDeclared (links : Links) (settings config : Settings) (document : Schema.Document) : Prop :=
  let d := (describe links settings document).1
  ∀ interface, interfaceFile (namesOf d) (className d.interface.name)
      ("Методы API " ++ config.componentName.text) d.interface.methods = .ok interface →
    ∀ q ∈ interface.classes, ∀ p ∈ q.2.functions, ∃ m ∈ d.interface.methods, ∃ model many,
      p.2.response = returnedType model many ∧ p.2.decorators =
        methodDecorators m (bindingArguments (namedParameters m) ++ responseArguments model many)

/-- A document with an operation whose result is an enumeration. -/
def colorRoot : Value :=
  .object [
    ("definitions", .object [
      ("Color", .object [("type", .str "string"), ("enum", .list [.str "r"]),
        ("x-enumNames", .list [.str "Red"])]),
      ("Paint", .object [("properties", .object
        [("color", .object [("$ref", .str "#/definitions/Color")])])])]),
    ("paths", .object [("/color", .object [("get", .object [
      ("operationId", .str "color"),
      ("responses", .object [("200", .object
        [("schema", .object [("$ref", .str "#/definitions/Color")])])])])])])]

/-- What is generated from it. -/
abbrev colorDescription : Description := (describe .none {} (Schema.Document.read .none colorRoot).1).1

/-- What the functions of a file declare, with their decorators. -/
def declaredResults (f : File) : List (String × List String) :=
  f.classes.flatMap fun c => c.2.functions.map fun g => (g.2.response, g.2.decorators)

/-- The enumeration is declared, and the decorator has no response model. -/
theorem declaredResults_color :
    (interfaceFile (namesOf colorDescription) (className colorDescription.interface.name)
      ("Методы API " ++ ({} : Settings).componentName.text) colorDescription.interface.methods).toOption.map
        declaredResults = some [("Color", ["@get('color')"])] := by
  decide +kernel

/-- Its method. -/
def colorMethod : Method :=
  { name := "color", verb := .get, path := "color", returns := .deferred (.named "Color") }

theorem methods_color : colorDescription.interface.methods = [colorMethod] := rfl

/-- A result is declared that the decorator does not return. -/
theorem not_everyResultDeclared : ¬ EveryResultDeclared .none {} {} (Schema.Document.read .none colorRoot).1 := by
  intro every
  have results := declaredResults_color
  cases rendered : interfaceFile (namesOf colorDescription) (className colorDescription.interface.name)
      ("Методы API " ++ ({} : Settings).componentName.text) colorDescription.interface.methods with
  | error =>
    rw [rendered] at results
    exact nomatch results
  | ok interface =>
    rw [rendered] at results
    have member : ("Color", ["@get('color')"]) ∈ declaredResults interface := by
      rw [Option.some.inj results]
      exact List.mem_singleton_self _
    obtain ⟨q, hq, member⟩ := List.mem_flatMap.mp member
    obtain ⟨p, hp, declared⟩ := List.mem_map.mp member
    obtain ⟨m, hm, model, many, response, decorators⟩ := every interface rendered q hq p hp
    obtain ⟨color, bare⟩ := Prod.mk.inj declared
    rw [color] at response
    rw [bare] at decorators
    have only : m ∈ colorDescription.interface.methods := hm
    rw [methods_color] at only
    cases List.mem_singleton.mp only
    cases model with
    | none =>
      have other : "Color" ≠ "None" := by decide
      exact absurd response other
    | some c =>
      -- a response model would make the decorator longer than it is
      have lengths := congrArg (fun ds => (ds.map String.length).sum) decorators
      have unbound : bindingArguments (namedParameters colorMethod) = [] := rfl
      rw [unbound, List.nil_append] at lengths
      have long : "response_model=".length = 15 := by decide
      have short : "@get('color')".length = 13 := by decide
      cases many with
      | false =>
        simp [methodDecorators, responseArguments, String.intercalate_cons_cons,
          String.intercalate_singleton] at lengths
        omega
      | true =>
        simp [methodDecorators, responseArguments, String.intercalate_cons_cons,
          String.intercalate_singleton] at lengths
        omega

end Client

end TypedClient
