import TypedClient.Api.Describe
import TypedClient.Proofs.Completion
import TypedClient.Proofs.Rendering

/-!
# What the arguments of a method are bound to

The function of a method has an argument for each parameter, under a name that may not be the parameter's
own, and its decorator says to which part of the request each of them goes. The names are chosen in one
place and used in two, and the decorator has tables for the path and the query but a single place for the
body.

**What is proved.** `parameters_bound`: in every package the arguments of a function have distinct names,
and the decorator binds each of them once, under its name and as its parameter says, and binds nothing
else. A parameter for the body is bound when no other one follows it: a request has one body.
`twoBodiesRoot` shows that the condition is needed.
-/

namespace TypedClient.Client

open Schema Api Source

/-! ## The names of arguments -/

theorem names_namedParameters (m : Method) :
    (namedParameters m).map Prod.fst = argumentNames ["self"] m.parameters :=
  List.map_fst_zip (Nat.le_of_eq (length_argumentNames _ _))

/-- Arguments have the names that were chosen for them. -/
theorem names_arguments {names : ClassNames} {m : Method} {arguments : List Source.Parameter}
    (each : List.Forall₂ (fun p a => argument names p = .ok a) (namedParameters m) arguments) :
    arguments.map (·.name) = argumentNames ["self"] m.parameters := by
  rw [← names_namedParameters]
  refine (map_eq_map (each.imp fun p a made => ?_)).symm
  obtain ⟨hint, _, rfl⟩ := argument_eq_ok.mp made
  rfl

theorem parameters_namedParameters (m : Method) : (namedParameters m).map Prod.snd = m.parameters :=
  List.map_snd_zip (Nat.le_of_eq (length_argumentNames _ _).symm)

/-! ## Bindings -/

/-- What a decorator binds: arguments to names in the path and in the query, and arguments as the body. -/
structure Bindings where
  path : Fields String
  query : Fields String
  body : List String

namespace Bindings

/-- The arguments that are bound, each as often as it is. -/
def arguments (b : Bindings) : List String := b.path.names ++ b.query.names ++ b.body

/-- The parts of a decorator that say what is bound. -/
def spelled (b : Bindings) : List String :=
  (if b.path.isEmpty then [] else ["path_params=" ++ tableLiteral b.path])
    ++ (if b.query.isEmpty then [] else ["query=" ++ tableLiteral b.query])
    ++ b.body.map fun name => "body=" ++ Text.quote name

/-- An argument is bound as its parameter says. -/
def Binds (b : Bindings) (name : String) (p : MethodParameter) : Prop :=
  match p.binding with
  | .path => (name, p.wireName) ∈ b.path
  | .query => (name, p.wireName) ∈ b.query
  | .body => name ∈ b.body

/-- The bindings of named parameters; of several for the body the last one counts. -/
def ofParameters (parameters : List (String × MethodParameter)) : Bindings where
  path := boundTo .path parameters
  query := boundTo .query parameters
  body := (boundTo .body parameters).getLast?.toList.map Prod.fst

end Bindings

/-- A function and the bindings of its decorator against the method that they are made of, where some of the
named parameters are `due` to be bound. -/
structure ParametersBound (m : Method) (f : FunctionDecl) (parameters : List (String × MethodParameter))
    (b : Bindings) (due : String × MethodParameter → Prop) : Prop where
  /-- The parameters are those of the method, each with the name of its argument. -/
  named : parameters.map Prod.snd = m.parameters
  /-- The signature has an argument of each name, and `self`. -/
  signature : (f.signature.map (·.name)).Perm ("self" :: parameters.map Prod.fst)
  distinct : ("self" :: parameters.map Prod.fst).Nodup
  /-- The decorator says what is bound, and besides it nothing but what the result is made of. -/
  decorators : ∃ model many, f.decorators = methodDecorators m (b.spelled ++ responseArguments model many)
  /-- What is due is bound as it should be, and only once. -/
  once : ∀ q ∈ parameters, due q → b.Binds q.1 q.2 ∧ b.arguments.count q.1 = 1
  /-- What is bound is an argument, with the name that its parameter has in the request. -/
  path : ∀ bound ∈ b.path, ∃ q ∈ parameters, q.2.binding = .path ∧ bound = (q.1, q.2.wireName)
  query : ∀ bound ∈ b.query, ∃ q ∈ parameters, q.2.binding = .query ∧ bound = (q.1, q.2.wireName)
  body : ∀ name ∈ b.body, ∃ q ∈ parameters, q.2.binding = .body ∧ name = q.1

/-- A parameter that no later one takes the place of: one for the body is not followed by another. -/
def Lasts (parameters : List (String × MethodParameter)) (q : String × MethodParameter) : Prop :=
  ∃ before after, parameters = before ++ q :: after ∧
    (q.2.binding = .body → ∀ r ∈ after, r.2.binding ≠ .body)

variable {parameters : List (String × MethodParameter)}

theorem mem_boundTo {part : Binding} {bound : String × String} :
    bound ∈ boundTo part parameters ↔ ∃ q ∈ parameters, q.2.binding = part ∧ bound = (q.1, q.2.wireName) := by
  simp only [boundTo, List.mem_map, List.mem_filter, beq_iff_eq, and_assoc, eq_comm (a := bound)]

/-- What is bound as the body is bound to it. -/
theorem mem_body {name : String} (h : name ∈ (Bindings.ofParameters parameters).body) :
    ∃ q ∈ parameters, q.2.binding = .body ∧ name = q.1 := by
  obtain ⟨bound, last, rfl⟩ := List.mem_map.mp h
  obtain ⟨q, member, body, rfl⟩ := mem_boundTo.mp (List.mem_of_getLast? (Option.mem_toList.mp last))
  exact ⟨q, member, body, rfl⟩

/-- The decorator of named parameters says what their bindings are. -/
theorem spelled_ofParameters (parameters : List (String × MethodParameter)) :
    (Bindings.ofParameters parameters).spelled = bindingArguments parameters := by
  simp only [Bindings.spelled, Bindings.ofParameters, bindingArguments]
  cases (boundTo .body parameters).getLast? with
  | none => rfl
  | some last => rfl

theorem nodup_names_boundTo (distinct : (parameters.map Prod.fst).Nodup) (part : Binding) :
    (boundTo part parameters).names.Nodup := by
  rw [Fields.names, boundTo, List.map_map]
  exact distinct.sublist (List.filter_sublist.map Prod.fst)

/-- Parameters with distinct names are bound to one part of the request each. -/
theorem disjoint_boundTo (distinct : (parameters.map Prod.fst).Nodup) {part other : Binding} {name : String}
    (here : name ∈ (boundTo part parameters).names) (there : name ∈ (boundTo other parameters).names) :
    part = other := by
  obtain ⟨_, here⟩ := Fields.mem_names.mp here
  obtain ⟨_, there⟩ := Fields.mem_names.mp there
  obtain ⟨q, hq, rfl, named⟩ := mem_boundTo.mp here
  obtain ⟨r, hr, rfl, named'⟩ := mem_boundTo.mp there
  have same : q.1 = r.1 := (Prod.mk.inj named).1.symm.trans (Prod.mk.inj named').1
  rw [List.inj_on_of_nodup_map distinct hq hr same]

/-- No argument is bound twice. -/
theorem nodup_arguments (distinct : (parameters.map Prod.fst).Nodup) :
    (Bindings.ofParameters parameters).arguments.Nodup := by
  have bodyNames : ∀ name ∈ (Bindings.ofParameters parameters).body, name ∈ (boundTo .body parameters).names := by
    intro name h
    obtain ⟨q, member, body, rfl⟩ := mem_body h
    exact Fields.mem_names.mpr ⟨_, mem_boundTo.mpr ⟨q, member, body, rfl⟩⟩
  have bodyNodup : (Bindings.ofParameters parameters).body.Nodup := by
    rw [Bindings.ofParameters]
    cases (boundTo .body parameters).getLast? with
    | none => exact List.nodup_nil
    | some last => exact List.nodup_singleton _
  apply List.nodup_append'.mpr
  refine ⟨List.nodup_append'.mpr ⟨?_, ?_, ?_⟩, bodyNodup, ?_⟩
  · exact nodup_names_boundTo distinct .path
  · exact nodup_names_boundTo distinct .query
  · intro name path query
    cases disjoint_boundTo distinct path query
  · intro name tables body
    rcases List.mem_append.mp tables with path | query
    · cases disjoint_boundTo distinct path (bodyNames name body)
    · cases disjoint_boundTo distinct query (bodyNames name body)

/-- A parameter that lasts is bound. -/
theorem binds_of_lasts {q : String × MethodParameter} (h : Lasts parameters q) :
    (Bindings.ofParameters parameters).Binds q.1 q.2 := by
  obtain ⟨before, after, rfl, last⟩ := h
  have member : q ∈ before ++ q :: after := List.mem_append_right _ List.mem_cons_self
  rw [Bindings.Binds]
  cases part : q.2.binding with
  | path => exact mem_boundTo.mpr ⟨q, member, part, rfl⟩
  | query => exact mem_boundTo.mpr ⟨q, member, part, rfl⟩
  | body =>
    have none : after.filter (·.2.binding == .body) = [] := by
      apply List.filter_eq_nil_iff.mpr
      intro r hr
      simpa using last part r hr
    have found : (boundTo .body (before ++ q :: after)).getLast? = some (q.1, q.2.wireName) := by
      rw [boundTo, List.filter_append, List.filter_cons_of_pos (by simpa using part), none, List.map_append,
        List.map_singleton, List.getLast?_append]
      rfl
    show q.1 ∈ ((boundTo .body (before ++ q :: after)).getLast?.toList).map Prod.fst
    rw [found]
    exact List.mem_singleton_self _

/-- There is one body at most. -/
theorem length_body_le (parameters : List (String × MethodParameter)) :
    (Bindings.ofParameters parameters).body.length ≤ 1 := by
  rw [Bindings.ofParameters, List.length_map]
  cases (boundTo .body parameters).getLast? <;> simp

/-- What is bound as a parameter says is among the arguments that are bound. -/
theorem mem_arguments_of_binds {b : Bindings} {name : String} {p : MethodParameter} (h : b.Binds name p) :
    name ∈ b.arguments := by
  rw [Bindings.Binds] at h
  rw [Bindings.arguments, List.mem_append, List.mem_append]
  split at h
  · exact .inl (.inl (Fields.mem_names.mpr ⟨_, h⟩))
  · exact .inl (.inr (Fields.mem_names.mpr ⟨_, h⟩))
  · exact .inr h

/-! ## The functions of an interface -/

/-- The arguments of a function are written in another order than that of the parameters. -/
theorem signature_perm (f : FunctionDecl) : f.signature.Perm f.parameters := by
  have rest : f.parameters.filter (·.default.isSome) = f.parameters.filter (!·.default.isNone) := by
    refine List.filter_congr fun p _ => ?_
    cases p.default <;> rfl
  rw [FunctionDecl.signature, rest]
  exact List.filter_append_perm _ f.parameters

/-- The function of a method binds its parameters. -/
theorem function_bound {names : ClassNames} {m : Method} {f : FunctionDecl} (h : methodFunction names m = .ok f)
    (own : String) :
    ParametersBound m { f with name := own } (namedParameters m) (.ofParameters (namedParameters m))
      (Lasts (namedParameters m)) := by
  obtain ⟨arguments, model, response, each, _, rfl⟩ := methodFunction_eq_ok h
  have renamed := renamed_argumentNames ["self"] m.parameters
  have names : arguments.map (·.name) = (namedParameters m).map Prod.fst :=
    (names_arguments each).trans (names_namedParameters m).symm
  have distinct : ((namedParameters m).map Prod.fst).Nodup := (names_namedParameters m).symm ▸ renamed.nodup
  constructor
  · exact parameters_namedParameters m
  · refine ((signature_perm _).map (·.name)).trans ?_
    rw [List.map_cons, names]
  · refine List.nodup_cons.mpr ⟨fun self => ?_, distinct⟩
    rw [names_namedParameters] at self
    exact renamed.not_mem _ self List.mem_cons_self
  · refine ⟨model, (payload m.returns).any (·.kind == .list), ?_⟩
    rw [spelled_ofParameters]
  · intro q _ lasts
    have bound := binds_of_lasts lasts
    refine ⟨bound, ?_⟩
    exact List.count_eq_one_of_mem (nodup_arguments distinct) (mem_arguments_of_binds bound)
  · exact fun _ => mem_boundTo.mp
  · exact fun _ => mem_boundTo.mp
  · exact fun _ => mem_body

/-- **Every parameter is bound**: in a package the function of each method has an argument for each of its
parameters, and its decorator binds each argument once, as its parameter says, and nothing else. Of several
parameters for the body only the last is bound. -/
theorem parameters_bound {settings : Settings} {d : Description} {p : Project}
    (rendered : package settings d = .ok p) :
    ∃ enums models interface others name decl,
      p.files = enums :: models :: interface :: others ∧ interface.classes = [(name, decl)] ∧
      List.Forall₂
        (fun m q => ∃ parameters b, ParametersBound m q.2 parameters b (Lasts parameters) ∧ b.body.length ≤ 1)
        d.interface.methods decl.functions := by
  obtain ⟨models, interface, others, _, file, files⟩ := package_eq_ok rendered
  obtain ⟨functions, each, classes, _⟩ := interfaceFile_eq_ok file
  refine ⟨_, models, interface, others, _, _, files, classes, each.imp fun m q hq => ?_⟩
  obtain ⟨f, made, placed⟩ := hq
  rw [placed]
  exact ⟨_, _, function_bound made q.1, length_body_le _⟩

/-- A document with an operation that has two parameters for the body. -/
def twoBodiesRoot : Value :=
  .object [("paths", .object [("/pets", .object [("post", .object [
    ("operationId", .str "add"),
    ("parameters", .list [
      .object [("name", .str "old"), ("in", .str "body")],
      .object [("name", .str "new"), ("in", .str "body")]])])])])]

/-- What is generated from it. -/
abbrev twoBodiesDescription : Description := (describe .none {} (Document.read .none twoBodiesRoot).1).1

/-- Its method. -/
def twoBodiesMethod : Method :=
  { name := "add", verb := .post, path := "pets", returns := .noPayload
    parameters := [
      { name := "old", wireName := "old", type := (TypeRef.named "Old").withNullable true, binding := .body },
      { name := "new", wireName := "new", type := (TypeRef.named "New").withNullable true, binding := .body }] }

theorem methods_twoBodies : twoBodiesDescription.interface.methods = [twoBodiesMethod] := rfl

theorem package_twoBodies : ∃ p, package {} twoBodiesDescription = .ok p :=
  exists_defaultPackage ..

/-- The parameters of the method, with the names of their arguments. -/
theorem named_twoBodies {parameters : List (String × MethodParameter)}
    (named : parameters.map Prod.snd = twoBodiesMethod.parameters) :
    ∃ q r, parameters = [q, r] ∧ q.2.binding = .body ∧ r.2.binding = .body := by
  obtain ⟨q, rest, rfl, old, named⟩ := List.map_eq_cons_iff.mp named
  obtain ⟨r, rest, rfl, new, named⟩ := List.map_eq_cons_iff.mp named
  cases List.map_eq_nil_iff.mp named
  refine ⟨q, r, rfl, ?_, ?_⟩
  · rw [old]
  · rw [new]

/-- Of its parameters for the body one is bound, the second. -/
theorem parameters_bound_twoBodies :
    ∃ p enums models interface others name decl, package {} twoBodiesDescription = .ok p ∧
      p.files = enums :: models :: interface :: others ∧ interface.classes = [(name, decl)] ∧
      ∃ f ∈ decl.functions.values, ∃ (b : Bindings) (q r : String × MethodParameter),
        ParametersBound twoBodiesMethod f [q, r] b (Lasts [q, r]) ∧ b.body = [r.1] := by
  obtain ⟨p, rendered⟩ := package_twoBodies
  obtain ⟨enums, models, interface, others, name, decl, files, classes, each⟩ := parameters_bound rendered
  rw [methods_twoBodies] at each
  obtain ⟨f, member, parameters, b, bound, single⟩ := exists_of_mem_left each List.mem_cons_self
  obtain ⟨q, r, rfl, _, body⟩ := named_twoBodies bound.named
  refine ⟨p, enums, models, interface, others, name, decl, rendered, files, classes,
    f.2, List.mem_map_of_mem member, b, q, r, bound, ?_⟩
  have lasts : Lasts [q, r] r := ⟨[q], [], rfl, fun _ _ h => nomatch h⟩
  obtain ⟨binds, _⟩ := bound.once r (by simp) lasts
  rw [Bindings.Binds, body] at binds
  obtain ⟨argument, only⟩ := List.length_eq_one_iff.mp (Nat.le_antisymm single (List.length_pos_of_mem binds))
  rw [only] at binds ⊢
  rw [List.mem_singleton.mp binds]

/-! ## A body that is left out -/

/-- Whether every parameter of every method is bound. -/
def EveryParameterBound (settings : Settings) (d : Description) : Prop :=
  ∀ p, package settings d = .ok p → ∃ enums models interface others name decl,
    p.files = enums :: models :: interface :: others ∧ interface.classes = [(name, decl)] ∧
    List.Forall₂ (fun m q => ∃ parameters b, ParametersBound m q.2 parameters b fun _ => True)
      d.interface.methods decl.functions

/-- The decorators of the functions of a file. -/
def functionDecorators (f : File) : List (List String) :=
  f.classes.flatMap fun c => c.2.functions.map fun g => g.2.decorators

/-- The decorator says nothing of the first parameter. -/
theorem decorators_twoBodies :
    (interfaceFile (namesOf twoBodiesDescription) (className twoBodiesDescription.interface.name)
      ("Методы API " ++ ({} : Settings).componentName.text) twoBodiesDescription.interface.methods).toOption.map
        functionDecorators = some [["@post('pets', body='new')"]] := by
  decide +kernel

theorem length_join_le_intercalate (separator : String) (parts : List String) :
    (String.join parts).length ≤ (separator.intercalate parts).length := by
  induction parts with
  | nil => exact Nat.zero_le _
  | cons part rest ih =>
    cases rest with
    | nil => simp [String.join_cons, String.intercalate_singleton]
    | cons next rest =>
      rw [String.intercalate_cons_cons, String.length_append, String.length_append, String.join_cons,
        String.length_append]
      omega

/-- What is bound as the body takes seven characters, or more. -/
theorem length_spelledBodies_le (names : List String) :
    7 * names.length ≤ (String.join (names.map fun name => "body=" ++ Text.quote name)).length := by
  induction names with
  | nil => exact Nat.zero_le _
  | cons name rest ih =>
    have five : "body=".length = 5 := by decide
    have marks : 2 ≤ (Text.quote name).length := by
      rw [Text.quote]
      simp
      omega
    rw [List.map_cons, String.join_cons, String.length_append, String.length_append, five, List.length_cons]
    omega

/-- A decorator is as long as what it binds requires. -/
theorem length_decorator_le (m : Method) (b : Bindings) (others : List String) :
    (Text.quote m.path).length + 7 * b.body.length ≤
      (", ".intercalate (Text.quote m.path :: (b.spelled ++ others))).length := by
  have bodies := length_spelledBodies_le b.body
  have whole := length_join_le_intercalate ", " (Text.quote m.path :: (b.spelled ++ others))
  simp only [Bindings.spelled, String.join_cons, String.join_append, String.length_append] at whole ⊢
  omega

/-- Not every parameter is bound. -/
theorem not_everyParameterBound : ¬ EveryParameterBound {} twoBodiesDescription := by
  intro every
  obtain ⟨p, rendered⟩ := package_twoBodies
  obtain ⟨_, _, interface, _, name, decl, files, classes, each⟩ := every p rendered
  obtain ⟨_, _, file⟩ := files_of_package rendered files
  have spelled := decorators_twoBodies
  rw [file] at spelled
  rw [methods_twoBodies] at each
  obtain ⟨f, member, parameters, b, bound⟩ := exists_of_mem_left each List.mem_cons_self
  have decorators : f.2.decorators = ["@post('pets', body='new')"] := by
    have here : f.2.decorators ∈ functionDecorators interface := by
      rw [functionDecorators, classes]
      exact List.mem_flatMap.mpr ⟨_, List.mem_singleton_self _, List.mem_map_of_mem member⟩
    rw [Option.some.inj spelled] at here
    exact List.mem_singleton.mp here
  obtain ⟨q, r, rfl, old, new⟩ := named_twoBodies bound.named
  have first := (bound.once q (by simp) trivial).1
  have second := (bound.once r (by simp) trivial).1
  rw [Bindings.Binds, old] at first
  rw [Bindings.Binds, new] at second
  have two : 2 ≤ b.body.length := by
    have nodup : [q.1, r.1].Nodup := (List.nodup_cons.mp bound.distinct).2
    have within : [q.1, r.1] ⊆ b.body := by simp [first, second]
    exact (List.subperm_of_subset nodup within).length_le
  obtain ⟨model, many, written⟩ := bound.decorators
  -- a decorator that binds two bodies would be longer than it is
  have long := length_decorator_le twoBodiesMethod b (responseArguments model many)
  rw [decorators] at written
  have lengths := congrArg String.length (List.cons.inj written).1
  have short : "@post('pets', body='new')".length = 25 := by decide
  have begins : ("@" ++ Verb.post.decorator ++ "(").length = 6 := by decide
  have ends : ")".length = 1 := by decide
  have path : (Text.quote "pets").length = 6 := by decide
  simp only [twoBodiesMethod] at lengths long
  rw [short, String.length_append, String.length_append, begins, ends] at lengths
  omega

end TypedClient.Client
