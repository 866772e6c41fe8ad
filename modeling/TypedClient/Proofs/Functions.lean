import TypedClient.Proofs.Bindings

/-!
# The functions of the interface

The interface has a function for each method, and the function an argument for each parameter. Names that
clash are changed: a number goes behind the name of a function, low lines go behind that of an argument,
until the name is free. The functions are kept by their names, so a name that is not free would lose one.

**What is proved.** `interface_written`: from methods whose types are filled the interface is written exactly
when no result is made of a reference without a name. Then every change of a name ends at the first free
candidate, there is one function for each method and none takes the place of another, and one argument
for each parameter behind `self`. A signature has the arguments without a default before those with one,
both in the order of the parameters. `namelessMethod` shows that the condition on the results is needed.

A parameter may well refer to something without a name: its type hint is `Any`.
-/

namespace TypedClient

namespace Api

/-- Every list and every deferred result has an item, and every scalar its primitive. A reference may lack
its name. -/
def TypeRef.Filled (t : TypeRef) : Prop := match t with
  | ⟨.primitive, primitive, _, _, _⟩ => primitive.isSome
  | ⟨.reference, _, _, _, _⟩ => True
  | ⟨_, _, _, some item, _⟩ => item.Filled
  | ⟨_, _, _, none, _⟩ => False
termination_by structural t

/-- The types of the parameters and of the result of a method are filled. -/
structure Method.Filled (m : Method) : Prop where
  parameters : ∀ p ∈ m.parameters, p.type.Filled
  returns : m.returns.Filled

end Api

namespace Client

open Api Source

variable {names : ClassNames}

/-! ## What can be written -/

/-- A type has a type hint exactly when it is filled. -/
theorem exists_typeHint_iff (names : ClassNames) (t : TypeRef) :
    (∃ hint, typeHint names t = .ok hint) ↔ t.Filled := by
  fun_induction typeHint names t with
  | case1 => exact ⟨fun _ => rfl, fun _ => ⟨_, rfl⟩⟩
  | case2 =>
    refine iff_of_false ?_ Bool.false_ne_true
    rintro ⟨_, h⟩
    cases h
  | case3 => exact ⟨fun _ => trivial, fun _ => ⟨_, rfl⟩⟩
  | case4 _ _ item _ ih =>
    constructor
    · rintro ⟨_, h⟩
      obtain ⟨inner, made, _⟩ := bind_eq_ok.mp h
      exact ih.mp ⟨inner, made⟩
    · intro filled
      obtain ⟨inner, made⟩ := ih.mpr filled
      exact ⟨_, bind_eq_ok.mpr ⟨inner, made, rfl⟩⟩
  | case5 _ _ item _ ih => exact ih
  | case6 kind primitive name nullable hp hn hr =>
    -- no item: the earlier cases have the scalars and the references
    refine iff_of_false ?_ fun filled => ?_
    · rintro ⟨_, h⟩
      cases h
    · cases kind with
      | primitive => cases primitive <;> simp at hp hn
      | reference => exact absurd rfl hr
      | list => exact filled.elim
      | deferred => exact filled.elim

/-- The result of a method is not made of a reference that lacks its name. -/
def NamesResult (m : Method) : Prop :=
  ∀ t target, payload m.returns = some t → payloadTarget t = some target → target.kind = .reference →
    target.name.isSome

/-- The model of a result can be looked up exactly when the result is not made of a reference without a name. -/
theorem exists_responseModel_iff (names : ClassNames) (t : TypeRef) :
    (∃ model, responseModel names t = .ok model) ↔
      ∀ target, payloadTarget t = some target → target.kind = .reference → target.name.isSome := by
  unfold responseModel
  split
  · next found =>
    refine ⟨fun _ target made _ => ?_, fun _ => ⟨_, rfl⟩⟩
    cases found.symm.trans made
    rfl
  · next found =>
    refine iff_of_false ?_ fun named => ?_
    · rintro ⟨_, h⟩
      cases h
    · cases named _ found rfl
  · next named nameless =>
    refine ⟨fun _ target made reference => ?_, fun _ => ⟨_, rfl⟩⟩
    obtain ⟨kind, primitive, name, item, nullable⟩ := target
    cases reference
    cases name with
    | some name => rfl
    | none => exact absurd made (nameless _ _ _)

theorem payload_filled {t p : TypeRef} (h : t.Filled) (delivered : payload t = some p) : p.Filled := by
  obtain ⟨kind, primitive, name, item, nullable⟩ := t
  cases kind <;> cases delivered <;> exact h

/-- A method with filled types has a function exactly when its result is not made of a reference without a
name. -/
theorem exists_methodFunction_iff (names : ClassNames) {m : Method} (filled : m.Filled) :
    (∃ f, methodFunction names m = .ok f) ↔ NamesResult m := by
  constructor
  · rintro ⟨f, made⟩ t target delivered
    obtain ⟨_, model, _, _, delivers, _⟩ := methodFunction_eq_ok made
    cases delivers with
    | nothing none => cases none.symm.trans delivered
    | result t' _ delivered' found =>
      cases delivered'.symm.trans delivered
      exact (exists_responseModel_iff names t).mp ⟨model, found⟩ target
  · intro named
    have each : ∀ p ∈ namedParameters m, ∃ a, argument names p = .ok a := by
      intro p hp
      obtain ⟨hint, hh⟩ := (exists_typeHint_iff names _).mpr (filled.parameters p.2 (List.of_mem_zip hp).2)
      exact ⟨_, bind_eq_ok.mpr ⟨hint, hh, rfl⟩⟩
    obtain ⟨arguments, ha⟩ := exists_mapM_eq_ok each
    simp only [methodFunction, ha, ok_bind]
    cases delivered : payload m.returns with
    | none => exact ⟨_, rfl⟩
    | some t =>
      obtain ⟨model, hm⟩ := (exists_responseModel_iff names t).mpr fun target => named t target delivered
      obtain ⟨hint, hh⟩ := (exists_typeHint_iff names t).mpr (payload_filled filled.returns delivered)
      simp only [hm, hh, ok_bind]
      exact ⟨_, rfl⟩

theorem exists_interfaceFile_iff (names : ClassNames) (name description : String) {methods : List Method}
    (filled : ∀ m ∈ methods, m.Filled) :
    (∃ file, interfaceFile names name description methods = .ok file) ↔ ∀ m ∈ methods, NamesResult m := by
  constructor
  · rintro ⟨file, written⟩ m member
    obtain ⟨bare, each, _⟩ := interfaceFile_functions written
    obtain ⟨f, _, made⟩ := exists_of_mem_left each member
    exact (exists_methodFunction_iff names (filled m member)).mp ⟨f, made⟩
  · intro named
    have each : ∀ m ∈ methods, ∃ f, methodFunction names m = .ok f := fun m member =>
      (exists_methodFunction_iff names (filled m member)).mpr (named m member)
    obtain ⟨functions, made⟩ := exists_mapM_eq_ok each
    simp only [interfaceFile, interfaceClass, made, ok_bind]
    exact ⟨_, rfl⟩

/-! ## Signatures -/

/-- A signature has the parameters of its function, those without a default before those with one, and both in
the order in which the function has them. -/
structure InOrder (signature parameters : List Parameter) : Prop where
  same : signature.Perm parameters
  defaultsLast : signature.Pairwise fun p q => p.default.isSome = true → q.default.isSome = true
  kept : ∀ given, signature.filter (·.default.isSome == given) = parameters.filter (·.default.isSome == given)

theorem signature_inOrder (f : FunctionDecl) : InOrder f.signature f.parameters := by
  have without : f.parameters.filter (·.default.isNone) = f.parameters.filter (·.default.isSome == false) := by
    refine List.filter_congr fun p _ => ?_
    cases p.default <;> rfl
  have given : f.parameters.filter (·.default.isSome) = f.parameters.filter (·.default.isSome == true) := by
    refine List.filter_congr fun p _ => ?_
    cases p.default <;> rfl
  refine ⟨signature_perm f, ?_, fun b => ?_⟩
  · refine List.pairwise_append.mpr ⟨?_, ?_, ?_⟩
    · refine List.pairwise_of_forall_mem_list fun p hp q _ has => ?_
      have none := (List.mem_filter.mp hp).2
      rw [Option.isNone_iff_eq_none.mp none] at has
      cases has
    · exact List.pairwise_of_forall_mem_list fun p _ q hq _ => (List.mem_filter.mp hq).2
    · exact fun p _ q hq _ => (List.mem_filter.mp hq).2
  · rw [FunctionDecl.signature, without, given, List.filter_append, List.filter_filter, List.filter_filter]
    cases b <;> simp [Bool.and_comm]

/-! ## Functions and arguments -/

/-- An argument for a parameter: its type hint, and `None` as its default when the type may be null. -/
def ArgumentFor (names : ClassNames) (p : MethodParameter) (a : Parameter) : Prop :=
  ∃ hint, typeHint names p.type = .ok hint ∧ a.hint = some hint ∧
    a.default = if p.type.nullable then some "None" else none

/-- A function for a method: `self` and one argument for each parameter, all under names of their own. -/
structure FunctionFor (names : ClassNames) (m : Method) (f : FunctionDecl) : Prop where
  arguments : ∃ arguments, f.parameters = { name := "self" } :: arguments ∧
    List.Forall₂ (ArgumentFor names) m.parameters arguments ∧
    Renamed (fun p => underlined (argumentName p.name)) ["self"] m.parameters (arguments.map (·.name))
  distinct : (f.parameters.map (·.name)).Nodup
  selfFirst : ∃ rest, f.signature = { name := "self" } :: rest
  signature : InOrder f.signature f.parameters

theorem functionFor_of_methodFunction {m : Method} {f : FunctionDecl} (made : methodFunction names m = .ok f)
    (own : String) : FunctionFor names m { f with name := own } := by
  obtain ⟨arguments, _, _, each, _, rfl⟩ := methodFunction_eq_ok made
  have renamed := renamed_argumentNames ["self"] m.parameters
  rw [← names_arguments each] at renamed
  refine ⟨⟨arguments, rfl, ?_, renamed⟩, ?_, ⟨_, rfl⟩, signature_inOrder _⟩
  · refine (forall₂_of_zip (length_argumentNames ["self"] m.parameters) each).imp fun p a made => ?_
    obtain ⟨name, made⟩ := made
    obtain ⟨hint, hh, rfl⟩ := argument_eq_ok.mp made
    exact ⟨hint, hh, rfl, rfl⟩
  · exact List.nodup_cons.mpr ⟨fun self => renamed.not_mem _ self (List.mem_singleton_self _), renamed.nodup⟩

/-- The class of an interface: a function for each method, each known by a name of its own. To put the functions
into the class one after the other loses none. -/
structure InterfaceFor (names : ClassNames) (methods : List Method) (decl : ClassDecl) : Prop where
  functions : List.Forall₂ (FunctionFor names) methods decl.functions.values
  named : decl.functions.values.map (·.name) = decl.functions.names
  renamed : Renamed (fun m => numbered (argumentName m.name)) [] methods decl.functions.names
  distinct : decl.functions.names.Nodup
  kept : decl.functions.values.foldl ClassDecl.addFunction { decl with functions := [] } = decl

theorem foldl_addFunction (decl : ClassDecl) (functions : List FunctionDecl) :
    functions.foldl ClassDecl.addFunction decl =
      { decl with functions := decl.functions.putAll (functions.map fun f => (f.name, f)) } := by
  induction functions generalizing decl with
  | nil => rfl
  | cons f rest ih => exact ih _

theorem interfaceFor_of_interfaceFile {name description : String} {methods : List Method} {file : File}
    (written : interfaceFile names name description methods = .ok file) :
    ∃ decl, file.classes = [(name, decl)] ∧ decl.name = name ∧ InterfaceFor names methods decl := by
  obtain ⟨bare, each, classes, _⟩ := interfaceFile_functions written
  obtain ⟨functions, kept, own, renamed⟩ := renamed_nameFunctions [] bare
  rw [List.nil_append] at kept
  rw [kept] at classes
  have pairs : functions.values.map (fun f => (f.name, f)) = functions := by
    rw [Fields.values, List.map_map]
    refine (List.map_congr_left fun q hq => ?_).trans (List.map_id _)
    obtain ⟨g, _, same⟩ := exists_of_mem_right own hq
    exact congrArg (·, q.2) (congrArg FunctionDecl.name same)
  have distinct : functions.names.Nodup := renamed.nodup
  refine ⟨_, classes, rfl, ?_, ?_, ?_, distinct, ?_⟩
  · refine List.forall₂_map_right_iff.mpr ((forall₂_trans each own).imp fun m q made => ?_)
    obtain ⟨f, made, same⟩ := made
    rw [same]
    exact functionFor_of_methodFunction made q.1
  · have names := congrArg Fields.names pairs
    rwa [Fields.names, List.map_map] at names
  · exact renamed.of_same (each.imp fun m f made => congrArg numbered (name_methodFunction made))
  · rw [foldl_addFunction]
    dsimp only
    rw [pairs]
    exact congrArg (fun functions => ({ name, bases := ["ApiInterface"], description := some description
                                        functions } : ClassDecl)) (Fields.ofPairs_eq_self distinct)

/-- **The functions of an interface.** From methods whose types are filled an interface is written exactly when
no result is made of a reference without a name. It then has one class, with a function for each method in
order: their names, and those of the arguments of each of them, are found by going through the candidates up to
the first that is free. -/
theorem interface_written (names : ClassNames) (name description : String) {methods : List Method}
    (filled : ∀ m ∈ methods, m.Filled) :
    ((∃ file, interfaceFile names name description methods = .ok file) ↔ ∀ m ∈ methods, NamesResult m) ∧
      ∀ file, interfaceFile names name description methods = .ok file →
        ∃ decl, file.classes = [(name, decl)] ∧ decl.name = name ∧ InterfaceFor names methods decl :=
  ⟨exists_interfaceFile_iff names name description filled, fun _ => interfaceFor_of_interfaceFile⟩

/-- A method with a parameter called `self` and two others whose names become one. -/
def clashingMethod : Method :=
  { name := "find", verb := .get, path := "pets", returns := .noPayload
    parameters := [
      { name := "self", wireName := "self", type := (TypeRef.scalar .string).withNullable true, binding := .query },
      { name := "a-b", wireName := "a-b", type := .scalar .string, binding := .query },
      { name := "a.b", wireName := "a.b", type := .named "Pet", binding := .query }] }

/-- Twice the same method: two functions, each with three arguments behind `self`. -/
theorem interface_written_clashing :
    (∀ m ∈ [clashingMethod, clashingMethod], m.Filled ∧ NamesResult m) ∧
      ∃ file decl, interfaceFile {} "Pets" "" [clashingMethod, clashingMethod] = .ok file ∧
        file.classes = [("Pets", decl)] ∧ InterfaceFor {} [clashingMethod, clashingMethod] decl ∧
        decl.functions.map (fun q => (q.1, q.2.signature.map (·.name))) =
          [("find", ["self", "a_b", "a_b_", "self_"]), ("find_2", ["self", "a_b", "a_b_", "self_"])] := by
  have fine : clashingMethod.Filled ∧ NamesResult clashingMethod := by
    refine ⟨⟨?_, rfl⟩, ?_⟩
    · simp [clashingMethod, TypeRef.Filled, TypeRef.scalar, TypeRef.named, TypeRef.withNullable]
    · rintro _ _ ⟨⟩ ⟨⟩ ⟨⟩
  have all : ∀ m ∈ [clashingMethod, clashingMethod], m.Filled ∧ NamesResult m := by simp [fine]
  obtain ⟨written, holds⟩ := interface_written {} "Pets" "" fun m member => (all m member).1
  obtain ⟨file, made⟩ := written.mpr fun m member => (all m member).2
  obtain ⟨decl, classes, _, functions⟩ := holds file made
  have spelled : (interfaceFile {} "Pets" "" [clashingMethod, clashingMethod]).toOption.map (fun f =>
      f.classes.map fun c => c.2.functions.map fun q => (q.1, q.2.signature.map (·.name))) =
      some [[("find", ["self", "a_b", "a_b_", "self_"]), ("find_2", ["self", "a_b", "a_b_", "self_"])]] := by
    decide +kernel
  rw [made, toOption_ok, Option.map_some, classes] at spelled
  exact ⟨all, file, decl, made, classes, functions, (List.cons.inj (Option.some.inj spelled)).1⟩

/-! ## A result without a name -/

/-- Whether an interface is written from all methods whose types are filled. -/
def EveryInterfaceWritten : Prop :=
  ∀ (names : ClassNames) (name description : String) (methods : List Method), (∀ m ∈ methods, m.Filled) →
    ∃ file decl, interfaceFile names name description methods = .ok file ∧ file.classes = [(name, decl)] ∧
      InterfaceFor names methods decl

/-- A method whose result refers to something without a name. -/
def namelessMethod : Method :=
  { name := "find", verb := .get, path := "pets", returns := .deferred { kind := .reference } }

/-- Not every interface is written. -/
theorem not_everyInterfaceWritten : ¬ EveryInterfaceWritten := by
  intro every
  have filled : ∀ m ∈ [namelessMethod], m.Filled := by
    intro m member
    rw [List.mem_singleton.mp member]
    exact ⟨nofun, trivial⟩
  obtain ⟨_, _, written, _⟩ := every {} "Pets" "" [namelessMethod] filled
  have fails : interfaceFile {} "Pets" "" [namelessMethod] = .error .notIterable := rfl
  cases fails.symm.trans written

end Client

end TypedClient
