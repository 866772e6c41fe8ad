import TypedClient.Proofs.Plain
import TypedClient.Proofs.Watching
import Mathlib.Data.List.Perm.Basic

/-!
# Every operation is accounted for

A run steps over what is at fault, in several places and at several depths. Here a document without
links is taken apart the way it stands: its two parts, the definitions, the paths, and the entries, each
of them what stands under a verb of a path that is an object.

**What is proved.** `run_accounts`: the methods are those of the entries, in the order of the document,
and the failures are those of the parts, of the definitions, of the paths that are no objects and of the
entries, each counted once. So an entry ends up as one method or as one failure. It becomes a method when
its operation can be read and has an identifier.

The order of the failures is not the matter here: those of reading come before those of generation.
-/

namespace TypedClient

open Schema Api

/-! ## A document as it stands -/

/-- The fields of an object, and none of what is not present; a fault for anything else. -/
def Value.objectOr (fault : Fault) (v : Value) : Except Fault (Fields Value) :=
  match v with
  | .object fs => .ok fs
  | v => if v.truthy then .error fault else .ok []

/-- The definitions that a document states. -/
def statedDefinitions (root : Value) : Except Fault (Fields Value) := do
  let fields ← root.objectOr .notObject
  if (fields.value "definitions").truthy then
    (fields.value "definitions").objectOr (.partNotObject "definitions")
  else
    let components ← (fields.value "components").objectOr .notObject
    (components.value "schemas").objectOr (.partNotObject "definitions")

/-- The paths that a document states. -/
def statedPaths (root : Value) : Except Fault (Fields Value) := do
  let fields ← root.objectOr .notObject
  (fields.value "paths").objectOr (.partNotObject "paths")

/-- What stands under a verb of a path, with the parameters that the path shares. -/
structure Entry where
  path : String
  verb : String
  node : Value
  shared : Value

/-- The entries of a path: what stands under the verbs of an object. -/
def pathEntries (p : String × Value) : List Entry :=
  match p.2 with
  | .object fs =>
    (fs.filter fun f => operationVerbs.contains f.1).map fun f =>
      ⟨p.1, f.1, f.2, Fields.value fs "parameters"⟩
  | _ => []

/-- The fault of a path that is no object. -/
def pathFault? (p : String × Value) : Option Fault :=
  match p.2 with
  | .object _ => none
  | _ => some .notObject

/-- The definitions of a document, none when they are at fault. -/
def definitionsOf (root : Value) : Fields Value := (statedDefinitions root).toOption.getD []

/-- The paths of a document, none when they are at fault. -/
def pathsOf (root : Value) : Fields Value := (statedPaths root).toOption.getD []

/-- The entries of a document, in order. -/
def entriesOf (root : Value) : List Entry := (pathsOf root).flatMap pathEntries

/-- The operation of an entry, where it stands. -/
def Entry.read (links : Links) (e : Entry) : Except Fault Endpoint := do
  return ⟨e.path, e.verb, ← Operation.read links e.verb e.node e.shared⟩

/-- What comes of an entry: a method, or a fault. -/
def Entry.outcome (links : Links) (modelNames : List String) (overrides : Value) (e : Entry) :
    Except Fault Method :=
  e.read links >>= methodOf modelNames overrides

/-! ## The parts -/

variable {links : Links} {v : Value}

theorem objectOr_absent (fault : Fault) (h : v.truthy = false) : v.objectOr fault = .ok [] := by
  cases v with
  | object fs =>
    cases fs with
    | nil => rfl
    | cons => cases h
  | _ => simp only [Value.objectOr, h, Bool.false_eq_true, if_false]

theorem partFields_plain (h : v.isPlain = true) (name : String) :
    partFields links name (.ok v) = v.objectOr (.partNotObject name) := by
  rw [partFields, ok_bind, Links.present_plain h, ok_bind]
  cases hv : v.truthy with
  | false => exact (objectOr_absent _ hv).symm
  | true =>
    rw [if_pos rfl, Links.look_plain h, ok_bind]
    cases v with
    | object fs => rfl
    | _ => simp only [Value.objectOr, hv]; rfl

theorem fields_objectOr (h : v.isPlain = true) (present : v.truthy = true) :
    links.fields v = v.objectOr .notObject := by
  rw [Links.fields, Links.look_plain h, ok_bind]
  cases v with
  | object fs => rfl
  | _ => simp only [Value.objectOr, present]; rfl

theorem fieldsIfPresent_plain (h : v.isPlain = true) :
    links.fieldsIfPresent v = v.objectOr .notObject := by
  rw [Links.fieldsIfPresent, Links.present_plain h, ok_bind]
  cases hv : v.truthy with
  | true => exact fields_objectOr h hv
  | false => exact (objectOr_absent _ hv).symm

theorem objectOr_plain (h : v.isPlain = true) {fault : Fault} {fs : Fields Value}
    (hf : v.objectOr fault = .ok fs) : fs.Plain := by
  cases v with
  | object => cases hf; exact Value.isPlain_object.mp h
  | _ =>
    simp only [Value.objectOr] at hf
    split at hf
    · cases hf
    · cases hf
      intro _ hf
      cases hf

/-- The root that is read: an empty object in place of one that is not present. -/
def presentRoot (root : Value) : Value := if root.truthy then root else .object []

theorem fields_presentRoot {root : Value} (h : root.isPlain = true) :
    links.fields (presentRoot root) = root.objectOr .notObject := by
  unfold presentRoot
  cases hv : root.truthy with
  | true => exact fields_objectOr h hv
  | false => exact (objectOr_absent _ hv).symm

/-- The definitions that are found are those that are stated. -/
theorem partFields_definitions {root : Value} (h : root.isPlain = true) :
    partFields links "definitions" (findDefinitions links (presentRoot root)) =
      statedDefinitions root := by
  rw [findDefinitions, fields_presentRoot h, statedDefinitions]
  cases hf : root.objectOr .notObject with
  | error => rfl
  | ok fields =>
    have plain := objectOr_plain h hf
    simp only [ok_bind, Links.present_plain (plain.value "definitions")]
    cases hd : (fields.value "definitions").truthy with
    | true => exact partFields_plain (plain.value "definitions") "definitions"
    | false =>
      simp only [Bool.false_eq_true, if_false, fieldsIfPresent_plain (plain.value "components")]
      cases hc : (fields.value "components").objectOr .notObject with
      | error => rfl
      | ok components =>
        exact partFields_plain ((objectOr_plain (plain.value "components") hc).value "schemas") _

/-- The paths that are found are those that are stated. -/
theorem partFields_paths {root : Value} (h : root.isPlain = true) :
    partFields links "paths" (findPaths links (presentRoot root)) = statedPaths root := by
  rw [findPaths, fields_presentRoot h, statedPaths]
  cases hf : root.objectOr .notObject with
  | error => rfl
  | ok fields => exact partFields_plain ((objectOr_plain h hf).value "paths") "paths"

theorem readPart_eq (name : String) (found : Except Fault Value) :
    (readPart links name found).1 = (partFields links name found).toOption.getD [] ∧
      failures (readPart links name found).2 = (fault? (partFields links name found)).toList := by
  unfold readPart
  cases partFields links name found <;> exact ⟨rfl, rfl⟩

theorem failures_readDefinitions (fs : Fields Value) :
    failures (readDefinitions links fs).2 = fs.filterMap fun d => fault? (Model.read links d.2) := by
  induction fs with
  | nil => rfl
  | cons f rest ih =>
    rw [readDefinitions, List.filterMap_cons]
    cases Model.read links f.2 with
    | ok => exact ih
    | error fault => exact congrArg (fault :: ·) ih

/-! ## The entries -/

/-- The operations of a path, where they stand. -/
def pathEndpoints (p : String × Fields Operation) : List Endpoint :=
  p.2.map fun o => ⟨p.1, o.1, o.2⟩

theorem readOperations_eq (path : String) (shared : Value) (fs : Fields Value) :
    pathEndpoints (path, (readOperations links shared fs).1) =
        (fs.map fun f => (⟨path, f.1, f.2, shared⟩ : Entry)).filterMap (fun e => (e.read links).toOption) ∧
      failures (readOperations links shared fs).2 =
        (fs.map fun f => (⟨path, f.1, f.2, shared⟩ : Entry)).filterMap fun e => fault? (e.read links) := by
  induction fs with
  | nil => exact ⟨rfl, rfl⟩
  | cons f rest ih =>
    rw [readOperations, List.map_cons, List.filterMap_cons, List.filterMap_cons, Entry.read]
    cases Operation.read links f.1 f.2 shared with
    | ok o => exact ⟨congrArg ((⟨path, f.1, o⟩ : Endpoint) :: ·) ih.1, ih.2⟩
    | error fault => exact ⟨ih.1, congrArg (fault :: ·) ih.2⟩

theorem pathItem_plain : v.isPlain = true → PathItem.read links v = match v with
    | .object fs => .ok ⟨fs.filter fun f => operationVerbs.contains f.1, Fields.value fs "parameters"⟩
    | _ => .error .notObject := by
  intro h
  rw [PathItem.read, Links.fields, Links.look_plain h, ok_bind]
  cases v with
  | object fs =>
    simp only [ok_bind, Links.present_plain ((Value.isPlain_object.mp h).value "parameters")]
    rfl
  | _ => rfl

/-- The operations that are read are those of the entries; the failures are those of the paths that are
no objects and of the entries. -/
theorem readPaths_eq {fs : Fields Value} (h : fs.Plain) :
    (readPaths links fs).1.flatMap pathEndpoints =
        (fs.flatMap pathEntries).filterMap (fun e => (e.read links).toOption) ∧
      (failures (readPaths links fs).2).Perm
        (fs.filterMap pathFault? ++ (fs.flatMap pathEntries).filterMap fun e => fault? (e.read links)) := by
  induction fs with
  | nil => exact ⟨rfl, .nil⟩
  | cons f rest ih =>
    obtain ⟨results, faults⟩ := ih fun g hg => h g (List.mem_cons_of_mem _ hg)
    obtain ⟨path, v⟩ := f
    rw [readPaths, pathItem_plain (h _ List.mem_cons_self)]
    cases v with
    | object item =>
      obtain ⟨own, failed⟩ := @readOperations_eq links path (Fields.value item "parameters")
        (item.filter fun f => operationVerbs.contains f.1)
      simp only [List.flatMap_cons, List.filterMap_append, failures_append, pathEntries, pathFault?,
        List.filterMap_cons, own, failed, results, true_and]
      exact (faults.append_left _).trans (List.perm_append_comm_assoc ..)
    | _ =>
      simp only [List.flatMap_cons, pathEntries, pathFault?, List.filterMap_cons, List.nil_append]
      exact ⟨results, faults.cons _⟩

theorem definitionsOf_plain {root : Value} (h : root.isPlain = true) : (definitionsOf root).Plain := by
  rw [definitionsOf, statedDefinitions]
  cases hf : root.objectOr .notObject with
  | error =>
    intro _ hf
    cases hf
  | ok fields =>
    have plain := objectOr_plain h hf
    rw [ok_bind]
    split
    · cases hd : (fields.value "definitions").objectOr (.partNotObject "definitions") with
      | error =>
        intro _ hf
        cases hf
      | ok definitions => exact objectOr_plain (plain.value "definitions") hd
    · cases hc : (fields.value "components").objectOr .notObject with
      | error =>
        intro _ hf
        cases hf
      | ok components =>
        rw [ok_bind]
        have partPlain := (objectOr_plain (plain.value "components") hc).value "schemas"
        cases hs : (components.value "schemas").objectOr (.partNotObject "definitions") with
        | error =>
          intro _ hf
          cases hf
        | ok schemas => exact objectOr_plain partPlain hs

theorem statedPaths_plain {root : Value} (h : root.isPlain = true) : (pathsOf root).Plain := by
  rw [pathsOf, statedPaths]
  cases hf : root.objectOr .notObject with
  | error =>
    intro _ hf
    cases hf
  | ok fields =>
    rw [ok_bind]
    cases hp : (fields.value "paths").objectOr (.partNotObject "paths") with
    | error =>
      intro _ hf
      cases hf
    | ok paths => exact objectOr_plain ((objectOr_plain h hf).value "paths") hp

/-- The entries of a plain document are plain. -/
theorem entries_plain {root : Value} (h : root.isPlain = true) {e : Entry} (he : e ∈ entriesOf root) :
    e.node.isPlain = true ∧ e.shared.isPlain = true := by
  obtain ⟨⟨path, v⟩, hp, he⟩ := List.mem_flatMap.mp he
  have plain := statedPaths_plain h _ hp
  cases v with
  | object fs =>
    have fieldsPlain := Value.isPlain_object.mp plain
    obtain ⟨f, hf, rfl⟩ := List.mem_map.mp he
    exact ⟨fieldsPlain f (List.mem_filter.mp hf).1, fieldsPlain.value "parameters"⟩
  | _ => cases he

theorem read_presentRoot {root : Value} (h : root.isPlain = true) : Document.read links root =
    let definitions := readPart links "definitions" (findDefinitions links (presentRoot root))
    let paths := readPart links "paths" (findPaths links (presentRoot root))
    (⟨(readDefinitions links definitions.1).1, (readPaths links paths.1).1⟩,
      definitions.2 ++ (readDefinitions links definitions.1).2 ++ paths.2 ++
        (readPaths links paths.1).2) := by
  unfold Document.read presentRoot
  rw [Links.present_plain h]
  cases root.truthy <;> rfl

/-- The operations of a plain document, and the failures of its reading. -/
theorem read_accounts {root : Value} (h : root.isPlain = true) :
    (Document.read links root).1.endpoints =
        (entriesOf root).filterMap (fun e => (e.read links).toOption) ∧
      (failures (Document.read links root).2).Perm
        ([statedDefinitions root, statedPaths root].filterMap fault? ++
          ((definitionsOf root).filterMap (fun d => fault? (Model.read links d.2)) ++
            ((pathsOf root).filterMap pathFault? ++
              (entriesOf root).filterMap fun e => fault? (e.read links)))) := by
  obtain ⟨definitions, failedPart⟩ :=
    @readPart_eq links "definitions" (findDefinitions links (presentRoot root))
  obtain ⟨paths, failedPaths⟩ :=
    @readPart_eq links "paths" (findPaths links (presentRoot root))
  rw [partFields_definitions h] at definitions failedPart
  rw [partFields_paths h] at paths failedPaths
  obtain ⟨results, faults⟩ := @readPaths_eq links _ (statedPaths_plain h)
  have parts : [statedDefinitions root, statedPaths root].filterMap fault? =
      (fault? (statedDefinitions root)).toList ++ (fault? (statedPaths root)).toList := by
    cases statedDefinitions root <;> cases statedPaths root <;> rfl
  simp only [read_presentRoot h, failures_append, definitions, failedPart, paths, failedPaths,
    failures_readDefinitions, parts]
  refine ⟨results, ?_⟩
  rw [List.append_assoc, List.append_assoc, List.append_assoc]
  -- the failures of the definitions stand between those of the two parts
  refine .append_left _ ?_
  refine (List.perm_append_comm_assoc ..).trans ?_
  exact .append_left _ (.append_left _ faults)

/-- The definitions that are read are those that the document states. -/
theorem definitions_read {root : Value} (h : root.isPlain = true) : (Document.read links root).1.definitions =
    (readDefinitions links (definitionsOf root)).1 := by
  obtain ⟨definitions, _⟩ :=
    @readPart_eq links "definitions" (findDefinitions links (presentRoot root))
  rw [partFields_definitions h] at definitions
  rw [read_presentRoot h]
  exact congrArg (fun fs => (readDefinitions links fs).1) definitions

/-- The operations of a plain document have plain parameters. -/
theorem endpoints_plain {root : Value} (h : root.isPlain = true) :
    ∀ e ∈ (Document.read links root).1.endpoints, ∀ p ∈ e.operation.parameters, p.Plain := by
  intro e he
  rw [(read_accounts h).1] at he
  obtain ⟨entry, hentry, found⟩ := List.mem_filterMap.mp he
  obtain ⟨o, ho, placed⟩ := bind_eq_ok.mp (toOption_eq_some.mp found)
  cases placed
  exact Operation.read_plain (entries_plain h hentry).1 (entries_plain h hentry).2 ho

/-! ## The methods -/

theorem methods_eq (modelNames : List String) (overrides : Value) (endpoints : List Endpoint) :
    (methods modelNames overrides endpoints).1 =
        endpoints.filterMap (fun e => (methodOf modelNames overrides e).toOption) ∧
      failures (methods modelNames overrides endpoints).2 =
        endpoints.filterMap fun e => fault? (methodOf modelNames overrides e) := by
  induction endpoints with
  | nil => exact ⟨rfl, rfl⟩
  | cons e rest ih =>
    rw [methods, List.filterMap_cons, List.filterMap_cons]
    cases methodOf modelNames overrides e with
    | ok m =>
      refine ⟨congrArg (m :: ·) ih.1, ?_⟩
      rw [failures_append, failures_nameNotices]
      exact ih.2
    | error fault =>
      refine ⟨ih.1, ?_⟩
      rw [failures_append, failures_nameNotices]
      exact congrArg (fault :: ·) ih.2

theorem exists_requiredTexts {v : Value} (h : Settings.isTextList v = true) :
    ∃ vs texts, Links.none.items v = .ok vs ∧ vs.mapM Value.requiredText = .ok texts := by
  cases v with
  | list vs =>
    rw [Settings.isTextList, List.all_eq_true] at h
    have each : ∀ u ∈ vs, ∃ s, u.requiredText = .ok s := by
      intro u hu
      have text := h u hu
      cases u with
      | str s => exact ⟨s, rfl⟩
      | _ => cases text
    obtain ⟨texts, ht⟩ := exists_mapM_eq_ok each
    exact ⟨vs, texts, rfl, ht⟩
  | _ => cases h

/-- Well-typed settings have headers, or none, for every operation. -/
theorem exists_headersFor {settings : Settings} (typed : settings.WellTyped) (operationId : String) :
    ∃ headers, headersFor settings.headerOverrides operationId = .ok headers := by
  obtain ⟨_, _, _, _, _, listed⟩ := typed
  rw [headersFor]
  cases hv : settings.headerOverrides with
  | object fs =>
    rw [hv, Settings.isHeaderTable, List.all_eq_true] at listed
    split
    · have table : Links.none.fields (.object fs) = .ok fs := rfl
      rw [table, ok_bind]
      cases hf : Fields.get? fs operationId with
      | none => exact ⟨_, rfl⟩
      | some v =>
        obtain ⟨vs, headers, items, texts⟩ := exists_requiredTexts (listed _ (Fields.mem_of_get? hf))
        exact ⟨headers, bind_eq_ok.mpr ⟨vs, items, texts⟩⟩
    · exact ⟨_, rfl⟩
  | _ => simp [hv, Settings.isHeaderTable] at listed

/-- An operation becomes a method when it has an identifier that is not empty. -/
theorem exists_methodOf {settings : Settings} (typed : settings.WellTyped) (modelNames : List String)
    (e : Endpoint) : (∃ m, methodOf modelNames settings.headerOverrides e = .ok m) ↔
      ∃ id, e.operation.operationId = some id ∧ id ≠ "" := by
  rw [methodOf]
  split
  · next h => simp [h]
  · next h => simp [h]
  · next id hne h =>
    obtain ⟨headers, hh⟩ := exists_headersFor typed id
    refine ⟨fun _ => ⟨id, h, hne⟩, fun _ => ?_⟩
    exact ⟨_, bind_eq_ok.mpr ⟨headers, hh, rfl⟩⟩

/-! ## The run -/

/-- All that is at fault in a document: its parts, its definitions, its paths and its entries, with what
comes of an entry given. -/
def faultsOf (links : Links) (outcome : Entry → Except Fault Method) (root : Value) : List Fault :=
  [statedDefinitions root, statedPaths root].filterMap fault? ++
    ((definitionsOf root).filterMap (fun d => fault? (Model.read links d.2)) ++
      ((pathsOf root).filterMap pathFault? ++ (entriesOf root).filterMap fun e => fault? (outcome e)))

/-- The methods and the failures of a run, against the document it was made from. -/
structure Accounted (links : Links) (root : Value) (outcome : Entry → Except Fault Method)
    (methods : List Method) (failures : List Fault) : Prop where
  /-- An entry gives a method when its operation can be read and has an identifier. -/
  settled : ∀ e, (∃ m, outcome e = .ok m) ↔
    ∃ o id, Operation.read links e.verb e.node e.shared = .ok o ∧ o.operationId = some id ∧ id ≠ ""
  /-- The methods are those of the entries, in order. -/
  methods_eq : methods = (entriesOf root).filterMap fun e => (outcome e).toOption
  /-- The failures are what is at fault, each as often as it is there. -/
  failures_perm : failures.Perm (faultsOf links outcome root)
  /-- An entry that gives no method is one failure. -/
  entries_length : methods.length + (entriesOf root).countP (fun e => (fault? (outcome e)).isSome) =
    (entriesOf root).length
  /-- The number of failures. -/
  failures_length : failures.length =
    [statedDefinitions root, statedPaths root].countP (fun part => (fault? part).isSome) +
      (definitionsOf root).countP (fun d => (fault? (Model.read links d.2)).isSome) +
      (pathsOf root).countP (fun p => (pathFault? p).isSome) +
      (entriesOf root).countP (fun e => (fault? (outcome e)).isSome)

theorem exists_outcome {settings : Settings} (typed : settings.WellTyped) (modelNames : List String)
    (e : Entry) : (∃ m, e.outcome links modelNames settings.headerOverrides = .ok m) ↔
      ∃ o id, Operation.read links e.verb e.node e.shared = .ok o ∧ o.operationId = some id ∧ id ≠ "" := by
  rw [Entry.outcome, Entry.read]
  cases Operation.read links e.verb e.node e.shared with
  | error fault => simp
  | ok o => simpa using exists_methodOf typed modelNames ⟨e.path, e.verb, o⟩

/-- **Every operation is accounted for**: a run over a document without links, under well-typed settings,
makes a method of every entry or leaves a failure, and leaves no failures but those and the ones of what
stands above the entries. -/
theorem run_accounts {root : Value} (plain : root.isPlain = true) {settings : Settings}
    (typed : settings.WellTyped) (links : Links) :
    let read := Document.read links root
    let made := describe links settings read.1
    Accounted links root (Entry.outcome links made.1.modelNames settings.headerOverrides)
      made.1.interface.methods (failures (read.2 ++ made.2)) := by
  intro read made
  obtain ⟨endpoints, readFaults⟩ := @read_accounts links root plain
  obtain ⟨methods, methodFaults⟩ := methods_eq made.1.modelNames settings.headerOverrides read.1.endpoints
  have noEnumFaults : (extractEnums links read.1).2 = [] := by
    refine addEndpointEnums_plain (fun e he => ?_) []
    obtain ⟨entry, hentry, heq⟩ := List.mem_filterMap.mp (endpoints ▸ he)
    obtain ⟨o, ho, placed⟩ := bind_eq_ok.mp (toOption_eq_some.mp heq)
    cases placed
    exact Operation.read_plain (entries_plain plain hentry).1 (entries_plain plain hentry).2 ho
  have madeFaults : failures made.2 =
      read.1.endpoints.filterMap fun e =>
        fault? (methodOf made.1.modelNames settings.headerOverrides e) := by
    rw [← methodFaults]
    show failures ((extractEnums links read.1).2 ++ _) = _
    rw [noEnumFaults]
    rfl
  have perm : (failures (read.2 ++ made.2)).Perm
      (faultsOf links (Entry.outcome links made.1.modelNames settings.headerOverrides) root) := by
    rw [failures_append, madeFaults, endpoints, faultsOf]
    refine (readFaults.append_right _).trans ?_
    simp only [List.append_assoc]
    exact .append_left _ (.append_left _ (.append_left _ (faults_bind ..).symm))
  have results : made.1.interface.methods = (entriesOf root).filterMap fun e =>
      (e.outcome links made.1.modelNames settings.headerOverrides).toOption :=
    methods.trans (endpoints ▸ (results_bind ..).symm)
  exact {
    settled := exists_outcome typed made.1.modelNames
    methods_eq := results
    failures_perm := perm
    entries_length := by
      rw [results, ← List.length_filterMap_eq_countP]
      exact length_results_add_faults ..
    failures_length := by
      rw [perm.length_eq, faultsOf]
      simp only [List.length_append, List.length_filterMap_eq_countP, Nat.add_assoc] }

/-- A document with a definition that is a number, a path that is null, and two operations under one path,
of which the second has no identifier. -/
def mixedRoot : Value :=
  .object [
    ("definitions", .object [("Pet", .int 1)]),
    ("paths", .object [
      ("/pets", .object [("get", .object [("operationId", .str "pets")]), ("post", .object [])]),
      ("/none", .null)])]

/-- One method and three failures come of the document. -/
theorem run_accounts_mixed :
    let read := Document.read .none mixedRoot
    let made := describe .none {} read.1
    made.1.interface.methods.length = 1 ∧ (failures (read.2 ++ made.2)).length = 3 := by
  have accounted := @run_accounts mixedRoot rfl {} ⟨rfl, rfl, rfl, rfl, rfl, rfl⟩ .none
  have entries := accounted.entries_length
  have counted := accounted.failures_length
  exact ⟨Nat.add_right_cancel (entries.trans (by decide)), counted.trans (by decide)⟩

end TypedClient
