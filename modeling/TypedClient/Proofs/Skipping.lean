import TypedClient.Proofs.Candidates
import TypedClient.Proofs.Spellings

/-!
# What a skipped operation leaves behind

An entry that gives no method is a failure of the run. Here the run is set beside the one over the same
document without the entry.

**What is proved.** `skipped_leavesAlike`: the methods are the same, and of the failures exactly that one is
gone. Where the entry could not be read the whole descriptions are equal. An entry that was read, and is
skipped for its identifier, has already brought the enumerations of its path parameters. They leave no
trace where entries before it bring their names; otherwise the descriptions agree in all but the
enumerations of these names and the fields that lead to one of them. `unnamedRoot` shows such a trace.

The names of the fields of an object are distinct here, so an entry stands alone at its place.
-/

namespace TypedClient

open Schema Api

/-! ## A document without one of its entries -/

/-- What stands under a path without a verb. -/
def withoutVerb (verb : String) : Value → Value := onFields (·.without [verb])

/-- The paths of a document, one of them without a verb. -/
def pathsWithout (path verb : String) (paths : Fields Value) : Fields Value :=
  paths.change fun name v => if name = path then withoutVerb verb v else v

/-- A field of a document, where one of its paths is to be without a verb. -/
def partWithout (path verb name : String) (v : Value) : Value :=
  if name = "paths" then onFields (pathsWithout path verb) v else v

/-- A document without what stands under a verb of a path. -/
def withoutEntry (path verb : String) : Value → Value := onFields (·.change (partWithout path verb))

/-- The paths of a document have distinct names, and so has what stands under each of them. -/
structure DistinctNames (root : Value) : Prop where
  paths : (pathsOf root).names.Nodup
  verbs : ∀ path fs, (path, Value.object fs) ∈ pathsOf root → (Fields.names fs).Nodup

section

variable {path verb : String} {root : Value}

theorem objectOr_onFields {f : Fields Value → Fields Value} (empty : f [] = []) (fault : Fault) (v : Value) :
    (onFields f v).objectOr fault = (v.objectOr fault).map f := by
  cases v with
  | object => rfl
  | _ =>
    unfold onFields Value.objectOr
    dsimp only
    split
    · rfl
    · rw [Except.map, empty]

theorem statedDefinitions_withoutEntry (root : Value) :
    statedDefinitions (withoutEntry path verb root) = statedDefinitions root := by
  cases root with
  | object fs =>
    have kept : ∀ name, name ≠ "paths" →
        (Fields.change (partWithout path verb) fs).value name = Fields.value fs name := by
      intro name other
      have same : ∀ v, partWithout path verb name v = v := fun v => if_neg other
      rw [value_change (same .null), same]
    unfold statedDefinitions withoutEntry onFields
    simp only [Value.objectOr, ok_bind, kept "definitions" (by decide), kept "components" (by decide)]
  | _ => rfl

theorem definitionsOf_withoutEntry (root : Value) :
    definitionsOf (withoutEntry path verb root) = definitionsOf root := by
  rw [definitionsOf, definitionsOf, statedDefinitions_withoutEntry]

theorem statedPaths_withoutEntry (root : Value) :
    statedPaths (withoutEntry path verb root) = (statedPaths root).map (pathsWithout path verb) := by
  cases root with
  | object fs =>
    show (Fields.value _ "paths").objectOr _ = ((Fields.value fs "paths").objectOr _).map _
    rw [value_change rfl]
    exact objectOr_onFields rfl _ _
  | _ =>
    unfold withoutEntry onFields statedPaths Value.objectOr
    dsimp only
    split <;> rfl

theorem pathsOf_withoutEntry (root : Value) :
    pathsOf (withoutEntry path verb root) = pathsWithout path verb (pathsOf root) := by
  rw [pathsOf, pathsOf, statedPaths_withoutEntry]
  cases statedPaths root <;> rfl

theorem isPlain_onFields {f : Fields Value → Fields Value} (kept : ∀ fs : Fields Value, fs.Plain → (f fs).Plain)
    {v : Value} (h : v.isPlain = true) : (onFields f v).isPlain = true := by
  cases v with
  | object fs => exact Value.isPlain_object.mpr (kept fs (Value.isPlain_object.mp h))
  | _ => exact h

theorem plain_change {g : String → Value → Value}
    (kept : ∀ name v, v.isPlain = true → (g name v).isPlain = true) {fs : Fields Value} (h : fs.Plain) :
    (fs.change g).Plain := by
  intro changed mem
  obtain ⟨f, hf, rfl⟩ := List.mem_map.mp mem
  exact kept f.1 f.2 (h f hf)

theorem isPlain_withoutEntry (h : root.isPlain = true) : (withoutEntry path verb root).isPlain = true := by
  have verbs : ∀ v : Value, v.isPlain = true → (withoutVerb verb v).isPlain = true := by
    intro v hv
    exact isPlain_onFields (fun fs plain f hf => plain f (List.mem_filter.mp hf).1) hv
  have paths : ∀ fs : Fields Value, fs.Plain → (pathsWithout path verb fs).Plain := by
    intro fs plain
    refine plain_change (fun name v hv => ?_) plain
    split
    · exact verbs v hv
    · exact hv
  refine isPlain_onFields (fun fs plain => plain_change (fun name v hv => ?_) plain) h
  unfold partWithout
  split
  · exact isPlain_onFields paths hv
  · exact hv

end

/-! ## The entries and the faults among them -/

/-- What stands under a path: its entries, or the fault of a path that is no object. -/
def pathPlaces (p : String × Value) : List (Except Fault Entry) :=
  match p.2 with
  | .object _ => (pathEntries p).map .ok
  | _ => [.error .notObject]

/-- The entries of a document and the faults among its paths, in order. -/
def placesOf (root : Value) : List (Except Fault Entry) := (pathsOf root).flatMap pathPlaces

/-- Whether something stands elsewhere than under a verb of a path. -/
def isElsewhere (path verb : String) : Except Fault Entry → Bool
  | .ok e => !(e.path == path && e.verb == verb)
  | .error _ => true

variable {links : Links} {root : Value}

theorem results_placesOf (root : Value) : (placesOf root).filterMap Except.toOption = entriesOf root := by
  unfold placesOf entriesOf
  induction pathsOf root with
  | nil => rfl
  | cons p rest ih =>
    have own : (pathPlaces p).filterMap Except.toOption = pathEntries p := by
      obtain ⟨path, v⟩ := p
      cases v with
      | object fs =>
        rw [pathPlaces, List.filterMap_map]
        exact List.filterMap_some
      | _ => rfl
    rw [List.flatMap_cons, List.flatMap_cons, List.filterMap_append, own, ih]

theorem failures_readPaths {fs : Fields Value} (h : fs.Plain) : failures (readPaths links fs).2 =
    (fs.flatMap pathPlaces).filterMap fun p => fault? (p >>= Entry.read links) := by
  induction fs with
  | nil => rfl
  | cons f rest ih =>
    have later := ih fun g hg => h g (List.mem_cons_of_mem _ hg)
    obtain ⟨path, v⟩ := f
    rw [readPaths, pathItem_plain (h _ List.mem_cons_self), List.flatMap_cons, List.filterMap_append, ← later]
    cases v with
    | object item =>
      obtain ⟨_, failed⟩ := @readOperations_eq links path (Fields.value item "parameters")
        (item.filter fun f => operationVerbs.contains f.1)
      have own : (pathPlaces (path, .object item)).filterMap (fun p => fault? (p >>= Entry.read links)) =
          (pathEntries (path, .object item)).filterMap fun e => fault? (e.read links) := by
        unfold pathPlaces
        rw [List.filterMap_map]
        rfl
      rw [own]
      exact (failures_append ..).trans (congrArg (· ++ _) failed)
    | _ => rfl

theorem failures_read {root : Value} (h : root.isPlain = true) : failures (Document.read links root).2 =
    (fault? (statedDefinitions root)).toList ++
      (definitionsOf root).filterMap (fun d => fault? (Model.read links d.2)) ++
      (fault? (statedPaths root)).toList ++
      (placesOf root).filterMap fun p => fault? (p >>= Entry.read links) := by
  obtain ⟨definitions, failedPart⟩ :=
    @readPart_eq links "definitions" (findDefinitions links (presentRoot root))
  obtain ⟨paths, failedPaths⟩ :=
    @readPart_eq links "paths" (findPaths links (presentRoot root))
  rw [partFields_definitions h] at definitions failedPart
  rw [partFields_paths h] at paths failedPaths
  have places := @failures_readPaths links _ (statedPaths_plain h)
  simp only [read_presentRoot h, failures_append, definitions, failedPart, paths, failedPaths,
    failures_readDefinitions]
  exact congrArg _ places

/-! ## The places without one of them -/

theorem value_without {names : List String} {name : String} (kept : name ∉ names) (fs : Fields Value) :
    (fs.without names).value name = fs.value name := by
  have notChosen : names.contains name = false := by simpa using kept
  rw [Fields.value, Fields.get?_without, notChosen]
  rfl

/-- Without a verb a path has the other entries, with the same shared parameters. -/
theorem pathPlaces_withoutVerb {path verb : String} (isVerb : verb ∈ operationVerbs) (p : String × Value) :
    pathPlaces (p.1, if p.1 = path then withoutVerb verb p.2 else p.2) =
      (pathPlaces p).filter (isElsewhere path verb) := by
  obtain ⟨name, v⟩ := p
  cases v with
  | object fs =>
    have notParameters : "parameters" ∉ [verb] := by
      intro h
      cases List.mem_singleton.mp h
      revert isVerb
      decide
    by_cases here : name = path
    · subst here
      rw [if_pos rfl]
      simp only [withoutVerb, onFields, pathPlaces, pathEntries, List.filter_map,
        value_without notParameters]
      rw [Fields.without, List.filter_filter, List.filter_filter]
      congr 2
      refine List.filter_congr fun f _ => ?_
      simp [isElsewhere, Bool.and_comm, beq_eq_decide]
    · rw [if_neg here]
      refine (List.filter_eq_self.mpr fun place hplace => ?_).symm
      obtain ⟨e, he, rfl⟩ := List.mem_map.mp hplace
      obtain ⟨f, _, rfl⟩ := List.mem_map.mp he
      simp [isElsewhere, here]
  | _ =>
    dsimp only
    split <;> rfl

theorem placesOf_withoutEntry {path verb : String} (isVerb : verb ∈ operationVerbs) (root : Value) :
    placesOf (withoutEntry path verb root) = (placesOf root).filter (isElsewhere path verb) := by
  unfold placesOf
  rw [pathsOf_withoutEntry, pathsWithout, Fields.change, List.flatMap_map, List.filter_flatMap]
  congr 1
  funext p
  exact pathPlaces_withoutVerb isVerb p

/-- The path and the verb that an entry stands under. -/
def Entry.place (e : Entry) : String × String := (e.path, e.verb)

theorem mem_pathEntries {p : String × Value} {e : Entry} (h : e ∈ pathEntries p) :
    e.path = p.1 ∧ e.verb ∈ operationVerbs := by
  obtain ⟨path, v⟩ := p
  cases v with
  | object fs =>
    obtain ⟨f, hf, rfl⟩ := List.mem_map.mp h
    exact ⟨rfl, List.contains_iff_mem.mp (List.mem_filter.mp hf).2⟩
  | _ => cases h

theorem nodup_pathEntries {path : String} {fs : Fields Value} (distinct : fs.names.Nodup) :
    ((pathEntries (path, .object fs)).map Entry.place).Nodup := by
  have names : ((fs.filter fun f => operationVerbs.contains f.1).map Prod.fst).Nodup :=
    distinct.sublist (List.filter_sublist.map _)
  have places : (pathEntries (path, .object fs)).map Entry.place =
      ((fs.filter fun f => operationVerbs.contains f.1).map Prod.fst).map fun verb => (path, verb) := by
    simp [pathEntries, Entry.place]
  rw [places]
  exact names.map fun _ _ same => congrArg Prod.snd same

theorem nodup_flatMap_pathEntries {fs : Fields Value} (paths : fs.names.Nodup)
    (verbs : ∀ path gs, (path, Value.object gs) ∈ fs → (Fields.names gs).Nodup) :
    ((fs.flatMap pathEntries).map Entry.place).Nodup := by
  induction fs with
  | nil => exact List.nodup_nil
  | cons p rest ih =>
    obtain ⟨fresh, paths⟩ := List.nodup_cons.mp paths
    rw [List.flatMap_cons, List.map_append]
    apply List.Nodup.append
    · obtain ⟨path, v⟩ := p
      cases v with
      | object gs => exact nodup_pathEntries (verbs path gs List.mem_cons_self)
      | _ => exact List.nodup_nil
    · exact ih paths fun path gs h => verbs path gs (List.mem_cons_of_mem _ h)
    · intro place here later
      obtain ⟨e, he, rfl⟩ := List.mem_map.mp here
      obtain ⟨e', he', same⟩ := List.mem_map.mp later
      obtain ⟨q, hq, he'⟩ := List.mem_flatMap.mp he'
      have samePath : q.1 = p.1 := by
        rw [← (mem_pathEntries he).1, ← (mem_pathEntries he').1]
        exact congrArg Prod.fst same
      exact fresh (samePath ▸ List.mem_map_of_mem hq)

/-- Where names are distinct no two entries stand at one place. -/
theorem nodup_places (distinct : DistinctNames root) : ((entriesOf root).map Entry.place).Nodup :=
  nodup_flatMap_pathEntries distinct.paths distinct.verbs

theorem verb_of_mem_entriesOf {e : Entry} (h : e ∈ entriesOf root) : e.verb ∈ operationVerbs := by
  obtain ⟨p, _, he⟩ := List.mem_flatMap.mp h
  exact (mem_pathEntries he).2

theorem isElsewhere_ok {e e' : Entry} : isElsewhere e.path e.verb (.ok e') = true ↔ e'.place ≠ e.place := by
  simp [isElsewhere, Entry.place, imp_iff_not_or]

/-- Where one of the results stands in a list that is mapped and filtered. -/
theorem exists_split_of_filterMap {α β : Type} {f : α → Option β} {xs : List α} {before after : List β} {b : β}
    (h : xs.filterMap f = before ++ b :: after) : ∃ first a later, xs = first ++ a :: later ∧ f a = some b ∧
      first.filterMap f = before ∧ later.filterMap f = after := by
  obtain ⟨first, rest, rfl, hbefore, results⟩ := List.filterMap_eq_append_iff.mp h
  obtain ⟨skipped, a, later, rfl, silent, found, hafter⟩ := List.filterMap_eq_cons_iff.mp results
  refine ⟨first ++ skipped, a, later, by simp, found, ?_, hafter⟩
  rw [List.filterMap_append, hbefore, List.filterMap_eq_nil_iff.mpr silent, List.append_nil]

variable {before after : List Entry} {e : Entry}

/-- Without an entry there is everything before and everything after it. -/
theorem exists_places (distinct : DistinctNames root) (split : entriesOf root = before ++ e :: after) :
    ∃ first later, placesOf root = first ++ .ok e :: later ∧
      placesOf (withoutEntry e.path e.verb root) = first ++ later ∧
      first.filterMap Except.toOption = before ∧ later.filterMap Except.toOption = after := by
  obtain ⟨first, place, later, places, found, hbefore, hafter⟩ :=
    exists_split_of_filterMap ((results_placesOf root).trans split)
  cases toOption_eq_some.mp found
  have others := nodup_places distinct
  rw [split, List.map_append, List.map_cons] at others
  obtain ⟨fresh, _⟩ := List.nodup_cons.mp (List.nodup_middle.mp others)
  have elsewhere : ∀ place ∈ first ++ later, isElsewhere e.path e.verb place = true := by
    intro place hplace
    cases place with
    | error => rfl
    | ok e' =>
      have other : e' ∈ before ++ after := by
        rw [← hbefore, ← hafter, ← List.filterMap_append]
        exact List.mem_filterMap.mpr ⟨_, hplace, rfl⟩
      apply isElsewhere_ok.mpr
      intro same
      apply fresh
      rw [← List.map_append, ← same]
      exact List.mem_map_of_mem other
  have here : e ∈ entriesOf root := by
    rw [split]
    exact List.mem_append_right _ List.mem_cons_self
  have gone : isElsewhere e.path e.verb (.ok e) = false := by simp [isElsewhere]
  refine ⟨first, later, places, ?_, hbefore, hafter⟩
  rw [placesOf_withoutEntry (verb_of_mem_entriesOf here), places, ← List.filter_eq_self.mpr elsewhere]
  simp [List.filter_append, gone]

/-! ## The two runs -/

/-- The description of a document that is read where it stands. -/
def descriptionOf (links : Links) (settings : Settings) (root : Value) : Description :=
  (describe links settings (Document.read links root).1).1

/-- The failures of a run over a document. -/
def failuresOf (links : Links) (settings : Settings) (root : Value) : List Fault :=
  failures ((Document.read links root).2 ++ (describe links settings (Document.read links root).1).2)

/-- The enumerations that the path parameters of an entry bring, if it can be read. -/
def Entry.brings (links : Links) (e : Entry) : List EnumType :=
  ((e.read links).toOption.map (endpointCandidates links)).getD []

/-- All failures but one, which is among them. -/
def LosesOne (fault : Fault) (failures rest : List Fault) : Prop :=
  ∃ first later, failures = first ++ fault :: later ∧ rest = first ++ later

/-- A field whose type is the same, or that refers to what was an enumeration of one of certain names. -/
structure FieldAlike (names : List String) (f f' : ModelField) : Prop where
  name : f'.name = f.name
  type : f'.type = f.type ∨ ∃ target, modelName target ∈ names ∧
    f'.type = (TypeRef.named target).withNullable f.type.nullable

/-- A model with the same name and with fields that are alike, one by one. -/
structure ModelAlike (names : List String) (m m' : ModelType) : Prop where
  name : m'.name = m.name
  fields : List.Forall₂ (FieldAlike names) m.fields m'.fields

/-- Descriptions that agree in all but the enumerations of certain names. -/
structure AlikeBut (names : List String) (d d' : Description) : Prop where
  interface : d'.interface = d.interface
  modelNames : d'.modelNames = d.modelNames
  enums : d'.enums.filter (fun e => !names.contains e.name) = d.enums.filter fun e => !names.contains e.name
  models : List.Forall₂ (ModelAlike names) d.models d'.models

variable {settings : Settings}

theorem losesOne_append {fault : Fault} (first later : List Fault) :
    LosesOne fault (first ++ fault :: later) (first ++ later) := ⟨first, later, rfl, rfl⟩

theorem LosesOne.append_left {fault : Fault} {all rest : List Fault} (h : LosesOne fault all rest)
    (front : List Fault) : LosesOne fault (front ++ all) (front ++ rest) := by
  obtain ⟨first, later, rfl, rfl⟩ := h
  exact ⟨front ++ first, later, by simp, by simp⟩

theorem LosesOne.append_right {fault : Fault} {all rest : List Fault} (h : LosesOne fault all rest)
    (back : List Fault) : LosesOne fault (all ++ back) (rest ++ back) := by
  obtain ⟨first, later, rfl, rfl⟩ := h
  exact ⟨first, later ++ back, by simp, by simp⟩

/-- The operations of a document stand at its places. -/
theorem endpoints_eq (plain : root.isPlain = true) : (Document.read links root).1.endpoints =
    (placesOf root).filterMap fun p => (p >>= Entry.read links).toOption := by
  rw [(read_accounts plain).1, ← results_placesOf]
  exact (results_bind id (Entry.read links) (placesOf root)).symm

theorem failuresOf_eq (plain : root.isPlain = true) : failuresOf links settings root =
    (fault? (statedDefinitions root)).toList ++
      (definitionsOf root).filterMap (fun d => fault? (Model.read links d.2)) ++
      (fault? (statedPaths root)).toList ++
      ((placesOf root).filterMap (fun p => fault? (p >>= Entry.read links)) ++
        (Document.read links root).1.endpoints.filterMap fun e =>
          fault? (methodOf (descriptionOf links settings root).modelNames settings.headerOverrides e)) := by
  have noEnumFaults : (extractEnums links (Document.read links root).1).2 = [] :=
    addEndpointEnums_plain (endpoints_plain plain) []
  have made : failures (describe links settings (Document.read links root).1).2 =
      (Document.read links root).1.endpoints.filterMap fun e =>
        fault? (methodOf (descriptionOf links settings root).modelNames settings.headerOverrides e) := by
    rw [← (methods_eq ..).2]
    show failures ((extractEnums links (Document.read links root).1).2 ++ _) = _
    rw [noEnumFaults]
    rfl
  rw [failuresOf, failures_append, failures_read plain, made]
  simp only [List.append_assoc]

theorem definitions_withoutEntry {path verb : String} (plain : root.isPlain = true) :
    (Document.read links (withoutEntry path verb root)).1.definitions =
      (Document.read links root).1.definitions := by
  rw [definitions_read plain, definitions_read (isPlain_withoutEntry plain), definitionsOf_withoutEntry]

theorem modelNames_descriptionOf (links : Links) (settings : Settings) (root : Value) :
    (descriptionOf links settings root).modelNames =
      (Document.read links root).1.definitions.map fun d => modelName d.1 := by
  show (models _).map (·.name) = _
  rw [models, List.map_map]
  rfl

theorem modelNames_withoutEntry {path verb : String} (plain : root.isPlain = true) :
    (descriptionOf links settings (withoutEntry path verb root)).modelNames =
      (descriptionOf links settings root).modelNames := by
  rw [modelNames_descriptionOf, modelNames_descriptionOf, definitions_withoutEntry plain]

/-- The failures and the methods of the run without an entry that gives no method. -/
theorem methods_withoutEntry (plain : root.isPlain = true) (distinct : DistinctNames root)
    (split : entriesOf root = before ++ e :: after) {fault : Fault}
    (failed : e.outcome links (descriptionOf links settings root).modelNames settings.headerOverrides =
      .error fault) :
    LosesOne fault (failuresOf links settings root)
        (failuresOf links settings (withoutEntry e.path e.verb root)) ∧
      (descriptionOf links settings (withoutEntry e.path e.verb root)).interface =
        (descriptionOf links settings root).interface := by
  obtain ⟨first, later, places, rest, -, -⟩ := exists_places distinct split
  have plain' := @isPlain_withoutEntry e.path e.verb root plain
  have endpoints := @endpoints_eq links _ plain
  have endpoints' := @endpoints_eq links _ plain'
  have methods : ∀ root, (descriptionOf links settings root).interface =
      ⟨settings.interfaceName, (Document.read links root).1.endpoints.filterMap fun e =>
        (methodOf (descriptionOf links settings root).modelNames settings.headerOverrides e).toOption⟩ :=
    fun root => congrArg (Interface.mk _) (methods_eq ..).1
  rw [methods, methods, failuresOf_eq plain, failuresOf_eq plain', modelNames_withoutEntry plain,
    definitionsOf_withoutEntry, statedDefinitions_withoutEntry, statedPaths_withoutEntry, endpoints, endpoints',
    places, rest]
  have samePart : fault? ((statedPaths root).map (pathsWithout e.path e.verb)) = fault? (statedPaths root) := by
    cases statedPaths root <;> rfl
  rw [samePart]
  rw [Entry.outcome] at failed
  cases read : e.read links with
  -- the fault is one of reading
  | error unread =>
    rw [read] at failed
    cases failed
    simp only [List.filterMap_append, List.filterMap_cons, ok_bind, read, fault?_error, toOption_error,
      and_true]
    exact ((losesOne_append _ _).append_right _).append_left _
  -- the fault is one of generation, and the operation was read
  | ok o =>
    rw [read, ok_bind] at failed
    simp only [List.filterMap_append, List.filterMap_cons, ok_bind, read, fault?_ok, toOption_ok, failed,
      fault?_error, toOption_error, and_true]
    exact ((losesOne_append _ _).append_left _).append_left _

/-! ## What an entry brings -/

/-- The candidates of a document are those of its entries and those of its definitions. -/
theorem candidates_read (plain : root.isPlain = true) : candidates links (Document.read links root).1 =
    (entriesOf root).flatMap (Entry.brings links) ++
      propertyCandidates links (Document.read links root).1.definitions := by
  have each : ∀ entries : List Entry,
      (entries.filterMap fun e => (e.read links).toOption).flatMap (endpointCandidates links) =
        entries.flatMap (Entry.brings links) := by
    intro entries
    induction entries with
    | nil => rfl
    | cons e rest ih =>
      rw [List.filterMap_cons, List.flatMap_cons, Entry.brings, ← ih]
      cases e.read links <;> rfl
  rw [candidates, (read_accounts plain).1, each]

theorem enums_descriptionOf (plain : root.isPlain = true) : (descriptionOf links settings root).enums =
    keepNew [] ((entriesOf root).flatMap (Entry.brings links) ++
      propertyCandidates links (Document.read links root).1.definitions) := by
  rw [← candidates_read plain]
  exact extractEnums_eq (endpoints_plain plain)

/-- The candidates of a document that has lost an entry. -/
theorem enums_withoutEntry (plain : root.isPlain = true) (distinct : DistinctNames root)
    (split : entriesOf root = before ++ e :: after) :
    (descriptionOf links settings root).enums =
        keepNew [] (before.flatMap (Entry.brings links) ++ (e.brings links ++
          (after.flatMap (Entry.brings links) ++
            propertyCandidates links (Document.read links root).1.definitions))) ∧
      (descriptionOf links settings (withoutEntry e.path e.verb root)).enums =
        keepNew [] (before.flatMap (Entry.brings links) ++
          (after.flatMap (Entry.brings links) ++
            propertyCandidates links (Document.read links root).1.definitions)) := by
  obtain ⟨first, later, _, places, hbefore, hafter⟩ := exists_places distinct split
  have entries : entriesOf (withoutEntry e.path e.verb root) = before ++ after := by
    rw [← results_placesOf, places, List.filterMap_append, hbefore, hafter]
  constructor
  · rw [enums_descriptionOf plain, split]
    simp
  · rw [enums_descriptionOf (isPlain_withoutEntry plain), entries, definitions_withoutEntry plain]
    simp

/-- Nothing is missed of an entry where the ones before it bring enumerations of the same names. -/
theorem enums_repeated (plain : root.isPlain = true) (distinct : DistinctNames root)
    (split : entriesOf root = before ++ e :: after)
    (known : ∀ c ∈ e.brings links, c.name ∈ (before.flatMap (Entry.brings links)).map (·.name)) :
    (descriptionOf links settings (withoutEntry e.path e.verb root)).enums =
      (descriptionOf links settings root).enums := by
  obtain ⟨enums, enums'⟩ := @enums_withoutEntry links _ _ _ _ settings plain distinct split
  have missed : keepNew (keepNew [] (before.flatMap (Entry.brings links))) (e.brings links) =
      keepNew [] (before.flatMap (Entry.brings links)) :=
    keepNew_known fun c hc => mem_names_keepNew.mpr (.inr (known c hc))
  rw [enums, enums', keepNew_append [], keepNew_append [], keepNew_append _ (e.brings links), missed]

/-- The enumerations of other names stay, in order. -/
theorem filter_enums (plain : root.isPlain = true) (distinct : DistinctNames root)
    (split : entriesOf root = before ++ e :: after) :
    (descriptionOf links settings (withoutEntry e.path e.verb root)).enums.filter
        (fun c => !((e.brings links).map (·.name)).contains c.name) =
      (descriptionOf links settings root).enums.filter
        fun c => !((e.brings links).map (·.name)).contains c.name := by
  obtain ⟨enums, enums'⟩ := @enums_withoutEntry links _ _ _ _ settings plain distinct split
  rw [enums, enums', filter_keepNew (fun n => !((e.brings links).map (·.name)).contains n),
    filter_keepNew (fun n => !((e.brings links).map (·.name)).contains n)]
  have own : (e.brings links).filter (fun c => !((e.brings links).map (·.name)).contains c.name) = [] := by
    refine List.filter_eq_nil_iff.mpr fun c hc => ?_
    simpa using ⟨c, hc, rfl⟩
  simp only [List.filter_append, own, List.nil_append]

theorem enumNames_others (plain : root.isPlain = true) (distinct : DistinctNames root)
    (split : entriesOf root = before ++ e :: after) :
    ∀ n, n ∉ (e.brings links).map (·.name) →
      (n ∈ (descriptionOf links settings (withoutEntry e.path e.verb root)).enums.map (·.name) ↔
        n ∈ (descriptionOf links settings root).enums.map (·.name)) := by
  intro n other
  obtain ⟨enums, enums'⟩ := @enums_withoutEntry links _ _ _ _ settings plain distinct split
  rw [enums, enums', mem_names_keepNew, mem_names_keepNew]
  simp only [List.map_append, List.mem_append, other, false_or]

theorem enumNames_fewer (plain : root.isPlain = true) (distinct : DistinctNames root)
    (split : entriesOf root = before ++ e :: after) :
    ∀ n ∈ (descriptionOf links settings (withoutEntry e.path e.verb root)).enums.map (·.name),
      n ∈ (descriptionOf links settings root).enums.map (·.name) := by
  intro n known
  obtain ⟨enums, enums'⟩ := @enums_withoutEntry links _ _ _ _ settings plain distinct split
  rw [enums', mem_names_keepNew] at known
  rw [enums, mem_names_keepNew]
  refine known.imp_right fun h => ?_
  simp only [List.map_append, List.mem_append] at h ⊢
  rcases h with earlier | later
  · exact .inl earlier
  · exact .inr (.inr later)

/-- A field is resolved alike where a name counts as that of an enumeration, and where it no longer does. -/
theorem resolve_alike {definitions : Fields Model} {names enums enums' : List String}
    (same : ∀ n, n ∉ names → (n ∈ enums' ↔ n ∈ enums)) (fewer : ∀ n ∈ enums', n ∈ enums)
    (field : String × Property) :
    FieldAlike names ⟨field.1, TypeContext.resolve ⟨definitions, enums⟩ field.2⟩
      ⟨field.1, TypeContext.resolve ⟨definitions, enums'⟩ field.2⟩ := by
  obtain ⟨name, p⟩ := field
  refine ⟨rfl, ?_⟩
  cases kind : p.kind with
  | reference =>
    have resolved : ∀ context : TypeContext, context.resolve p =
        (context.resolveTarget (p.target.getD "")).withNullable (!p.required) := by
      intro context
      simp only [TypeContext.resolve, kind]
    simp only [resolved]
    by_cases known : modelName (p.target.getD "") ∈ enums'
    · left
      simp only [TypeContext.resolveTarget, List.contains_iff_mem, known, fewer _ known, if_true]
    · by_cases brought : modelName (p.target.getD "") ∈ names
      · right
        refine ⟨_, brought, ?_⟩
        simp only [TypeContext.resolveTarget, List.contains_iff_mem, known, if_false]
        rfl
      · left
        have neither : modelName (p.target.getD "") ∉ enums := mt (same _ brought).mpr known
        simp only [TypeContext.resolveTarget, List.contains_iff_mem, known, neither, if_false]
  | _ =>
    left
    simp only [TypeContext.resolve, kind]

/-- Models are alike where a name counts as that of an enumeration, and where it no longer does. -/
theorem models_alike {definitions : Fields Model} {names enums enums' : List String}
    (same : ∀ n, n ∉ names → (n ∈ enums' ↔ n ∈ enums)) (fewer : ∀ n ∈ enums', n ∈ enums) :
    List.Forall₂ (ModelAlike names) (models ⟨definitions, enums⟩) (models ⟨definitions, enums'⟩) := by
  unfold models
  rw [List.forall₂_map_left_iff, List.forall₂_map_right_iff]
  apply List.forall₂_same.mpr
  intro definition _
  refine ⟨rfl, ?_⟩
  unfold modelOf
  rw [List.forall₂_map_left_iff, List.forall₂_map_right_iff]
  exact List.forall₂_same.mpr fun field _ => resolve_alike same fewer field

/-- The models of a run, which differ only with the names of its enumerations. -/
theorem models_descriptionOf (links : Links) (settings : Settings) (root : Value) :
    (descriptionOf links settings root).models = models
      ⟨(Document.read links root).1.definitions, (descriptionOf links settings root).enums.map (·.name)⟩ :=
  rfl

/-- Two runs with the same interface and the same enumerations over the same definitions. -/
theorem descriptionOf_withoutEntry (plain : root.isPlain = true)
    (interface : (descriptionOf links settings (withoutEntry e.path e.verb root)).interface =
      (descriptionOf links settings root).interface)
    (enums : (descriptionOf links settings (withoutEntry e.path e.verb root)).enums =
      (descriptionOf links settings root).enums) :
    descriptionOf links settings (withoutEntry e.path e.verb root) = descriptionOf links settings root := by
  have modelNames := @modelNames_withoutEntry links _ settings e.path e.verb plain
  have models := models_descriptionOf links settings (withoutEntry e.path e.verb root)
  rw [enums, definitions_withoutEntry plain, ← models_descriptionOf] at models
  generalize descriptionOf links settings (withoutEntry e.path e.verb root) = made at *
  generalize descriptionOf links settings root = whole at *
  cases made
  cases whole
  cases interface
  cases enums
  cases modelNames
  cases models
  rfl

/-- The run over a document without one of its entries, which was at fault, against the run over the whole
document. -/
structure LeavesAlike (links : Links) (settings : Settings) (root : Value) (before : List Entry) (e : Entry)
    (fault : Fault) : Prop where
  /-- The fault of the entry is gone from the failures, and nothing else. -/
  failures : LosesOne fault (failuresOf links settings root)
    (failuresOf links settings (withoutEntry e.path e.verb root))
  /-- What is generated differs in what the entry brings, if in anything. -/
  alike : AlikeBut ((e.brings links).map (·.name)) (descriptionOf links settings root)
    (descriptionOf links settings (withoutEntry e.path e.verb root))
  /-- An entry that could not be read has brought nothing. -/
  unread : (∀ o, e.read links ≠ .ok o) →
    descriptionOf links settings (withoutEntry e.path e.verb root) = descriptionOf links settings root
  /-- What it brings is not missed where entries before it bring enumerations of the same names. -/
  repeated : (∀ c ∈ e.brings links, c.name ∈ (before.flatMap (Entry.brings links)).map (·.name)) →
    descriptionOf links settings (withoutEntry e.path e.verb root) = descriptionOf links settings root

/-- **A skipped operation leaves alike what is generated**: the run over a document without an entry that
gives no method has the same methods and one failure less, and what the two runs generate differs only by
the enumerations of the entry's path parameters. -/
theorem skipped_leavesAlike (plain : root.isPlain = true) (distinct : DistinctNames root) (links : Links)
    (settings : Settings) (split : entriesOf root = before ++ e :: after) {fault : Fault}
    (failed : e.outcome links (descriptionOf links settings root).modelNames settings.headerOverrides =
      .error fault) : LeavesAlike links settings root before e fault := by
  obtain ⟨lost, interface⟩ := methods_withoutEntry plain distinct split failed
  have repeated : (∀ c ∈ e.brings links, c.name ∈ (before.flatMap (Entry.brings links)).map (·.name)) →
      descriptionOf links settings (withoutEntry e.path e.verb root) = descriptionOf links settings root :=
    fun known => descriptionOf_withoutEntry plain interface (enums_repeated plain distinct split known)
  refine ⟨lost, ⟨interface, modelNames_withoutEntry plain, filter_enums plain distinct split, ?_⟩, ?_, repeated⟩
  · rw [models_descriptionOf, models_descriptionOf, definitions_withoutEntry plain]
    exact models_alike (enumNames_others plain distinct split) (enumNames_fewer plain distinct split)
  · intro unread
    refine repeated fun c hc => ?_
    unfold Entry.brings at hc
    cases read : e.read links with
    | error => simp [read] at hc
    | ok o => exact absurd read (unread o)

/-- A parameter of the path with one literal. -/
def kindParameter : Value :=
  .object [("name", .str "kind"), ("in", .str "path"), ("required", .bool true), ("type", .str "string"),
    ("enum", .list [.str "dog"])]

/-- An entry with a parameter that brings an enumeration, and without an identifier. -/
def unnamedEntry : Entry :=
  ⟨"/pets/\x7bkind\x7d", "get", .object [("parameters", .list [kindParameter])], .null⟩

/-- A document with that entry. -/
def unnamedRoot : Value :=
  .object [("paths", .object [(unnamedEntry.path, .object [("get", unnamedEntry.node)])])]

theorem distinctNames_unnamedRoot : DistinctNames unnamedRoot where
  paths := List.nodup_singleton _
  verbs := by
    intro path fs h
    cases List.mem_singleton.mp h
    exact List.nodup_singleton _

/-- The entry brings an enumeration that nothing else brings. -/
theorem skipped_leavesAlike_unnamed :
    (unnamedEntry.brings .none).map (·.name) = ["Kind"] ∧
      LeavesAlike .none {} unnamedRoot [] unnamedEntry (.noOperationId unnamedEntry.path "get") :=
  ⟨rfl, skipped_leavesAlike rfl distinctNames_unnamedRoot .none {} rfl rfl⟩

/-- Whether every entry that gives no method leaves what is generated as it is without it, and one failure
behind. -/
def LeavesNoTrace (links : Links) (settings : Settings) (root : Value) : Prop :=
  ∀ e ∈ entriesOf root, ∀ fault,
    e.outcome links (descriptionOf links settings root).modelNames settings.headerOverrides = .error fault →
    descriptionOf links settings (withoutEntry e.path e.verb root) = descriptionOf links settings root ∧
      LosesOne fault (failuresOf links settings root)
        (failuresOf links settings (withoutEntry e.path e.verb root))

/-- The enumeration of a skipped operation is generated, and not without it. -/
theorem not_leavesNoTrace : ¬ LeavesNoTrace .none {} unnamedRoot := by
  intro h
  obtain ⟨same, _⟩ := h unnamedEntry List.mem_cons_self (.noOperationId unnamedEntry.path "get") rfl
  have one : (descriptionOf .none {} unnamedRoot).enums.length = 1 := rfl
  have none : (descriptionOf .none {} (withoutEntry unnamedEntry.path unnamedEntry.verb unnamedRoot)).enums.length =
      0 := rfl
  rw [same, one] at none
  exact absurd none (by decide)

end TypedClient
