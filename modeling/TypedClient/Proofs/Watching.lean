import TypedClient.Client.Package
import TypedClient.Api.Describe
import TypedClient.Schema.Document
import TypedClient.Proofs.Outcome

/-!
# Generation under a watcher

Reading and generation leave their failures as events, and nothing they return depends on who is told of
them. Here the same run is written the other way round: a `Watcher` is told of each failure at the moment
it is stepped over, with a state of its own, and may go wrong in being told. `Watcher.generate` is that
run, from a value to the texts of the files.

**What is proved.** `follows_read` and `follows_describe`: under every watcher the run goes through and
returns what `Document.read` and `describe` return, and the watcher has been told of exactly the failures
among their events, in their order. Each part has a lemma of its own, put together by `Follows.bind`.

Notices are not told to a watcher, so where they stand among the failures is not the matter here.
-/

namespace TypedClient

open Schema Api Client

variable {σ α β : Type}

/-- A part of a run that a watcher with a state follows. -/
abbrev Watched (σ : Type) := ExceptT Fault (StateM σ)

/-- Someone who is told of the failures of a run. Being told may change the state, and may go wrong. -/
structure Watcher (σ : Type) where
  told : Fault → Watched σ Unit

namespace Watcher

variable (w : Watcher σ)

/-- Tells of a failure. What goes wrong in being told stops there; what it changed stays. -/
def tell (fault : Fault) : Watched σ Unit :=
  tryCatch (w.told fault) fun _ => pure ()

/-- Tells of failures, one after the other. -/
def tellAll : List Fault → Watched σ Unit
  | [] => pure ()
  | fault :: rest => do
    w.tell fault
    tellAll rest

/-- A part of a run that is stepped over when it is at fault. -/
def attempt (part : Except Fault α) : Watched σ (Option α) :=
  tryCatch (some <$> (MonadExcept.ofExcept part : Watched σ α)) fun fault => do
    w.tell fault
    return none

/-- What can be had of a list, member by member; those at fault are stepped over. -/
def attemptEach (part : α → Except Fault β) : List α → Watched σ (List β)
  | [] => return []
  | a :: rest => do
    let b? ← w.attempt (part a)
    let bs ← attemptEach part rest
    return b?.toList ++ bs

/-- A top-level part of a document, empty when it is at fault. -/
def readPart (links : Links) (name : String) (found : Except Fault Value) :
    Watched σ (Fields Value) := do
  return (← w.attempt (partFields links name found)).getD []

/-- The paths that can be read, with those of their operations that can. -/
def readPaths (links : Links) : Fields Value → Watched σ (Fields (Fields Operation))
  | [] => return []
  | (path, v) :: rest => do
    match ← w.attempt (PathItem.read links v) with
    | some item =>
      let operations ← w.attemptEach
        (fun f => (f.1, ·) <$> Operation.read links f.1 f.2 item.shared) item.verbs
      return (path, operations) :: (← readPaths links rest)
    | none => readPaths links rest

/-- The document that a value describes. -/
def read (links : Links) (root : Value) : Watched σ Document := do
  let root := match links.present root with
    | .ok false => .object []
    | _ => root
  let definitions ← w.readPart links "definitions" (findDefinitions links root)
  let models ← w.attemptEach (fun f => (f.1, ·) <$> Model.read links f.2) definitions
  let paths ← w.readPart links "paths" (findPaths links root)
  return ⟨models, ← w.readPaths links paths⟩

/-- Adds the enumerations of the path parameters of all operations. -/
def addEndpointEnums (links : Links) : List Endpoint → List EnumType → Watched σ (List EnumType)
  | [], enums => return enums
  | e :: rest, enums => do
    let (enums, events) := addParameterEnums links e.operation.parameters enums
    w.tellAll (failures events)
    addEndpointEnums links rest enums

/-- The enumerations of a document. -/
def extractEnums (links : Links) (d : Document) : Watched σ (List EnumType) := do
  let enums ← w.addEndpointEnums links d.endpoints []
  return d.definitions.foldl
    (fun enums m => m.2.properties.foldl (addPropertyEnum links d.definitions) enums) enums

/-- The description of a document. -/
def describe (links : Links) (settings : Settings) (d : Document) : Watched σ Description := do
  let enums ← w.extractEnums links d
  let models := models ⟨d.definitions, enums.map (·.name)⟩
  let modelNames := models.map (·.name)
  let methods ← w.attemptEach (methodOf modelNames settings.headerOverrides) d.endpoints
  return { interface := ⟨settings.interfaceName, methods⟩, models, enums, modelNames }

end Watcher

/-- All that comes of a document: what was read, what was generated, and the texts of the files. -/
structure Generated where
  document : Document
  description : Description
  files : Fields String

/-- A run from a value to the texts of the files of a package. No fault of the package is stepped over. -/
def Watcher.generate (w : Watcher σ) (links : Links) (settings : Settings) (root : Value) :
    Watched σ Generated := do
  let document ← w.read links root
  let description ← w.describe links settings document
  let project ← (MonadExcept.ofExcept (package settings description) : Watched σ Source.Project)
  return ⟨document, description, packageFiles project⟩

/-! ## What a watcher is told -/

namespace Watcher

variable (w : Watcher σ)

/-- The state of a watcher after it was told of failures. -/
def after (s : σ) (faults : List Fault) : σ :=
  faults.foldl (fun s fault => ((w.told fault).run.run s).2) s

/-- A part of a run goes through with a result, and the watcher has been told of some failures. -/
def Follows (x : Watched σ α) (a : α) (faults : List Fault) : Prop :=
  ∀ s, x.run.run s = (.ok a, w.after s faults)

variable {w}

theorem run_bind (x : Watched σ α) (f : α → Watched σ β) (s : σ) :
    (x >>= f).run.run s = match x.run.run s with
      | (.ok a, next) => (f a).run.run next
      | (.error fault, next) => (.error fault, next) := by
  unfold ExceptT.run StateT.run
  simp only [bind, ExceptT.bind, ExceptT.mk, StateT.bind, ExceptT.bindCont]
  cases x s with
  | mk result next => cases result <;> rfl

theorem run_tryCatch (x : Watched σ α) (handler : Fault → Watched σ α) (s : σ) :
    (tryCatch x handler).run.run s = match x.run.run s with
      | (.ok a, next) => (.ok a, next)
      | (.error fault, next) => (handler fault).run.run next := by
  unfold ExceptT.run StateT.run
  simp only [tryCatch, tryCatchThe, MonadExceptOf.tryCatch, ExceptT.tryCatch, ExceptT.mk, bind, StateT.bind]
  cases x s with
  | mk result next => cases result <;> rfl

theorem follows_pure (a : α) : w.Follows (pure a) a [] := fun _ => rfl

/-- One part after the other: the failures of the first come first. -/
theorem Follows.bind {x : Watched σ α} {f : α → Watched σ β} {a : α} {b : β}
    {first later : List Fault} (hx : w.Follows x a first) (hf : w.Follows (f a) b later) :
    w.Follows (x >>= f) b (first ++ later) := by
  intro s
  rw [run_bind, hx s]
  show (f a).run.run (w.after s first) = _
  rw [hf (w.after s first), after, after, after, List.foldl_append]

/-- Something made of the result adds no failures. -/
theorem Follows.map {x : Watched σ α} {a : α} {faults : List Fault} (g : α → β)
    (hx : w.Follows x a faults) : w.Follows (x >>= fun a => pure (g a)) (g a) faults := by
  rw [← List.append_nil faults]
  exact hx.bind (follows_pure (g a))

/-- A failure is told, whatever the watcher makes of it. -/
theorem follows_tell (fault : Fault) : w.Follows (w.tell fault) () [fault] := by
  intro s
  rw [tell, run_tryCatch, after, List.foldl_cons, List.foldl_nil]
  cases (w.told fault).run.run s with
  | mk result next => cases result <;> rfl

theorem follows_tellAll (faults : List Fault) : w.Follows (w.tellAll faults) () faults := by
  induction faults with
  | nil => exact follows_pure ()
  | cons fault rest ih => exact (follows_tell fault).bind ih

/-- A part that goes through, whose faults would not be stepped over. -/
theorem follows_ofExcept {part : Except Fault α} {a : α} (h : part = .ok a) :
    w.Follows (MonadExcept.ofExcept part) a [] := h ▸ follows_pure a

theorem follows_attempt_ok (a : α) : w.Follows (w.attempt (.ok a)) (some a) [] := fun _ => rfl

theorem follows_attempt_error (fault : Fault) :
    w.Follows (w.attempt (.error fault : Except Fault α)) none [fault] := by
  intro s
  rw [attempt, run_tryCatch]
  exact ((follows_tell fault).map fun _ => none) s

end Watcher

/-! ## The failures among events -/

@[simp] theorem failures_append (first later : List Event) :
    failures (first ++ later) = failures first ++ failures later :=
  List.filterMap_append

/-- The notices about the names of parameters are no failures. -/
@[simp] theorem failures_nameNotices (e : Endpoint) : failures (nameNotices e) = [] := by
  unfold nameNotices
  split
  · rfl
  · rfl
  · rw [failures, List.filterMap_map]
    exact List.filterMap_eq_nil_iff.mpr fun _ _ => rfl

/-! ## Reading -/

namespace Watcher

variable (w : Watcher σ) (links : Links)

theorem follows_readPart (name : String) (found : Except Fault Value) :
    w.Follows (w.readPart links name found) (Schema.readPart links name found).1
      (failures (Schema.readPart links name found).2) := by
  unfold readPart Schema.readPart
  cases partFields links name found with
  | ok fs => exact (follows_attempt_ok fs).map fun fs? => fs?.getD []
  | error fault => exact (follows_attempt_error fault).map fun fs? => fs?.getD []

theorem follows_readDefinitions (fs : Fields Value) :
    w.Follows (w.attemptEach (fun f => (f.1, ·) <$> Model.read links f.2) fs)
      (readDefinitions links fs).1 (failures (readDefinitions links fs).2) := by
  induction fs with
  | nil => exact follows_pure []
  | cons f rest ih =>
    simp only [attemptEach, readDefinitions]
    cases Model.read links f.2 with
    | ok m => exact (follows_attempt_ok (f.1, m)).bind (ih.map fun models => [(f.1, m)] ++ models)
    | error fault => exact (follows_attempt_error fault).bind (ih.map fun models => [] ++ models)

theorem follows_readOperations (shared : Value) (fs : Fields Value) :
    w.Follows (w.attemptEach (fun f => (f.1, ·) <$> Operation.read links f.1 f.2 shared) fs)
      (readOperations links shared fs).1 (failures (readOperations links shared fs).2) := by
  induction fs with
  | nil => exact follows_pure []
  | cons f rest ih =>
    simp only [attemptEach, readOperations]
    cases Operation.read links f.1 f.2 shared with
    | ok o =>
      exact (follows_attempt_ok (f.1, o)).bind (ih.map fun operations => [(f.1, o)] ++ operations)
    | error fault =>
      exact (follows_attempt_error fault).bind (ih.map fun operations => [] ++ operations)

theorem follows_readPaths (fs : Fields Value) :
    w.Follows (w.readPaths links fs) (Schema.readPaths links fs).1
      (failures (Schema.readPaths links fs).2) := by
  induction fs with
  | nil => exact follows_pure []
  | cons f rest ih =>
    simp only [readPaths, Schema.readPaths]
    cases PathItem.read links f.2 with
    | ok item =>
      rw [failures_append]
      exact (follows_attempt_ok item).bind
        ((w.follows_readOperations links item.shared item.verbs).bind
          (ih.map fun paths => (f.1, (readOperations links item.shared item.verbs).1) :: paths))
    | error fault => exact (follows_attempt_error fault).bind ih

/-- **Reading under a watcher**: the document is the one that is read without, and the watcher has been
told of its failures. -/
theorem follows_read (root : Value) :
    w.Follows (w.read links root) (Document.read links root).1
      (failures (Document.read links root).2) := by
  simp only [read, Document.read, failures_append, List.append_assoc]
  refine (w.follows_readPart links _ _).bind ?_
  refine (w.follows_readDefinitions links _).bind ?_
  refine (w.follows_readPart links _ _).bind ?_
  exact (w.follows_readPaths links _).map _

/-! ## Generating -/

theorem follows_addEndpointEnums (endpoints : List Endpoint) (enums : List EnumType) :
    w.Follows (w.addEndpointEnums links endpoints enums)
      (Api.addEndpointEnums links endpoints enums).1
      (failures (Api.addEndpointEnums links endpoints enums).2) := by
  induction endpoints generalizing enums with
  | nil => exact follows_pure enums
  | cons e rest ih =>
    simp only [addEndpointEnums, Api.addEndpointEnums, failures_append]
    exact (follows_tellAll _).bind (ih _)

theorem follows_extractEnums (d : Document) :
    w.Follows (w.extractEnums links d) (Api.extractEnums links d).1
      (failures (Api.extractEnums links d).2) :=
  (w.follows_addEndpointEnums links d.endpoints []).map _

theorem follows_methods (modelNames : List String) (overrides : Value) (endpoints : List Endpoint) :
    w.Follows (w.attemptEach (methodOf modelNames overrides) endpoints)
      (methods modelNames overrides endpoints).1
      (failures (methods modelNames overrides endpoints).2) := by
  induction endpoints with
  | nil => exact follows_pure []
  | cons e rest ih =>
    simp only [attemptEach, methods]
    cases methodOf modelNames overrides e with
    | ok m =>
      rw [failures_append, failures_nameNotices]
      exact (follows_attempt_ok m).bind (ih.map fun found => [m] ++ found)
    | error fault =>
      rw [failures_append, failures_nameNotices]
      exact (follows_attempt_error fault).bind (ih.map fun found => [] ++ found)

/-- **Generation under a watcher**: the description is the one that is made without, and the watcher has
been told of its failures. -/
theorem follows_describe (settings : Settings) (d : Document) :
    w.Follows (w.describe links settings d) (Api.describe links settings d).1
      (failures (Api.describe links settings d).2) := by
  simp only [describe, Api.describe, failures_append]
  exact (w.follows_extractEnums links d).bind ((w.follows_methods _ _ _).map _)

/-- A run under a watcher whose description becomes a package. -/
theorem follows_generate {settings : Settings} {root : Value} {project : Source.Project}
    (h : package settings (Api.describe links settings (Document.read links root).1).1 = .ok project) :
    w.Follows (w.generate links settings root)
      ⟨(Document.read links root).1, (Api.describe links settings (Document.read links root).1).1,
        packageFiles project⟩
      (failures ((Document.read links root).2 ++
        (Api.describe links settings (Document.read links root).1).2)) := by
  rw [failures_append, ← List.append_nil (failures (Api.describe _ _ _).2)]
  refine (w.follows_read links root).bind ((w.follows_describe links settings _).bind ?_)
  exact (follows_ofExcept h).map _

end Watcher

end TypedClient
