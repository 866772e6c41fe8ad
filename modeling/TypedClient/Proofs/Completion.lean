import TypedClient.Proofs.ClassNames
import TypedClient.Proofs.Watching
import TypedClient.Proofs.WellFormed

/-!
# Generation runs to the end

Every fragment of a document is read behind a handler, but models, methods and files are made without
one. What keeps them from failing are the types: a well-formed type has a type hint, and the types of a
description are well-formed whatever the document.

**What is proved.** `package_completes`: a description with well-formed types becomes a package under
settings of the right types. `generate_completes`: from any value and under any watcher, one that always
fails among them, the run ends with the texts of the files, and they are the same for every watcher.

Writing the settings file may be refused for texts that its format cannot hold. That it is not is a
premise here.
-/

namespace TypedClient

open Schema Api Client Source

namespace Client

/-- A well-formed type has a type hint. -/
theorem exists_typeHint (names : ClassNames) {t : TypeRef} (h : t.WellFormed) :
    ∃ hint, typeHint names t = .ok hint := by
  fun_induction typeHint names t with
  | case1 => exact ⟨_, rfl⟩
  | case2 => cases h
  | case3 => exact ⟨_, rfl⟩
  | case4 _ _ item _ ih =>
    obtain ⟨inner, hi⟩ := ih h
    exact ⟨_, bind_eq_ok.mpr ⟨inner, hi, rfl⟩⟩
  | case5 _ _ item _ ih => exact ih h
  | case6 kind _ _ _ hp hn hr =>
    -- no item: the earlier cases have the scalars and the references, and no list is without one
    cases kind with
    | primitive => cases ‹Option Primitive› <;> simp at hp hn
    | reference => exact absurd rfl hr
    | list => exact h.elim
    | deferred => exact h.elim

/-- What a well-formed result is made of is well-formed. -/
theorem payload_wellFormed {t p : TypeRef} (h : t.WellFormed) (hp : payload t = some p) :
    p.WellFormed := by
  obtain ⟨kind, primitive, name, item, nullable⟩ := t
  cases kind <;> cases hp <;> exact h

theorem payloadTarget_wellFormed {t p : TypeRef} (h : t.WellFormed) (hp : payloadTarget t = some p) :
    p.WellFormed := by
  obtain ⟨kind, primitive, name, item, nullable⟩ := t
  cases kind <;> cases hp <;> exact h

/-- The model of a well-formed result can be looked up. -/
theorem exists_responseModel (names : ClassNames) {t : TypeRef} (h : t.WellFormed) :
    ∃ model, responseModel names t = .ok model := by
  unfold responseModel
  split
  · exact ⟨_, rfl⟩
  · next hp => cases payloadTarget_wellFormed h hp
  · exact ⟨_, rfl⟩

theorem exists_modelClass (names : ClassNames) (name : String) {m : ModelType} (h : m.WellFormed) :
    ∃ c, modelClass names name m = .ok c := by
  have each : ∀ p ∈ (attributeNames [] m.fields).zip m.fields,
      ∃ a, fieldAttribute names p.1 p.2 = .ok a := by
    intro p hp
    obtain ⟨hint, hh⟩ := exists_typeHint names (h p.2 (List.of_mem_zip hp).2)
    exact ⟨_, bind_eq_ok.mpr ⟨hint, hh, rfl⟩⟩
  obtain ⟨attributes, ha⟩ := exists_mapM_eq_ok each
  exact ⟨_, bind_eq_ok.mpr ⟨attributes, ha, rfl⟩⟩

theorem exists_modelsFile (names : ClassNames) {models : List ModelType}
    (h : ∀ m ∈ models, m.WellFormed) : ∃ f, modelsFile names models = .ok f := by
  have each : ∀ p ∈ modelsByClass names models,
      ∃ c, (do return (p.1, ← modelClass names p.1 p.2) : Except Fault (String × ClassDecl)) = .ok c := by
    intro p hp
    obtain ⟨c, hc⟩ := exists_modelClass names p.1 (h p.2 (of_mem_modelsByClass hp).1)
    exact ⟨_, bind_eq_ok.mpr ⟨c, hc, rfl⟩⟩
  obtain ⟨classes, hc⟩ := exists_mapM_eq_ok each
  exact ⟨_, bind_eq_ok.mpr ⟨classes, hc, rfl⟩⟩

theorem exists_methodFunction (names : ClassNames) {m : Method} (h : m.WellFormed) :
    ∃ f, methodFunction names m = .ok f := by
  have each : ∀ p ∈ namedParameters m, ∃ a, argument names p = .ok a := by
    intro p hp
    obtain ⟨hint, hh⟩ := exists_typeHint names (h.parameters p.2 (List.of_mem_zip hp).2)
    exact ⟨_, bind_eq_ok.mpr ⟨hint, hh, rfl⟩⟩
  obtain ⟨arguments, ha⟩ := exists_mapM_eq_ok each
  simp only [methodFunction, ha, ok_bind]
  cases hp : payload m.returns with
  | none => exact ⟨_, rfl⟩
  | some t =>
    have ht := payload_wellFormed h.returns hp
    obtain ⟨model, hm⟩ := exists_responseModel names ht
    obtain ⟨hint, hh⟩ := exists_typeHint names ht
    simp only [hm, hh, ok_bind]
    exact ⟨_, rfl⟩

theorem exists_interfaceFile (names : ClassNames) (name description : String) {methods : List Method}
    (h : ∀ m ∈ methods, m.WellFormed) : ∃ f, interfaceFile names name description methods = .ok f := by
  obtain ⟨functions, hf⟩ := exists_mapM_eq_ok fun m hm => exists_methodFunction names (h m hm)
  simp only [interfaceFile, interfaceClass, hf, ok_bind]
  exact ⟨_, rfl⟩

/-! ## The package -/

theorem exists_moduleName {settings : Settings} (h : settings.WellTyped) :
    ∃ name, moduleName settings = .ok name := by
  obtain ⟨_, _, _, hm, _, _⟩ := h
  unfold moduleName
  cases hv : settings.moduleName with
  | str s =>
    have each : ∀ v ∈ Links.characters s, ∃ part, moduleNamePart v = .ok part := by
      intro v hv
      obtain ⟨c, _, rfl⟩ := List.mem_map.mp hv
      exact ⟨_, rfl⟩
    obtain ⟨parts, hp⟩ := exists_mapM_eq_ok each
    exact ⟨_, bind_eq_ok.mpr ⟨_, rfl, bind_eq_ok.mpr ⟨parts, hp, rfl⟩⟩⟩
  | _ => simp [hv, Settings.isText] at hm

theorem exists_packageName {settings : Settings} (h : settings.WellTyped) :
    ∃ name, packageName settings = .ok name := by
  obtain ⟨_, hn, _⟩ := h
  unfold packageName
  cases hv : settings.packageName with
  | null => exact ⟨_, rfl⟩
  | str s => split <;> exact ⟨_, rfl⟩
  | _ => simp [hv, Settings.isTextOrNull] at hn

theorem exists_settingsFiles {settings : Settings}
    (written : ∃ text, Toml.write settings.toTable = .ok text) :
    ∃ files, settingsFiles settings = .ok files := by
  obtain ⟨text, ht⟩ := written
  unfold settingsFiles
  split
  · exact ⟨_, bind_eq_ok.mpr ⟨text, ht, rfl⟩⟩
  · exact ⟨_, rfl⟩

/-- **A description with well-formed types becomes a package**, when the settings have the right types
and can be written. -/
theorem package_completes {settings : Settings} (typed : settings.WellTyped)
    (written : ∃ text, Toml.write settings.toTable = .ok text) {d : Description} (h : d.WellFormed) :
    ∃ project, package settings d = .ok project := by
  obtain ⟨name, hname⟩ := exists_packageName typed
  obtain ⟨models, hmodels⟩ := exists_modelsFile (namesOf d) h.models
  obtain ⟨methods, hmethods⟩ := exists_interfaceFile (namesOf d)
    (className d.interface.name) ("Методы API " ++ settings.componentName.text) h.methods
  obtain ⟨module, hmodule⟩ := exists_moduleName typed
  obtain ⟨files, hfiles⟩ := exists_settingsFiles written
  simp only [package, hname, hmodels, hmethods, hmodule, hfiles, ok_bind]
  exact ⟨_, rfl⟩

/-- Under the settings that are there by default every document becomes a package. -/
theorem exists_defaultPackage (links : Links) (document : Document) :
    ∃ project, package {} (describe links {} document).1 = .ok project :=
  package_completes ⟨rfl, rfl, rfl, rfl, rfl, rfl⟩ ⟨_, rfl⟩ (describe_wellFormed ..)

end Client

/-! ## The run -/

/-- **Generation runs to the end** from every value, with or without links, under every watcher. What
was read, what was generated and the texts of the files do not depend on the watcher; it has been told
of the failures, those of reading before those of generation. -/
theorem generate_completes {settings : Settings} (typed : settings.WellTyped)
    (written : ∃ text, Toml.write settings.toTable = .ok text) (links : Links) (root : Value) :
    ∃ project,
      package settings (describe links settings (Document.read links root).1).1 = .ok project ∧
      ∀ (σ : Type) (w : Watcher σ) (s : σ),
        (w.generate links settings root).run.run s =
          (.ok ⟨(Document.read links root).1, (describe links settings (Document.read links root).1).1,
            packageFiles project⟩,
           w.after s (failures ((Document.read links root).2 ++
            (describe links settings (Document.read links root).1).2))) := by
  obtain ⟨project, hp⟩ := package_completes typed written
    (describe_wellFormed links settings (Document.read links root).1)
  exact ⟨project, hp, fun σ w s => w.follows_generate links hp s⟩

/-- A watcher that counts what it is told and goes wrong each time. -/
def countingWatcher : Watcher Nat where
  told fault := do
    modify (· + 1)
    throw fault

/-- A document whose definitions are a text and whose only operation is null. -/
def malformedRoot : Value :=
  .object [("definitions", .str "none"), ("paths", .object [("/pets", .object [("get", .null)])])]

/-- A run over a malformed document under a watcher that goes wrong: it ends, after two failures. -/
theorem generate_completes_malformed :
    ∃ generated, (countingWatcher.generate .none { source := .str "pets.json" } malformedRoot).run.run 0 =
      (.ok generated, 2) := by
  obtain ⟨project, _, run⟩ := @generate_completes { source := .str "pets.json" }
    ⟨rfl, rfl, rfl, rfl, rfl, rfl⟩ ⟨_, rfl⟩ .none malformedRoot
  have told : countingWatcher.after 0 (failures ((Document.read .none malformedRoot).2 ++
      (describe .none { source := .str "pets.json" } (Document.read .none malformedRoot).1).2)) = 2 := by
    decide
  exact ⟨_, (run Nat countingWatcher 0).trans (congrArg _ told)⟩

end TypedClient
