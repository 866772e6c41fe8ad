import TypedClient.CommandLine.Run
import TypedClient.Proofs.Acquisition
import TypedClient.Proofs.Completion
import TypedClient.Proofs.SettingsText

/-!
# Runs that end with a message

A run that ends with the exit code one says so and has done nothing else: there is no package to generate, no source
to generate it from, or a fault was reported. All such faults are met while the settings are read. From then on
whatever goes wrong is either stepped over or leaves the program.

**What is proved.** `run_refused`: a run that ends with the exit code one has left the files as they were, and
generating a package that was found fails with no fault that is reported, whatever has been done before.

A run has two phases. In the first it may be refused and `Spares` the files; in the second it changes them and
`Settles` one way or the other. `Refusable` is what the two phases make of a run, put together by `Refusable.bind`.
-/

namespace TypedClient

open Schema References

/-! ## What is computed before anything is written -/

theorem failsOnly_of_exists {α : Type} {kind : Fault → Prop} {x : Except Fault α} (h : ∃ a, x = .ok a) :
    FailsOnly kind x := by
  obtain ⟨a, rfl⟩ := h
  exact failsOnly_ok a

namespace Schema

/-- A fault of getting a document: one of loading, or one that is not reported. -/
def IsOriginFault (fault : Fault) : Prop := isLoadingFault fault = true ∨ fault.IsUnreported

theorem sourceText_failsOnly (setting : Value) : FailsOnly IsOriginFault (sourceText setting) := by
  unfold sourceText
  split
  · exact failsOnly_error (.inl rfl)
  · split
    · exact failsOnly_ok _
    · exact failsOnly_error (.inr rfl)

theorem isOriginFault_of_following {fault : Fault} (h : IsFollowingFault fault) : IsOriginFault fault := by
  cases h <;> exact .inr rfl

theorem attempt_failsOnly {α : Type} {answer : Except Fault α} (h : FailsOnly IsFollowingFault answer) :
    FailsOnly IsOriginFault (attempt answer) := by
  cases answer with
  | ok a => exact failsOnly_ok a
  | error cause =>
    cases kind : isDocumentFault cause with
    | true =>
      rw [attempt_faulty kind]
      exact failsOnly_error (.inl rfl)
    | false =>
      rw [attempt_other kind]
      exact failsOnly_error (isOriginFault_of_following (h cause rfl))

theorem read_failsOnly (o : Origin) (source : String) : FailsOnly IsOriginFault (o.read source) := by
  intro fault h
  by_cases named : source = ""
  · subst named
    cases (read_empty o).symm.trans h
    exact .inl rfl
  · rcases read_cases o.linker named with ⟨found, had⟩ | ⟨cause, refused, failed⟩
    · cases had.symm.trans h
    · cases failed.symm.trans h
      exact .inl (isLoadingFault_of_refuses refused)

theorem load_failsOnly (o : Origin) (source : String) :
    FailsOnly IsOriginFault (o.loadWith o.linker source) := by
  refine (read_failsOnly o source).bind fun found => ?_
  dsimp only
  split
  · exact failsOnly_error (.inr rfl)
  · split
    · exact failsOnly_error (.inl rfl)
    · exact attempt_failsOnly (link_failsOnly o _ _)

theorem loadFields_failsOnly (o : Origin) (setting : Value) : FailsOnly IsOriginFault (o.loadFields setting) := by
  refine (sourceText_failsOnly setting).bind fun source => ?_
  refine (load_failsOnly o source).bind_of_eq fun loaded had => ?_
  obtain ⟨address, content, linked⟩ := link_of_load had
  obtain ⟨library, links⟩ := links_of_link linked
  have look : FailsOnly IsOriginFault (loaded.links.look loaded.root) := by
    rw [links]
    exact fun fault failed => isOriginFault_of_following (links_failsOnly library maxFollowed _ fault failed)
  refine look.bind fun root => ?_
  split
  · exact failsOnly_ok _
  · exact failsOnly_error (.inl rfl)

/-- A schema that cannot be loaded and is not stepped over fails with no fault that is reported. -/
theorem schema_unreported (o : Origin) (setting : Value) : FailsOnly Fault.IsUnreported (o.schema setting) := by
  unfold Origin.schema Origin.schemaWith
  have loading := loadFields_failsOnly o setting
  split
  · exact failsOnly_ok _
  · next fault failed =>
    split
    · exact failsOnly_ok _
    · next other => exact failsOnly_error ((loading fault failed).resolve_left other)

end Schema

namespace Client

open Api

theorem requiredText_unreported (v : Value) : FailsOnly Fault.IsUnreported v.requiredText := by
  cases v <;> first | exact failsOnly_ok _ | exact failsOnly_error rfl

theorem packageName_unreported (settings : Settings) : FailsOnly Fault.IsUnreported (packageName settings) := by
  unfold packageName
  split
  · exact requiredText_unreported _
  · exact failsOnly_ok _

theorem moduleNamePart_unreported (v : Value) : FailsOnly Fault.IsUnreported (moduleNamePart v) := by
  cases v <;> first | exact failsOnly_ok _ | exact failsOnly_error rfl

theorem moduleName_unreported (settings : Settings) : FailsOnly Fault.IsUnreported (moduleName settings) := by
  refine (items_unreported _).bind fun vs => ?_
  exact (FailsOnly.mapM fun v _ => moduleNamePart_unreported v).bind fun _ => failsOnly_ok _

theorem settingsFiles_unreported (settings : Settings) : FailsOnly Fault.IsUnreported (settingsFiles settings) := by
  unfold settingsFiles
  split
  · exact (Toml.write_yields settings.toTable).fails.bind fun _ => failsOnly_ok _
  · exact failsOnly_ok _

/-- A description with well-formed types becomes a package, or the settings are at fault, which is not reported. -/
theorem package_unreported (settings : Settings) {d : Description} (h : d.WellFormed) :
    FailsOnly Fault.IsUnreported (package settings d) := by
  unfold package
  refine (packageName_unreported settings).bind fun name => ?_
  refine (failsOnly_of_exists (exists_modelsFile _ h.models)).bind fun models => ?_
  refine (failsOnly_of_exists (exists_interfaceFile _ _ _ h.methods)).bind fun methods => ?_
  refine (moduleName_unreported settings).bind fun module => ?_
  exact (settingsFiles_unreported settings).bind fun _ => failsOnly_ok _

end Client

namespace Files.FileTree

theorem makeDirectories_unreported (t : FileTree) (path : String) :
    FailsOnly Fault.IsUnreported (t.makeDirectories path).2 := by
  unfold makeDirectories
  dsimp only
  split
  · exact failsOnly_error rfl
  · split
    · exact failsOnly_error rfl
    · split
      · exact failsOnly_ok _
      · exact failsOnly_error rfl
      · exact failsOnly_error rfl

theorem writeText_unreported (t : FileTree) (path text : String) :
    FailsOnly Fault.IsUnreported (t.writeText path text) := by
  unfold writeText
  dsimp only
  split
  · exact failsOnly_error rfl
  · exact failsOnly_ok _
  · split
    · exact failsOnly_error rfl
    · split
      · split
        · split
          · exact failsOnly_error rfl
          · exact failsOnly_ok _
        · exact failsOnly_error rfl
      · exact failsOnly_error rfl
      · exact failsOnly_error rfl
  · exact failsOnly_error rfl

end Files.FileTree

theorem Settings.save_unreported (s : Settings) (files : Files.FileTree) (path : String) :
    FailsOnly Fault.IsUnreported (s.save files path).2 := by
  unfold save
  have emptied := files.writeText_unreported path ""
  have written := Toml.write_yields s.toTable
  split
  · next failed => exact failsOnly_error (emptied _ failed)
  · split
    · next failed => exact failsOnly_error (written.fails _ failed)
    · split
      · exact failsOnly_ok _
      · next failed => exact failsOnly_error (files.writeText_unreported path _ _ failed)

namespace CommandLine

/-! ## Parts of a run -/

section

variable {α β : Type} {t : Task α}

/-- A part of a run that leaves the files as they are. -/
def Spares (t : Task α) : Prop := ∀ p, (t.run.run p).2.files = p.files

/-- A part of a run that comes to something good or is at fault in a way that is not reported, whatever has been
done before. -/
def Settles (good : α → Prop) (t : Task α) : Prop := ∀ p, Yields good Fault.IsUnreported (t.run.run p).1

/-- A run that leaves the files as they are when it is refused: with the exit code one or a reported fault. -/
def Refusable (t : Task Nat) : Prop :=
  ∀ p, ¬ Yields (· ≠ 1) Fault.IsUnreported (t.run.run p).1 → (t.run.run p).2.files = p.files

theorem spares_pure (a : α) : Spares (pure a) := fun _ => rfl

theorem spares_say (line : String) : Spares (say line) := fun _ => rfl

theorem spares_get : Spares (get : Task Progress) := fun _ => rfl

theorem spares_lift (x : Except Fault α) : Spares (liftM x) := by
  intro p
  rfl

theorem Spares.bind {f : α → Task β} (ht : Spares t) (hf : ∀ a, Spares (f a)) : Spares (t >>= f) := by
  intro p
  have first := ht p
  rw [Watcher.run_bind]
  cases done : t.run.run p with
  | mk result next =>
    rw [done] at first
    cases result with
    | ok a => exact (hf a next).trans first
    | error fault => exact first

variable {good : α → Prop} {goodNext : β → Prop}

theorem settles_pure {a : α} (h : good a) : Settles good (pure a) := fun _ => yields_ok h

theorem settles_throw {fault : Fault} (h : fault.IsUnreported) : Settles good (throw fault : Task α) :=
  fun _ => yields_error h

theorem settles_say (line : String) : Settles (fun _ => True) (say line) := fun _ => yields_ok trivial

theorem settles_note (events : List Event) : Settles (fun _ => True) (note events) := fun _ => yields_ok trivial

theorem settles_get : Settles (fun _ => True) (get : Task Progress) := fun _ => yields_ok trivial

theorem settles_set (p : Progress) : Settles (fun _ => True) (set p : Task Unit) := fun _ => yields_ok trivial

theorem settles_lift {x : Except Fault α} (h : Yields good Fault.IsUnreported x) : Settles good (liftM x) :=
  fun _ => h

theorem Settles.bind {f : α → Task β} (ht : Settles good t) (hf : ∀ a, good a → Settles goodNext (f a)) :
    Settles goodNext (t >>= f) := by
  intro p
  have first := ht p
  rw [Watcher.run_bind]
  cases done : t.run.run p with
  | mk result next =>
    rw [done] at first
    cases result with
    | ok a => exact hf a (first.result a rfl) next
    | error fault => exact yields_error (first.fails fault rfl)

theorem settles_forM {f : β → Task PUnit} {xs : List β} (h : ∀ x ∈ xs, Settles (fun _ => True) (f x)) :
    Settles (fun _ => True) (xs.forM f) := by
  induction xs with
  | nil => exact settles_pure trivial
  | cons x rest ih =>
    show Settles _ (f x >>= fun _ => rest.forM f)
    exact (h x List.mem_cons_self).bind fun _ _ => ih fun y hy => h y (List.mem_cons_of_mem _ hy)

theorem refusable_of_spares {t : Task Nat} (h : Spares t) : Refusable t := fun p _ => h p

theorem refusable_of_settles {t : Task Nat} (h : Settles (· ≠ 1) t) : Refusable t :=
  fun p refused => absurd (h p) refused

/-- What comes before a run that may be refused leaves the files as they are. -/
theorem Refusable.bind {f : α → Task Nat} (ht : Spares t)
    (hf : ∀ p a, (t.run.run p).1 = .ok a → Refusable (f a)) : Refusable (t >>= f) := by
  intro p refused
  have first := ht p
  have given := hf p
  rw [Watcher.run_bind] at refused ⊢
  cases done : t.run.run p with
  | mk result next =>
    rw [done] at refused first given
    cases result with
    | ok a => exact (given a rfl next refused).trans first
    | error fault => exact first

end

/-! ## Generating and writing -/

theorem settles_change {f : Files.FileTree → Files.FileTree × Except Fault Unit}
    (h : ∀ files, FailsOnly Fault.IsUnreported (f files).2) : Settles (fun _ => True) (change f) := by
  intro p
  exact ⟨fun _ _ => trivial, h p.files⟩

theorem settles_describe (settings : Settings) (loaded : Schema.Outcome) :
    Settles (fun described => described.1.WellFormed) (describe settings loaded) := by
  have shown := shown_unreported settings.componentName
  unfold describe
  extract_lets described
  have settles : ∀ u, Settles (fun described => described.1.WellFormed) (described u) := fun _ =>
    (settles_note _).bind fun _ _ => settles_pure (Api.describe_wellFormed ..)
  split
  · next fault failed =>
    exact (settles_note _).bind fun _ _ => (settles_throw (shown fault failed)).bind fun u (_ : True) => settles u
  · exact settles ()

/-- Generating a package for settings that name a source. -/
theorem settles_generate (surroundings : Surroundings) {settings : Settings} (named : settings.source.truthy = true) :
    Settles (fun _ => True) (generate surroundings settings) := by
  unfold generate
  extract_lets body
  have settles : Settles (fun _ => True) (body ()) := by
    refine (settles_lift (shown_unreported settings.source).yields).bind fun source _ => ?_
    refine (settles_say _).bind fun _ _ => (settles_say _).bind fun _ _ => settles_get.bind fun p _ => ?_
    refine (settles_lift (schema_unreported _ settings.source).yields).bind fun loaded _ => ?_
    refine (settles_note _).bind fun _ _ => (settles_say _).bind fun _ _ => ?_
    refine (settles_describe settings loaded).bind fun described wellFormed => ?_
    obtain ⟨description, events⟩ := described
    dsimp -zeta only at wellFormed ⊢
    extract_lets count rendered counted
    have renders : Settles (fun _ => True) (rendered ()) := by
      refine (settles_lift (Client.packageName_unreported settings).yields).bind fun _ _ => ?_
      refine (settles_note _).bind fun _ _ => settles_lift ?_
      exact ⟨fun _ _ => trivial, Client.package_unreported settings wellFormed⟩
    have counts : Settles (fun _ => True) (counted ()) := by
      dsimp -zeta only [counted]
      split
      · exact (settles_say _).bind fun _ _ => renders
      · exact renders
    split
    · exact (settles_note _).bind fun _ _ => (settles_say _).bind fun _ _ => counts
    · exact counts
  rw [named]
  exact settles

theorem settles_writeFile (directory : String) (file : String × String) :
    Settles (fun _ => True) (writeFile directory file) := by
  refine (settles_change fun files => files.makeDirectories_unreported _).bind fun _ _ => ?_
  refine settles_change fun files => ?_
  have written := files.writeText_unreported (Files.Path.join directory file.1) file.2
  split
  · exact failsOnly_ok _
  · next failed => exact failsOnly_error (written _ failed)

theorem settles_save (surroundings : Surroundings) (project : Source.Project) (directory : Value) :
    Settles (fun _ => True) (save surroundings project directory) := by
  unfold save
  extract_lets files written
  have settles : ∀ directory, Settles (fun _ => True) (written directory) := fun directory =>
    (settles_forM fun file _ => settles_writeFile directory file).bind fun _ _ =>
      (settles_say _).bind fun _ _ => settles_say _
  refine (settles_say _).bind fun _ _ => ?_
  split
  · exact settles _
  · have unreported : Fault.notIterable.IsUnreported := rfl
    exact (settles_throw unreported).bind fun directory (_ : True) => settles directory

/-- **Generating a package** for settings that name a source, and writing it, fails with no fault that is
reported. -/
theorem settles_generateInto (surroundings : Surroundings) {settings : Settings}
    (named : settings.source.truthy = true) (directory : Value) :
    Settles (fun _ => True) (generateInto surroundings settings directory) :=
  (settles_generate surroundings named).bind fun project _ => settles_save surroundings project directory

theorem settles_saveSettings (settings : Settings) : Settles (fun _ => True) (saveSettings settings) := by
  unfold saveSettings
  refine settles_get.bind fun p _ => ?_
  have written := Settings.save_unreported settings p.files Settings.fileName
  refine (settles_set _).bind fun _ _ => ?_
  exact (settles_lift written.yields).bind fun _ _ => settles_say _

/-! ## A run -/

theorem settings_of_mem_findPackages {files : Files.FileTree} {packages : List (String × Settings)}
    (found : findPackages files = .ok packages) {q : String × Settings} (h : q ∈ packages) :
    q.2.source.truthy = true := by
  obtain ⟨all, _, heq⟩ := bind_eq_ok.mp found
  cases heq
  exact (List.mem_filter.mp h).2

theorem refusable_runAll (surroundings : Surroundings) : Refusable (runAll surroundings) := by
  unfold runAll
  refine Refusable.bind spares_get fun p q _ => ?_
  refine Refusable.bind (spares_lift _) fun _ packages found => ?_
  split
  · exact refusable_of_spares ((spares_say _).bind fun _ => spares_pure 1)
  · refine refusable_of_settles ((settles_forM fun q hq => ?_).bind fun _ _ => settles_pure (by decide))
    obtain ⟨directory, settings⟩ := q
    exact (settles_say _).bind fun _ _ =>
      settles_generateInto surroundings (settings_of_mem_findPackages found hq) (.str directory)

theorem spares_settingsFor (a : SettingArguments) : Spares (settingsFor a) := by
  unfold settingsFor
  refine spares_get.bind fun p => (spares_lift _).bind fun found => ?_
  extract_lets merged
  have spares : ∀ u, Spares (merged u) := fun _ => (spares_lift _).bind fun _ => spares_pure _
  split
  · exact (spares_say _).bind fun u => spares u
  · exact spares ()

theorem refusable_runOne (surroundings : Surroundings) (o : Options) : Refusable (runOne surroundings o) := by
  unfold runOne
  refine Refusable.bind (spares_settingsFor _) fun _ settings _ => ?_
  split
  · exact refusable_of_settles ((settles_saveSettings settings).bind fun _ _ => settles_pure (by decide))
  · split
    · exact refusable_of_spares ((spares_say _).bind fun _ => spares_pure 1)
    · next named =>
      have named : settings.source.truthy = true := by simpa using named
      refine Refusable.bind (spares_lift _) fun _ shown _ => refusable_of_settles ?_
      refine (settles_say _).bind fun _ _ => ?_
      exact (settles_generateInto surroundings named _).bind fun _ _ => settles_pure (by decide)

theorem refusable_runBody (surroundings : Surroundings) (o : Options) :
    Refusable (if o.all then runAll surroundings else runOne surroundings o) := by
  split
  · exact refusable_runAll surroundings
  · exact refusable_runOne surroundings o

/-- The exit code one is that of a run that is refused. -/
theorem runOptions_refused {surroundings : Surroundings} {o : Options} {p : Progress}
    (h : ((runOptions surroundings o).run.run p).1 = .ok 1) :
    ((runOptions surroundings o).run.run p).2.files = p.files := by
  have refusable := refusable_runBody surroundings o p
  unfold runOptions at h ⊢
  rw [Watcher.run_tryCatch] at h ⊢
  generalize (if o.all then runAll surroundings else runOne surroundings o) = body at h refusable ⊢
  cases done : body.run.run p with
  | mk result next =>
    rw [done] at h refusable
    cases result with
    | ok code =>
      cases h
      exact refusable fun yields => yields.result 1 rfl rfl
    | error fault =>
      dsimp only at h ⊢
      split at h
      · next reported =>
        rw [if_pos reported]
        exact refusable fun yields => Bool.noConfusion ((yields.fails fault rfl).symm.trans reported)
      · cases h

/-- **A run that ends with the exit code one** has left the files as they were. Once the packages of a tree have
been found, generating one of them fails with no fault that is reported, whatever has been done before. -/
theorem run_refused (surroundings : Surroundings) (files : Files.FileTree) (arguments : List String) :
    ((run surroundings files arguments).exit = .ok 1 → (run surroundings files arguments).progress.files = files) ∧
    ∀ packages, findPackages files = .ok packages → ∀ q ∈ packages, ∀ p,
      FailsOnly Fault.IsUnreported ((generateInto surroundings q.2 (.str q.1)).run.run p).1 := by
  refine ⟨fun h => ?_, fun packages found q hq p => ?_⟩
  · unfold run at h ⊢
    generalize Request.read arguments = request at h ⊢
    cases request with
    | refused => rfl
    | help => rfl
    | run o => exact runOptions_refused h
  · exact (settles_generateInto surroundings (settings_of_mem_findPackages found hq) _ p).fails

/-- A package whose headers are no table. -/
def brokenPackage : Files.FileTree :=
  ({} : Files.FileTree).addFile "pets/swagger.toml" (.text "source = \"api.json\"\nheaders = 1\n")

/-- A run for it is refused and writes nothing. -/
theorem run_refused_broken : (run {} brokenPackage ["--dirname", "pets"]).exit = .ok 1 ∧
    (run {} brokenPackage ["--dirname", "pets"]).progress.files = brokenPackage := by
  have refused : (run {} brokenPackage ["--dirname", "pets"]).exit = .ok 1 := toOption_eq_some.mp (by decide +kernel)
  exact ⟨refused, (run_refused {} brokenPackage ["--dirname", "pets"]).1 refused⟩

end CommandLine

end TypedClient
