import TypedClient.Proofs.FileText
import TypedClient.Proofs.Headers
import TypedClient.Proofs.Refusals
import TypedClient.Proofs.SettingsLines

/-!
# Settings that are read again

A package is saved with its settings, and generating it anew begins with these. Not all settings survive that: a
setting that is null is left out of the file, and what is left out is read as its default, which need not be null.

**What is proved.** `reloaded_same`: the settings that a run comes by are read from their own table as they are, so
the packages for them are the same; and wherever a package is saved, its settings are read from there as they are, so
that generating it again and again changes nothing.

`Settings.Kept` is what makes settings survive. `Settings.kept_of_obtained` says that all settings of a run are so,
by induction on how they are come by. That a table is read from its own text is a premise (`Toml.ReadsBack`).
-/

namespace TypedClient

open Schema Api Client CommandLine Files

namespace Settings

/-! ## Settings and their table -/

/-- How a run comes by its settings: those that are there by default or those of a table without nulls, with
arguments put over them any number of times. -/
inductive Obtained : Settings → Prop
  | default : Obtained {}
  | read {table : Fields Value} {s : Settings} (filled : ∀ v ∈ table.values, v ≠ .null)
    (read : ofTable table = .ok s) : Obtained s
  | merged {s t : Settings} {a : SettingArguments} (before : Obtained s) (merged : s.merge a = .ok t) : Obtained t

/-- The headers are a table of lists of texts. -/
def ListsHeaders (s : Settings) : Prop :=
  ∃ hs : Fields Value, s.headerOverrides = .object hs ∧ ∀ v ∈ hs.values, ∃ texts, v = .ofTexts texts

/-- Settings that are read from their table as they are: what is null in them is null by default, and their headers
are as they are read. -/
structure Kept (s : Settings) : Prop where
  component : s.componentName ≠ .null
  module : s.moduleName ≠ .null
  headers : s.ListsHeaders

theorem argumentOr_ne_null (argument : Option String) {setting : Value} (h : setting ≠ .null) :
    argumentOr argument setting ≠ .null := by
  unfold argumentOr
  split
  · exact h
  · exact h
  · exact nofun

theorem getD_ne_null {table : Fields Value} (filled : ∀ v ∈ table.values, v ≠ .null) (name : String)
    {default : Value} (h : default ≠ .null) : (table.get? name).getD default ≠ .null := by
  cases found : table.get? name with
  | none => exact h
  | some v => exact filled v (Fields.mem_values.mpr ⟨name, Fields.mem_of_get? found⟩)

theorem listsHeaders_ofTable {table : Fields Value} {s : Settings} (read : ofTable table = .ok s) :
    s.ListsHeaders := by
  obtain ⟨fs, hs, _, headers, rfl⟩ := ofTable_eq_ok.mp read
  refine ⟨hs, rfl, fun v hv => ?_⟩
  obtain ⟨name, member⟩ := Fields.mem_values.mp hv
  obtain ⟨_, _, _, texts⟩ := exists_of_mem_right (readHeaders_alike headers) member
  exact ⟨_, texts⟩

theorem listsHeaders_merge {s t : Settings} {a : SettingArguments} (h : s.ListsHeaders) (merged : s.merge a = .ok t) :
    t.ListsHeaders := by
  obtain ⟨hs, overrides, lists⟩ := h
  obtain ⟨_, stated, given⟩ := bind_eq_ok.mp merged
  rw [overrides] at stated
  cases stated
  obtain ⟨more, _, heq⟩ := bind_eq_ok.mp given
  cases heq
  refine ⟨_, rfl, fun v hv => ?_⟩
  rcases Fields.mem_values_putAll hv with new | old
  · obtain ⟨_, hf, rfl⟩ := List.mem_map.mp new
    obtain ⟨f, _, rfl⟩ := List.mem_map.mp hf
    exact ⟨f.2, rfl⟩
  · exact lists v old

/-- **All settings that a run comes by are kept** by their table, once they have a directory. -/
theorem kept_of_obtained {s : Settings} (h : s.Obtained) : s.Kept := by
  induction h with
  | default => exact ⟨nofun, nofun, [], rfl, nofun⟩
  | read filled read =>
    have headers := listsHeaders_ofTable read
    obtain ⟨_, _, _, _, rfl⟩ := ofTable_eq_ok.mp read
    exact ⟨getD_ne_null filled _ nofun, getD_ne_null filled _ nofun, headers⟩
  | merged _ merged ih =>
    have headers := listsHeaders_merge ih.headers merged
    obtain ⟨_, _, given⟩ := bind_eq_ok.mp merged
    obtain ⟨_, _, heq⟩ := bind_eq_ok.mp given
    cases heq
    exact ⟨argumentOr_ne_null _ ih.component, argumentOr_ne_null _ ih.module, headers⟩

/-- All settings under their names. -/
def named (s : Settings) : Fields Value :=
  [("source", s.source), ("package_name", s.packageName), ("component_name", s.componentName),
   ("module_name", s.moduleName), ("dirname", s.dirname), ("headers", s.headerOverrides)]

/-- What the table of the settings has under a name, or the default of a setting that is null. -/
theorem getD_toTable {s : Settings} {name : String} {v default : Value} (here : s.named.get? name = some v)
    (null : v = .null → default = .null) : (s.toTable.get? name).getD default = v := by
  have distinct : s.named.names.Nodup := by
    show ["source", "package_name", "component_name", "module_name", "dirname", "headers"].Nodup
    decide
  have found : s.toTable.get? name = (s.named.get? name).filter fun v => !isNull v :=
    Fields.get?_filter_value (fun v => !isNull v) distinct name
  rw [found, here]
  cases v with
  | null => exact null rfl
  | _ => rfl

/-- Headers that are lists of texts are read as they are. -/
theorem readHeaders_eq_self {hs : Fields Value} (lists : ∀ v ∈ hs.values, ∃ texts, v = .ofTexts texts) :
    readHeaders hs = .ok hs := by
  refine mapM_eq_ok.mpr (List.forall₂_same.mpr fun f hf => ?_)
  obtain ⟨operation, v⟩ := f
  obtain ⟨texts, rfl⟩ := lists v (List.mem_map_of_mem hf)
  refine bind_eq_ok.mpr ⟨texts.map .str, rfl, ?_⟩
  exact bind_eq_ok.mpr ⟨texts, mapM_map_undone fun _ => rfl, rfl⟩

/-- **Settings are read from their table as they are**, when they are kept and have a directory. -/
theorem ofTable_toTable {s : Settings} (kept : s.Kept) (directory : s.dirname ≠ .null) :
    ofTable s.toTable = .ok s := by
  obtain ⟨hs, overrides, lists⟩ := kept.headers
  have headers : (s.toTable.get? "headers").getD (.object []) = .object hs :=
    (getD_toTable rfl fun null => nomatch overrides.symm.trans null).trans overrides
  have source : (s.toTable.get? "source").getD .null = s.source := getD_toTable rfl fun _ => rfl
  have package : (s.toTable.get? "package_name").getD .null = s.packageName := getD_toTable rfl fun _ => rfl
  have component : (s.toTable.get? "component_name").getD (.str "Api") = s.componentName :=
    getD_toTable rfl fun null => absurd null kept.component
  have module : (s.toTable.get? "module_name").getD (.str "api") = s.moduleName :=
    getD_toTable rfl fun null => absurd null kept.module
  have dirname : (s.toTable.get? "dirname").getD (.str defaultDirname) = s.dirname :=
    getD_toTable rfl fun null => absurd null directory
  refine ofTable_eq_ok.mpr ⟨hs, hs, headers, readHeaders_eq_self lists, ?_⟩
  rw [stated, source, package, component, module, dirname, ← overrides]

/-- Nothing is put over settings by no arguments. -/
theorem merge_nothing {s : Settings} (h : s.ListsHeaders) : s.merge {} = .ok s := by
  obtain ⟨hs, overrides, _⟩ := h
  have stated : headerFields s.headerOverrides = .ok hs := by rw [overrides, headerFields]
  have given : readHeaderArguments [] = .ok [] := rfl
  rw [merge, stated, ok_bind, given, ok_bind]
  exact congrArg (fun v => Except.ok { s with headerOverrides := v }) overrides.symm

end Settings

namespace CommandLine

theorem dirname_withDirectory (s : Settings) : (withDirectory s).dirname.truthy = true := by
  unfold withDirectory
  split
  · assumption
  · rfl

theorem withDirectory_eq_self {s : Settings} (h : s.dirname.truthy = true) : withDirectory s = s := if_pos h

theorem kept_withDirectory {s : Settings} (h : s.Kept) : (withDirectory s).Kept := by
  unfold withDirectory
  split
  · exact h
  · exact ⟨h.component, h.module, h.headers⟩

/-- The settings of a run are read from their table as they are. -/
theorem ofTable_withDirectory {s : Settings} (h : s.Kept) :
    Settings.ofTable (withDirectory s).toTable = .ok (withDirectory s) := by
  refine Settings.ofTable_toTable (kept_withDirectory h) fun null => ?_
  have filled := dirname_withDirectory s
  rw [null] at filled
  cases filled

end CommandLine

/-! ## The settings file of a package -/

namespace Client

open Source

/-- The last file of a package is that of its settings, when they name a source. -/
theorem settings_of_package {settings : Settings} {d : Description} {p : Project} (h : package settings d = .ok p)
    (named : settings.source.truthy = true) : ∃ before text, Toml.write settings.toTable = .ok text ∧
      packageFiles p = before ++ [(Settings.fileName, dropLineEnds text ++ "\n")] := by
  simp only [package, bind_eq_ok] at h
  obtain ⟨_, _, _, _, _, _, _, _, _, settled, heq⟩ := h
  cases heq
  rw [settingsFiles, if_pos named] at settled
  obtain ⟨text, written, heq⟩ := bind_eq_ok.mp settled
  cases heq
  have clean := (Toml.write_yields settings.toTable).result text written
  have last : [codeFile Settings.fileName text].map (fun f => (f.name, f.text)) =
      [(Settings.fileName, dropLineEnds text ++ "\n")] := by
    rw [List.map_singleton, text_codeFile _ clean]
    rfl
  exact ⟨_, text, written, List.map_append.trans (congrArg _ last)⟩

end Client

namespace Toml

/-- A table that is read from its own text, when there is one line end at the end of it. -/
def ReadsBack (table : Fields Value) : Prop :=
  ∀ text, write table = .ok text → read (Source.dropLineEnds text ++ "\n").toList = .ok table

end Toml

namespace Files

theorem plainLineEnds_clean {cs : List Char} (h : Toml.IsClean cs) : plainLineEnds cs = cs := by
  fun_induction plainLineEnds cs with
  | case1 => rfl
  | case2 => exact absurd rfl (h _ List.mem_cons_self).2
  | case3 => exact absurd rfl (h _ List.mem_cons_self).2
  | case4 c rest _ _ ih => rw [ih fun d hd => h d (List.mem_cons_of_mem _ hd)]

theorem isOrdinary_fileName : IsOrdinary Settings.fileName := by
  refine ⟨by decide, fun above => ?_⟩
  have last : (above ++ [Settings.fileName]).getLast? = some Settings.fileName := List.getLast?_concat
  generalize above ++ [Settings.fileName] = place at last
  unfold standing?
  split
  · exact absurd last (by decide)
  · cases last
    rfl
  · exact absurd last (by decide)
  · refine if_neg fun up => ?_
    have dots := List.all_eq_true.mp up _ (List.mem_of_getLast? last)
    exact absurd dots (by decide)

end Files

namespace CommandLine

/-! ## Saving a package -/

section

variable {α β : Type} {t : Task α} {p q : Progress}

/-- A chain goes through when each of its parts does. -/
theorem run_bind_eq_ok {f : α → Task β} {b : β} (h : (t >>= f).run.run p = (.ok b, q)) :
    ∃ a between, t.run.run p = (.ok a, between) ∧ (f a).run.run between = (.ok b, q) := by
  rw [Watcher.run_bind] at h
  cases done : t.run.run p with
  | mk result between =>
    rw [done] at h
    cases result with
    | ok a => exact ⟨a, between, rfl, h⟩
    | error fault => cases h

/-- What is done for the last of a list is done last. -/
theorem run_forM_concat {f : β → Task PUnit} {xs : List β} {x : β}
    (h : ((xs ++ [x]).forM f).run.run p = (.ok ⟨⟩, q)) : ∃ between, (f x).run.run between = (.ok ⟨⟩, q) := by
  induction xs generalizing p with
  | nil =>
    obtain ⟨_, _, last, heq⟩ := run_bind_eq_ok h
    cases heq
    exact ⟨p, last⟩
  | cons y rest ih =>
    obtain ⟨_, _, _, later⟩ := run_bind_eq_ok h
    exact ih later

theorem run_change (f : FileTree → FileTree × Except Fault Unit) (p : Progress) :
    (change f).run.run p = ((f p.files).2, { p with files := (f p.files).1 }) := rfl

/-- A file that is written is read with its text. -/
theorem readText_of_writeFile {directory name text : String} (ordinary : IsOrdinary name)
    (leads : (Path.ofText (Path.join directory name)).LeadsTo name)
    (h : (writeFile directory (name, text)).run.run p = (.ok ⟨⟩, q)) :
    q.files.readText (Path.join directory name) = .ok (String.ofList (plainLineEnds text.toList)) := by
  obtain ⟨_, between, _, last⟩ := run_bind_eq_ok h
  rw [run_change] at last
  obtain ⟨done, rfl⟩ := Prod.mk.inj last
  dsimp only at done ⊢
  split at done
  · next tree written =>
    exact FileTree.readText_writeText ordinary leads written
  · cases done

/-- Where a package is saved, its last file is read with its text. -/
theorem readText_of_save {surroundings : Surroundings} {project : Source.Project} {directory : String}
    {before : Fields String} {name text : String} (files : packageFiles project = before ++ [(name, text)])
    (ordinary : IsOrdinary name) (leads : (Path.ofText (Path.join directory name)).LeadsTo name)
    (h : (save surroundings project (.str directory)).run.run p = (.ok (), q)) :
    q.files.readText (Path.join directory name) = .ok (String.ofList (plainLineEnds text.toList)) := by
  unfold save at h
  dsimp only at h
  rw [files] at h
  obtain ⟨_, _, _, h⟩ := run_bind_eq_ok h
  obtain ⟨_, _, given, h⟩ := run_bind_eq_ok h
  cases given
  obtain ⟨_, _, written, h⟩ := run_bind_eq_ok h
  obtain ⟨_, _, said, h⟩ := run_bind_eq_ok h
  cases said
  cases h
  obtain ⟨_, last⟩ := run_forM_concat written
  have read := readText_of_writeFile ordinary leads last
  exact read

end

/-! ## Generating anew -/

/-- The settings that generating anew begins with, from the settings file in a directory: all packages are generated
with the settings as they are read, a single one with no arguments put over them. -/
inductive Reloaded (files : FileTree) (directory : String) : Settings → Prop
  | read {s : Settings} (read : Settings.readFile files (Path.join directory Settings.fileName) = .ok s) :
    Reloaded files directory s
  | merged {s t : Settings} (read : Settings.readFile files (Path.join directory Settings.fileName) = .ok s)
    (merged : s.merge {} = .ok t) : Reloaded files directory (withDirectory t)

/-- Generating anew begins with the settings of the file, when they have headers and a directory. -/
theorem Reloaded.eq {files : FileTree} {directory : String} {s t : Settings} (h : Reloaded files directory t)
    (there : Settings.readFile files (Path.join directory Settings.fileName) = .ok s) (headers : s.ListsHeaders)
    (dirname : s.dirname.truthy = true) : t = s := by
  cases h with
  | read read =>
    cases there.symm.trans read
    rfl
  | merged read merged =>
    cases there.symm.trans read
    cases (Settings.merge_nothing headers).symm.trans merged
    exact withDirectory_eq_self dirname

/-- Settings and the package that is generated for a document under them. -/
structure Generation (links : Links) (document : Document) where
  settings : Settings
  project : Source.Project
  generated : package settings (Api.describe links settings document).1 = .ok project

/-- A generation begins with the settings that the one before left where it was saved, whatever had been done and
wherever that was. -/
def Generation.Follows {links : Links} {document : Document} (next before : Generation links document) : Prop :=
  ∃ surroundings p q directory, (save surroundings before.project (.str directory)).run.run p = (.ok (), q) ∧
    Reloaded q.files directory next.settings

/-- Under the same settings the same is generated. -/
theorem Generation.eq_of_settings {links : Links} {document : Document} {g h : Generation links document}
    (same : g.settings = h.settings) : g = h := by
  obtain ⟨settings, project, generated⟩ := g
  obtain ⟨_, project', generated'⟩ := h
  cases same
  cases generated.symm.trans generated'
  rfl

/-- Where a package is saved, its settings are read as they are. -/
theorem readFile_of_save {surroundings : Surroundings} {settings : Settings}
    (kept : Settings.ofTable settings.toTable = .ok settings) (named : settings.source.truthy = true)
    (back : Toml.ReadsBack settings.toTable) {d : Description} {project : Source.Project}
    (generated : package settings d = .ok project) {p q : Progress} {directory : String}
    (saved : (save surroundings project (.str directory)).run.run p = (.ok (), q)) :
    Settings.readFile q.files (Path.join directory Settings.fileName) = .ok settings := by
  obtain ⟨before, text, written, files⟩ := settings_of_package generated named
  have leads : (Path.ofText (Path.join directory Settings.fileName)).LeadsTo Settings.fileName :=
    Path.join_leadsTo directory (by decide) (by decide) (by decide)
  have clean : Toml.IsClean (Source.dropLineEnds text ++ "\n").toList := by
    have clean := (Toml.write_yields settings.toTable).result text written
    simp [Source.isClean_dropLineEnds clean]
  have read := readText_of_save files isOrdinary_fileName leads saved
  rw [plainLineEnds_clean clean, String.ofList_toList] at read
  unfold Settings.readFile
  rw [read]
  dsimp only
  rw [Toml.readFile, back text written]
  exact kept

/-- **Settings that are read again are the same.** The settings that a run comes by are read from their table as they
are, so under them the same packages are generated. Wherever a package is saved, its settings are read as they are,
and generating it anew, however often, generates the same. -/
theorem reloaded_same {s : Settings} (obtained : s.Obtained) :
    Settings.ofTable (withDirectory s).toTable = .ok (withDirectory s) ∧
    (∀ t, Settings.ofTable (withDirectory s).toTable = .ok t → ∀ d, package t d = package (withDirectory s) d) ∧
    ((withDirectory s).source.truthy = true → Toml.ReadsBack (withDirectory s).toTable →
      ∀ links document (first : Generation links document), first.settings = withDirectory s →
        (∀ surroundings p q directory, (save surroundings first.project (.str directory)).run.run p = (.ok (), q) →
          Settings.readFile q.files (Path.join directory Settings.fileName) = .ok (withDirectory s)) ∧
        ∀ last, Relation.ReflTransGen (fun before next => next.Follows before) first last → last = first) := by
  have kept := Settings.kept_of_obtained obtained
  have table := ofTable_withDirectory kept
  refine ⟨table, fun t read d => ?_, fun named back links document first same => ?_⟩
  · cases table.symm.trans read
    rfl
  have saved : ∀ surroundings p q directory,
      (save surroundings first.project (.str directory)).run.run p = (.ok (), q) →
        Settings.readFile q.files (Path.join directory Settings.fileName) = .ok (withDirectory s) :=
    fun _ _ _ _ saved => readFile_of_save table named back (same ▸ first.generated) saved
  refine ⟨saved, fun last again => ?_⟩
  induction again with
  | refl => rfl
  | tail _ follows ih =>
    cases ih
    obtain ⟨surroundings, p, q, directory, written, reloaded⟩ := follows
    have there := saved surroundings p q directory written
    have settings := reloaded.eq there (kept_withDirectory kept).headers (dirname_withDirectory s)
    exact Generation.eq_of_settings (settings.trans same.symm)

/-- Settings of a table with a source and headers, with a component and other headers put over them. -/
def petSettings : Settings where
  source := .str "s.json"
  componentName := .str "Pets"
  dirname := .str "pets"
  headerOverrides := .object [("pets", .ofTexts ["B: 2"])]

theorem obtained_petSettings : petSettings.Obtained := by
  have read : Settings.ofTable [("source", .str "s.json"), ("dirname", .str "pets"),
      ("headers", .object [("pets", .str "A: 1")])] = .ok { petSettings with
        componentName := .str "Api", headerOverrides := .object [("pets", .ofTexts ["A: 1"])] } := rfl
  have filled : ∀ v ∈ Fields.values [("source", Value.str "s.json"), ("dirname", .str "pets"),
      ("headers", .object [("pets", .str "A: 1")])], v ≠ .null := by
    simp [Fields.values]
  exact .merged (.read filled read) (a := { component := some "Pets", headers := [some "pets=B: 2"] }) rfl

/-- The text of its table. -/
def petText : String :=
  "source = \"s.json\"\ncomponent_name = \"Pets\"\nmodule_name = \"api\"\ndirname = \"pets\"\n\n" ++
    "[headers]\npets = [ \"B: 2\",]\n"

theorem write_petSettings : Toml.write petSettings.toTable = .ok petText := toOption_eq_some.mp (by decide +kernel)

/-- Their table is read from its text line by line. -/
theorem readsBack_petSettings : Toml.ReadsBack petSettings.toTable := by
  intro text h
  cases write_petSettings.symm.trans h
  have one : Source.dropLineEnds petText ++ "\n" = petText := by decide +kernel
  have plain : Toml.layout petText.toList = .ok petText.toList := toOption_eq_some.mp (by decide +kernel)
  have lines : Text.split '\n' petText.toList = [Toml.textLine "source" "s.json",
      Toml.textLine "component_name" "Pets", Toml.textLine "module_name" "api", Toml.textLine "dirname" "pets", [],
      Toml.headerLine "headers", "pets = [ \"B: 2\",]".toList, []] := by decide +kernel
  have source : Toml.IsTextLine "source" "s.json" := by decide +kernel
  have component : Toml.IsTextLine "component_name" "Pets" := by decide +kernel
  have module : Toml.IsTextLine "module_name" "api" := by decide +kernel
  have directory : Toml.IsTextLine "dirname" "pets" := by decide +kernel
  have headers : Toml.IsHeaderLine "headers" := by decide +kernel
  have item : Toml.IsEntry "pets = [ \"B: 2\",]".toList "pets" ('[' :: " \"B: 2\",]".toList) := by decide +kernel
  have value := @Toml.readValue_singleText " \"B: 2\",]".toList "B: 2\"".toList "B: 2"
    (2 * "pets = [ \"B: 2\",]".toList.length + 1) (by decide +kernel) (by decide +kernel) true
  rw [one, Toml.read, plain, ok_bind, lines, Toml.Reading.lines_cons _ (Toml.Reading.line_text [] source rfl),
    Toml.Reading.lines_cons _ (Toml.Reading.line_text _ component rfl),
    Toml.Reading.lines_cons _ (Toml.Reading.line_text _ module rfl),
    Toml.Reading.lines_cons _ (Toml.Reading.line_text _ directory rfl), Toml.Reading.lines_cons _ rfl,
    Toml.Reading.lines_cons _ (Toml.Reading.line_header headers rfl),
    Toml.Reading.lines_cons _ (Toml.Reading.line_entry rfl item value)]
  rfl

/-- They are read from their table as they are, and what is generated under them for an empty document is generated
again and again. -/
theorem reloaded_same_pets : Settings.ofTable petSettings.toTable = .ok petSettings ∧
    ∃ first : Generation .none {}, first.settings = petSettings ∧
      ∀ last, Relation.ReflTransGen (fun before next => next.Follows before) first last → last = first := by
  obtain ⟨table, _, again⟩ := reloaded_same obtained_petSettings
  have placed : withDirectory petSettings = petSettings := withDirectory_eq_self rfl
  rw [placed] at table again
  obtain ⟨project, generated⟩ := @package_completes petSettings ⟨rfl, rfl, rfl, rfl, rfl, rfl⟩
    ⟨petText, write_petSettings⟩ _ (Api.describe_wellFormed .none petSettings {})
  exact ⟨table, ⟨petSettings, project, generated⟩, rfl, (again rfl readsBack_petSettings .none {} _ rfl).2⟩

end CommandLine

end TypedClient
