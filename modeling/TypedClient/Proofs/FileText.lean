import TypedClient.Client.Package
import TypedClient.Proofs.PercentForms
import TypedClient.Proofs.SettingsText
import TypedClient.Proofs.WrittenFiles

/-!
# The text of a file

In the text of a file tabs are replaced and line ends are dropped. Text without tabs stays as it is, and a line that
is written is a line of the file.

**What is proved.** `linesOf_joinLines`: lines that are joined are the lines of the text. `text_codeFile` and
`linesOf_codeFile`: a file with one block of code has the text of the code, with one line end at its end.
`header_mem_linesOf`: whatever else is in a file, the first line of each class is one of its lines. `files_named`: the
files of a package have names of their own.
-/

namespace TypedClient

/-! ## Tabs and line ends -/

namespace Source

/-- What stands for a character when tabs are replaced. -/
def widened (c : Char) : List Char := if c = '\t' then [' ', ' ', ' ', ' '] else [c]

theorem expandTabs_eq (s : String) : expandTabs s = String.ofList (s.toList.flatMap widened) := rfl

theorem expandTabs_append (s t : String) : expandTabs (s ++ t) = expandTabs s ++ expandTabs t := by
  rw [expandTabs_eq, String.toList_append, List.flatMap_append, String.ofList_append]
  rfl

theorem expandTabs_clean {s : String} (h : Toml.IsClean s.toList) : expandTabs s = s := by
  have each : s.toList.flatMap widened = s.toList.flatMap fun c => [c] :=
    List.flatMap_congr fun c hc => if_neg (h c hc).1
  rw [expandTabs_eq, each, List.flatMap_singleton', String.ofList_toList]

theorem isClean_dropLineEnds {s : String} (h : Toml.IsClean s.toList) : Toml.IsClean (dropLineEnds s).toList := by
  rw [dropLineEnds, String.toList_ofList]
  exact h.of_subset fun c hc => (Text.dropEndWhile_part _ _).mem hc

theorem dropLineEnds_append {s : String} (ended : s.toList.getLast? ≠ some '\n') (t : String) :
    dropLineEnds (s ++ t) = s ++ dropLineEnds t := by
  have kept : ∀ c ∈ s.toList.getLast?, (c == '\n') = false := by
    intro c last
    exact beq_eq_false_iff_ne.mpr fun lineEnd => ended (lineEnd ▸ last)
  rw [dropLineEnds, String.toList_append, Text.dropEndWhile_append kept, String.ofList_append, String.ofList_toList]
  rfl

theorem dropLineEnds_of_ended {s : String} (ended : s.toList.getLast? ≠ some '\n') : dropLineEnds s = s := by
  have none : dropLineEnds "" = "" := by decide
  have whole := dropLineEnds_append ended ""
  rwa [none, String.append_empty] at whole

/-! ## Lines -/

/-- The lines of a text. -/
def linesOf (s : String) : List String := (Text.split '\n' s.toList).map String.ofList

/-- A text that is one line, without tabs. -/
def IsLine (s : String) : Prop := ∀ c ∈ s.toList, c ≠ '\t' ∧ c ≠ '\r' ∧ c ≠ '\n'

instance (s : String) : Decidable (IsLine s) :=
  List.decidableBAll (fun c => c ≠ '\t' ∧ c ≠ '\r' ∧ c ≠ '\n') s.toList

@[simp] theorem isLine_append {s t : String} : IsLine (s ++ t) ↔ IsLine s ∧ IsLine t := by
  rw [IsLine, String.toList_append]
  exact List.forall_mem_append

/-- A text of characters that a test picks is a line, when the test picks none of those that are not in lines. -/
theorem isLine_of_all {s : String} {p : Char → Bool} (each : ∀ c ∈ s.toList, p c = true)
    (apart : p '\t' = false ∧ p '\r' = false ∧ p '\n' = false) : IsLine s := by
  obtain ⟨tab, lineReturn, lineEnd⟩ := apart
  intro c member
  have picked := each c member
  refine ⟨?_, ?_, ?_⟩
  all_goals
    rintro rfl
    simp_all

theorem IsLine.clean {s : String} (h : IsLine s) : Toml.IsClean s.toList := fun c hc => ⟨(h c hc).1, (h c hc).2.1⟩

theorem IsLine.single {s : String} (h : IsLine s) : linesOf s = [s] := by
  have without : '\n' ∉ s.toList := fun lineEnd => (h _ lineEnd).2.2 rfl
  rw [linesOf, Text.split_eq_single without, List.map_singleton, String.ofList_toList]

theorem linesOf_append (s t : String) : linesOf (s ++ "\n" ++ t) = linesOf s ++ linesOf t := by
  have chars : (s ++ "\n" ++ t).toList = s.toList ++ '\n' :: t.toList := by simp
  rw [linesOf, chars, Text.split_append, List.map_append]
  rfl

theorem linesOf_ended (s : String) : linesOf (s ++ "\n") = linesOf s ++ [""] := by
  have last := linesOf_append s ""
  rwa [String.append_empty] at last

/-- The lines of a text and, behind two line ends, of another. -/
theorem linesOf_behind (s t : String) :
    linesOf (s ++ ("\n\n" ++ t ++ "\n")) = linesOf s ++ ("" :: linesOf t ++ [""]) := by
  have apart : ("\n\n" : String) = "\n" ++ ("" ++ "\n") := by decide
  have shape : s ++ ("\n\n" ++ t ++ "\n") = s ++ "\n" ++ ("" ++ "\n" ++ t) ++ "\n" := by
    rw [apart]
    simp only [String.append_assoc]
  rw [shape, linesOf_ended, linesOf_append, linesOf_append, List.append_assoc]
  rfl

/-- **Lines that are joined are the lines of the text.** -/
theorem linesOf_joinLines {lines : List String} (inhabited : lines ≠ []) (each : ∀ line ∈ lines, IsLine line) :
    linesOf (Client.joinLines lines) = lines := by
  induction lines with
  | nil => exact absurd rfl inhabited
  | cons line rest ih =>
    obtain ⟨first, later⟩ := List.forall_mem_cons.mp each
    cases rest with
    | nil => exact first.single
    | cons next more =>
      rw [Client.joinLines, String.intercalate_cons_of_ne_nil (List.cons_ne_nil _ _), linesOf_append, first.single]
      exact congrArg (line :: ·) (ih (List.cons_ne_nil _ _) later)

/-- Tabs are replaced line by line. -/
theorem linesOf_expandTabs (s : String) : linesOf (expandTabs s) = (linesOf s).map expandTabs := by
  have each : ∀ cs : List Char,
      Text.split '\n' (cs.flatMap widened) = (Text.split '\n' cs).map (·.flatMap widened) := by
    intro cs
    induction cs with
    | nil => rfl
    | cons c rest ih =>
      cases parts : Text.split '\n' rest with
      | nil => exact absurd parts (Text.split_ne_nil _ _)
      | cons part more =>
        rw [parts] at ih
        by_cases lineEnd : c = '\n'
        · subst lineEnd
          simpa [Text.split, widened, parts] using ih
        · by_cases tab : c = '\t' <;> simp [Text.split, widened, Text.consFirst, lineEnd, tab, parts, ih]
  rw [linesOf, expandTabs_eq, String.toList_ofList, each, linesOf, List.map_map, List.map_map]
  refine List.map_congr_left fun part _ => ?_
  simp only [Function.comp_apply, expandTabs_eq, String.toList_ofList]

/-- Texts that are joined with empty lines between them keep their lines. -/
theorem linesOf_intercalate {part : String} {parts : List String} (h : part ∈ parts) :
    linesOf part ⊆ linesOf ("\n\n\n".intercalate parts) := by
  induction parts with
  | nil => cases h
  | cons first rest ih =>
    cases rest with
    | nil =>
      rw [List.mem_singleton.mp h, String.intercalate_singleton]
      exact List.Subset.refl _
    | cons next more =>
      have apart : "\n\n\n".intercalate (first :: next :: more) =
          first ++ "\n" ++ ("" ++ "\n" ++ ("" ++ "\n" ++ "\n\n\n".intercalate (next :: more))) := by
        rw [String.intercalate_cons_of_ne_nil (List.cons_ne_nil _ _)]
        simp [String.ext_iff]
      rw [apart, linesOf_append, linesOf_append, linesOf_append]
      rcases List.mem_cons.mp h with rfl | h
      · exact List.subset_append_left _ _
      · intro line hl
        simp [ih h hl]

theorem isClean_joinLines {lines : List String} (each : ∀ line ∈ lines, IsLine line) :
    Toml.IsClean (Client.joinLines lines).toList := by
  rw [Client.joinLines, String.toList_intercalate]
  refine Toml.isClean_intercalate (by decide) fun part hp => ?_
  obtain ⟨line, hl, rfl⟩ := List.mem_map.mp hp
  exact (each line hl).clean

/-! ## Classes -/

/-- The first line of a class. -/
def ClassDecl.header (c : ClassDecl) : String :=
  "class " ++ c.name ++ (if c.bases.isEmpty then "" else "(" ++ ", ".intercalate c.bases ++ ")") ++ ":"

/-- The first line of a class stays whole, and what comes behind it begins with a line end. -/
theorem ClassDecl.dropLineEnds_text (c : ClassDecl) :
    ∃ body, dropLineEnds c.text = c.header ++ dropLineEnds ("\n" ++ body) := by
  have ended : c.header.toList.getLast? ≠ some '\n' := by
    rw [ClassDecl.header, String.toList_append, List.getLast?_append]
    simp
  have split : (":\n" : String) = ":" ++ "\n" := by decide
  refine ⟨indent (if c.sections.isEmpty then "pass" else "\n\n".intercalate c.sections), ?_⟩
  rw [← dropLineEnds_append ended, ClassDecl.header, ClassDecl.text, split]
  simp only [String.append_assoc]

theorem ClassDecl.header_mem_linesOf {c : ClassDecl} (line : IsLine c.header) :
    c.header ∈ linesOf (dropLineEnds c.text) := by
  obtain ⟨body, text⟩ := c.dropLineEnds_text
  have front := Text.dropEndWhile_part (· == '\n') ("\n" ++ body).toList
  rw [text, dropLineEnds]
  cases chars : Text.dropEndWhile (· == '\n') ("\n" ++ body).toList with
  | nil => simp [line.single]
  | cons d rest =>
    rw [chars, String.toList_append] at front
    obtain rfl : d = '\n' := (List.cons_prefix_cons.mp front).1
    have apart : c.header ++ String.ofList ('\n' :: rest) = c.header ++ "\n" ++ String.ofList rest := by
      simp [String.ext_iff]
    rw [apart, linesOf_append, line.single]
    exact List.mem_cons_self

/-- **The first line of each class is a line of its file.** -/
theorem header_mem_linesOf {f : File} {c : ClassDecl} (stored : c ∈ f.classes.values) (line : IsLine c.header) :
    c.header ∈ linesOf f.text := by
  have item : Item.class c ∈ f.sortedItems :=
    (List.mergeSort_perm ..).mem_iff.mpr (List.mem_append_right _ (List.mem_map_of_mem stored))
  have below := List.mem_append_right (if f.imports.isEmpty then [] else ["\n".intercalate f.imports])
    (List.mem_map_of_mem (f := fun i : Item => dropLineEnds i.text) item)
  have written := List.mem_map_of_mem (f := expandTabs) (linesOf_intercalate below (c.header_mem_linesOf line))
  rw [← linesOf_expandTabs, expandTabs_clean line.clean] at written
  rw [File.text, linesOf_ended]
  exact List.mem_append_left _ written

end Source

/-! ## Files of code -/

namespace Client

open Source

/-- A clean text with one line end at its end, however many there were. -/
theorem text_codeFile (name : String) {text : String} (h : Toml.IsClean text.toList) :
    (codeFile name text).text = dropLineEnds text ++ "\n" := by
  have items : (codeFile name text).sortedItems = [.block { code := text }] := List.mergeSort_singleton _
  have block : Item.text (.block { code := text }) = text := expandTabs_clean h
  rw [File.text, items, List.map_singleton, block]
  exact congrArg (· ++ "\n") (expandTabs_clean (isClean_dropLineEnds h))

/-- Lines that are joined do not end in a line end, when the last of them is not empty. -/
theorem getLast?_joinLines {before : List String} {last : String} (line : IsLine last) (written : last ≠ "") :
    (joinLines (before ++ [last])).toList.getLast? ≠ some '\n' := by
  obtain ⟨front, joined⟩ : ∃ front, joinLines (before ++ [last]) = front ++ last := by
    cases before with
    | nil => exact ⟨"", by simp [joinLines]⟩
    | cons first more =>
      rw [joinLines, String.intercalate_append_of_ne_nil (by simp) (by simp), String.intercalate_singleton]
      exact ⟨_, rfl⟩
  have inhabited : last.toList ≠ [] := mt String.toList_eq_nil_iff.mp written
  rw [joined, String.toList_append, List.getLast?_append_of_ne_nil _ inhabited]
  intro lineEnd
  exact (line _ (List.mem_of_getLast? lineEnd)).2.2 rfl

/-- **The lines of a file of code are those of the code**, when there is one line end at the end of it. -/
theorem linesOf_codeFile (name : String) {before : List String} {last : String}
    (each : ∀ line ∈ before ++ [last], IsLine line) (written : last ≠ "") :
    linesOf (codeFile name (joinLines (before ++ [last, ""]))).text = before ++ [last, ""] := by
  have code : joinLines (before ++ [last, ""]) = joinLines (before ++ [last]) ++ "\n" := by
    rw [joinLines, List.append_cons, String.intercalate_append_of_ne_nil (by simp) (by simp),
      String.intercalate_singleton, String.append_empty, joinLines]
  have ended : (joinLines (before ++ [last])).toList.getLast? ≠ some '\n' :=
    getLast?_joinLines (each last (by simp)) written
  have clean : Toml.IsClean (joinLines (before ++ [last]) ++ "\n").toList := by
    rw [String.toList_append]
    exact Toml.isClean_append.mpr ⟨isClean_joinLines each, by decide⟩
  have none : dropLineEnds "\n" = "" := by decide
  rw [code, text_codeFile name clean, dropLineEnds_append ended, none, String.append_empty, linesOf_ended,
    linesOf_joinLines (by simp) each, List.append_assoc]
  rfl

/-! ## The files of a package -/

theorem settingsFiles_name {settings : Settings} {files : List File} (h : settingsFiles settings = .ok files) :
    ∀ f ∈ files, f.name = Settings.fileName := by
  unfold settingsFiles at h
  split at h
  · obtain ⟨_, _, heq⟩ := bind_eq_ok.mp h
    cases heq
    exact fun _ member => List.mem_singleton.mp member ▸ rfl
  · cases h
    exact nofun

theorem modelsFile_name {names : ClassNames} {models : List Api.ModelType} {f : File}
    (h : modelsFile names models = .ok f) : f.name = "models.py" := by
  obtain ⟨_, _, heq⟩ := bind_eq_ok.mp h
  cases heq
  rfl

theorem interfaceFile_name {names : ClassNames} {c description : String} {methods : List Api.Method} {f : File}
    (h : interfaceFile names c description methods = .ok f) : f.name = "interface.py" := by
  obtain ⟨_, _, heq⟩ := bind_eq_ok.mp h
  cases heq
  rfl

/-- **The files of a package have names of their own**: what they are, and that there is one of each. -/
theorem files_named {settings : Settings} {d : Api.Description} {p : Project} (h : package settings d = .ok p) :
    ∃ models interface module, modelsFile (ClassNames.ofDescription d).1 d.models = .ok models ∧
      interfaceFile (ClassNames.ofDescription d).1 (className d.interface.name)
        ("Методы API " ++ settings.componentName.text) d.interface.methods = .ok interface ∧
      moduleName settings = .ok module ∧
      ∀ name file, (name, file) ∈ [("enums.py", enumsFile d.enums), ("models.py", models), ("interface.py", interface),
        ("common.py", codeFile "common.py" commonCode),
        ("client.py", codeFile "client.py" (clientCode (className d.interface.name) module)),
        ("__init__.py", codeFile "__init__.py" (packageCode (className d.interface.name)))] →
      p.files.filter (·.name == name) = [file] := by
  simp only [package, bind_eq_ok] at h
  obtain ⟨_, _, models, hm, interface, hi, module, hh, others, hs, heq⟩ := h
  cases heq
  refine ⟨models, interface, module, hm, hi, hh, fun name file member => ?_⟩
  have none : ∀ name, name ≠ Settings.fileName → others.filter (fun f => f.name == name) = [] := by
    intro name apart
    refine List.filter_eq_nil_iff.mpr fun f member => ?_
    rw [settingsFiles_name hs f member]
    simpa using apart.symm
  have enums : (enumsFile d.enums).name = "enums.py" := rfl
  have code : ∀ name code, (codeFile name code).name = name := fun _ _ => rfl
  simp only [List.mem_cons, Prod.mk.injEq, List.not_mem_nil, or_false] at member
  rcases member with ⟨rfl, rfl⟩ | ⟨rfl, rfl⟩ | ⟨rfl, rfl⟩ | ⟨rfl, rfl⟩ | ⟨rfl, rfl⟩ | ⟨rfl, rfl⟩
  all_goals
    rw [List.filter_append, none _ (by decide), List.append_nil]
    simp [enums, modelsFile_name hm, interfaceFile_name hi, code]

end Client

end TypedClient
