import TypedClient.Proofs.Accounting
import TypedClient.Proofs.Completion
import TypedClient.Proofs.Rendering
import Mathlib.Data.List.TakeWhile

/-!
# Where the headers of a method come from

The headers of an operation are listed in the settings file or stated by header arguments, each for one
operation. Arguments for one operation add up; together they take the place of what the file lists for it, and
leave what it lists for others.

**What is proved.** `headers_due`: header arguments are refused exactly when one of them is malformed, and
otherwise every method of every document has the headers that are due to its operation, and its function has a
decorator that lists them, unless there are none.

The table of headers is built argument by argument. What it holds after some of them is said from the arguments
alone by `HoldsHeaders`, which every argument keeps.
-/

namespace TypedClient

open Schema Api Client Source

/-! ## Header arguments -/

/-- What stands in an argument before its first equals sign. -/
def beforeSign (s : String) : List Char := s.toList.takeWhile (· != '=')

/-- What stands in an argument behind its first equals sign. -/
def behindSign (s : String) : List Char := (s.toList.dropWhile (· != '=')).tail

/-- The operation that an argument is for. -/
def argumentOperation (s : String) : String := Text.trim (String.ofList (beforeSign s))

/-- The header that an argument states. -/
def argumentHeader (s : String) : String := Text.trim (String.ofList (behindSign s))

/-- Nothing but blanks, or nothing at all. -/
def IsBlank (cs : List Char) : Prop := ∀ c ∈ cs, Text.isBlank c = true

/-- An argument without an equals sign, or with nothing but blanks before its first one or behind it. -/
def IsMalformed (s : String) : Prop := '=' ∉ s.toList ∨ IsBlank (beforeSign s) ∨ IsBlank (behindSign s)

instance (cs : List Char) : Decidable (IsBlank cs) := List.decidableBAll (fun c => Text.isBlank c = true) cs

instance (s : String) : Decidable (IsMalformed s) :=
  inferInstanceAs (Decidable (_ ∨ _ ∨ _))

/-- The headers that arguments state for an operation, in their order. -/
def statedHeaders (arguments : List String) (operation : String) : List String :=
  (arguments.filter fun s => argumentOperation s = operation).map argumentHeader

/-- An argument with an equals sign is what stands before the first one, the sign, and what stands behind it. -/
theorem toList_of_sign {s : String} (h : '=' ∈ s.toList) :
    s.toList.dropWhile (· != '=') = '=' :: behindSign s := by
  have parts := @List.takeWhile_append_dropWhile _ (· != '=') s.toList
  unfold behindSign
  cases rest : s.toList.dropWhile (· != '=') with
  | nil =>
    rw [List.dropWhile_eq_nil_iff] at rest
    simpa using rest '=' h
  | cons c cs =>
    have first : (c != '=') = false := by
      have head := List.head?_dropWhile_not (· != '=') s.toList
      rw [rest] at head
      simpa using head
    rw [show c = '=' by simpa using first]
    rfl

theorem trim_eq_empty {cs : List Char} : Text.trim (String.ofList cs) = "" ↔ IsBlank cs := by
  rw [Text.trim, String.ofList_eq_empty_iff, String.toList_ofList, Text.stripChars, Text.dropEndWhile,
    List.reverse_eq_nil_iff, List.dropWhile_eq_nil_iff]
  constructor
  · intro blank c hc
    rw [← @List.takeWhile_append_dropWhile _ Text.isBlank cs] at hc
    rcases List.mem_append.mp hc with front | rest
    · exact List.mem_takeWhile_imp front
    · exact blank c (List.mem_reverse.mpr rest)
  · intro blank c hc
    exact blank c ((List.dropWhile_sublist _).mem (List.mem_reverse.mp hc))

theorem splitHeaderArgument_malformed {s : String} (h : IsMalformed s) : splitHeaderArgument s = none := by
  unfold splitHeaderArgument
  by_cases sign : '=' ∈ s.toList
  · rw [toList_of_sign sign]
    have blank := h.resolve_left (not_not_intro sign)
    exact if_pos (blank.imp trim_eq_empty.mpr trim_eq_empty.mpr)
  · have none : s.toList.dropWhile (· != '=') = [] := by
      rw [List.dropWhile_eq_nil_iff]
      intro c hc
      simpa using fun (same : c = '=') => sign (same ▸ hc)
    rw [none]

theorem splitHeaderArgument_wellFormed {s : String} (h : ¬ IsMalformed s) :
    splitHeaderArgument s = some (argumentOperation s, argumentHeader s) := by
  obtain ⟨sign, filled⟩ := not_or.mp h
  unfold splitHeaderArgument
  rw [toList_of_sign (not_not.mp sign)]
  exact if_neg fun empty => filled (empty.imp trim_eq_empty.mp trim_eq_empty.mp)

/-! ## The table of the arguments -/

/-- A table holds the headers of arguments: for every operation those that they state, if any. -/
structure HoldsHeaders (arguments : List String) (table : HeaderTable) : Prop where
  listed : ∀ operation, table.get? operation =
    if statedHeaders arguments operation = [] then none else some (statedHeaders arguments operation)
  distinct : table.names.Nodup

theorem statedHeaders_concat (arguments : List String) (s operation : String) :
    statedHeaders (arguments ++ [s]) operation =
      statedHeaders arguments operation ++ if argumentOperation s = operation then [argumentHeader s] else [] := by
  by_cases h : argumentOperation s = operation <;> simp [statedHeaders, List.filter_append, h]

/-- Every argument adds its header to the table. -/
theorem HoldsHeaders.add {arguments : List String} {table : HeaderTable} (holds : HoldsHeaders arguments table)
    (s : String) :
    HoldsHeaders (arguments ++ [s]) (addHeader table (argumentOperation s) (argumentHeader s)) where
  listed := by
    intro operation
    have before : (table.get? operation).getD [] = statedHeaders arguments operation := by
      rw [holds.listed operation]
      split
      · next none => exact none.symm
      · rfl
    rw [addHeader, Fields.get?_put, statedHeaders_concat]
    by_cases here : operation = argumentOperation s
    · subst here
      rw [before]
      simp
    · rw [if_neg here, if_neg (Ne.symm here), List.append_nil]
      exact holds.listed operation
  distinct := Fields.nodup_names_put holds.distinct

/-- Arguments are read one after the other until one is malformed. -/
theorem foldlM_addHeaderArgument (arguments : List String) {before : List String} {table : HeaderTable}
    (holds : HoldsHeaders before table) :
    (∃ s ∈ arguments, IsMalformed s ∧
      (arguments.map some).foldlM addHeaderArgument table = .error (.badHeaderArgument (Text.quote s))) ∨
    ((∀ s ∈ arguments, ¬ IsMalformed s) ∧ ∃ table', (arguments.map some).foldlM addHeaderArgument table = .ok table' ∧
      HoldsHeaders (before ++ arguments) table') := by
  induction arguments generalizing before table with
  | nil => exact .inr ⟨by simp, table, rfl, by simpa using holds⟩
  | cons s rest ih =>
    rw [List.map_cons, List.foldlM_cons]
    by_cases malformed : IsMalformed s
    · refine .inl ⟨s, List.mem_cons_self, malformed, ?_⟩
      rw [addHeaderArgument, splitHeaderArgument_malformed malformed]
      rfl
    · have step : addHeaderArgument table (some s) =
          .ok (addHeader table (argumentOperation s) (argumentHeader s)) := by
        rw [addHeaderArgument, splitHeaderArgument_wellFormed malformed]
      rw [step, ok_bind]
      rcases ih (holds.add s) with ⟨s', member, refused⟩ | ⟨wellFormed, table', read, holds'⟩
      · exact .inl ⟨s', List.mem_cons_of_mem _ member, refused⟩
      · refine .inr ⟨?_, table', read, by simpa using holds'⟩
        intro s' member
        rcases List.mem_cons.mp member with rfl | later
        · exact malformed
        · exact wellFormed s' later

/-- **What comes of header arguments**: one of them is malformed and they are refused for it, or none is and their
table holds what they state. -/
theorem readHeaderArguments_cases (arguments : List String) :
    (∃ s ∈ arguments, IsMalformed s ∧
      readHeaderArguments (arguments.map some) = .error (.badHeaderArgument (Text.quote s))) ∨
    ((∀ s ∈ arguments, ¬ IsMalformed s) ∧ ∃ table, readHeaderArguments (arguments.map some) = .ok table ∧
      HoldsHeaders arguments table) :=
  have start : HoldsHeaders [] [] := ⟨fun _ => rfl, List.nodup_nil⟩
  foldlM_addHeaderArgument arguments start

/-! ## The table of the settings -/

/-- The headers that an entry of a settings table stands for: a text for itself, a list for its items and a table
for its names, each as a text. -/
def entryHeaders : Value → List String
  | .str s => [s]
  | .list vs => vs.map Value.text
  | .object fs => Fields.names fs
  | _ => []

/-- The headers that a settings table lists for an operation. -/
def listedHeaders (table : Fields Value) (operation : String) : List String :=
  match table.get? "headers" with
  | some (.object fs) => ((Fields.get? fs operation).map entryHeaders).getD []
  | _ => []

/-- The headers that are due to an operation: those that arguments state for it, if they state any, and otherwise
those that the settings table lists. -/
def dueHeaders (table : Fields Value) (arguments : List String) (operation : String) : List String :=
  if statedHeaders arguments operation = [] then listedHeaders table operation
  else statedHeaders arguments operation

theorem text_of_shown {v : Value} {s : String} (h : v.shown = .ok s) : s = v.text := by
  unfold Value.shown at h
  split at h
  · split at h
    · exact (Except.ok.inj h).symm
    · cases h
  · split at h
    · exact (Except.ok.inj h).symm
    · cases h

/-- What is shown of values are their texts. -/
theorem ofTexts_of_shown {vs : List Value} {texts : List String} (h : vs.mapM Value.shown = .ok texts) :
    texts = vs.map Value.text := by
  have each := (mapM_eq_ok.mp h).imp fun v s shown => (text_of_shown shown).symm
  simpa using (map_eq_map each).symm

namespace Settings

/-- An entry of a headers table is read as the list of its headers. -/
theorem readHeaders_alike {fs hs : Fields Value} (h : readHeaders fs = .ok hs) :
    Fields.Alike (fun v w => w = .ofTexts (entryHeaders v)) fs hs := by
  refine (mapM_eq_ok.mp h).imp fun f g step => ?_
  obtain ⟨operation, v⟩ := f
  cases v with
  | str s =>
    cases step
    exact ⟨rfl, rfl⟩
  | list vs =>
    obtain ⟨_, items, step⟩ := bind_eq_ok.mp step
    cases items
    obtain ⟨texts, shown, heq⟩ := bind_eq_ok.mp step
    cases heq
    exact ⟨rfl, by rw [ofTexts_of_shown shown]; rfl⟩
  | object fs =>
    obtain ⟨_, items, step⟩ := bind_eq_ok.mp step
    cases items
    obtain ⟨texts, shown, heq⟩ := bind_eq_ok.mp step
    cases heq
    refine ⟨rfl, ?_⟩
    rw [ofTexts_of_shown shown, List.map_map]
    rfl
  | _ => cases step

/-- The settings that a table states, or their defaults, with headers. -/
def stated (table hs : Fields Value) : Settings where
  source := (table.get? "source").getD .null
  packageName := (table.get? "package_name").getD .null
  componentName := (table.get? "component_name").getD (.str "Api")
  moduleName := (table.get? "module_name").getD (.str "api")
  dirname := (table.get? "dirname").getD (.str defaultDirname)
  headerOverrides := .object hs

/-- Settings are read from a table when the headers in it are a table that can be read. -/
theorem ofTable_eq_ok {table : Fields Value} {s : Settings} : ofTable table = .ok s ↔
    ∃ fs hs, (table.get? "headers").getD (.object []) = .object fs ∧ readHeaders fs = .ok hs ∧
      s = stated table hs := by
  have step : ∀ fs : Fields Value, (do return stated table (← readHeaders fs)) = .ok s ↔
      ∃ hs, readHeaders fs = .ok hs ∧ s = stated table hs := by
    intro fs
    rw [bind_eq_ok]
    refine exists_congr fun hs => and_congr_right fun _ => ?_
    rw [pure_eq_ok, Except.ok.injEq, eq_comm]
  unfold ofTable
  cases table.get? "headers" with
  | none => simpa [stated] using step []
  | some v =>
    cases v with
    | object fs => simpa [stated] using step fs
    | _ => simp

/-- Settings that are read from a table have a table of headers. -/
theorem headerOverrides_ofTable {table : Fields Value} {s : Settings} (h : ofTable table = .ok s) :
    ∃ hs, s.headerOverrides = .object hs ∧ ∀ operation, Fields.get? hs operation = none ∧
        listedHeaders table operation = [] ∨
      Fields.get? hs operation = some (.ofTexts (listedHeaders table operation)) := by
  obtain ⟨fs, hs, stated, read, rfl⟩ := ofTable_eq_ok.mp h
  refine ⟨hs, rfl, fun operation => ?_⟩
  have listed : listedHeaders table operation = ((Fields.get? fs operation).map entryHeaders).getD [] := by
    unfold listedHeaders
    cases found : table.get? "headers" with
    | none =>
      rw [found] at stated
      cases stated
      rfl
    | some v =>
      rw [found] at stated
      cases stated
      rfl
  rw [listed]
  have found := (readHeaders_alike read).get? operation
  generalize Fields.get? fs operation = v, Fields.get? hs operation = w at found ⊢
  cases found with
  | none => exact .inl ⟨rfl, rfl⟩
  | some same => exact .inr (congrArg some same)

end Settings

/-! ## Looking the headers up -/

theorem headersFor_listed {hs : Fields Value} {operation : String} {texts : List String}
    (h : hs.get? operation = some (.ofTexts texts)) : headersFor (.object hs) operation = .ok texts := by
  have filled : (Value.object hs).truthy = true := by
    cases hs with
    | nil => cases h
    | cons _ _ => rfl
  unfold headersFor
  rw [if_pos filled]
  have table : Links.none.fields (.object hs) = .ok hs := rfl
  rw [table, ok_bind, h]
  have each : (texts.map Value.str).mapM Value.requiredText = .ok texts := mapM_map_undone fun _ => rfl
  exact each

theorem headersFor_unlisted {hs : Fields Value} {operation : String} (h : hs.get? operation = none) :
    headersFor (.object hs) operation = .ok [] := by
  unfold headersFor
  split
  · have table : Links.none.fields (.object hs) = .ok hs := rfl
    rw [table, ok_bind, h]
    rfl
  · rfl

/-- Settings have the headers that are due to every operation. -/
def Settings.HasHeaders (s : Settings) (due : String → List String) : Prop :=
  ∀ operation, headersFor s.headerOverrides operation = .ok (due operation)

/-- The arguments are put over the settings of a table. -/
theorem Settings.merge_hasHeaders {table : Fields Value} {file : Settings} (read : ofTable table = .ok file)
    {a : SettingArguments} {arguments : List String} {stated : HeaderTable}
    (given : readHeaderArguments a.headers = .ok stated) (holds : HoldsHeaders arguments stated) :
    ∃ merged, file.merge a = .ok merged ∧ merged.HasHeaders (dueHeaders table arguments) := by
  obtain ⟨hs, overrides, listed⟩ := headerOverrides_ofTable read
  have merged : headerFields file.headerOverrides = .ok hs := by rw [overrides, headerFields]
  refine ⟨_, by rw [merge, merged, ok_bind, given, ok_bind]; rfl, fun operation => ?_⟩
  have distinct : (Fields.change (fun _ => Value.ofTexts) stated).names.Nodup := by
    simpa [Fields.names, Fields.change, Function.comp_def] using holds.distinct
  have found : Fields.get? (Fields.putAll hs (Fields.change (fun _ => Value.ofTexts) stated)) operation = _ :=
    Fields.get?_putAll distinct operation
  rw [Fields.get?_change, holds.listed operation] at found
  unfold dueHeaders
  split
  · next none =>
    rw [if_pos none] at found
    rcases listed operation with ⟨absent, nothing⟩ | present
    · rw [nothing]
      exact headersFor_unlisted (found.trans absent)
    · exact headersFor_listed (found.trans present)
  · next some =>
    rw [if_neg some] at found
    exact headersFor_listed found

/-! ## The methods and their functions -/

/-- An operation with an identifier. -/
def isNamed (e : Endpoint) : Bool := e.operation.operationId.any (· ≠ "")

/-- A decorator for headers. -/
def isHeadersDecorator (decorator : String) : Bool := "@headers(".toList.isPrefixOf decorator.toList

/-- The decorators that list headers: one, or none when there are no headers. -/
def headersDecorators (headers : List String) : List String :=
  if headers = [] then [] else ["@headers(" ++ ", ".intercalate (headers.map Text.quote) ++ ")"]

section

variable {settings : Settings} {due : String → List String} (has : settings.HasHeaders due) (modelNames : List String)
  (e : Endpoint)
include has

/-- An operation becomes a method when it has an identifier, whatever its headers. -/
theorem isSome_methodOf : (methodOf modelNames settings.headerOverrides e).toOption.isSome = isNamed e := by
  rw [methodOf]
  split
  · next absent => simp [isNamed, absent]
  · next empty => simp [isNamed, empty]
  · next id filled found =>
    rw [has id, ok_bind, isNamed, found]
    simpa using filled

theorem headers_methodOf {m : Method} (made : methodOf modelNames settings.headerOverrides e = .ok m) :
    e.operation.operationId = some m.name ∧ m.headers = due m.name := by
  rw [methodOf] at made
  split at made
  · cases made
  · cases made
  · next id _ found =>
    rw [has id, ok_bind] at made
    cases made
    exact ⟨found, rfl⟩

end

/-- Of the decorators of a method those for headers list its headers. -/
theorem filter_methodDecorators (m : Method) (parts : List String) :
    (methodDecorators m parts).filter isHeadersDecorator = headersDecorators m.headers := by
  have verb : isHeadersDecorator
      ("@" ++ m.verb.decorator ++ "(" ++ ", ".intercalate (Text.quote m.path :: parts) ++ ")") = false := by
    unfold isHeadersDecorator
    cases m.verb <;> simp [Verb.decorator, List.isPrefixOf]
  rw [methodDecorators, List.filter_cons_of_neg (by simp [verb])]
  unfold headersDecorators
  cases m.headers with
  | nil => rfl
  | cons h rest => simp [isHeadersDecorator, List.isPrefixOf]

/-- The methods of a document and their functions, against the headers that are due to each operation. -/
structure HeadersDue (due : String → List String) (links : Links) (settings : Settings) (document : Document) :
    Prop where
  /-- Every operation with an identifier has a method, with the headers due to it. -/
  methods : List.Forall₂ (fun e m => e.operation.operationId = some m.name ∧ m.headers = due m.name)
    (document.endpoints.filter isNamed) (describe links settings document).1.interface.methods
  /-- The interface can be rendered, and the package has it; each function has a decorator for the headers of its
  method, when there are any. -/
  functions : ∃ file name decl,
    interfaceFile (namesOf (describe links settings document).1)
      (className (describe links settings document).1.interface.name)
      ("Методы API " ++ settings.componentName.text)
      (describe links settings document).1.interface.methods = .ok file ∧
    (∀ p, package settings (describe links settings document).1 = .ok p → file ∈ p.files) ∧
    file.classes = [(name, decl)] ∧
    List.Forall₂ (fun m f => f.2.decorators.filter isHeadersDecorator = headersDecorators (due m.name))
      (describe links settings document).1.interface.methods decl.functions

theorem headersDue_of_hasHeaders {settings : Settings} {due : String → List String} (has : settings.HasHeaders due)
    (links : Links) (document : Document) : HeadersDue due links settings document := by
  have listed : List.Forall₂ (fun e m => e.operation.operationId = some m.name ∧ m.headers = due m.name)
      (document.endpoints.filter isNamed) (describe links settings document).1.interface.methods := by
    have methods := (methods_eq (describe links settings document).1.modelNames settings.headerOverrides
      document.endpoints).1
    rw [show (describe links settings document).1.interface.methods = _ from methods,
      List.filter_congr fun e _ => (isSome_methodOf has _ e).symm]
    exact (forall₂_filterMap _ _).imp fun e m made => headers_methodOf has _ e (toOption_eq_some.mp made)
  refine ⟨listed, ?_⟩
  have wellFormed := (describe_wellFormed links settings document).methods
  obtain ⟨file, rendered⟩ := exists_interfaceFile (namesOf (describe links settings document).1)
    (className (describe links settings document).1.interface.name)
    ("Методы API " ++ settings.componentName.text) wellFormed
  obtain ⟨functions, each, classes, _⟩ := interfaceFile_eq_ok rendered
  refine ⟨file, _, _, rendered, ?_, classes, ?_⟩
  · intro p package
    obtain ⟨_, _, _, _, rendered', files⟩ := package_eq_ok package
    cases rendered.symm.trans rendered'
    rw [files]
    simp
  · have due : ∀ m ∈ (describe links settings document).1.interface.methods, m.headers = due m.name := by
      intro m hm
      obtain ⟨_, _, _, headers⟩ := exists_of_mem_right listed hm
      exact headers
    refine List.forall₂_iff_zip.mpr ⟨each.length_eq, ?_⟩
    intro m f member
    obtain ⟨g, made, placed⟩ := (List.forall₂_iff_zip.mp each).2 member
    obtain ⟨_, _, _, _, _, rfl⟩ := methodFunction_eq_ok made
    rw [placed, ← due m (List.of_mem_zip member).1]
    exact filter_methodDecorators m _

/-- **The headers of a method**: header arguments are refused exactly when one of them is malformed, and then for
one that is. Otherwise they are put over the settings of the file, and in every document the methods have the
headers that are due to their operations and their functions a decorator that lists these, when there are any. -/
theorem headers_due {table : Fields Value} {file : Settings} (read : Settings.ofTable table = .ok file)
    (a : SettingArguments) (arguments : List String) :
    ((∃ fault, readHeaderArguments (arguments.map some) = .error fault) ↔ ∃ s ∈ arguments, IsMalformed s) ∧
    (∀ fault, readHeaderArguments (arguments.map some) = .error fault →
      file.merge { a with headers := arguments.map some } = .error fault ∧
        ∃ s ∈ arguments, IsMalformed s ∧ fault = .badHeaderArgument (Text.quote s)) ∧
    ((∀ s ∈ arguments, ¬ IsMalformed s) →
      ∃ merged, file.merge { a with headers := arguments.map some } = .ok merged ∧
        ∀ links document, HeadersDue (dueHeaders table arguments) links merged document) := by
  obtain ⟨hs, overrides, _⟩ := Settings.headerOverrides_ofTable read
  rcases readHeaderArguments_cases arguments with ⟨s, member, malformed, refused⟩ | ⟨wellFormed, stated, given, holds⟩
  · refine ⟨⟨fun _ => ⟨s, member, malformed⟩, fun _ => ⟨_, refused⟩⟩, ?_, fun none => absurd malformed (none s member)⟩
    intro fault h
    cases refused.symm.trans h
    refine ⟨?_, s, member, malformed, rfl⟩
    rw [Settings.merge, overrides, Settings.headerFields, ok_bind, refused]
    rfl
  · refine ⟨⟨?_, ?_⟩, ?_, fun _ => ?_⟩
    · rintro ⟨fault, h⟩
      cases given.symm.trans h
    · rintro ⟨s, member, malformed⟩
      exact absurd malformed (wellFormed s member)
    · intro fault h
      cases given.symm.trans h
    · obtain ⟨merged, done, has⟩ := Settings.merge_hasHeaders read (a := { a with headers := arguments.map some })
        given holds
      exact ⟨merged, done, fun links document => headersDue_of_hasHeaders has links document⟩

/-- A settings table with headers for the operations `pets` and `pet`. -/
def petTable : Fields Value :=
  [("headers", .object [("pets", .str "X-A: 1"), ("pet", .list [.str "X-B: 2", .str "X-C: 3"])])]

/-- A document with two operations `pets`, an operation `pet`, one without headers and one without an identifier. -/
def petDocument : Document where
  paths := [
    ("/pets", [("get", { verb := "get", operationId := some "pets" }), ("put", { verb := "put" })]),
    ("/pet", [("get", { verb := "get", operationId := some "pet" })]),
    ("/all", [("get", { verb := "get", operationId := some "pets" }),
      ("post", { verb := "post", operationId := some "add" })])]

/-- The arguments for `pets` add up and take the place of what the table lists for it. -/
theorem headers_due_shared : ∃ file merged, Settings.ofTable petTable = .ok file ∧
    file.merge { headers := [some "pets=X-D: 4", some " pets = X-E: 5=6 "] } = .ok merged ∧
    (describe .none merged petDocument).1.interface.methods.map (·.headers) =
      [["X-D: 4", "X-E: 5=6"], ["X-B: 2", "X-C: 3"], ["X-D: 4", "X-E: 5=6"], []] := by
  have accepted := (@headers_due petTable _ rfl {} ["pets=X-D: 4", " pets = X-E: 5=6 "]).2.2
  obtain ⟨merged, done, due⟩ := accepted (by decide +kernel)
  refine ⟨_, merged, rfl, done, ?_⟩
  have each := (due .none petDocument).methods.imp fun e m h =>
    show dueHeaders petTable ["pets=X-D: 4", " pets = X-E: 5=6 "] (e.operation.operationId.getD "") = m.headers by
      rw [h.1, h.2]
      rfl
  exact (map_eq_map each).symm.trans (by decide +kernel)

end TypedClient
