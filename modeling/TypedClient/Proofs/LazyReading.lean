import TypedClient.Proofs.Acquisition
import TypedClient.Proofs.Visits

/-!
# Reading what was loaded lazily

A document that is loaded has links in place of its references, and none of them is followed before it is
looked at. `Origin.LoadsLazily` says this of a source, and it is so for every file whose references are
texts (`loadsLazily_file`). The values that a text holds have no links (`Json.read?_plain`), so there is a
plain document to compare with.

**What is proved.** `schema_readsLazily`: where nothing but schemas are references, loading a source comes
to what reading the plain document comes to, with the same failures, whether its references lead anywhere
or not. What is left of the links are the literals, which are kept as they were found;
`literalOrigin` shows one that is a link.
-/

namespace TypedClient

open Schema References

/-! ## Documents in text -/

namespace Json

section

variable {α β : Type} {P : α → Prop} {Q : β → Prop}

/-- What a reader yields is of a kind. -/
def Yields (P : α → Prop) (x : Option (α × List Char)) : Prop := ∀ a rest, x = some (a, rest) → P a

theorem yields_none : Yields P none := fun _ _ h => nomatch h

theorem yields_some {found : α × List Char} (h : P found.1) : Yields P (some found) := by
  rintro _ _ heq
  cases heq
  exact h

theorem Yields.bind {x : Option (α × List Char)} {f : α × List Char → Option (β × List Char)}
    (hx : Yields P x) (hf : ∀ a rest, P a → Yields Q (f (a, rest))) : Yields Q (x >>= f) := by
  cases x with
  | none => exact yields_none
  | some found =>
    obtain ⟨a, rest⟩ := found
    exact hf a rest (hx a rest rfl)

/-- A reader of anything. -/
theorem yields_any (x : Option (α × List Char)) : Yields (fun _ => True) x := fun _ _ _ => trivial

end

/-- A value without links. -/
def Plain (v : Value) : Prop := v.isPlain = true

theorem plain_int (n : Int) : Plain (.int n) := rfl
theorem plain_float (x : Binary64) : Plain (.float x) := rfl
theorem plain_str (s : String) : Plain (.str s) := rfl

theorem plain_list {vs : List Value} (h : ∀ v ∈ vs, Plain v) : Plain (.list vs) := Value.isPlain_list.mpr h

theorem plain_object {fs : Fields Value} (h : fs.Plain) : Plain (.object fs) := Value.isPlain_object.mpr h

theorem readWord_plain (cs : List Char) : Yields Plain (readWord cs) := by
  intro v rest h
  obtain ⟨word, hw, found⟩ := List.exists_of_findSome?_eq_some h
  obtain ⟨_, _, heq⟩ := Option.map_eq_some_iff.mp found
  cases heq
  have words : ∀ w ∈ words, w.2.isPlain = true := by decide
  exact words word hw

theorem readNumber_plain (negative : Bool) (cs : List Char) : Yields Plain (readNumber negative cs) := by
  unfold readNumber
  refine (yields_any _).bind fun whole rest _ => ?_
  dsimp only
  split
  · split
    · exact yields_none
    · exact yields_some (plain_int _)
  · exact yields_some (plain_float _)
  · exact yields_some (plain_float _)

theorem plain_ofPairs {pairs : List (String × Value)} (h : ∀ f ∈ pairs, Plain f.2) :
    (Fields.ofPairs pairs).Plain := by
  have all : ∀ (acc : Fields Value), (∀ v ∈ acc.values, Plain v) →
      ∀ v ∈ (Fields.putAll acc pairs).values, Plain v := by
    induction pairs with
    | nil => exact fun acc hacc => hacc
    | cons f rest ih =>
      refine fun acc hacc => ih (fun g hg => h g (List.mem_cons_of_mem _ hg)) _ fun v hv => ?_
      rcases Fields.mem_values_put hv with rfl | hv
      · exact h f List.mem_cons_self
      · exact hacc v hv
  exact fun f hf => all [] (fun _ h => nomatch h) f.2 (Fields.mem_values.mpr ⟨f.1, hf⟩)

section

variable {fuel : Nat}

/-- With one step more a value is read as its items or its fields are. -/
theorem readValue_step (items : ∀ cs, Yields (fun vs => ∀ v ∈ vs, Plain v) (readItems fuel cs))
    (fields : ∀ cs, Yields (fun fs => ∀ f ∈ fs, Plain f.2) (readFields fuel cs)) (cs : List Char) :
    Yields Plain (readValue (fuel + 1) cs) := by
  rw [readValue.eq_def]
  split
  · exact yields_none
  · exact yields_none
  · exact (yields_any _).bind fun s rest _ => yields_some (plain_str s)
  · next same =>
    obtain rfl := Nat.succ.inj same
    split
    · exact yields_some (plain_list (by simp))
    · refine (items _).bind fun vs rest h => ?_
      exact yields_some (plain_list h)
  · next same =>
    obtain rfl := Nat.succ.inj same
    split
    · exact yields_some (plain_object fun _ hf => absurd hf List.not_mem_nil)
    · refine (fields _).bind fun fs rest h => ?_
      exact yields_some (plain_object (plain_ofPairs h))
  · split
    · next found h =>
      exact h ▸ readWord_plain _
    · split <;> exact readNumber_plain _ _

theorem readItems_step (value : ∀ cs, Yields Plain (readValue fuel cs))
    (items : ∀ cs, Yields (fun vs => ∀ v ∈ vs, Plain v) (readItems fuel cs)) (cs : List Char) :
    Yields (fun vs => ∀ v ∈ vs, Plain v) (readItems (fuel + 1) cs) := by
  rw [readItems]
  refine (value _).bind fun v rest hv => ?_
  dsimp only
  split
  · exact (items _).bind fun vs rest hvs => yields_some (List.forall_mem_cons.mpr ⟨hv, hvs⟩)
  · exact yields_some (List.forall_mem_singleton.mpr hv)
  · exact yields_none

theorem readFields_step (value : ∀ cs, Yields Plain (readValue fuel cs))
    (fields : ∀ cs, Yields (fun fs => ∀ f ∈ fs, Plain f.2) (readFields fuel cs)) (cs : List Char) :
    Yields (fun fs => ∀ f ∈ fs, Plain f.2) (readFields (fuel + 1) cs) := by
  rw [readFields]
  split
  · refine (yields_any _).bind fun name rest _ => ?_
    dsimp only
    split
    · refine (value _).bind fun v rest hv => ?_
      dsimp only
      split
      · exact (fields _).bind fun fs rest hfs => yields_some (List.forall_mem_cons.mpr ⟨hv, hfs⟩)
      · exact yields_some (List.forall_mem_singleton.mpr hv)
      · exact yields_none
    · exact yields_none
  · exact yields_none

end

/-- Whatever fuel there is, what is read has no links: by induction on the fuel, for values, items and
fields together. -/
theorem readValue_plain (fuel : Nat) :
    (∀ cs, Yields Plain (readValue fuel cs)) ∧
    (∀ cs, Yields (fun vs => ∀ v ∈ vs, Plain v) (readItems fuel cs)) ∧
    ∀ cs, Yields (fun fs => ∀ f ∈ fs, Plain f.2) (readFields fuel cs) := by
  induction fuel with
  | zero => exact ⟨fun _ => yields_none, fun _ => yields_none, fun _ => yields_none⟩
  | succ fuel ih =>
    obtain ⟨value, items, fields⟩ := ih
    exact ⟨readValue_step items fields, readItems_step value items, readFields_step value fields⟩

/-- **A text holds no links**: what they are is a matter of how a document is loaded. -/
theorem read?_plain {s : String} {v : Value} (h : read? s = some v) : v.isPlain = true := by
  unfold read? at h
  dsimp only at h
  split at h
  · next found hr =>
    split at h
    · cases h
      exact (readValue_plain _).1 _ _ _ hr
    · cases h
  · cases h

end Json

/-! ## Addresses of files -/

namespace References

/-- An encoded path has no number sign. -/
theorem notMem_encode (path : String) : '#' ∉ (encode path).toList := by
  have digit : ∀ n < 16, upperHex n ≠ '#' := by decide
  rw [encode, String.toList_ofList]
  intro h
  obtain ⟨c, _, hc⟩ := List.mem_flatMap.mp h
  split at hc
  · next plain =>
    rw [← List.mem_singleton.mp hc] at plain
    exact absurd plain (by decide)
  · obtain ⟨b, _, hb⟩ := List.mem_flatMap.mp hc
    have small : b.toNat < 256 := b.toNat_lt
    simp only [List.mem_cons, List.not_mem_nil, or_false] at hb
    rcases hb with h | h | h
    · exact absurd h (by decide)
    · exact digit _ (by omega) h.symm
    · exact digit _ (by omega) h.symm

/-- The address of a file is that of a whole document. -/
theorem splitFragment?_file (path : String) :
    Uri.splitFragment? ("file:///" ++ encode path) = some ("file:///" ++ encode path, []) := by
  have whole : ("file:///" ++ encode path).toList.contains '#' = false := by
    rw [← Bool.not_eq_true, List.contains_iff_mem, String.toList_append, List.mem_append]
    rintro (h | h)
    · exact absurd h (by decide)
    · exact notMem_encode path h
  rw [Uri.splitFragment?, whole]
  rfl

theorem ofText?_file (path : String) : ∃ u, Uri.ofText? ("file:///" ++ path) = some u := by
  have cleaned : ∃ rest, Uri.cleaned ("file:///" ++ path) = "file:///".toList ++ rest := by
    rw [Uri.cleaned, String.toList_append]
    exact ⟨_, rfl⟩
  obtain ⟨rest, cleaned⟩ := cleaned
  rw [Uri.ofText?, cleaned]
  exact ⟨_, rfl⟩

end References

/-! ## Loading lazily -/

namespace Schema

/-- The text of a source holds a document, and it is loaded with a link in place of every reference. -/
structure Origin.LoadsLazily (o : Origin) (source : String) (content : Value) (loaded : Loaded) : Prop where
  text : ∃ text address, o.read source = .ok (text, address) ∧ Json.read? text = some content ∧
    o.link address content = .ok loaded
  root : ∃ document, loaded.root = withLinks document [] content

variable {o : Origin} {source : String} {content : Value} {loaded : Loaded}

/-- Every file whose references are texts is loaded lazily. -/
theorem loadsLazily_file {text : String} (here : isWebAddress source = false)
    (present : o.files.exists? source = true) (had : o.files.readText source = .ok text)
    (document : Json.read? text = some content) (simple : SimplyReferenced content) :
    ∃ loaded, o.LoadsLazily source content loaded := by
  have read : o.read source = .ok (text, o.fileAddress source) := by
    simp [Origin.read, here, present, had]
  obtain ⟨u, spelled⟩ := ofText?_file (encode ("/".intercalate (Files.Path.namesFromRoot o.directory source)))
  have linked := link_eq_ok (o := o) (splitFragment?_file _) (congrArg (Option.map Uri.text) spelled)
    (linked_eq_withLinks _ _ [] content (Json.read?_plain document) simple)
  exact ⟨_, ⟨text, _, read, document, linked⟩, _, rfl⟩

/-- **Loading a document lazily** comes to what reading the plain document comes to, if nothing but a schema is
a reference where it is looked at: the same events, and the same document but for the literals that are still
links, so the same altogether where no literal holds a reference. -/
theorem schema_readsLazily {fields : Fields Value} (lazily : o.LoadsLazily source (.object fields) loaded)
    (object : refTarget? fields = none) (quiet : Quiet (Document.visits (.object fields))) :
    ∃ outcome, o.schema (.str source) = .ok outcome ∧
      outcome.events = (Document.read .none (.object fields)).2 ∧
      outcome.document.mapLiterals Value.unlinked = (Document.read .none (.object fields)).1 ∧
      ((∀ v ∈ (Document.read .none (.object fields)).1.allLiterals, Quiet v.within) →
        outcome.document = (Document.read .none (.object fields)).1) := by
  obtain ⟨⟨text, address, had, document, linked⟩, place, root⟩ := lazily
  have both : Lazy (.object fields) loaded.root := ⟨Json.read?_plain document, place, [], root⟩
  obtain ⟨linkedFields, seen, _⟩ := both.object object
  have load : o.loadWith o.linker source = .ok loaded := load_eq_ok had rfl document linked
  have outcome := @schema_read _ _ _ _ linkedFields load (by rw [seen]; rfl)
  have agrees : (_, _) = Document.read .none (.object fields) :=
    @Document.read_agrees loaded.links _ _ both quiet
  obtain ⟨restored, events⟩ := Prod.ext_iff.mp agrees
  refine ⟨_, outcome, events, restored, fun literals => ?_⟩
  refine (Document.mapLiterals_eq_self _ fun v hv => Value.unlinked_eq_self v (literals _ ?_)).symm.trans restored
  rw [← restored]
  exact Document.allLiterals_mapLiterals (f := Value.unlinked) _ ▸ List.mem_map_of_mem hv

/-- A file with a definition that refers to itself, and to another one that is missing. -/
def petOrigin : Origin where
  files := ⟨[(["api.json"], .file (.text (
    "\x7b\"definitions\":\x7b\"Pet\":\x7b\"properties\":\x7b\"owner\":\x7b\"$ref\":\"#/definitions/Pet\"\x7d," ++
      "\"vet\":\x7b\"$ref\":\"#/Vet\"\x7d\x7d\x7d\x7d\x7d")))]⟩
  directory := "/work"

/-- What the file holds. -/
def petFields : Fields Value :=
  [("definitions", .object [("Pet", .object [("properties", .object
    [("owner", .object [("$ref", .str "#/definitions/Pet")]), ("vet", .object [("$ref", .str "#/Vet")])])])])]

/-- Neither reference is followed. -/
theorem schema_readsLazily_pets : ∃ loaded, petOrigin.LoadsLazily "api.json" (.object petFields) loaded ∧
    refTarget? petFields = none ∧ Quiet (Document.visits (.object petFields)) ∧
    ∃ outcome, petOrigin.schema (.str "api.json") = .ok outcome ∧ outcome.events = [] ∧
      outcome.document = (Document.read .none (.object petFields)).1 := by
  obtain ⟨loaded, lazily⟩ := @loadsLazily_file petOrigin "api.json" (.object petFields) _
    (by decide +kernel) (by decide +kernel) rfl (by cbv) (by decide +kernel)
  have quiet : Quiet (Document.visits (.object petFields)) := by decide +kernel
  obtain ⟨outcome, found, events, _, same⟩ := schema_readsLazily lazily rfl quiet
  exact ⟨loaded, lazily, rfl, quiet, outcome, found, events, same (by decide +kernel)⟩

/-- Every source comes to the very document that reading its plain text comes to. -/
def Origin.ReadsAlike (o : Origin) : Prop :=
  ∀ source fields loaded, o.LoadsLazily source (.object fields) loaded → refTarget? fields = none →
    Quiet (Document.visits (.object fields)) → ∃ outcome, o.schema (.str source) = .ok outcome ∧
      (outcome.document, outcome.events) = Document.read .none (.object fields)

/-- A file with a definition that is restricted to a reference. -/
def literalOrigin : Origin where
  files := ⟨[(["api.json"], .file (.text
    "\x7b\"title\":\"red\",\"definitions\":\x7b\"Color\":\x7b\"enum\":[\x7b\"$ref\":\"#/title\"\x7d]\x7d\x7d\x7d"))]⟩
  directory := "/work"

/-- What the file holds. -/
def literalFields : Fields Value :=
  [("title", .str "red"),
   ("definitions", .object [("Color", .object [("enum", .list [.object [("$ref", .str "#/title")]])])])]

/-- A literal is kept without being looked at, so a reference among the literals stays a link. -/
theorem allLiterals_literalFields (links : Links) (place : String) :
    (Document.read links (withLinks place [] (.object literalFields))).1.allLiterals =
      [.link ⟨place, ["definitions", "Color", "enum", "0"]⟩ "#/title" [("$ref", .str "#/title")]] := by
  obtain ⟨follow, budget⟩ := links
  cases budget <;> rfl

/-- Not every source reads as its plain text does. -/
theorem not_readsAlike_literal : ¬ literalOrigin.ReadsAlike := by
  intro alike
  obtain ⟨loaded, lazily⟩ := @loadsLazily_file literalOrigin "api.json" (.object literalFields) _
    (by decide +kernel) (by decide +kernel) rfl (by cbv) (by decide +kernel)
  obtain ⟨outcome, found, same⟩ := alike "api.json" literalFields loaded lazily rfl (by decide +kernel)
  obtain ⟨⟨text, address, had, document, linked⟩, place, root⟩ := lazily
  have load : literalOrigin.loadWith literalOrigin.linker "api.json" = .ok loaded :=
    load_eq_ok had rfl document linked
  cases found.symm.trans (schema_read load (by rw [root]; rfl))
  have literals := congrArg (fun d => d.1.allLiterals) same
  rw [root] at literals
  cases (allLiterals_literalFields loaded.links place).symm.trans literals

end Schema

end TypedClient
