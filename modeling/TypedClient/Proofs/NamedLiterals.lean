import TypedClient.Proofs.EnumReferences

/-!
# Literals under names

A definition lists its literals in one place and names for them in another, and nothing makes the two lists equally
long. A reference to it makes an enumeration of both: each name goes to the literal at its place, and what is left
over of the longer list is dropped without a word.

**What is proved.** `extracted_pairsNames`: an enumeration that is extracted at a reference has the literals of the
definition in their order, converted as its type says, as far as there are names. So it has one constant for each
literal exactly when there are at least as many names, and the two are paired one to one exactly when they are
equally many. `not_everyNamePaired` has a literal that gets no constant.

The condition for an enumeration to be extracted at all (`addPropertyEnum_reference`) does not speak of lengths.
-/

namespace TypedClient.Api

open Schema

variable {links : Links} {d : Document}

/-! ## Conversion and pairing -/

/-- What a literal is converted to: the integer that it stands for in an integer definition, its text in any
other. -/
inductive ConvertsTo (links : Links) : Option String → Value → ConstantValue → Prop
  | integer {v : Value} {n : Int} (read : integerOf links v = .ok n) :
    ConvertsTo links (some "integer") v (.int n)
  | text {type : Option String} {v : Value} {s : String} (other : type ≠ some "integer")
    (written : links.text v = .ok s) : ConvertsTo links type v (.str s)

/-- Constants that stand for literals one by one, in order. -/
def OnePerLiteral (links : Links) (type : Option String) (literals : List Value) (constants : List Constant) :
    Prop :=
  List.Forall₂ (fun v c => ConvertsTo links type v c.value) literals constants

/-- Constants that pair names with literals, as far as both lists go. -/
structure Paired (links : Links) (type : Option String) (names : List String) (literals : List Value)
    (constants : List Constant) : Prop where
  named : constants.map (·.name) = names.take literals.length
  valued : OnePerLiteral links type (literals.take names.length) constants
  complete : OnePerLiteral links type literals constants ↔ literals.length ≤ names.length
  oneToOne : constants.map (·.name) = names ∧ OnePerLiteral links type literals constants ↔
    names.length = literals.length

theorem constantValues_eq_ok {m : Model} {literals : List Value} {values : List ConstantValue} :
    constantValues links m literals = .ok values ↔ List.Forall₂ (ConvertsTo links m.type) literals values := by
  unfold constantValues
  split
  · next integer =>
    rw [mapM_eq_ok, integer]
    constructor
    · refine fun h => h.imp fun v c hc => ?_
      obtain ⟨n, read, heq⟩ := bind_eq_ok.mp hc
      cases heq
      exact .integer read
    · refine fun h => h.imp fun v c hc => ?_
      cases hc with
      | integer read => exact bind_eq_ok.mpr ⟨_, read, rfl⟩
      | text other => exact absurd rfl other
  · next other =>
    rw [mapM_eq_ok]
    constructor
    · refine fun h => h.imp fun v c hc => ?_
      obtain ⟨s, written, heq⟩ := bind_eq_ok.mp hc
      cases heq
      exact .text other written
    · refine fun h => h.imp fun v c hc => ?_
      generalize m.type = type at hc other
      cases hc with
      | integer => exact absurd rfl other
      | text _ written => exact bind_eq_ok.mpr ⟨_, written, rfl⟩

theorem map_name_zipWith (names : List String) (values : List ConstantValue) :
    (List.zipWith Constant.mk names values).map (·.name) = names.take values.length := by
  induction names generalizing values with
  | nil => simp
  | cons name names ih =>
    cases values with
    | nil => rfl
    | cons c values => simp [ih]

theorem map_value_zipWith (names : List String) (values : List ConstantValue) :
    (List.zipWith Constant.mk names values).map (·.value) = values.take names.length := by
  induction names generalizing values with
  | nil => simp
  | cons name names ih =>
    cases values with
    | nil => simp
    | cons c values => simp [ih]

/-- What is zipped of names and converted literals pairs them as far as both lists go. -/
theorem paired_zipWith {type : Option String} {names : List String} {literals : List Value}
    {values : List ConstantValue} (converted : List.Forall₂ (ConvertsTo links type) literals values) :
    Paired links type names literals (List.zipWith Constant.mk names values) := by
  have length := converted.length_eq
  have named : (List.zipWith Constant.mk names values).map (·.name) = names.take literals.length := by
    rw [map_name_zipWith, length]
  have valued : OnePerLiteral links type (literals.take names.length) (List.zipWith Constant.mk names values) := by
    rw [OnePerLiteral, ← List.forall₂_map_right_iff (R := ConvertsTo links type), map_value_zipWith]
    exact List.forall₂_take _ converted
  have complete : OnePerLiteral links type literals (List.zipWith Constant.mk names values) ↔
      literals.length ≤ names.length := by
    constructor
    · intro each
      have := each.length_eq
      rw [List.length_zipWith] at this
      omega
    · intro enough
      rwa [List.take_of_length_le enough] at valued
  refine ⟨named, valued, complete, ?_⟩
  rw [complete, named]
  constructor
  · rintro ⟨all, enough⟩
    have := congrArg List.length all
    rw [List.length_take] at this
    omega
  · intro equal
    exact ⟨List.take_of_length_le (by omega), by omega⟩

/-! ## Extraction at a reference -/

/-- The properties of the definitions in the order in which extraction goes over them. -/
def ownProperties (d : Document) : Fields Property := d.definitions.flatMap fun m => m.2.properties

/-- The enumerations that are there when extraction has gone over the operations and over some properties. -/
def extractedBefore (links : Links) (d : Document) (before : Fields Property) : List EnumType :=
  before.foldl (addPropertyEnum links d.definitions) (addEndpointEnums links d.endpoints []).1

/-- An enumeration is extracted at a property: it is what going over this property adds. -/
def ExtractedAt (links : Links) (d : Document) (field : String × Property) (e : EnumType) : Prop :=
  ∃ before after, ownProperties d = before ++ field :: after ∧
    addPropertyEnum links d.definitions (extractedBefore links d before) field =
      extractedBefore links d before ++ [e]

theorem extractEnums_eq_extractedBefore (links : Links) (d : Document) :
    (extractEnums links d).1 = extractedBefore links d (ownProperties d) :=
  List.foldl_flatMap.symm

theorem definitionEnum?_eq_some {key : String} {m : Model} {e : EnumType} :
    definitionEnum? links key m = .ok (some e) ↔ ∃ literals names values, m.literals = some literals ∧ literals ≠ [] ∧
      m.literalNames = some names ∧ names ≠ [] ∧ List.Forall₂ (ConvertsTo links m.type) literals values ∧
      e = ⟨modelName key, List.zipWith Constant.mk names values⟩ := by
  unfold definitionEnum?
  constructor
  · intro h
    split at h
    · next first rest name names given named =>
      obtain ⟨values, converted, heq⟩ := bind_eq_ok.mp h
      cases heq
      exact ⟨_, _, values, given, List.cons_ne_nil _ _, named, List.cons_ne_nil _ _,
        constantValues_eq_ok.mp converted, rfl⟩
    · cases h
    · cases h
  · rintro ⟨literals, names, values, given, inhabited, named, labelled, converted, rfl⟩
    obtain ⟨first, rest, rfl⟩ := List.exists_cons_of_ne_nil inhabited
    obtain ⟨name, others, rfl⟩ := List.exists_cons_of_ne_nil labelled
    rw [given, named]
    exact bind_eq_ok.mpr ⟨values, constantValues_eq_ok.mpr converted, rfl⟩

/-- What a reference brings is the enumeration of its definition. -/
theorem propertyCandidate?_reference {definitions : Fields Model} {field : String × Property} {key : String}
    (refers : RefersTo field.2 key) {e : EnumType} : propertyCandidate? links definitions field = some e ↔
      ∃ m, definitions.get? key = some m ∧ definitionEnum? links key m = .ok (some e) := by
  unfold propertyCandidate?
  rw [refers.kind, refers.target]
  simp [Option.bind_eq_some_iff, toOption_eq_some]

/-- **When a reference adds an enumeration.** The name is new, and the definition has literals, all of which are
converted, and names. -/
theorem addPropertyEnum_reference {definitions : Fields Model} {enums : List EnumType} {field : String × Property}
    {key : String} (refers : RefersTo field.2 key) {e : EnumType} :
    addPropertyEnum links definitions enums field = enums ++ [e] ↔
      modelName key ∉ enums.map (·.name) ∧ ∃ m, definitions.get? key = some m ∧
        definitionEnum? links key m = .ok (some e) := by
  rw [← propertyCandidate?_reference refers, addPropertyEnum_eq]
  cases candidate : propertyCandidate? links definitions field with
  | none => simp
  | some c =>
    obtain ⟨m, _, made⟩ := (propertyCandidate?_reference refers).mp candidate
    have name := name_of_definitionEnum? made
    dsimp only
    by_cases known : modelName key ∈ enums.map (·.name)
    · rw [addEnum_known (name ▸ known)]
      simp [known]
    · rw [addEnum_new (name ▸ known)]
      simp [known]

/-- What was extracted stays, whatever comes later. -/
theorem mem_extractEnums {before after : Fields Property} (split : ownProperties d = before ++ after) {e : EnumType}
    (he : e ∈ extractedBefore links d before) : e ∈ (extractEnums links d).1 := by
  rw [extractEnums_eq_extractedBefore, split, extractedBefore, List.foldl_append, foldl_addPropertyEnum]
  exact mem_keepNew_of_mem he

/-- **Names and literals are paired as far as both go.** An enumeration that is extracted at a reference has the
literals of the definition in their order, each converted and under the name at its place. It has one constant for
each literal exactly when there are enough names. -/
theorem extracted_pairsNames {field : String × Property} {key : String} (refers : RefersTo field.2 key)
    {e : EnumType} (here : ExtractedAt links d field e) :
    e ∈ (extractEnums links d).1 ∧ e.name = modelName key ∧
      ∃ m literals names, d.definitions.get? key = some m ∧ m.literals = some literals ∧
        m.literalNames = some names ∧ Paired links m.type names literals e.constants := by
  obtain ⟨before, after, split, added⟩ := here
  obtain ⟨new, m, found, made⟩ := (addPropertyEnum_reference refers).mp added
  refine ⟨?_, name_of_definitionEnum? made, m, ?_⟩
  · have here : e ∈ extractedBefore links d (before ++ [field]) := by
      rw [extractedBefore, List.foldl_append]
      show e ∈ addPropertyEnum links d.definitions (extractedBefore links d before) field
      rw [added]
      exact List.mem_append_right _ List.mem_cons_self
    have splitBehind : ownProperties d = (before ++ [field]) ++ after := by
      rw [split, List.append_assoc, List.singleton_append]
    exact mem_extractEnums splitBehind here
  · obtain ⟨literals, names, values, given, _, named, _, converted, rfl⟩ := definitionEnum?_eq_some.mp made
    exact ⟨literals, names, found, given, named, paired_zipWith converted⟩

/-! ## Too few names -/

/-- A property that refers to shades. -/
def shadeField : String × Property := ("shade", .reference "Shade" false)

/-- A document with shades under some names. -/
def shadesRoot (names : List String) : Value :=
  .object [("definitions", .object [
    ("Shade", .object [("type", .str "string"), ("enum", .list [.str "r", .str "g"]),
      ("x-enumNames", .list (names.map .str))]),
    ("Paint", .object [("properties", .object [("shade", .object [("$ref", .str "#/definitions/Shade")])])])])]

/-- Two shades under two names are paired one to one. -/
theorem extracted_pairsNames_shades :
    let d := (Document.read .none (shadesRoot ["Red", "Green"])).1
    let e : EnumType := ⟨"Shade", [⟨"Red", .str "r"⟩, ⟨"Green", .str "g"⟩]⟩
    RefersTo shadeField.2 "Shade" ∧ ExtractedAt .none d shadeField e ∧ e ∈ (extractEnums .none d).1 ∧
      OnePerLiteral .none (some "string") [.str "r", .str "g"] e.constants := by
  have here : ExtractedAt .none (Document.read .none (shadesRoot ["Red", "Green"])).1 shadeField
      ⟨"Shade", [⟨"Red", .str "r"⟩, ⟨"Green", .str "g"⟩]⟩ := ⟨[], [], rfl, rfl⟩
  obtain ⟨extracted, _, m, literals, names, found, given, named, paired⟩ := extracted_pairsNames ⟨rfl, rfl⟩ here
  cases found
  cases given
  cases named
  exact ⟨⟨rfl, rfl⟩, here, extracted, paired.complete.mpr (by decide)⟩

/-- Whether every enumeration that is extracted at a reference pairs the names with the literals one to one. -/
def EveryNamePaired (links : Links) (d : Document) : Prop :=
  ∀ field key e, RefersTo field.2 key → ExtractedAt links d field e →
    ∃ m literals names, d.definitions.get? key = some m ∧ m.literals = some literals ∧
      m.literalNames = some names ∧ e.constants.map (·.name) = names ∧
      OnePerLiteral links m.type literals e.constants

/-- Of two shades under one name the second is lost. -/
theorem not_everyNamePaired : ¬ EveryNamePaired .none (Document.read .none (shadesRoot ["Red"])).1 := by
  intro every
  have here : ExtractedAt .none (Document.read .none (shadesRoot ["Red"])).1 shadeField
      ⟨"Shade", [⟨"Red", .str "r"⟩]⟩ := ⟨[], [], rfl, rfl⟩
  obtain ⟨m, literals, names, found, given, _, _, each⟩ := every _ _ _ ⟨rfl, rfl⟩ here
  cases found
  cases given
  exact absurd each.length_eq (by decide)

end TypedClient.Api
