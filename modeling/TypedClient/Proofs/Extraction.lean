import TypedClient.Proofs.EnumReferences
import TypedClient.Proofs.Literals

/-!
# What is extracted

Extraction goes through a document in two passes that step over different faults and ask for known names at
different moments. What a document states is simpler to say. A parameter in the path and a text property state
the texts of their literals, a reference states the literals of its definition under their names, and nothing of
this depends on the rest of the document.

**What is proved.** `extracts_firstOfEachName`: where the literals of a document are plain, extraction gives the
first of each name among the enumerations that are stated, in the order of the document. A reference to literals
that cannot be converted states nothing, and the document without it gives the same enumerations and failures.

Here literals are converted without regard to links (`plainText`, `plainInteger?`): a plain literal always has a
text, but the literals of an integer definition need not be integers.
-/

namespace TypedClient.Api

open Schema

/-! ## What a document states -/

/-- The text of a plain literal. -/
def plainText : Value → String
  | .str s => s
  | v => v.literal

/-- The integer that a plain literal stands for, if there is one. -/
def plainInteger? : Value → Option Int
  | .int n => some n
  | .bool b => some (if b then 1 else 0)
  | .float x => x.truncate?
  | .str s => Number.readInteger? s
  | _ => none

/-- What a plain literal of a definition is converted to: an integer in an integer definition, a text in others. -/
def plainValue? (type : Option String) (v : Value) : Option ConstantValue :=
  if type = some "integer" then (plainInteger? v).map .int else some (.str (plainText v))

/-- A list that is stated and has members. -/
def inhabited? {α : Type} : Option (List α) → Option (List α)
  | some (x :: xs) => some (x :: xs)
  | _ => none

/-- The enumeration of the texts of literals. -/
def textEnum (name : String) (literals : List Value) : EnumType :=
  ⟨name, literals.map fun v => ⟨plainText v, .str (plainText v)⟩⟩

/-- The enumeration that a definition states under its key: its literals are paired with their names. -/
def namedEnum? (key : String) (m : Model) : Option EnumType := do
  let literals ← inhabited? m.literals
  let names ← inhabited? m.literalNames
  let values ← literals.mapM (plainValue? m.type)
  return ⟨modelName key, List.zipWith Constant.mk names values⟩

/-- The enumeration that a parameter states. -/
def statedByParameter? (p : Parameter) : Option EnumType :=
  if p.location = .path then (inhabited? p.literals).map (textEnum (capitalize p.name)) else none

/-- The enumeration that a property states: that of its definition when it is a reference, that of its literals
when it is a text. -/
def statedByProperty? (definitions : Fields Model) (field : String × Property) : Option EnumType :=
  if field.2.kind = .reference then do
    let key ← field.2.target
    let m ← definitions.get? key
    namedEnum? key m
  else if field.2.type = some "string" then (inhabited? field.2.literals).map (textEnum (capitalize field.1))
  else none

/-- The enumerations that a document states: those of the operations, then those of the definitions. -/
def statedEnums (d : Document) : List EnumType :=
  d.endpoints.flatMap (fun e => e.operation.parameters.filterMap statedByParameter?) ++
    d.definitions.flatMap fun m => m.2.properties.filterMap (statedByProperty? d.definitions)

/-- A reference to a definition one of whose literals cannot be converted. -/
def Unconvertible (definitions : Fields Model) (p : Property) : Prop :=
  ∃ key m literals, RefersTo p key ∧ definitions.get? key = some m ∧ m.literals = some literals ∧
    ∃ v ∈ literals, plainValue? m.type v = none

/-- A document and what it is without one of the properties of one of its definitions. -/
inductive Loses (field : String × Property) : Document → Document → Prop
  | mk (before after : Fields Model) (key : String) (m : Model) (first later : Fields Property)
    (paths : Fields (Fields Operation)) :
    Loses field ⟨before ++ (key, { m with properties := first ++ field :: later }) :: after, paths⟩
      ⟨before ++ (key, { m with properties := first ++ later }) :: after, paths⟩

/-- Enumerations that are the first of each name among those that are stated. -/
structure FirstOfEachName (stated enums : List EnumType) : Prop where
  deduplicated : enums = stated.eraseDupsBy fun e first => first.name == e.name
  distinct : (enums.map (·.name)).Nodup
  kept : ∀ e, e ∈ enums ↔ FirstOf (·.name) stated e

/-! ## Plain literals -/

/-- A document whose literals are plain values. -/
abbrev PlainLiterals (d : Document) : Prop := ∀ v ∈ d.allLiterals, v.isPlain = true

variable {links : Links} {d : Document}

theorem plain_of_parameter (plain : PlainLiterals d) {e : Endpoint} (he : e ∈ d.endpoints) {p : Parameter}
    (hp : p ∈ e.operation.parameters) : p.Plain := by
  obtain ⟨item, hitem, he⟩ := List.mem_flatMap.mp he
  obtain ⟨o, ho, rfl⟩ := List.mem_map.mp he
  intro literals given v hv
  apply plain v
  have own : v ∈ p.allLiterals := by
    simp [Parameter.allLiterals, stated, given, hv]
  have within : v ∈ o.2.allLiterals := List.mem_append_left _ (List.mem_flatMap.mpr ⟨p, hp, own⟩)
  exact List.mem_append_right _ (List.mem_flatMap.mpr ⟨item, hitem, List.mem_flatMap.mpr ⟨o, ho, within⟩⟩)

theorem plain_of_definition (plain : PlainLiterals d) {q : String × Model} (hq : q ∈ d.definitions)
    {literals : List Value} (given : q.2.literals = some literals) : ∀ v ∈ literals, v.isPlain = true := by
  intro v hv
  apply plain v
  refine List.mem_append_left _ (List.mem_flatMap.mpr ⟨q, hq, ?_⟩)
  obtain ⟨key, type, format, properties, own, names, parts, target⟩ := q
  cases given
  rw [Model.allLiterals]
  exact List.mem_append_left _ (List.mem_append_right _ hv)

theorem plain_of_property (plain : PlainLiterals d) {q : String × Model} (hq : q ∈ d.definitions)
    {field : String × Property} (hfield : field ∈ q.2.properties) {literals : List Value}
    (given : field.2.literals = some literals) : ∀ v ∈ literals, v.isPlain = true := by
  intro v hv
  apply plain v
  have own : v ∈ field.2.allLiterals := by
    obtain ⟨name, kind, type, format, required, target, items, literals'⟩ := field
    cases given
    cases items with
    | none => exact hv
    | some items => exact List.mem_append_right _ hv
  refine List.mem_append_left _ (List.mem_flatMap.mpr ⟨q, hq, ?_⟩)
  obtain ⟨key, type, format, properties, _, names, parts, target⟩ := q
  rw [Model.allLiterals]
  exact List.mem_append_left _ (List.mem_append_left _ (List.mem_flatMap.mpr ⟨field, hfield, own⟩))

theorem text_eq_plainText {v : Value} (plain : v.isPlain = true) : links.text v = .ok (plainText v) := by
  rw [Links.text_plain plain]
  cases v <;> rfl

theorem literalEnum_plain (name : String) {literals : List Value} (plain : ∀ v ∈ literals, v.isPlain = true) :
    literalEnum links name literals = .ok (textEnum name literals) := by
  have texts : literals.mapM links.text = .ok (literals.map plainText) := by
    rw [mapM_eq_ok, List.forall₂_map_right_iff]
    exact List.forall₂_same.mpr fun v hv => text_eq_plainText (plain v hv)
  rw [literalEnum, texts, ok_bind, List.map_map]
  rfl

theorem integerOf_plain {v : Value} (plain : v.isPlain = true) :
    (integerOf links v).toOption = plainInteger? v := by
  rw [integerOf, Links.look_plain plain, ok_bind]
  cases v with
  | float x =>
    cases x with
    | finite negative m e => rfl
    | _ => rfl
  | str s =>
    rw [plainInteger?]
    dsimp only
    cases Number.readInteger? s <;> rfl
  | _ => rfl

/-- The values of plain literals are those that they are converted to. -/
theorem constantValues_plain (m : Model) {literals : List Value} (plain : ∀ v ∈ literals, v.isPlain = true) :
    (constantValues links m literals).toOption = literals.mapM (plainValue? m.type) := by
  unfold constantValues plainValue?
  split
  · refine toOption_mapM fun v hv => ?_
    rw [← integerOf_plain (plain v hv)]
    cases integerOf links v <;> rfl
  · refine toOption_mapM fun v hv => ?_
    rw [text_eq_plainText (plain v hv)]
    rfl

/-! ## What is stated is what is brought -/

theorem parameterCandidate?_plain {p : Parameter} (plain : p.Plain) :
    parameterCandidate? links p = statedByParameter? p := by
  unfold parameterCandidate? statedByParameter?
  cases location : p.location with
  | path =>
    rw [if_pos rfl]
    cases given : p.literals with
    | none => rfl
    | some literals =>
      cases literals with
      | nil => rfl
      | cons first others =>
        dsimp only
        rw [literalEnum_plain _ (plain _ given)]
        rfl
  | _ => rfl

/-- The enumeration of a definition is the one that it states. -/
theorem definitionEnum?_plain (key : String) {m : Model}
    (plain : ∀ literals, m.literals = some literals → ∀ v ∈ literals, v.isPlain = true) :
    (definitionEnum? links key m).toOption.bind id = namedEnum? key m := by
  unfold definitionEnum? namedEnum?
  cases given : m.literals with
  | none => rfl
  | some literals =>
    cases literals with
    | nil => rfl
    | cons first rest =>
      cases m.literalNames with
      | none => rfl
      | some names =>
        cases names with
        | nil => rfl
        | cons name others =>
          have values : (constantValues links m (first :: rest)).toOption =
              (first :: rest).mapM (plainValue? m.type) := constantValues_plain m (plain _ given)
          simp only [inhabited?, Option.bind_eq_bind, Option.bind_some, ← values]
          cases constantValues links m (first :: rest) <;> rfl

theorem propertyCandidate?_plain (plain : PlainLiterals d) {q : String × Model} (hq : q ∈ d.definitions)
    {field : String × Property} (hfield : field ∈ q.2.properties) :
    propertyCandidate? links d.definitions field = statedByProperty? d.definitions field := by
  unfold propertyCandidate? statedByProperty?
  split
  · next kind =>
    rw [if_pos kind]
    cases field.2.target with
    | none => rfl
    | some key =>
      simp only [Option.bind_eq_bind, Option.bind_some]
      cases found : d.definitions.get? key with
      | none => rfl
      | some m =>
        have made : (definitionEnum? links key m).toOption.bind id = namedEnum? key m :=
          definitionEnum?_plain key fun literals given => plain_of_definition plain (Fields.mem_of_get? found) given
        rw [Option.bind_some, Option.bind_some, ← made]
        rfl
  · next kind =>
    rw [if_neg kind]
    unfold textCandidate?
    split
    · next first rest type given =>
      rw [if_pos type, given, literalEnum_plain _ (plain_of_property plain hq hfield given)]
      rfl
    · next other =>
      split
      · next type =>
        cases given : field.2.literals with
        | none => rfl
        | some literals =>
          cases literals with
          | nil => rfl
          | cons first rest => exact absurd given (other first rest type)
      · rfl

/-- The candidates of a document are the enumerations that it states. -/
theorem candidates_plain (plain : PlainLiterals d) : candidates links d = statedEnums d := by
  unfold candidates statedEnums propertyCandidates endpointCandidates
  congr 1
  · refine List.flatMap_congr fun e he => List.filterMap_congr fun p hp => ?_
    exact parameterCandidate?_plain (plain_of_parameter plain he hp)
  · refine List.flatMap_congr fun q hq => List.filterMap_congr fun field hfield => ?_
    exact propertyCandidate?_plain plain hq hfield

/-! ## What states nothing -/

/-- What a property brings depends on the definitions only by what these state. -/
theorem propertyCandidate?_alike {definitions others : Fields Model} (alike : Fields.Alike
      (fun m m' => ∀ key, definitionEnum? links key m' = definitionEnum? links key m) definitions others)
    (field : String × Property) :
    propertyCandidate? links others field = propertyCandidate? links definitions field := by
  unfold propertyCandidate?
  split
  · cases field.2.target with
    | none => rfl
    | some key =>
      simp only [Option.bind_eq_bind, Option.bind_some]
      have found := Fields.Alike.get? alike key
      generalize definitions.get? key = m? at found ⊢
      generalize others.get? key = m'? at found ⊢
      cases found with
      | none => rfl
      | some same => rw [Option.bind_some, Option.bind_some, same key]
  · rfl

/-- A property that brings nothing is not missed. -/
theorem extractEnums_loses {field : String × Property} {d' : Document} (loses : Loses field d d')
    (nothing : propertyCandidate? links d.definitions field = none) :
    extractEnums links d' = extractEnums links d := by
  obtain ⟨before, after, key, m, first, later, paths⟩ := loses
  -- a definition states the same enumeration, whatever its properties are
  have alike : Fields.Alike (fun m m' => ∀ key, definitionEnum? links key m' = definitionEnum? links key m)
      (before ++ (key, { m with properties := first ++ field :: later }) :: after)
      (before ++ (key, { m with properties := first ++ later }) :: after) := by
    apply List.rel_append
    · exact List.forall₂_same.mpr fun _ _ => ⟨rfl, fun _ => rfl⟩
    · exact .cons ⟨rfl, fun _ => rfl⟩ (List.forall₂_same.mpr fun _ _ => ⟨rfl, fun _ => rfl⟩)
  have same := funext (propertyCandidate?_alike alike)
  refine Prod.ext ?_ rfl
  rw [extractEnums_pass, extractEnums_pass]
  congr 1
  unfold propertyCandidates
  dsimp only at nothing ⊢
  rw [same]
  simp only [List.flatMap_append, List.flatMap_cons, List.filterMap_append, List.filterMap_cons, nothing]

theorem mapM_eq_none {α β : Type} {f : α → Option β} {xs : List α} {x : α} (hx : x ∈ xs) (h : f x = none) :
    xs.mapM f = none := by
  induction xs with
  | nil => cases hx
  | cons y rest ih =>
    rw [List.mapM_cons]
    rcases List.mem_cons.mp hx with rfl | hx
    · rw [h]
      rfl
    · rw [ih hx]
      cases f y <;> rfl

theorem statedByProperty?_unconvertible {definitions : Fields Model} {field : String × Property}
    (h : Unconvertible definitions field.2) : statedByProperty? definitions field = none := by
  obtain ⟨key, m, literals, refers, found, given, v, hv, unconverted⟩ := h
  have values : literals.mapM (plainValue? m.type) = none := mapM_eq_none hv unconverted
  unfold statedByProperty? namedEnum?
  rw [if_pos refers.kind, refers.target]
  simp only [Option.bind_eq_bind, Option.bind_some, found, given]
  cases literals with
  | nil => cases hv
  | cons first rest =>
    rw [inhabited?, Option.bind_some, values]
    cases inhabited? m.literalNames <;> rfl

/-- **What is extracted** is the first of each name among the enumerations that the document states. A reference
to literals that cannot be converted states nothing, and leaves everything else as it is. -/
theorem extracts_firstOfEachName (links : Links) (plain : PlainLiterals d) :
    FirstOfEachName (statedEnums d) (extractEnums links d).1 ∧
      ∀ field d', Loses field d d' → Unconvertible d.definitions field.2 →
        statedByProperty? d.definitions field = none ∧ extractEnums links d' = extractEnums links d := by
  constructor
  · have enums : (extractEnums links d).1 = keepNew [] (statedEnums d) := by
      rw [extractEnums_eq fun e he p hp => plain_of_parameter plain he hp, candidates_plain plain]
    rw [enums]
    exact ⟨keepNew_nil_eq_eraseDupsBy _, nodup_names_keepNew_nil _, fun e => mem_keepNew_nil⟩
  · intro field d' loses unconvertible
    have nothing := statedByProperty?_unconvertible unconvertible
    refine ⟨nothing, extractEnums_loses loses ?_⟩
    obtain ⟨before, after, key, m, first, later, paths⟩ := loses
    rw [propertyCandidate?_plain plain (List.mem_append_right _ List.mem_cons_self)
      (List.mem_append_right _ List.mem_cons_self)]
    exact nothing

/-! ## Kinds and levels -/

/-- A definition of sizes, integers in other spellings. -/
def sizeModel : Model :=
  { type := some "integer", literals := some [.str "1", .bool true], literalNames := some ["Small", "Large"] }

/-- A definition of levels, which are no integers. -/
def levelModel : Model :=
  { type := some "integer", literals := some [.str "high"], literalNames := some ["High"] }

/-- The kind of a cat, a text with literals of its own. -/
def kindField : String × Property :=
  ("kind", { kind := .primitive, type := some "string", literals := some [.str "cat"] })

/-- The size and the level of a cat. -/
def sizeField : String × Property := ("size", .reference "Size" true)
def levelField : String × Property := ("level", .reference "Level" false)

/-- A document with a kind in a path, and with cats that have some properties. -/
def kindsDocument (properties : Fields Property) : Document where
  definitions := [("Size", sizeModel), ("Level", levelModel), ("Cat", { properties })]
  paths := [("/pets/\x7bkind\x7d", [("get", { verb := "get", parameters := [
    { name := "kind", location := .path, literals := some [.str "dog", .int 1] }] })])]

/-- The document where cats have levels. -/
def levelsDocument : Document := kindsDocument [kindField, levelField, sizeField]

/-- Of the two kinds the one in the path is extracted, then the sizes. The levels make no difference. -/
theorem extracts_firstOfEachName_kinds :
    PlainLiterals levelsDocument ∧
      (extractEnums .none levelsDocument).1 = [textEnum "Kind" [.str "dog", .int 1],
        ⟨"Size", [⟨"Small", .int 1⟩, ⟨"Large", .int 1⟩]⟩] ∧
      FirstOfEachName (statedEnums levelsDocument) (extractEnums .none levelsDocument).1 ∧
      extractEnums .none (kindsDocument [kindField, sizeField]) = extractEnums .none levelsDocument := by
  have plain : PlainLiterals levelsDocument := by decide
  have unconvertible : Unconvertible levelsDocument.definitions levelField.2 :=
    ⟨"Level", levelModel, [.str "high"], ⟨rfl, rfl⟩, rfl, rfl, .str "high", List.mem_cons_self, by decide⟩
  have loses : Loses levelField levelsDocument (kindsDocument [kindField, sizeField]) :=
    .mk [("Size", sizeModel), ("Level", levelModel)] [] "Cat" {} [kindField] [sizeField] _
  obtain ⟨first, rest⟩ := extracts_firstOfEachName .none plain
  exact ⟨plain, by decide, first, (rest _ _ loses unconvertible).2⟩

end TypedClient.Api
