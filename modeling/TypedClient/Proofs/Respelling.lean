import TypedClient.Schema.Document
import TypedClient.Proofs.Fields
import TypedClient.Proofs.Outcome

/-!
# References in other words

Only the last segment of a reference is read, so `#/definitions/Pet` and `#/components/schemas/Pet` name
one model. Here the references of a document are written in other words, each keeping its last segment.
Which texts are references is a matter of where they stand: a `$ref` among the literals of an enumeration
is a literal, and a property may well be called `$ref`. So a `Role` goes down the document with the
rewriting and says at each step what the values below are.

**What is proved.** `read_respell`: a document reads the same in other words, with the same events. The
roles know both places of definitions, schemas in place and schemas by media type.
-/

namespace TypedClient.Schema

/-! ## Roles -/

/-- What a value of a document is, by the place where it stands. -/
inductive Role where
  | document
  | components
  | pathItem
  | operation
  | parameter
  | requestBody
  | response
  | media
  | schema
  /-- The text of a reference. -/
  | reference
  /-- An object that gives names to values of a role. -/
  | each (role : Role)
  /-- A list of values of a role. -/
  | all (role : Role)
  /-- Nothing that has references in it. -/
  | other
deriving DecidableEq

namespace Role

/-- The fields that matter of an object in a role. -/
def fields : Role → Fields Role
  | .document => [("definitions", .each .schema), ("components", .components), ("paths", .each .pathItem)]
  | .components => [("schemas", .each .schema)]
  | .pathItem => [("$ref", .reference), ("parameters", .all .parameter)] ++ operationVerbs.map (·, .operation)
  | .operation =>
    [("parameters", .all .parameter), ("requestBody", .requestBody), ("responses", .each .response)]
  | .parameter => [("$ref", .reference), ("schema", .schema), ("items", .schema)]
  | .requestBody => [("$ref", .reference), ("content", .each .media)]
  | .response => [("$ref", .reference), ("schema", .schema), ("content", .each .media)]
  | .media => [("schema", .schema)]
  | .schema =>
    [("$ref", .reference), ("items", .schema), ("additionalProperties", .schema),
     ("properties", .each .schema), ("allOf", .all .schema)]
  | _ => []

/-- The role of a field of an object in a role. -/
def field : Role → String → Role
  | .each role, _ => role
  | role, name => (role.fields.get? name).getD .other

/-- The role of an item of a list in a role. -/
def item : Role → Role
  | .all role => role
  | _ => .other

theorem field_each (role : Role) (name : String) : field (.each role) name = role := rfl

theorem field_verb {verb : String} (h : operationVerbs.contains verb = true) :
    field .pathItem verb = .operation := by
  simp only [operationVerbs, List.contains_eq_mem, List.mem_cons, List.not_mem_nil, or_false,
    decide_eq_true_eq] at h
  rcases h with rfl | rfl | rfl | rfl | rfl | rfl | rfl <;> rfl

end Role

/-! ## Writing references in other words -/

mutual
/-- A value in a role, its references in other words. -/
def respell (ρ : String → String) (role : Role) (v : Value) : Value := match v with
  | .str s => .str (if role = .reference then ρ s else s)
  | .list vs => .list (respellItems ρ role.item vs)
  | .object fs => .object (respellFields ρ role fs)
  | v => v
termination_by structural v
/-- The items of a list, each in the role given. -/
def respellItems (ρ : String → String) (role : Role) (vs : List Value) : List Value := match vs with
  | [] => []
  | v :: rest => respell ρ role v :: respellItems ρ role rest
termination_by structural vs
/-- A field of an object in a role. -/
def respellField (ρ : String → String) (role : Role) (f : String × Value) : String × Value := match f with
  | (name, v) => (name, respell ρ (role.field name) v)
termination_by structural f
/-- The fields of an object in a role. -/
def respellFields (ρ : String → String) (role : Role) (fs : List (String × Value)) :
    List (String × Value) := match fs with
  | [] => []
  | f :: rest => respellField ρ role f :: respellFields ρ role rest
termination_by structural fs
end

/-- Whether references in other words keep their last segment. -/
def KeepsSegment (ρ : String → String) : Prop := ∀ s, lastSegment (ρ s) = lastSegment s

variable {ρ : String → String} {role : Role}

theorem fst_respellField (f : String × Value) : (respellField ρ role f).1 = f.1 := by
  cases f
  rfl

theorem respellItems_eq_map (vs : List Value) : respellItems ρ role vs = vs.map (respell ρ role) := by
  induction vs with
  | nil => rfl
  | cons v rest ih => rw [respellItems, ih, List.map_cons]

theorem respellFields_eq_change (fs : Fields Value) :
    respellFields ρ role fs = fs.change fun name => respell ρ (role.field name) := by
  induction fs with
  | nil => rfl
  | cons f rest ih => rw [respellFields, ih, Fields.change_cons, respellField]

/-- A text stays as it is, unless it is a reference. -/
theorem respell_str (h : role ≠ .reference) (s : String) : respell ρ role (.str s) = .str s := by
  rw [respell, if_neg h]

mutual
/-- What has no references in it stays as it is. -/
theorem respell_other (v : Value) : respell ρ .other v = v := by
  cases v with
  | str s => exact respell_str (by decide) s
  | list vs => exact congrArg Value.list (respellItems_other vs)
  | object fs => exact congrArg Value.object (respellFields_other fs)
  | _ => rfl
termination_by structural v
theorem respellItems_other (vs : List Value) : respellItems ρ .other vs = vs := by
  cases vs with
  | nil => rfl
  | cons v rest => rw [respellItems, respell_other v, respellItems_other rest]
termination_by structural vs
theorem respellField_other (f : String × Value) : respellField ρ .other f = f := by
  obtain ⟨name, v⟩ := f
  exact congrArg (name, ·) (respell_other v)
termination_by structural f
theorem respellFields_other (fs : List (String × Value)) : respellFields ρ .other fs = fs := by
  cases fs with
  | nil => rfl
  | cons f rest => rw [respellFields, respellField_other f, respellFields_other rest]
termination_by structural fs
end

theorem get?_respellFields (fs : Fields Value) (name : String) :
    Fields.get? (respellFields ρ role fs) name = (fs.get? name).map (respell ρ (role.field name)) := by
  rw [respellFields_eq_change, Fields.get?_change]

/-- A field is written in other words in the role that it has. -/
theorem value_respellFields (fs : Fields Value) (name : String) :
    Fields.value (respellFields ρ role fs) name = respell ρ (role.field name) (fs.value name) := by
  rw [Fields.value, Fields.value, get?_respellFields]
  cases fs.get? name <;> rfl

/-- A field without references is the same in other words. -/
theorem value_respellFields_other (fs : Fields Value) {name : String} (h : role.field name = .other) :
    Fields.value (respellFields ρ role fs) name = fs.value name := by
  rw [value_respellFields, h, respell_other]

theorem has_respellFields (fs : Fields Value) (name : String) :
    Fields.has (respellFields ρ role fs) name = fs.has name := by
  rw [Fields.has, Fields.has, get?_respellFields, Option.isSome_map]

theorem isEmpty_respellFields (fs : Fields Value) :
    List.isEmpty (respellFields ρ role fs) = List.isEmpty fs := by
  cases fs <;> rfl

theorem respell_eq_null (v : Value) : respell ρ role v = .null ↔ v = .null := by
  cases v <;> simp [respell]

/-! ## What is seen of a value in other words -/

theorem map_bind {α β γ : Type} (x : Except Fault α) (f : α → β) (g : β → Except Fault γ) :
    (x.map f >>= g) = x >>= fun a => g (f a) := by
  cases x <;> rfl

theorem truthy_respell (h : role ≠ .reference) (v : Value) : (respell ρ role v).truthy = v.truthy := by
  cases v with
  | str s => rw [respell_str h]
  | list vs => cases vs <;> rfl
  | object fs => cases fs <;> rfl
  | _ => rfl

theorem present_respell (h : role ≠ .reference) (v : Value) :
    Links.none.present (respell ρ role v) = Links.none.present v := by
  cases v with
  | link => rfl
  | _ => exact congrArg Except.ok (truthy_respell h _)

theorem fields_respell (v : Value) :
    Links.none.fields (respell ρ role v) = (Links.none.fields v).map (respellFields ρ role) := by
  cases v <;> rfl

theorem fieldsIfPresent_respell (h : role ≠ .reference) (v : Value) :
    Links.none.fieldsIfPresent (respell ρ role v) =
      (Links.none.fieldsIfPresent v).map (respellFields ρ role) := by
  rw [Links.fieldsIfPresent, Links.fieldsIfPresent, present_respell h, fields_respell]
  cases Links.none.present v with
  | error => rfl
  | ok present => cases present <;> rfl

/-- Texts that are gone through as items stay as they are. -/
theorem map_respell_texts {α : Type} (h : role ≠ .reference) (xs : List α) (text : α → String) :
    (xs.map fun x => .str (text x)).map (respell ρ role) = xs.map fun x => .str (text x) := by
  rw [List.map_map]
  exact List.map_congr_left fun x _ => respell_str h _

theorem itemsIfPresent_respell (h : role ≠ .reference) (v : Value) :
    Links.none.itemsIfPresent (respell ρ (.all role) v) =
      (Links.none.itemsIfPresent v).map (List.map (respell ρ role)) := by
  have items : Links.none.items (respell ρ (.all role) v) =
      (Links.none.items v).map (List.map (respell ρ role)) := by
    cases v with
    | list vs => exact congrArg Except.ok (respellItems_eq_map vs)
    | str s =>
      rw [respell_str (by simp)]
      exact congrArg Except.ok (map_respell_texts h s.toList String.singleton).symm
    | object fs =>
      have names : (respellFields ρ (.all role) fs).map (fun f => Value.str f.1) =
          fs.map fun f => .str f.1 := by
        rw [respellFields_eq_change, Fields.change, List.map_map]
        rfl
      refine congrArg Except.ok (names.trans ?_)
      exact (map_respell_texts h fs Prod.fst).symm
    | _ => rfl
  rw [Links.itemsIfPresent, Links.itemsIfPresent, present_respell (by simp), items]
  cases Links.none.present v with
  | error => rfl
  | ok present => cases present <;> rfl

theorem mapM_respellFields {β : Type} {f : String × Value → Except Fault β}
    (h : ∀ name v, f (name, respell ρ role v) = f (name, v)) (fs : Fields Value) :
    List.mapM f (respellFields ρ (.each role) fs) = List.mapM f fs := by
  rw [respellFields_eq_change, Fields.change]
  exact mapM_map_same fun field _ => h field.1 field.2

/-! ## Properties and models -/

theorem Property.readPrimitive_respell (links : Links) (type : Value) (fs : Fields Value) (required : Bool) :
    Property.readPrimitive links type (respellFields ρ .schema fs) required =
      Property.readPrimitive links type fs required := by
  rw [readPrimitive, readPrimitive, value_respellFields_other fs rfl, value_respellFields_other fs rfl]

section

variable (links : Links) (onward : List Value → Except Fault (List Model))

/-- A reference in other words names the same. -/
theorem refTarget?_respell (same : KeepsSegment ρ) (h : role.field "$ref" = .reference) (fs : Fields Value) :
    (refTarget? (respellFields ρ role fs)).map lastSegment = (refTarget? fs).map lastSegment := by
  rw [refTarget?, refTarget?, get?_respellFields, h]
  cases fs.get? "$ref" with
  | none => rfl
  | some v =>
    cases v with
    | str s => exact congrArg some (same s)
    | _ => rfl

theorem refName?_respell (same : KeepsSegment ρ) (v : Value) : refName? (respell ρ .schema v) = refName? v := by
  cases v with
  | object fs => exact refTarget?_respell same rfl fs
  | _ => rfl

mutual
theorem Property.read_respell (same : KeepsSegment ρ) (required : Bool) (v : Value) :
    Property.read links required (respell ρ .schema v) = Property.read links required v := by
  cases v with
  | object fs =>
    have target := refTarget?_respell same (show Role.schema.field "$ref" = .reference from rfl) fs
    have items := Property.readItems_respell same fs
    rw [respell, Property.read, Property.read]
    cases ht : refTarget? fs with
    | some t =>
      rw [ht] at target
      obtain ⟨t', ht', heq⟩ := Option.map_eq_some_iff.mp target
      simp only [ht', heq]
    | none =>
      rw [ht] at target
      simp only [Option.map_eq_none_iff.mp target, isEmpty_respellFields, items,
        value_respellFields_other fs (show Role.field .schema "type" = .other from rfl),
        Property.readPrimitive_respell]
  | list vs => cases vs <;> rfl
  | _ => rfl
termination_by structural v
theorem Property.readItems_respell (same : KeepsSegment ρ) (fs : List (String × Value)) :
    Property.readItems links (respellFields ρ .schema fs) = Property.readItems links fs := by
  cases fs with
  | nil => rfl
  | cons f rest =>
    have later := Property.readItems_respell same rest
    have first := Property.readItem_respell same f
    rw [respellFields, Property.readItems, Property.readItems, later]
    rw [fst_respellField]
    by_cases h : f.1 = "items"
    · rw [if_pos h, if_pos h, first h]
    · rw [if_neg h, if_neg h]
termination_by structural fs
theorem Property.readItem_respell (same : KeepsSegment ρ) (f : String × Value) (h : f.1 = "items") :
    Property.readItem links (respellField ρ .schema f) = Property.readItem links f := by
  obtain ⟨name, v⟩ := f
  obtain rfl : name = "items" := h
  have inner := Property.read_respell same true v
  cases v with
  | null => rfl
  | _ => exact congrArg (Except.map some) inner
termination_by structural f
end

theorem Property.readOptional_respell (same : KeepsSegment ρ) (required : Bool) (v : Value) :
    Property.readOptional links required (respell ρ .schema v) = Property.readOptional links required v := by
  have inner := Property.read_respell links same required v
  cases v with
  | null => rfl
  | _ => exact congrArg (Except.map some) inner

theorem readProperties_respell (same : KeepsSegment ρ) (required : List String) (fs : Fields Value) :
    readProperties links required (respellFields ρ (.each .schema) fs) = readProperties links required fs := by
  refine mapM_respellFields (fun name v => ?_) fs
  dsimp only
  rw [Property.read_respell links same]

theorem Model.readPlain_respell (same : KeepsSegment ρ) (fs : Fields Value) :
    Model.readPlain .none (respellFields ρ .schema fs) = Model.readPlain .none fs := by
  have names : readLiteralNames .none (respellFields ρ .schema fs) literalNameFields =
      readLiteralNames .none fs literalNameFields := by
    simp only [readLiteralNames, literalNameFields, value_respellFields_other fs
      (show Role.field .schema "x-enumNames" = .other from rfl), value_respellFields_other fs
      (show Role.field .schema "x-enum-varnames" = .other from rfl)]
  have described : Links.none.fieldsIfPresent (Fields.value (respellFields ρ .schema fs) "properties") =
      (Links.none.fieldsIfPresent (fs.value "properties")).map (respellFields ρ (.each .schema)) := by
    rw [value_respellFields]
    exact fieldsIfPresent_respell (by decide) _
  simp only [Model.readPlain, readRequired, names, described, map_bind, readProperties_respell .none same,
    value_respellFields_other fs (show Role.field .schema "required" = .other from rfl),
    value_respellFields_other fs (show Role.field .schema "type" = .other from rfl),
    value_respellFields_other fs (show Role.field .schema "format" = .other from rfl),
    value_respellFields_other fs (show Role.field .schema "enum" = .other from rfl)]

theorem Model.readOwnPart_respell (same : KeepsSegment ρ) (fs : Fields Value) :
    Model.readOwnPart .none (respellFields ρ .schema fs) = Model.readOwnPart .none fs := by
  rw [Model.readOwnPart, Model.readOwnPart, Model.readPlain_respell same, value_respellFields,
    present_respell (by decide)]

mutual
theorem Model.readWith_respell (same : KeepsSegment ρ) (v : Value) :
    Model.readWith .none onward (respell ρ .schema v) = Model.readWith .none onward v := by
  cases v with
  | object fs =>
    have target := refTarget?_respell same (show Role.schema.field "$ref" = .reference from rfl) fs
    have parts := Model.readParts_respell same fs
    rw [respell, Model.readWith, Model.readWith]
    cases ht : refTarget? fs with
    | some t =>
      rw [ht] at target
      obtain ⟨t', ht', heq⟩ := Option.map_eq_some_iff.mp target
      simp only [ht', heq]
    | none =>
      rw [ht] at target
      have composed : Links.none.present (Fields.value (respellFields ρ .schema fs) "allOf") =
          Links.none.present (Fields.value fs "allOf") := by
        rw [value_respellFields]
        exact present_respell (by decide) _
      simp only [Option.map_eq_none_iff.mp target, composed, parts, Model.readOwnPart_respell same,
        Model.readPlain_respell same,
        value_respellFields_other fs (show Role.field .schema "type" = .other from rfl)]
  | _ => rfl
termination_by structural v
theorem Model.readParts_respell (same : KeepsSegment ρ) (fs : List (String × Value)) :
    Model.readParts .none onward (respellFields ρ .schema fs) = Model.readParts .none onward fs := by
  cases fs with
  | nil => rfl
  | cons f rest =>
    have later := Model.readParts_respell same rest
    have first := Model.readPartsField_respell same f
    rw [respellFields, Model.readParts, Model.readParts, later, fst_respellField]
    by_cases h : f.1 = "allOf"
    · rw [if_pos h, if_pos h, first h]
    · rw [if_neg h, if_neg h]
termination_by structural fs
theorem Model.readPartsField_respell (same : KeepsSegment ρ) (f : String × Value) (h : f.1 = "allOf") :
    Model.readPartsField .none onward (respellField ρ .schema f) = Model.readPartsField .none onward f := by
  obtain ⟨name, v⟩ := f
  obtain rfl : name = "allOf" := h
  cases v with
  | list vs => exact Model.readEach_respell same vs
  | _ => rfl
termination_by structural f
theorem Model.readEach_respell (same : KeepsSegment ρ) (vs : List Value) :
    Model.readEach .none onward (respellItems ρ .schema vs) = Model.readEach .none onward vs := by
  cases vs with
  | nil => rfl
  | cons v rest =>
    rw [respellItems, Model.readEach, Model.readEach, Model.readWith_respell same v,
      Model.readEach_respell same rest]
termination_by structural vs
end

theorem Model.read_respell (same : KeepsSegment ρ) (v : Value) :
    Model.read .none (respell ρ .schema v) = Model.read .none v :=
  Model.readWith_respell _ same v

/-! ## Operations -/

theorem describingFields_own {fs : Fields Value}
    (h : fs.has "type" = true ∨ fs.value "schema" = .null ∨ refName? (fs.value "schema") ≠ none) :
    describingFields links fs = .ok fs := by
  unfold describingFields
  dsimp only
  split
  · rfl
  · next untyped name notNull =>
    simp only [untyped, name, ne_eq, not_true_eq_false, Bool.false_eq_true, false_or, or_false] at h
    exact absurd h notNull
  · rfl

theorem describingFields_schema {fs : Fields Value} (stated : fs.has "type" = false)
    (notNull : fs.value "schema" ≠ .null) (name : refName? (fs.value "schema") = none) :
    describingFields links fs = links.fields (fs.value "schema") := by
  unfold describingFields
  dsimp only
  split
  · next h => exact absurd h notNull
  · rfl
  · next h own => exact absurd name (own stated)

/-- What describes a parameter in other words is what describes it, in other words. -/
theorem describingFields_respell (same : KeepsSegment ρ) (fs : Fields Value) : ∃ role,
    Role.field role "type" = .other ∧ Role.field role "format" = .other ∧ Role.field role "enum" = .other ∧
      Role.field role "items" = .schema ∧
      describingFields .none (respellFields ρ .parameter fs) =
        (describingFields .none fs).map (respellFields ρ role) := by
  have stated : Fields.has (respellFields ρ .parameter fs) "type" = fs.has "type" := has_respellFields fs "type"
  have schema : Fields.value (respellFields ρ .parameter fs) "schema" = respell ρ .schema (fs.value "schema") :=
    value_respellFields fs "schema"
  by_cases own : fs.has "type" = true ∨ fs.value "schema" = .null ∨ refName? (fs.value "schema") ≠ none
  · refine ⟨.parameter, rfl, rfl, rfl, rfl, ?_⟩
    rw [describingFields_own _ own, describingFields_own]
    · rfl
    · rwa [stated, schema, respell_eq_null, refName?_respell same]
  · simp only [not_or, Bool.not_eq_true, not_not] at own
    obtain ⟨untyped, notNull, name⟩ := own
    refine ⟨.schema, rfl, rfl, rfl, rfl, ?_⟩
    rw [describingFields_schema _ untyped notNull name, describingFields_schema, schema, fields_respell]
    · rwa [stated]
    · rwa [schema, ne_eq, respell_eq_null]
    · rwa [schema, refName?_respell same]

theorem Parameter.read_respell (same : KeepsSegment ρ) (v : Value) :
    Parameter.read .none (respell ρ .parameter v) = Parameter.read .none v := by
  rw [Parameter.read, Parameter.read, fields_respell, map_bind]
  refine congrArg (Links.none.fields v >>= ·) (funext fun fs => ?_)
  obtain ⟨role, type, format, literals, items, source⟩ := describingFields_respell same fs
  have name : demand (respellFields ρ .parameter fs) "name" = demand fs "name" := by
    rw [demand, demand, get?_respellFields]
    cases Fields.get? fs "name" with
    | none => rfl
    | some w => exact congrArg Except.ok (respell_other w)
  have schema : Fields.value (respellFields ρ .parameter fs) "schema" =
      respell ρ .schema (Fields.value fs "schema") := value_respellFields fs "schema"
  simp only [name, schema, source, map_bind, value_respellFields_other _ type,
    value_respellFields_other _ format, value_respellFields_other _ literals, value_respellFields _ "items",
    items, Property.readOptional_respell _ same,
    value_respellFields_other fs (show Role.field .parameter "in" = .other from rfl),
    value_respellFields_other fs (show Role.field .parameter "required" = .other from rfl)]

theorem contentSchema_respell (v : Value) :
    contentSchema .none (respell ρ (.each .media) v) = (contentSchema .none v).map (respell ρ .schema) := by
  have schemaOf : ∀ w, (do return (← Links.none.fieldsIfPresent (respell ρ .media w)).value "schema") =
      (do return (← Links.none.fieldsIfPresent w).value "schema" : Except Fault Value).map
        (respell ρ .schema) := by
    intro w
    rw [fieldsIfPresent_respell (by decide)]
    cases Links.none.fieldsIfPresent w with
    | error => rfl
    | ok fs => exact congrArg Except.ok (value_respellFields fs "schema")
  rw [contentSchema, contentSchema, present_respell (by decide), fields_respell]
  cases Links.none.present v with
  | error => rfl
  | ok present =>
    cases present with
    | false => rfl
    | true =>
      simp only [ok_bind, if_true, map_bind]
      cases Links.none.fields v with
      | error => rfl
      | ok media =>
        have preferred : Fields.value (respellFields ρ (.each .media) media) preferredMediaType =
            respell ρ .media (media.value preferredMediaType) := value_respellFields media _
        simp only [ok_bind, preferred, present_respell (show Role.media ≠ .reference by decide)]
        cases Links.none.present (media.value preferredMediaType) with
        | error => rfl
        | ok chosen =>
          cases chosen with
          | true => exact schemaOf _
          | false =>
            cases media with
            | nil => exact schemaOf .null
            | cons f rest =>
              obtain ⟨name, first⟩ := f
              exact schemaOf first

/-- The schema of a response: the one in place, otherwise that of its content. -/
def responseSchema (links : Links) (fields : Fields Value) : Except Fault Value :=
  match fields.value "schema" with
  | .null => contentSchema links (fields.value "content")
  | v => .ok v

theorem Response.read_eq (v : Value) : Response.read links v = (do
    let fields ← links.fields v
    let schema ← Property.readOptional links false (← responseSchema links fields)
    return { description := ← (fields.value "description").optionalText, schema }) := by
  unfold Response.read responseSchema
  refine congrArg (links.fields v >>= ·) (funext fun fields => ?_)
  cases fields.value "schema" <;> rfl

theorem responseSchema_respell (fs : Fields Value) : responseSchema .none (respellFields ρ .response fs) =
    (responseSchema .none fs).map (respell ρ .schema) := by
  have schema : Fields.value (respellFields ρ .response fs) "schema" =
      respell ρ .schema (fs.value "schema") := value_respellFields fs "schema"
  have content : Fields.value (respellFields ρ .response fs) "content" =
      respell ρ (.each .media) (fs.value "content") := value_respellFields fs "content"
  rw [responseSchema, responseSchema, schema, content]
  cases fs.value "schema" with
  | null => exact contentSchema_respell _
  | _ => rfl

theorem Response.read_respell (same : KeepsSegment ρ) (v : Value) :
    Response.read .none (respell ρ .response v) = Response.read .none v := by
  have description : ∀ fs, Fields.value (respellFields ρ .response fs) "description" =
      Fields.value fs "description" := fun fs => value_respellFields_other fs rfl
  simp only [Response.read_eq, fields_respell, map_bind, responseSchema_respell,
    Property.readOptional_respell _ same, description]

theorem readRequestBody_respell (same : KeepsSegment ρ) (v : Value) :
    readRequestBody .none (respell ρ .requestBody v) = readRequestBody .none v := by
  rw [readRequestBody, readRequestBody, present_respell (by decide), fields_respell]
  have content : ∀ fs, Fields.value (respellFields ρ .requestBody fs) "content" =
      respell ρ (.each .media) (Fields.value fs "content") := fun fs => value_respellFields fs "content"
  have required : ∀ fs, Fields.value (respellFields ρ .requestBody fs) "required" = Fields.value fs "required" :=
    fun fs => value_respellFields_other fs rfl
  simp only [content, required, contentSchema_respell, map_bind, Property.readOptional_respell _ same]

theorem Operation.read_respell (same : KeepsSegment ρ) (verb : String) (v shared : Value) :
    Operation.read .none verb (respell ρ .operation v) (respell ρ (.all .parameter) shared) =
      Operation.read .none verb v shared := by
  rw [Operation.read, Operation.read, fields_respell, map_bind]
  refine congrArg (Links.none.fields v >>= ·) (funext fun fs => ?_)
  have parameters : Fields.value (respellFields ρ .operation fs) "parameters" =
      respell ρ (.all .parameter) (Fields.value fs "parameters") := value_respellFields fs "parameters"
  have requestBody : Fields.value (respellFields ρ .operation fs) "requestBody" =
      respell ρ .requestBody (Fields.value fs "requestBody") := value_respellFields fs "requestBody"
  have responses : Fields.value (respellFields ρ .operation fs) "responses" =
      respell ρ (.each .response) (Fields.value fs "responses") := value_respellFields fs "responses"
  have each : ∀ fs, List.mapM (fun f => do return (f.1, ← Response.read .none f.2))
      (respellFields ρ (.each .response) fs) =
        List.mapM (fun f => do return (f.1, ← Response.read .none f.2) : String × Value → Except Fault _) fs := by
    refine mapM_respellFields fun name v => ?_
    dsimp only
    rw [Response.read_respell same]
  simp only [parameters, requestBody, responses, itemsIfPresent_respell (show Role.parameter ≠ .reference by decide),
    fieldsIfPresent_respell (show Role.each .response ≠ .reference by decide), map_bind, each,
    mapM_map_same fun v _ => Parameter.read_respell same v, readRequestBody_respell same,
    value_respellFields_other fs (show Role.field .operation "deprecated" = .other from rfl),
    value_respellFields_other fs (show Role.field .operation "operationId" = .other from rfl),
    value_respellFields_other fs (show Role.field .operation "summary" = .other from rfl)]

/-! ## Documents -/

theorem readPart_respell (h : role ≠ .reference) (name : String) (found : Except Fault Value) :
    readPart .none name (found.map (respell ρ role)) =
      ((readPart .none name found).1.change fun name => respell ρ (role.field name),
        (readPart .none name found).2) := by
  have part : partFields .none name (found.map (respell ρ role)) =
      (partFields .none name found).map (respellFields ρ role) := by
    rw [partFields, partFields, map_bind]
    cases found with
    | error => rfl
    | ok v =>
      simp only [ok_bind, present_respell h]
      cases Links.none.present v with
      | error => rfl
      | ok present =>
        cases present with
        | false => rfl
        | true => cases v <;> rfl
  rw [readPart, readPart, part]
  cases partFields .none name found with
  | error => rfl
  | ok fs => simp only [Except.map, respellFields_eq_change]

theorem findDefinitions_respell (root : Value) : findDefinitions .none (respell ρ .document root) =
    (findDefinitions .none root).map (respell ρ (.each .schema)) := by
  rw [findDefinitions, findDefinitions, fields_respell, map_bind]
  cases Links.none.fields root with
  | error => rfl
  | ok fs =>
    have definitions : Fields.value (respellFields ρ .document fs) "definitions" =
        respell ρ (.each .schema) (Fields.value fs "definitions") := value_respellFields fs "definitions"
    have components : Fields.value (respellFields ρ .document fs) "components" =
        respell ρ .components (Fields.value fs "components") := value_respellFields fs "components"
    simp only [ok_bind, definitions, components, present_respell (show Role.each .schema ≠ .reference by decide),
      fieldsIfPresent_respell (show Role.components ≠ .reference by decide), map_bind]
    cases Links.none.present (Fields.value fs "definitions") with
    | error => rfl
    | ok present =>
      cases present with
      | true => rfl
      | false =>
        show (Links.none.fieldsIfPresent _ >>= _) = Except.map _ (Links.none.fieldsIfPresent _ >>= _)
        cases Links.none.fieldsIfPresent (Fields.value fs "components") with
        | error => rfl
        | ok fs => exact congrArg Except.ok (value_respellFields fs "schemas")

theorem findPaths_respell (root : Value) : findPaths .none (respell ρ .document root) =
    (findPaths .none root).map (respell ρ (.each .pathItem)) := by
  rw [findPaths, findPaths, fields_respell, map_bind]
  cases Links.none.fields root with
  | error => rfl
  | ok fs => exact congrArg Except.ok (value_respellFields fs "paths")

theorem readDefinitions_respell (same : KeepsSegment ρ) (fs : Fields Value) :
    readDefinitions .none (fs.change fun _ => respell ρ .schema) = readDefinitions .none fs := by
  induction fs with
  | nil => rfl
  | cons f rest ih =>
    rw [Fields.change_cons, readDefinitions, readDefinitions, ih, Model.read_respell same]

theorem readOperations_respell (same : KeepsSegment ρ) (shared : Value) (fs : Fields Value) :
    readOperations .none (respell ρ (.all .parameter) shared) (fs.change fun _ => respell ρ .operation) =
      readOperations .none shared fs := by
  induction fs with
  | nil => rfl
  | cons f rest ih =>
    rw [Fields.change_cons, readOperations, readOperations, ih, Operation.read_respell same]

theorem PathItem.read_respell (v : Value) : PathItem.read .none (respell ρ .pathItem v) =
    (PathItem.read .none v).map fun item =>
      ⟨item.verbs.change fun _ => respell ρ .operation, respell ρ (.all .parameter) item.shared⟩ := by
  rw [PathItem.read, PathItem.read, fields_respell, map_bind]
  cases Links.none.fields v with
  | error => rfl
  | ok fs =>
    have shared : Fields.value (respellFields ρ .pathItem fs) "parameters" =
        respell ρ (.all .parameter) (Fields.value fs "parameters") := value_respellFields fs "parameters"
    simp only [ok_bind, shared, present_respell (show Role.all .parameter ≠ .reference by decide)]
    cases Links.none.present (Fields.value fs "parameters") with
    | error => rfl
    | ok present =>
      refine congrArg (fun verbs => Except.ok (PathItem.mk verbs _)) ?_
      rw [respellFields_eq_change, Fields.change, List.filter_map]
      refine List.map_congr_left fun f hf => ?_
      rw [Role.field_verb (List.mem_filter.mp hf).2]

theorem readPaths_respell (same : KeepsSegment ρ) (fs : Fields Value) :
    readPaths .none (fs.change fun _ => respell ρ .pathItem) = readPaths .none fs := by
  induction fs with
  | nil => rfl
  | cons f rest ih =>
    rw [Fields.change_cons, readPaths, readPaths, ih, PathItem.read_respell]
    cases PathItem.read .none f.2 with
    | error => rfl
    | ok item => simp only [Except.map, readOperations_respell same]

/-- The document that a root describes as it stands, present or not. -/
def Document.readParts (links : Links) (root : Value) : Document × List Event :=
  let definitions := readPart links "definitions" (findDefinitions links root)
  let paths := readPart links "paths" (findPaths links root)
  (⟨(readDefinitions links definitions.1).1, (readPaths links paths.1).1⟩,
    definitions.2 ++ (readDefinitions links definitions.1).2 ++ paths.2 ++ (readPaths links paths.1).2)

theorem Document.read_absent {root : Value} (h : links.present root = .ok false) :
    Document.read links root = Document.readParts links (.object []) := by
  unfold Document.read
  rw [h]
  rfl

theorem Document.read_present {root : Value} (h : links.present root ≠ .ok false) :
    Document.read links root = Document.readParts links root := by
  unfold Document.read
  split
  · next absent => exact absurd absent h
  · rfl

theorem Document.read_object (fs : Fields Value) :
    Document.read links (.object fs) = Document.readParts links (.object fs) := by
  cases fs with
  | nil => exact Document.read_absent links rfl
  | cons => exact Document.read_present links fun h => nomatch h

theorem Document.readParts_respell (same : KeepsSegment ρ) (root : Value) :
    Document.readParts .none (respell ρ .document root) = Document.readParts .none root := by
  simp only [Document.readParts, findDefinitions_respell, findPaths_respell,
    readPart_respell (show Role.each .schema ≠ .reference by decide),
    readPart_respell (show Role.each .pathItem ≠ .reference by decide), Role.field_each,
    readDefinitions_respell same, readPaths_respell same]

/-- **A document reads the same with its references in other words**, as long as they keep their last
segments: the same document with the same events. -/
theorem Document.read_respell (same : KeepsSegment ρ) (root : Value) :
    Document.read .none (respell ρ .document root) = Document.read .none root := by
  have present := present_respell (ρ := ρ) (show Role.document ≠ .reference by decide) root
  by_cases h : Links.none.present root = .ok false
  · rw [Document.read_absent _ h, Document.read_absent _ (present.trans h)]
  · rw [Document.read_present _ h, Document.read_present _ (present ▸ h), Document.readParts_respell same]

end

end TypedClient.Schema
