import TypedClient.Proofs.Accounting
import TypedClient.Proofs.Respelling
import Mathlib.Data.List.TakeWhile

/-!
# One interface in two spellings

A Swagger 2 document has its models under `definitions`, describes a parameter and the schema of a
response in place, and lists the body of an operation among the parameters. An OpenAPI 3 document has its
models under `components` and `schemas`, describes a parameter in a `schema` of its own, gives schemas by
media type, and keeps the body apart in a `requestBody`. `modernize` writes a document of the first kind
as one of the second.

**What is proved.** `read_modernize`: a Swagger 2 document that is read without failures is read from its
new spelling without failures, and as the same document, but for the bodies: they now are called `body` and
stand last. What makes a document one of Swagger 2 is only that it has none of the other kind's fields at
the places where the rewriting puts them, and no body where the other kind has no place for it.
-/

namespace TypedClient.Schema

/-! ## The new spelling -/

/-- The fields of an object, none of anything else. -/
def ownFields : Value → Fields Value
  | .object fs => fs
  | _ => []

/-- The items of a list, none of anything else. -/
def ownItems : Value → List Value
  | .list vs => vs
  | _ => []

/-- An object with other fields; anything else as it is. -/
def onFields (f : Fields Value → Fields Value) : Value → Value
  | .object fs => .object (f fs)
  | v => v

/-- A list with other items; anything else as it is. -/
def onItems (f : List Value → List Value) : Value → Value
  | .list vs => .list (f vs)
  | v => v

/-- An object with each of its values changed. -/
def onEach (f : Value → Value) : Value → Value := onFields (·.change fun _ => f)

/-- Whether a value is the parameter that describes a body. -/
def isBody (v : Value) : Bool :=
  match (ownFields v).value "in" with
  | .str s => s == "body"
  | _ => false

/-- The fields of a parameter that move into its schema. -/
def describingNames : List String := ["type", "format", "enum", "items"]

/-- A content by media type with the schema among the fields given, if there is one. -/
def contentOf (fields : Fields Value) : Value :=
  .object [(preferredMediaType, .object (fields.only ["schema"]))]

/-- The fields of a parameter outside the body: what describes it moves into its schema. -/
def describedApart (fs : Fields Value) : Fields Value :=
  fs.without describingNames ++ [("schema", .object (fs.only describingNames))]

/-- The parameters of an operation or a path without the body. -/
def modernParameters : Value → Value :=
  onItems fun vs => (vs.filter (!isBody ·)).map (onFields describedApart)

/-- The request body that the parameter of a body becomes. -/
def requestBodyOf (v : Value) : Value :=
  .object ((ownFields v).only ["required"] ++ [("content", contentOf (ownFields v))])

/-- A response: its schema moves into a content. -/
def modernResponse : Value → Value :=
  onFields fun fs => if fs.has "schema" then fs.without ["schema"] ++ [("content", contentOf fs)] else fs

/-- A field of an operation. -/
def modernOperationPart (name : String) (v : Value) : Value :=
  if name = "parameters" then modernParameters v
  else if name = "responses" then onEach modernResponse v
  else v

/-- The request body for the parameters of an operation, if one of them is the body. -/
def requestBodies (parameters : Value) : Fields Value :=
  ((ownItems parameters).filter isBody).map fun v => ("requestBody", requestBodyOf v)

/-- The fields of an operation: the body leaves the parameters. -/
def modernOperation (fs : Fields Value) : Fields Value :=
  fs.change modernOperationPart ++ requestBodies (fs.value "parameters")

/-- A field of what stands under a path. -/
def modernPathPart (name : String) (v : Value) : Value :=
  if name = "parameters" then modernParameters v
  else if operationVerbs.contains name then onFields modernOperation v
  else v

/-- What stands under a path. -/
def modernPathItem : Value → Value := onFields (·.change modernPathPart)

/-- The components with the definitions of a document, if it has any. -/
def componentsOf (fs : Fields Value) : Fields Value :=
  match fs.get? "definitions" with
  | some v => [("components", .object [("schemas", v)])]
  | none => []

/-- The fields of a document with its parts at their new places. -/
def modernDocument (fs : Fields Value) : Fields Value :=
  (fs.without ["definitions"]).change (fun name v => if name = "paths" then onEach modernPathItem v else v) ++
    componentsOf fs

/-- A document in the new spelling, its references in other words. -/
def modernize (ρ : String → String) (root : Value) : Value :=
  respell ρ .document (onFields modernDocument root)

/-! ## What is read from it -/

/-- A body under its new name. -/
def Parameter.asBody (p : Parameter) : Parameter := { p with name := "body" }

/-- An operation with its body named `body`, after the other parameters. -/
def Operation.withBodyLast (o : Operation) : Operation :=
  { o with parameters := o.parameters.filter (·.location ≠ .body) ++
      (o.parameters.filter (·.location = .body)).map Parameter.asBody }

/-- A document with the body of each operation named `body`, after the other parameters. -/
def Document.withBodiesLast (d : Document) : Document :=
  { d with paths := d.paths.change fun _ operations => operations.change fun _ => Operation.withBodyLast }

/-- An operation of a Swagger 2 document, with the parameters of its path. -/
structure IsSwagger2Operation (node shared : Value) : Prop where
  noRequestBody : (ownFields node).has "requestBody" = false
  noContent : ∀ r ∈ ownFields ((ownFields node).value "responses"), (ownFields r.2).has "content" = false
  noSchema : ∀ p ∈ ownItems ((ownFields node).value "parameters") ++ ownItems shared,
    isBody p = false → (ownFields p).has "schema" = false
  oneBody : ((ownItems ((ownFields node).value "parameters")).filter isBody).length ≤ 1
  noSharedBody : ∀ p ∈ ownItems shared, isBody p = false

/-- A Swagger 2 document: it has no fields of the other spelling, and each of its operations has one body
at most, of its own. -/
structure IsSwagger2 (root : Value) : Prop where
  noComponents : (ownFields root).has "components" = false
  operations : ∀ e ∈ entriesOf root, IsSwagger2Operation e.node e.shared

/-! ## Looking at what has moved -/

variable {fs : Fields Value} {v w : Value}

theorem get?_of_has_eq_false {name : String} (h : fs.has name = false) : fs.get? name = none := by
  rwa [Fields.has, Option.isSome_eq_false_iff, Option.isNone_iff_eq_none] at h

theorem value_of_has_eq_false {name : String} (h : fs.has name = false) : fs.value name = .null := by
  rw [Fields.value, get?_of_has_eq_false h]
  rfl

/-- Behind other fields there is nothing of another name. -/
theorem get?_append_single (fs : Fields Value) (v : Value) {moved name : String} (h : name ≠ moved) :
    Fields.get? (fs ++ [(moved, v)]) name = fs.get? name := by
  rw [Fields.get?_append]
  simp [Fields.get?, List.lookup_cons, beq_eq_false_iff_ne.mpr h]

theorem value_append_single {moved : String} (h : fs.get? moved = none) (v : Value) :
    Fields.value (fs ++ [(moved, v)]) moved = v := by
  rw [Fields.value, Fields.get?_append, h]
  simp [Fields.get?]

theorem value_change {g : String → Value → Value} {name : String} (null : g name .null = .null)
    (fs : Fields Value) : (fs.change g).value name = g name (fs.value name) := by
  rw [Fields.value, Fields.value, Fields.get?_change]
  cases fs.get? name with
  | none => exact null.symm
  | some v => rfl

theorem eq_object_of_fields (h : Links.none.fields v = .ok fs) : v = .object fs := by
  cases v <;> cases h
  rfl

theorem fields_object (fs : Fields Value) : Links.none.fields (.object fs) = .ok fs := rfl

theorem fieldsIfPresent_object (fs : Fields Value) : Links.none.fieldsIfPresent (.object fs) = .ok fs := by
  cases fs <;> rfl

theorem contentSchema_contentOf (fs : Fields Value) :
    contentSchema .none (contentOf fs) = .ok (fs.value "schema") := by
  have schema : (fs.only ["schema"]).value "schema" = fs.value "schema" := by
    rw [Fields.value, Fields.get?_only]
    rfl
  have preferred : Fields.value [(preferredMediaType, Value.object (fs.only ["schema"]))] preferredMediaType =
      .object (fs.only ["schema"]) := rfl
  have chosen : contentSchema .none (contentOf fs) = (do
      return (← Links.none.fieldsIfPresent (.object (fs.only ["schema"]))).value "schema") := by
    -- the one media type is chosen whether it is preferred or the first
    cases h : Links.none.present (.object (fs.only ["schema"])) with
    | error => cases h
    | ok present =>
      show (do
        let chosen ←
          if ← Links.none.present (.object (fs.only ["schema"])) then pure (Value.object (fs.only ["schema"]))
          else pure (Value.object (fs.only ["schema"]))
        return (← Links.none.fieldsIfPresent chosen).value "schema") = _
      rw [h]
      cases present <;> rfl
  rw [chosen, fieldsIfPresent_object, ok_bind, schema]
  rfl

/-! ## Parameters -/

/-- Locations go by their names, and every other name is some other location. -/
theorem Location.ofName_eq_iff {s : String} {location : Location} (named : location ≠ .other) :
    Location.ofName s = location ↔ s = location.name := by
  constructor
  · intro h
    rw [Location.ofName] at h
    cases hs : namedLocations.get? s with
    | none =>
      rw [hs] at h
      exact absurd h.symm named
    | some l =>
      rw [hs] at h
      obtain rfl : l = location := h
      have member := Fields.mem_of_get? hs
      cases l <;> simpa [namedLocations, Location.name] using member
  · rintro rfl
    cases location <;> rfl

theorem Location.read_eq_body {location : Location}
    (h : Location.read .none (fs.value "in") = .ok location) :
    location = .body ↔ isBody (.object fs) = true := by
  rw [isBody, ownFields]
  cases hin : fs.value "in" with
  | str s =>
    rw [hin] at h
    cases h
    have named : Location.ofName s = .body ↔ s = "body" := Location.ofName_eq_iff (by decide)
    rw [named, beq_iff_eq]
  | link => rw [hin] at h; cases h
  | _ =>
    rw [hin] at h
    cases h
    constructor
    · intro h
      cases h
    · intro h
      cases h

/-- A parameter reads as one for the body exactly when it is one. -/
theorem Parameter.read_location {p : Parameter} (h : Parameter.read .none v = .ok p) :
    p.location = .body ↔ isBody v = true := by
  cases Parameter.readAs_of_read h with
  | inBody object place | elsewhere object place =>
    rw [eq_object_of_fields object]
    exact Location.read_eq_body place

theorem get?_describedApart {name : String} (notSchema : name ≠ "schema")
    (notMoved : describingNames.contains name = false) : (describedApart fs).get? name = fs.get? name := by
  rw [describedApart, get?_append_single _ _ notSchema, Fields.get?_without, notMoved]
  rfl

/-- What is described apart is read there. -/
theorem describingFields_describedApart (noSchema : fs.has "schema" = false) :
    describingFields .none (describedApart fs) = .ok (fs.only describingNames) := by
  have schema : (describedApart fs).value "schema" = .object (fs.only describingNames) := by
    refine value_append_single ?_ _
    rw [Fields.get?_without]
    exact get?_of_has_eq_false noSchema
  have untyped : (describedApart fs).has "type" = false := by
    rw [Fields.has, describedApart, get?_append_single _ _ (by decide), Fields.get?_without]
    rfl
  have noReference : refName? (.object (fs.only describingNames)) = none := by
    rw [refName?, refTarget?, Fields.get?_only]
    rfl
  rw [describingFields_schema _ untyped, schema]
  · rfl
  · rw [schema]
    intro h
    cases h
  · rw [schema, noReference]

/-- A parameter outside the body reads the same with its description in a schema of its own. -/
theorem Parameter.read_describedApart (notBody : isBody v = false)
    (noSchema : (ownFields v).has "schema" = false) :
    Parameter.read .none (onFields describedApart v) = Parameter.read .none v := by
  cases v with
  | object fs =>
    have noSchema : Fields.has fs "schema" = false := noSchema
    have own : describingFields .none fs = .ok fs :=
      describingFields_own _ (.inr (.inl (value_of_has_eq_false noSchema)))
    have moved : ∀ name, describingNames.contains name = true →
        (Fields.only describingNames fs).value name = Fields.value fs name := by
      intro name h
      rw [Fields.value, Fields.get?_only, if_pos h, ← Fields.value]
    have kept : ∀ name, name ≠ "schema" → describingNames.contains name = false →
        (describedApart fs).value name = Fields.value fs name := by
      intro name notSchema notMoved
      rw [Fields.value, get?_describedApart notSchema notMoved, ← Fields.value]
    have name : demand (describedApart fs) "name" = demand fs "name" := by
      rw [demand, demand, get?_describedApart (by decide) (by decide)]
    simp only [onFields, Parameter.read, fields_object, ok_bind, kept "in" (by decide) (by decide),
      kept "required" (by decide) (by decide), name, own, describingFields_describedApart noSchema,
      moved "type" (by decide), moved "format" (by decide), moved "enum" (by decide), moved "items" (by decide)]
    cases hl : Location.read .none (Fields.value fs "in") with
    | error => rfl
    | ok location =>
      have outside : location ≠ .body := by
        intro body
        rw [(Location.read_eq_body hl).mp body] at notBody
        cases notBody
      simp only [ok_bind, if_neg outside]
  | _ => rfl

/-- The request body that a parameter becomes reads as the parameter, but for its name. -/
theorem Parameter.read_requestBodyOf {p : Parameter} (h : Parameter.read .none v = .ok p)
    (body : isBody v = true) : readRequestBody .none (requestBodyOf v) = .ok [p.asBody] := by
  have placed := (Parameter.read_location h).mpr body
  cases Parameter.readAs_of_read h with
  | elsewhere _ _ outside => exact absurd placed outside
  | @inBody fs _ _ _ _ hfs _ _ _ hr hs =>
    have own : ownFields v = fs := congrArg ownFields (eq_object_of_fields hfs)
    have stated : Fields.value (Fields.only ["required"] fs ++ [("content", contentOf fs)]) "required" =
        fs.value "required" := by
      rw [Fields.value, get?_append_single _ _ (by decide), Fields.get?_only]
      rfl
    have content : Fields.value (Fields.only ["required"] fs ++ [("content", contentOf fs)]) "content" =
        contentOf fs := by
      refine value_append_single ?_ _
      rw [Fields.get?_only]
      rfl
    have present : Links.none.present (requestBodyOf v) = .ok true := by
      rw [requestBodyOf, own]
      cases Fields.only ["required"] fs <;> rfl
    rw [readRequestBody, present, ok_bind, if_pos rfl, requestBodyOf, own]
    simp only [fields_object, ok_bind, stated, content, contentSchema_contentOf, hr, hs]
    rfl

/-! ## Responses -/

theorem responseSchema_inPlace (noContent : fs.has "content" = false) :
    responseSchema .none fs = .ok (fs.value "schema") := by
  rw [responseSchema, value_of_has_eq_false noContent]
  split
  · next h => exact congrArg Except.ok h.symm
  · rfl

theorem responseSchema_moved (noContent : fs.has "content" = false) :
    responseSchema .none (fs.without ["schema"] ++ [("content", contentOf fs)]) = .ok (fs.value "schema") := by
  have stated : Fields.value (fs.without ["schema"] ++ [("content", contentOf fs)]) "schema" = .null := by
    rw [Fields.value, get?_append_single _ _ (by decide), Fields.get?_without]
    rfl
  have content : Fields.value (fs.without ["schema"] ++ [("content", contentOf fs)]) "content" = contentOf fs := by
    refine value_append_single ?_ _
    rw [Fields.get?_without]
    exact get?_of_has_eq_false noContent
  rw [responseSchema, stated, content]
  exact contentSchema_contentOf fs

/-- A response reads the same with its schema in a content. -/
theorem Response.read_modern (noContent : (ownFields v).has "content" = false) :
    Response.read .none (modernResponse v) = Response.read .none v := by
  cases v with
  | object fs =>
    have noContent : Fields.has fs "content" = false := noContent
    cases stated : Fields.has fs "schema" with
    | false => rw [modernResponse, onFields, stated]; rfl
    | true =>
      have description : Fields.value (Fields.without ["schema"] fs ++ [("content", contentOf fs)]) "description" =
          Fields.value fs "description" := by
        rw [Fields.value, get?_append_single _ _ (by decide), Fields.get?_without]
        rfl
      rw [modernResponse, onFields, stated, if_pos rfl, Response.read_eq, Response.read_eq]
      simp only [fields_object, ok_bind, description, responseSchema_moved noContent, responseSchema_inPlace noContent]
  | _ => rfl

/-! ## Operations -/

theorem ownFields_of_fieldsIfPresent (h : Links.none.fieldsIfPresent v = .ok fs) : ownFields v = fs := by
  cases v with
  | object gs =>
    rw [fieldsIfPresent_object] at h
    cases h
    rfl
  | link => cases h
  | _ =>
    obtain ⟨present, _, h⟩ := bind_eq_ok.mp h
    cases present with
    | true => cases h
    | false => cases h; rfl

/-- What is gone through where there is no list are texts. -/
theorem texts_of_itemsIfPresent {vs : List Value} (h : Links.none.itemsIfPresent v = .ok vs)
    (noList : ∀ us, v ≠ .list us) : ∃ texts : List String, vs = texts.map .str := by
  obtain ⟨present, _, h⟩ := bind_eq_ok.mp h
  cases present with
  | false =>
    cases h
    exact ⟨[], rfl⟩
  | true =>
    cases v with
    | list us => exact absurd rfl (noList us)
    | str s =>
      cases h
      exact ⟨s.toList.map String.singleton, by rw [List.map_map]; rfl⟩
    | object fs =>
      cases h
      exact ⟨fs.map Prod.fst, by rw [List.map_map]; rfl⟩
    | _ => cases h

/-- Texts are no parameters. -/
theorem eq_nil_of_texts {texts : List String} {ps : List Parameter}
    (h : (texts.map Value.str).mapM (Parameter.read .none) = .ok ps) : texts = [] := by
  cases texts with
  | nil => rfl
  | cons => cases h

/-- Parameters that are read are those of a list. -/
theorem ownItems_of_itemsIfPresent {vs : List Value} (hv : Links.none.itemsIfPresent v = .ok vs)
    {ps : List Parameter} (h : vs.mapM (Parameter.read .none) = .ok ps) : ownItems v = vs := by
  cases v with
  | list us =>
    rw [Links.itemsIfPresent_list] at hv
    cases hv
    rfl
  | _ =>
    obtain ⟨texts, rfl⟩ := texts_of_itemsIfPresent hv (by simp)
    rw [eq_nil_of_texts h]
    rfl

/-- The parameters of a list, read one by one, are those outside the body when the body is left out. -/
theorem readEach_modern {vs : List Value} {ps : List Parameter} (h : vs.mapM (Parameter.read .none) = .ok ps)
    (noSchema : ∀ v ∈ vs, isBody v = false → (ownFields v).has "schema" = false) :
    ((vs.filter (!isBody ·)).map (onFields describedApart)).mapM (Parameter.read .none) =
      .ok (ps.filter (·.location ≠ .body)) := by
  rw [mapM_map_same]
  · refine mapM_eq_ok.mpr (List.rel_filter ?_ (mapM_eq_ok.mp h))
    intro v p hp
    have body := Parameter.read_location hp
    simp only [decide_eq_true_eq, Bool.not_eq_true', body, ne_eq, Bool.not_eq_true]
  · intro v hv
    obtain ⟨hv, outside⟩ := List.mem_filter.mp hv
    have outside : isBody v = false := by simpa using outside
    exact Parameter.read_describedApart outside (noSchema v hv outside)

theorem itemsIfPresent_modern {vs : List Value} (hv : Links.none.itemsIfPresent v = .ok vs)
    {ps : List Parameter} (h : vs.mapM (Parameter.read .none) = .ok ps) :
    Links.none.itemsIfPresent (modernParameters v) =
      .ok ((vs.filter (!isBody ·)).map (onFields describedApart)) := by
  have items := ownItems_of_itemsIfPresent hv h
  cases v with
  | list us =>
    obtain rfl : us = vs := items
    exact Links.itemsIfPresent_list _
  | _ =>
    obtain rfl : [] = vs := items
    exact hv

/-- The one body among the parameters of an operation is read from its request body. -/
theorem readRequestBody_modern {vs : List Value} {ps : List Parameter}
    (h : vs.mapM (Parameter.read .none) = .ok ps) (oneBody : (vs.filter isBody).length ≤ 1) :
    readRequestBody .none (Fields.value ((vs.filter isBody).map fun v => ("requestBody", requestBodyOf v))
      "requestBody") = .ok ((ps.filter (·.location = .body)).map Parameter.asBody) := by
  have bodies : List.Forall₂ (fun v p => Parameter.read .none v = .ok p) (vs.filter isBody)
      (ps.filter (·.location = .body)) := by
    refine List.rel_filter ?_ (mapM_eq_ok.mp h)
    intro v p hp
    have body := Parameter.read_location hp
    simp only [decide_eq_true_eq, body]
  have areBodies : ∀ v ∈ vs.filter isBody, isBody v = true := fun v hv => (List.mem_filter.mp hv).2
  generalize vs.filter isBody = found at bodies oneBody areBodies
  generalize ps.filter (·.location = .body) = read at bodies
  cases bodies with
  | nil => rfl
  | cons hp rest =>
    cases rest with
    | nil => exact Parameter.read_requestBodyOf hp (areBodies _ List.mem_cons_self)
    | cons => simp at oneBody

/-- No parameter outside the body is overridden by a body. -/
theorem isOverridden_filter {declared : List Parameter} {p : Parameter} (h : p.location ≠ .body) :
    isOverridden (declared.filter (·.location ≠ .body)) p = isOverridden declared p := by
  rw [isOverridden, isOverridden, List.any_filter]
  refine List.any_congr rfl fun d => ?_
  by_cases hd : d.location = p.location
  · simp [hd, h]
  · simp [hd]

/-- The parameters of an operation and of its path outside the body are those of the two apart. -/
theorem filter_outside {declared common : List Parameter} (outside : ∀ p ∈ common, p.location ≠ .body) :
    (declared ++ common.filter (!isOverridden declared ·)).filter (·.location ≠ .body) =
      declared.filter (·.location ≠ .body) ++ (common.filter (·.location ≠ .body)).filter
        (!isOverridden (declared.filter (·.location ≠ .body)) ·) := by
  have commonKept : common.filter (·.location ≠ .body) = common :=
    List.filter_eq_self.mpr fun p hp => decide_eq_true (outside p hp)
  have addedOutside : (common.filter (!isOverridden declared ·)).filter (·.location ≠ .body) =
      common.filter (!isOverridden declared ·) :=
    List.filter_eq_self.mpr fun p hp => decide_eq_true (outside p (List.mem_filter.mp hp).1)
  rw [List.filter_append, addedOutside, commonKept]
  congr 1
  exact List.filter_congr fun p hp => congrArg not (isOverridden_filter (outside p hp)).symm

/-- The bodies of an operation are its own, where its path has none. -/
theorem filter_bodies {declared common : List Parameter} (outside : ∀ p ∈ common, p.location ≠ .body) :
    (declared ++ common.filter (!isOverridden declared ·)).filter (·.location = .body) =
      declared.filter (·.location = .body) := by
  have noneAdded : (common.filter (!isOverridden declared ·)).filter (·.location = .body) = [] :=
    List.filter_eq_nil_iff.mpr fun p hp => by simpa using outside p (List.mem_filter.mp hp).1
  rw [List.filter_append, noneAdded, List.append_nil]

theorem value_modernOperation (fs : Fields Value) {name : String} (h : name ≠ "requestBody") :
    (modernOperation fs).value name = modernOperationPart name (fs.value name) := by
  have null : modernOperationPart name .null = .null := by
    unfold modernOperationPart
    split
    · rfl
    · split <;> rfl
  have noneElse : ∀ vs : List Value,
      Fields.get? (vs.map fun v => ("requestBody", requestBodyOf v)) name = none := by
    intro vs
    rw [Fields.get?_eq_none, Fields.mem_names]
    rintro ⟨w, hw⟩
    obtain ⟨_, _, heq⟩ := List.mem_map.mp hw
    cases heq
    exact h rfl
  rw [Fields.value, modernOperation, Fields.get?_append, requestBodies, noneElse, Option.or_none,
    ← Fields.value, value_change null]

theorem value_requestBody (noRequestBody : fs.has "requestBody" = false) :
    (modernOperation fs).value "requestBody" = (requestBodies (fs.value "parameters")).value "requestBody" := by
  rw [Fields.value, modernOperation, Fields.get?_append, Fields.get?_change,
    get?_of_has_eq_false noRequestBody]
  rfl

theorem fieldsIfPresent_onEach (f : Value → Value) (h : Links.none.fieldsIfPresent v = .ok fs) :
    Links.none.fieldsIfPresent (onEach f v) = .ok (fs.change fun _ => f) := by
  have own := ownFields_of_fieldsIfPresent h
  cases v with
  | object gs =>
    obtain rfl : gs = fs := own
    exact fieldsIfPresent_object _
  | _ =>
    obtain rfl : [] = fs := own
    exact h

/-- The responses of an operation read the same. -/
theorem readResponses_modern (noContent : ∀ r ∈ fs, (ownFields r.2).has "content" = false) :
    (fs.change fun _ => modernResponse).mapM (fun r => do return (r.1, ← Response.read .none r.2)) =
      fs.mapM fun r => do return (r.1, ← Response.read .none r.2) := by
  refine mapM_map_same fun r hr => ?_
  dsimp only
  rw [Response.read_modern (noContent r hr)]

/-- An operation is read from its new spelling with its body last. -/
theorem Operation.read_modern {verb : String} {shared : Value} {o : Operation}
    (h : Operation.read .none verb v shared = .ok o) (old : IsSwagger2Operation v shared) :
    Operation.read .none verb (onFields modernOperation v) (modernParameters shared) = .ok o.withBodyLast := by
  simp only [Operation.read, bind_eq_ok] at h
  obtain ⟨fs, hf, own, hown, declared, hdeclared, above, habove, common, hcommon, body, hbody,
    named, hnamed, responses, hresponses, deprecated, hd, operationId, hid, summary, hs, heq⟩ := h
  cases heq
  have node : v = .object fs := eq_object_of_fields hf
  have listed := ownItems_of_itemsIfPresent hown hdeclared
  have sharedListed := ownItems_of_itemsIfPresent habove hcommon
  obtain ⟨noRequestBody, noContent, noSchema, oneBody, noSharedBody⟩ := old
  rw [node, ownFields] at noRequestBody noContent noSchema oneBody
  rw [listed] at noSchema oneBody
  rw [sharedListed] at noSchema noSharedBody
  rw [ownFields_of_fieldsIfPresent hnamed] at noContent
  have outside : ∀ p ∈ common, p.location ≠ .body := by
    intro p hp inBody
    obtain ⟨u, hu, read⟩ := exists_of_mem_mapM hcommon hp
    exact absurd (noSharedBody u hu) (by simp [(Parameter.read_location read).mp inBody])
  have noBody : body = [] := by
    rw [value_of_has_eq_false noRequestBody] at hbody
    cases hbody
    rfl
  -- the parts of the new operation, one after the other
  have ownRead := readEach_modern hdeclared fun u hu => noSchema u (List.mem_append_left _ hu)
  have commonRead := readEach_modern hcommon fun u hu => noSchema u (List.mem_append_right _ hu)
  have newOwn : Links.none.itemsIfPresent ((modernOperation fs).value "parameters") =
      .ok ((own.filter (!isBody ·)).map (onFields describedApart)) := by
    rw [value_modernOperation fs (by decide)]
    exact itemsIfPresent_modern hown hdeclared
  have newBody : readRequestBody .none ((modernOperation fs).value "requestBody") =
      .ok ((declared.filter (·.location = .body)).map Parameter.asBody) := by
    rw [value_requestBody noRequestBody, requestBodies, listed]
    exact readRequestBody_modern hdeclared oneBody
  have newResponses : Links.none.fieldsIfPresent ((modernOperation fs).value "responses") =
      .ok (named.change fun _ => modernResponse) := by
    rw [value_modernOperation fs (by decide)]
    exact fieldsIfPresent_onEach modernResponse hnamed
  have kept : ∀ name, name ≠ "requestBody" → name ≠ "parameters" → name ≠ "responses" →
      (modernOperation fs).value name = fs.value name := by
    intro name h₁ h₂ h₃
    rw [value_modernOperation fs h₁, modernOperationPart, if_neg h₂, if_neg h₃]
  rw [node, onFields, Operation.read, fields_object]
  simp only [ok_bind, newOwn, ownRead, itemsIfPresent_modern habove hcommon, commonRead, newBody, newResponses,
    readResponses_modern noContent, hresponses, kept "deprecated" (by decide) (by decide) (by decide), hd,
    kept "operationId" (by decide) (by decide) (by decide), hid,
    kept "summary" (by decide) (by decide) (by decide), hs]
  rw [Operation.withBodyLast, noBody, List.append_nil, filter_outside outside, filter_bodies outside]
  rfl

/-! ## Documents -/

/-- Operations that are read without an event are read so from their new spelling. -/
theorem readOperations_modern {shared : Value} (silent : (readOperations .none shared fs).2 = [])
    (old : ∀ f ∈ fs, IsSwagger2Operation f.2 shared) :
    readOperations .none (modernParameters shared) (fs.change fun _ => onFields modernOperation) =
      ((readOperations .none shared fs).1.change fun _ => Operation.withBodyLast, []) := by
  induction fs with
  | nil => rfl
  | cons f rest ih =>
    rw [readOperations] at silent
    rw [Fields.change_cons, readOperations, readOperations]
    cases ho : Operation.read .none f.1 f.2 shared with
    | error => rw [ho] at silent; cases silent
    | ok o =>
      rw [ho] at silent
      rw [Operation.read_modern ho (old f List.mem_cons_self),
        ih silent fun g hg => old g (List.mem_cons_of_mem _ hg)]
      rfl

/-- What stands under a path that is read. -/
theorem PathItem.read_eq_ok {item : PathItem} (h : PathItem.read .none v = .ok item) : ∃ gs, v = .object gs ∧
    item = ⟨gs.filter fun f => operationVerbs.contains f.1, Fields.value gs "parameters"⟩ ∧
    ∃ present, Links.none.present item.shared = .ok present := by
  rw [PathItem.read] at h
  obtain ⟨gs, hgs, h⟩ := bind_eq_ok.mp h
  obtain ⟨present, hp, h⟩ := bind_eq_ok.mp h
  cases h
  exact ⟨gs, eq_object_of_fields hgs, rfl, present, hp⟩

/-- What stands under a path is found in its new spelling. -/
theorem PathItem.read_modern {item : PathItem} (h : PathItem.read .none v = .ok item) :
    PathItem.read .none (modernPathItem v) =
      .ok ⟨item.verbs.change fun _ => onFields modernOperation, modernParameters item.shared⟩ := by
  obtain ⟨gs, rfl, rfl, present, hp⟩ := PathItem.read_eq_ok h
  have shared : Links.none.present (modernParameters (Fields.value gs "parameters")) =
      .ok (modernParameters (Fields.value gs "parameters")).truthy := by
    cases hv : Fields.value gs "parameters" with
    | link => rw [hv] at hp; cases hp
    | _ => rfl
  have verbs : ((Fields.change modernPathPart gs).filter fun f => operationVerbs.contains f.1) =
      Fields.change (fun _ => onFields modernOperation) (gs.filter fun f => operationVerbs.contains f.1) := by
    rw [Fields.change, List.filter_map]
    refine List.map_congr_left fun f hf => ?_
    have verb : operationVerbs.contains f.1 = true := (List.mem_filter.mp hf).2
    have notShared : f.1 ≠ "parameters" := by
      intro h
      rw [h] at verb
      exact absurd verb (by decide)
    rw [modernPathPart, if_neg notShared, if_pos verb]
  rw [modernPathItem, onFields, PathItem.read]
  show (do
    let _ ← Links.none.present (Fields.value (Fields.change modernPathPart gs) "parameters")
    return (⟨(Fields.change modernPathPart gs).filter fun f => operationVerbs.contains f.1,
      Fields.value (Fields.change modernPathPart gs) "parameters"⟩ : PathItem)) = _
  rw [value_change rfl, verbs]
  show (Links.none.present (modernParameters (Fields.value gs "parameters")) >>= _) = _
  rw [shared]
  rfl

theorem readPaths_modern (silent : (readPaths .none fs).2 = [])
    (old : ∀ e ∈ fs.flatMap pathEntries, IsSwagger2Operation e.node e.shared) :
    readPaths .none (fs.change fun _ => modernPathItem) =
      ((readPaths .none fs).1.change fun _ operations => operations.change fun _ => Operation.withBodyLast, []) := by
  induction fs with
  | nil => rfl
  | cons f rest ih =>
    obtain ⟨path, v⟩ := f
    rw [readPaths] at silent
    rw [Fields.change_cons, readPaths, readPaths]
    cases hi : PathItem.read .none v with
    | error => rw [hi] at silent; cases silent
    | ok item =>
      rw [hi] at silent
      obtain ⟨own, later⟩ := List.append_eq_nil_iff.mp silent
      have entries : ∀ f ∈ item.verbs, IsSwagger2Operation f.2 item.shared := by
        obtain ⟨gs, rfl, rfl, _⟩ := PathItem.read_eq_ok hi
        intro f hf
        exact old ⟨path, f.1, f.2, Fields.value gs "parameters"⟩
          (List.mem_append_left _ (List.mem_map.mpr ⟨f, hf, rfl⟩))
      have further := ih later fun e he => old e (List.mem_append_right _ he)
      rw [PathItem.read_modern hi, further]
      show (((path, _) :: _, _ ++ _) : Fields (Fields Operation) × List Event) = _
      rw [readOperations_modern own entries]
      rfl

theorem get?_componentsOf (fs : Fields Value) (name : String) : (componentsOf fs).get? name =
    if name = "components" then (fs.get? "definitions").map fun v => .object [("schemas", v)] else none := by
  unfold componentsOf
  by_cases h : name = "components"
  · subst h
    cases fs.get? "definitions" <;> simp [Fields.get?]
  · cases fs.get? "definitions" <;> simp [Fields.get?, List.lookup_cons, h, beq_eq_false_iff_ne.mpr h]

/-- A document that states no components has its definitions, or none. -/
theorem partFields_findDefinitions (noComponents : fs.has "components" = false) (name : String) :
    partFields .none name (findDefinitions .none (.object fs)) =
      partFields .none name (.ok (fs.value "definitions")) := by
  have found : findDefinitions .none (.object fs) = (Links.none.present (fs.value "definitions") >>= fun present =>
      if present then .ok (fs.value "definitions") else .ok .null) := by
    have components := value_of_has_eq_false noComponents
    show (Links.none.present (fs.value "definitions") >>= fun present => if present then _ else
      Links.none.fieldsIfPresent (fs.value "components") >>= _) = _
    rw [components]
    rfl
  rw [found]
  cases hd : Links.none.present (fs.value "definitions") with
  | error =>
    rw [partFields, partFields, ok_bind, hd]
    rfl
  | ok present =>
    cases present with
    | true => rfl
    | false =>
      have absent : partFields .none name (.ok (fs.value "definitions")) = .ok [] := by
        rw [partFields, ok_bind, hd]
        rfl
      exact absent.symm

/-- The definitions are found at their new place. -/
theorem findDefinitions_modern (noComponents : fs.has "components" = false) :
    findDefinitions .none (.object (modernDocument fs)) = .ok (fs.value "definitions") := by
  have moved : (modernDocument fs).value "definitions" = .null := by
    rw [Fields.value, modernDocument, Fields.get?_append, Fields.get?_change, Fields.get?_without,
      get?_componentsOf]
    rfl
  have components : (modernDocument fs).value "components" =
      ((fs.get? "definitions").map fun v => .object [("schemas", v)]).getD .null := by
    rw [Fields.value, modernDocument, Fields.get?_append, Fields.get?_change, Fields.get?_without,
      get?_componentsOf, get?_of_has_eq_false noComponents]
    rfl
  show (Links.none.present ((modernDocument fs).value "definitions") >>= fun present => if present then _ else
    Links.none.fieldsIfPresent ((modernDocument fs).value "components") >>= _) = _
  rw [moved, components, Fields.value]
  cases fs.get? "definitions" <;> rfl

theorem findPaths_modern (fs : Fields Value) :
    findPaths .none (.object (modernDocument fs)) = .ok (onEach modernPathItem (fs.value "paths")) := by
  have paths : (modernDocument fs).value "paths" = onEach modernPathItem (fs.value "paths") := by
    rw [Fields.value, modernDocument, Fields.get?_append, Fields.get?_change, Fields.get?_without,
      get?_componentsOf, Fields.value]
    cases fs.get? "paths" <;> rfl
  show Except.ok ((modernDocument fs).value "paths") = _
  rw [paths]

/-- What is no link is a part as it stands. -/
theorem partFields_look (h : Links.none.look v = .ok v) (name : String) :
    partFields .none name (.ok v) = v.objectOr (.partNotObject name) := by
  have present : Links.none.present v = .ok v.truthy := by
    rw [Links.present, h]
    rfl
  rw [partFields, ok_bind, present, ok_bind]
  cases hv : v.truthy with
  | false => exact (objectOr_absent _ hv).symm
  | true =>
    rw [if_pos rfl, h, ok_bind]
    cases v with
    | object gs => rfl
    | _ => simp only [Value.objectOr, hv]; rfl

theorem partFields_onEach (f : Value → Value) (name : String) (v : Value) :
    partFields .none name (.ok (onEach f v)) = (partFields .none name (.ok v)).map (·.change fun _ => f) := by
  cases v with
  | object gs => cases gs <;> rfl
  | link => rfl
  | _ =>
    unfold onEach onFields
    dsimp only
    rw [partFields_look rfl]
    unfold Value.objectOr
    dsimp only
    split <;> rfl

theorem readPart_silent {name : String} {found : Except Fault Value}
    (silent : (readPart .none name found).2 = []) :
    partFields .none name found = .ok (readPart .none name found).1 := by
  rw [readPart] at silent ⊢
  cases h : partFields .none name found with
  | ok gs => rfl
  | error => rw [h] at silent; cases silent

/-- The paths of an object are those that are read. -/
theorem pathsOf_object {ps : Fields Value} (h : partFields .none "paths" (.ok (fs.value "paths")) = .ok ps) :
    pathsOf (.object fs) = ps := by
  have stated : (fs.value "paths").objectOr (.partNotObject "paths") = .ok ps := by
    cases hv : fs.value "paths" with
    | link => rw [hv] at h; cases h
    | _ => rwa [hv, partFields_look rfl] at h
  show (((fs.value "paths").objectOr (.partNotObject "paths")).toOption).getD [] = ps
  rw [stated]
  rfl

theorem Document.read_nonObject {root : Value} (h : ∀ fs, root ≠ .object fs) :
    (Document.read .none root).1.paths = [] := by
  by_cases absent : Links.none.present root = .ok false
  · rw [Document.read_absent _ absent]
    rfl
  · rw [Document.read_present _ absent]
    cases root with
    | object fs => exact absurd rfl (h fs)
    | _ => rfl

theorem Document.withBodiesLast_of_paths {d : Document} (h : d.paths = []) : d.withBodiesLast = d := by
  cases d
  cases h
  rfl

/-- A Swagger 2 document reads the same with its parts at their new places, but for the bodies. -/
theorem Document.read_modernDocument {root : Value} (old : IsSwagger2 root)
    (silent : (Document.read .none root).2 = []) :
    Document.read .none (onFields modernDocument root) = ((Document.read .none root).1.withBodiesLast, []) := by
  by_cases object : ∃ fs, root = .object fs
  · obtain ⟨fs, rfl⟩ := object
    have noComponents : Fields.has fs "components" = false := old.noComponents
    rw [Document.read_object] at silent ⊢
    rw [onFields, Document.read_object]
    simp only [Document.readParts, List.append_eq_nil_iff] at silent ⊢
    obtain ⟨⟨⟨definitionsSilent, modelsSilent⟩, pathsSilent⟩, operationsSilent⟩ := silent
    have definitions : readPart .none "definitions" (findDefinitions .none (.object (modernDocument fs))) =
        readPart .none "definitions" (findDefinitions .none (.object fs)) := by
      rw [readPart, readPart, partFields_findDefinitions noComponents, findDefinitions_modern noComponents]
    have pathFields := readPart_silent pathsSilent
    have paths : readPart .none "paths" (findPaths .none (.object (modernDocument fs))) =
        ((readPart .none "paths" (findPaths .none (.object fs))).1.change fun _ => modernPathItem, []) := by
      have found : partFields .none "paths" (.ok (Fields.value fs "paths")) =
          .ok (readPart .none "paths" (findPaths .none (.object fs))).1 := pathFields
      rw [findPaths_modern, readPart, partFields_onEach, found]
      rfl
    have entries : ∀ e ∈ (readPart .none "paths" (findPaths .none (.object fs))).1.flatMap pathEntries,
        IsSwagger2Operation e.node e.shared := by
      have stated : pathsOf (.object fs) = (readPart .none "paths" (findPaths .none (.object fs))).1 :=
        pathsOf_object pathFields
      rw [← stated]
      exact old.operations
    rw [definitions, paths, readPaths_modern operationsSilent entries, definitionsSilent, modelsSilent]
    rfl
  · have nonObject : ∀ fs, root ≠ .object fs := fun fs h => object ⟨fs, h⟩
    have same : onFields modernDocument root = root := by
      cases root with
      | object fs => exact absurd rfl (nonObject fs)
      | _ => rfl
    have noPaths := Document.read_nonObject nonObject
    rw [same]
    exact Prod.ext (Document.withBodiesLast_of_paths noPaths).symm silent

/-- **A Swagger 2 document reads the same in its OpenAPI 3 spelling**: without failures when it is read
without failures, and as the same document, but that each body is called `body` and stands last. -/
theorem Document.read_modernize {ρ : String → String} (same : KeepsSegment ρ) {root : Value}
    (old : IsSwagger2 root) (silent : (Document.read .none root).2 = []) :
    Document.read .none (modernize ρ root) = ((Document.read .none root).1.withBodiesLast, []) := by
  rw [modernize, Document.read_respell same, Document.read_modernDocument old silent]

/-- References that name a place before their last segment keep that segment. -/
theorem keepsSegment_under (place : String) : KeepsSegment fun s => place ++ "/" ++ lastSegment s :=
  fun s => lastSegment_under place (slash_not_mem_lastSegment s)

/-- A Swagger 2 document: a pet and a list of pets, a parameter of the path, and an operation whose body
stands before another parameter. -/
def petStore : Value :=
  .object [
    ("definitions", .object [
      ("Pet", .object [("type", .str "object"),
        ("properties", .object [("parent", .object [("$ref", .str "#/definitions/Pet")])])]),
      ("Pets", .object [("allOf", .list [.object [("$ref", .str "#/definitions/Pet")]])])]),
    ("paths", .object [
      ("/pets", .object [
        ("parameters", .list [
          .object [("name", .str "limit"), ("in", .str "query"), ("type", .list [.str "null", .str "integer"])]]),
        ("post", .object [
          ("operationId", .str "addPet"),
          ("parameters", .list [
            .object [("name", .str "pet"), ("in", .str "body"), ("required", .bool true),
              ("schema", .object [("$ref", .str "#/definitions/Pet")])],
            .object [("name", .str "tags"), ("in", .str "query"), ("type", .str "array"),
              ("items", .object [("type", .str "string")])]]),
          ("responses", .object [
            ("200", .object [("schema", .object [("$ref", .str "#/definitions/Pet")])]),
            ("204", .object [("description", .str "")])])])])])]

/-- The pets read the same under components, and the body comes last. -/
theorem read_modernize_petStore :
    IsSwagger2 petStore ∧ (Document.read .none petStore).2 = [] ∧
      Document.read .none (modernize (fun s => "#/components/schemas" ++ "/" ++ lastSegment s) petStore) =
        ((Document.read .none petStore).1.withBodiesLast, []) ∧
      ((Document.read .none petStore).1.withBodiesLast.endpoints.map fun e =>
        e.operation.parameters.map (·.name)) = [["tags", "limit", "body"]] := by
  have old : IsSwagger2 petStore := {
    noComponents := by decide
    operations := by
      intro e he
      obtain rfl : e = _ := List.mem_singleton.mp he
      exact {
        noRequestBody := by decide
        noContent := by decide
        noSchema := by decide
        oneBody := by decide
        noSharedBody := by decide } }
  have silent : (Document.read .none petStore).2 = [] := rfl
  exact ⟨old, silent, Document.read_modernize (keepsSegment_under _) old silent, by decide⟩

end TypedClient.Schema
