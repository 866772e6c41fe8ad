import TypedClient.Api.Enums
import TypedClient.Schema.Document
import TypedClient.Proofs.Fields
import TypedClient.Proofs.Outcome

/-!
# Documents without links

In a plain value there is no link, and neither is there one in what is reached from it by the ways of
`Links`. Looking at a plain value never fails, and its text is always to be had. So the literals that a
plain document restricts its parameters to can all be written: the enumerations of its path parameters
are extracted without a failure.
-/

namespace TypedClient

/-! ## Plain values -/

theorem Value.isPlain_list {vs : List Value} :
    (Value.list vs).isPlain = true ↔ ∀ v ∈ vs, v.isPlain = true := by
  rw [isPlain]
  induction vs with
  | nil => simp [arePlain]
  | cons v rest ih => rw [arePlain, Bool.and_eq_true, ih, List.forall_mem_cons]

/-- Fields whose values are plain. -/
def Fields.Plain (fs : Fields Value) : Prop := ∀ f ∈ fs, f.2.isPlain = true

theorem Value.isPlain_object {fs : Fields Value} : (Value.object fs).isPlain = true ↔ fs.Plain := by
  rw [isPlain, Fields.Plain]
  induction fs with
  | nil => simp [fieldsPlain]
  | cons f rest ih => rw [fieldsPlain, fieldPlain, Bool.and_eq_true, ih, List.forall_mem_cons]

/-- A field of a plain object is plain, present or not. -/
theorem Fields.Plain.value {fs : Fields Value} (h : fs.Plain) (name : String) :
    (fs.value name).isPlain = true := by
  rw [Fields.value]
  cases hv : fs.get? name with
  | none => rfl
  | some v => exact h _ (mem_of_get? hv)

namespace Links

variable {links : Links} {v : Value}

/-- A plain value is looked at as it is. -/
theorem look_plain (h : v.isPlain = true) : links.look v = .ok v := by
  cases v with
  | link => cases h
  | _ => rfl

theorem present_plain (h : v.isPlain = true) : links.present v = .ok v.truthy := by
  rw [present, look_plain h]
  rfl

theorem fields_plain (h : v.isPlain = true) {fs : Fields Value} (hf : links.fields v = .ok fs) :
    v = .object fs ∧ fs.Plain := by
  rw [fields, look_plain h, ok_bind] at hf
  cases v with
  | object => cases hf; exact ⟨rfl, Value.isPlain_object.mp h⟩
  | _ => cases hf

theorem characters_plain (s : String) : ∀ v ∈ characters s, v.isPlain = true := by
  intro v hv
  obtain ⟨c, _, rfl⟩ := List.mem_map.mp hv
  rfl

theorem items_plain (h : v.isPlain = true) {vs : List Value} (hv : links.items v = .ok vs) :
    ∀ u ∈ vs, u.isPlain = true := by
  rw [items, look_plain h, ok_bind] at hv
  cases v with
  | list => cases hv; exact Value.isPlain_list.mp h
  | str s => cases hv; exact characters_plain s
  | object fs =>
    cases hv
    intro u hu
    obtain ⟨f, _, rfl⟩ := List.mem_map.mp hu
    rfl
  | _ => cases hv

theorem itemsIfPresent_list (vs : List Value) : links.itemsIfPresent (.list vs) = .ok vs := by
  cases vs <;> rfl

theorem itemsIfPresent_plain (h : v.isPlain = true) {vs : List Value}
    (hv : links.itemsIfPresent v = .ok vs) : ∀ u ∈ vs, u.isPlain = true := by
  rw [itemsIfPresent, present_plain h, ok_bind] at hv
  split at hv
  · exact items_plain h hv
  · cases hv
    intro _ hu
    cases hu

theorem optionalList_plain (h : v.isPlain = true) {vs : List Value}
    (hv : links.optionalList v = .ok (some vs)) : ∀ u ∈ vs, u.isPlain = true := by
  cases v with
  | list => cases hv; exact Value.isPlain_list.mp h
  | link => cases h
  | _ => cases hv

/-! ## The texts of plain values -/

mutual
/-- The literal of a plain value is written without following anything. -/
theorem literalWith_plain (onward : List Value → Value → Except Fault String) (around : List Value)
    (v : Value) (h : v.isPlain = true) : links.literalWith onward around v = .ok v.literal := by
  cases v with
  | list vs =>
    rw [literalWith, itemLiterals_plain onward (.list vs :: around) vs (by rwa [Value.isPlain] at h)]
    rfl
  | object fs =>
    rw [literalWith, fieldLiterals_plain onward (.object fs :: around) fs (by rwa [Value.isPlain] at h)]
    rfl
  | link => cases h
  | _ => rfl
termination_by structural v
theorem itemLiterals_plain (onward : List Value → Value → Except Fault String) (around vs : List Value)
    (h : Value.arePlain vs = true) :
    links.itemLiterals onward around vs = .ok (Value.itemLiterals vs) := by
  cases vs with
  | nil => rfl
  | cons v rest =>
    rw [Value.arePlain, Bool.and_eq_true] at h
    rw [itemLiterals, literalWith_plain onward around v h.1, itemLiterals_plain onward around rest h.2]
    rfl
termination_by structural vs
theorem fieldLiteral_plain (onward : List Value → Value → Except Fault String) (around : List Value)
    (f : String × Value) (h : Value.fieldPlain f = true) :
    links.fieldLiteral onward around f = .ok (Value.fieldLiteral f) := by
  obtain ⟨name, v⟩ := f
  rw [fieldLiteral, literalWith_plain onward around v (by rwa [Value.fieldPlain] at h)]
  rfl
termination_by structural f
theorem fieldLiterals_plain (onward : List Value → Value → Except Fault String) (around : List Value)
    (fs : List (String × Value)) (h : Value.fieldsPlain fs = true) :
    links.fieldLiterals onward around fs = .ok (Value.fieldLiterals fs) := by
  cases fs with
  | nil => rfl
  | cons f rest =>
    rw [Value.fieldsPlain, Bool.and_eq_true] at h
    rw [fieldLiterals, fieldLiteral_plain onward around f h.1, fieldLiterals_plain onward around rest h.2]
    rfl
termination_by structural fs
end

/-- **Every plain value has a text**, whatever links there are. -/
theorem text_plain (h : v.isPlain = true) : links.text v = .ok (match v with
    | .str s => s
    | w => w.literal) := by
  have written : ∀ w : Value, w.isPlain = true → links.literalTo links.budget [] w = .ok w.literal := by
    intro w hw
    cases links.budget with
    | zero => exact literalWith_plain _ [] w hw
    | succ depth => exact literalWith_plain _ [] w hw
  rw [text, look_plain h, ok_bind]
  cases v with
  | str s => rfl
  | _ => exact written _ h

theorem exists_text (h : v.isPlain = true) : ∃ s, links.text v = .ok s := ⟨_, text_plain h⟩

end Links

namespace Schema

variable {links : Links}

/-! ## What parameters are read from -/

/-- All that a parameter can be read as. It goes by the text in its field `name`, and is placed and flagged by `in`
and `required`. In the body it has its `schema`; elsewhere the fields that describe it state the rest. -/
inductive Parameter.ReadAs (links : Links) (v : Value) : Parameter → Prop
  | inBody {fields : Fields Value} {label : Value} {name : String} {required : Bool} {schema : Option Property}
    (object : links.fields v = .ok fields) (place : Location.read links (fields.value "in") = .ok .body)
    (labelled : demand fields "name" = .ok label) (text : label.requiredText = .ok name)
    (flag : links.present (fields.value "required") = .ok required)
    (described : Property.readOptional links false (fields.value "schema") = .ok schema) :
    ReadAs links v { name, location := .body, required, schema }
  | elsewhere {fields source : Fields Value} {label : Value} {name : String} {location : Location}
    {type format : Option String} {required : Bool} {literals : Option (List Value)} {items : Option Property}
    (object : links.fields v = .ok fields) (place : Location.read links (fields.value "in") = .ok location)
    (outside : location ≠ .body) (labelled : demand fields "name" = .ok label) (text : label.requiredText = .ok name)
    (flag : links.present (fields.value "required") = .ok required)
    (described : describingFields links fields = .ok source)
    (stated : links.optionalList (source.value "enum") = .ok literals)
    (listed : Property.readOptional links true (source.value "items") = .ok items) :
    ReadAs links v { name, location, type, format, required, literals, items }

theorem Parameter.readAs_of_read {v : Value} {p : Parameter} (h : Parameter.read links v = .ok p) :
    Parameter.ReadAs links v p := by
  rw [Parameter.read] at h
  obtain ⟨fields, object, h⟩ := bind_eq_ok.mp h
  obtain ⟨location, place, h⟩ := bind_eq_ok.mp h
  split at h
  · next body =>
    simp only [bind_eq_ok] at h
    obtain ⟨_, label, _, flag, _, described, _, text, heq⟩ := h
    cases heq
    subst body
    exact .inBody object place label text flag described
  · next outside =>
    simp only [bind_eq_ok] at h
    obtain ⟨_, described, _, label, _, _, _, flag, _, listed, _, text, _, _, _, _, _, stated, heq⟩ := h
    cases heq
    exact .elsewhere object place outside label text flag described stated listed

/-- The parameters of an operation are its own, those of its path that it does not override, and its request body. -/
theorem Operation.parameters_of_read {verb : String} {v shared : Value} {o : Operation}
    (h : Operation.read links verb v shared = .ok o) :
    ∃ fields own declared above common body, links.fields v = .ok fields ∧
      links.itemsIfPresent (fields.value "parameters") = .ok own ∧ own.mapM (Parameter.read links) = .ok declared ∧
      links.itemsIfPresent shared = .ok above ∧ above.mapM (Parameter.read links) = .ok common ∧
      readRequestBody links (fields.value "requestBody") = .ok body ∧
      o.parameters = declared ++ common.filter (!isOverridden declared ·) ++ body := by
  simp only [Operation.read, bind_eq_ok] at h
  obtain ⟨fields, object, own, listed, declared, read, above, listedAbove, common, readAbove, body, readBody,
    _, _, _, _, _, _, _, _, _, _, heq⟩ := h
  cases heq
  exact ⟨fields, own, declared, above, common, body, object, listed, read, listedAbove, readAbove, readBody, rfl⟩

/-! ## Plain literals -/

/-- A parameter whose literals are plain. -/
def Parameter.Plain (p : Parameter) : Prop := ∀ vs, p.literals = some vs → ∀ v ∈ vs, v.isPlain = true

theorem describingFields_plain {fields fs : Fields Value} (h : fields.Plain)
    (hf : describingFields links fields = .ok fs) : fs.Plain := by
  unfold describingFields at hf
  dsimp only at hf
  split at hf
  · cases hf
    exact h
  · exact (Links.fields_plain (h.value "schema") hf).2
  · cases hf
    exact h

theorem Parameter.read_plain {v : Value} (h : v.isPlain = true) {p : Parameter}
    (hp : Parameter.read links v = .ok p) : p.Plain := by
  cases Parameter.readAs_of_read hp with
  | inBody =>
    intro _ hv
    cases hv
  | elsewhere object _ _ _ _ _ described stated _ =>
    rintro vs rfl
    have fieldsPlain := (Links.fields_plain h object).2
    exact Links.optionalList_plain ((describingFields_plain fieldsPlain described).value "enum") stated

theorem readRequestBody_plain {v : Value} {ps : List Parameter} (h : readRequestBody links v = .ok ps) :
    ∀ p ∈ ps, p.Plain := by
  rw [readRequestBody] at h
  obtain ⟨present, _, h⟩ := bind_eq_ok.mp h
  cases present with
  | true =>
    simp only [if_true, bind_eq_ok] at h
    obtain ⟨_, _, _, _, _, _, _, _, heq⟩ := h
    cases heq
    intro p hp vs hvs
    cases List.mem_singleton.mp hp
    cases hvs
  | false =>
    cases h
    intro _ hp
    cases hp

/-- The parameters of an operation of a plain document are plain, its own and those of its path. -/
theorem Operation.read_plain {verb : String} {v shared : Value} (h : v.isPlain = true)
    (hs : shared.isPlain = true) {o : Operation} (ho : Operation.read links verb v shared = .ok o) :
    ∀ p ∈ o.parameters, p.Plain := by
  have listed : ∀ {w : Value} {vs : List Value} {ps : List Parameter}, w.isPlain = true →
      links.itemsIfPresent w = .ok vs → vs.mapM (Parameter.read links) = .ok ps → ∀ p ∈ ps, p.Plain := by
    intro w vs ps hw hvs hps p hp
    obtain ⟨u, hu, read⟩ := exists_of_mem_mapM hps hp
    exact Parameter.read_plain (Links.itemsIfPresent_plain hw hvs u hu) read
  obtain ⟨fields, own, declared, above, common, body, hf, hown, hdeclared, habove, hcommon, hbody, parameters⟩ :=
    Operation.parameters_of_read ho
  rw [parameters]
  intro p hp
  rcases List.mem_append.mp hp with hp | hp
  · rcases List.mem_append.mp hp with hp | hp
    · exact listed ((Links.fields_plain h hf).2.value "parameters") hown hdeclared p hp
    · exact listed hs habove hcommon p (List.mem_filter.mp hp).1
  · exact readRequestBody_plain hbody p hp

end Schema

/-! ## Enumerations of plain parameters -/

namespace Api

open Schema

variable {links : Links}

theorem exists_literalEnum (name : String) {vs : List Value} (h : ∀ v ∈ vs, v.isPlain = true) :
    ∃ e, literalEnum links name vs = .ok e := by
  obtain ⟨texts, ht⟩ := exists_mapM_eq_ok fun v hv => @Links.exists_text links v (h v hv)
  exact ⟨_, bind_eq_ok.mpr ⟨texts, ht, rfl⟩⟩

/-- Plain parameters give their enumerations without a failure. -/
theorem addParameterEnums_plain {ps : List Parameter} (h : ∀ p ∈ ps, p.Plain) (enums : List EnumType) :
    (addParameterEnums links ps enums).2 = [] := by
  induction ps generalizing enums with
  | nil => rfl
  | cons p rest ih =>
    have later := ih fun q hq => h q (List.mem_cons_of_mem _ hq)
    rw [addParameterEnums]
    split
    · next first others _ hl =>
      obtain ⟨e, he⟩ := @exists_literalEnum links (capitalize p.name) _ (h p List.mem_cons_self _ hl)
      rw [he]
      exact later _
    · exact later _

theorem addEndpointEnums_plain {endpoints : List Endpoint}
    (h : ∀ e ∈ endpoints, ∀ p ∈ e.operation.parameters, p.Plain) (enums : List EnumType) :
    (addEndpointEnums links endpoints enums).2 = [] := by
  induction endpoints generalizing enums with
  | nil => rfl
  | cons e rest ih =>
    rw [addEndpointEnums]
    show (addParameterEnums links e.operation.parameters enums).2 ++ _ = []
    rw [addParameterEnums_plain (h e List.mem_cons_self), List.nil_append]
    exact ih (fun e' he' => h e' (List.mem_cons_of_mem _ he')) _

end Api

end TypedClient
