import TypedClient.Proofs.Plain

/-!
# Candidates for enumerations

Extraction goes over the parameters of the operations and the properties of the definitions, and asks at
each of them whether the name is taken. Here the same is said in two steps: what each parameter and each
property would bring is a candidate, whatever else the document has, and of the candidates with one name
the first is kept.

**What is proved.** `extractEnums_eq`: the enumerations of a document are what is kept of its candidates,
where the literals of its parameters are plain. `mem_names_keepNew` and `filter_keepNew` say what becomes
of a name; `keepNew_known` says when candidates change nothing. `mem_keepNew_nil` says which candidates are
kept where there was nothing before.

A literal that cannot be written ends the extraction of its operation, so the candidates of an operation
that has one are not the matter here. The properties of definitions are gone through whatever came before
(`extractEnums_pass`).
-/

namespace TypedClient.Api

open Schema

/-! ## The first of each name -/

/-- What is kept of candidates beside the enumerations that are there: the first of each new name. -/
def keepNew (enums candidates : List EnumType) : List EnumType := candidates.foldl addEnum enums

section

variable {enums candidates : List EnumType} {e : EnumType} {name : String}

/-- The question that extraction asks of a name. -/
theorem any_name_iff : enums.any (·.name == name) = true ↔ name ∈ enums.map (·.name) := by
  simp only [List.any_eq_true, List.mem_map, beq_iff_eq]

theorem addEnum_known (known : e.name ∈ enums.map (·.name)) : addEnum enums e = enums := by
  unfold addEnum
  exact if_pos (any_name_iff.mpr known)

theorem addEnum_new (new : e.name ∉ enums.map (·.name)) : addEnum enums e = enums ++ [e] := by
  unfold addEnum
  exact if_neg fun h => new (any_name_iff.mp h)

theorem mem_names_addEnum :
    name ∈ (addEnum enums e).map (·.name) ↔ name ∈ enums.map (·.name) ∨ name = e.name := by
  by_cases known : e.name ∈ enums.map (·.name)
  · rw [addEnum_known known]
    constructor
    · exact Or.inl
    · rintro (h | rfl)
      · exact h
      · exact known
  · simp [addEnum_new known]

theorem mem_names_keepNew :
    name ∈ (keepNew enums candidates).map (·.name) ↔
      name ∈ enums.map (·.name) ∨ name ∈ candidates.map (·.name) := by
  unfold keepNew
  induction candidates generalizing enums with
  | nil => simp
  | cons e rest ih =>
    rw [List.foldl_cons, ih, mem_names_addEnum, List.map_cons, List.mem_cons, or_assoc]

theorem keepNew_append (enums first later : List EnumType) :
    keepNew enums (first ++ later) = keepNew (keepNew enums first) later :=
  List.foldl_append

/-- Candidates of known names change nothing. -/
theorem keepNew_known (known : ∀ e ∈ candidates, e.name ∈ enums.map (·.name)) :
    keepNew enums candidates = enums := by
  unfold keepNew
  induction candidates with
  | nil => rfl
  | cons e rest ih =>
    rw [List.foldl_cons, addEnum_known (known e List.mem_cons_self)]
    exact ih fun e' he' => known e' (List.mem_cons_of_mem _ he')

/-- What is there stays. -/
theorem mem_keepNew_of_mem (he : e ∈ enums) : e ∈ keepNew enums candidates := by
  unfold keepNew
  induction candidates generalizing enums with
  | nil => exact he
  | cons c rest ih =>
    apply ih
    unfold addEnum
    split
    · exact he
    · exact List.mem_append_left _ he

/-- A choice of names made among what is kept is made among the candidates. -/
theorem filter_keepNew (chosen : String → Bool) (enums candidates : List EnumType) :
    (keepNew enums candidates).filter (fun e => chosen e.name) =
      keepNew (enums.filter fun e => chosen e.name) (candidates.filter fun e => chosen e.name) := by
  unfold keepNew
  induction candidates generalizing enums with
  | nil => rfl
  | cons e rest ih =>
    rw [List.foldl_cons, ih]
    by_cases hc : chosen e.name = true
    · simp only [List.filter_cons, hc, if_true, List.foldl_cons]
      congr 1
      -- a chosen name is known among the chosen exactly when it is known
      by_cases known : e.name ∈ enums.map (·.name)
      · have knownToo : e.name ∈ (enums.filter fun e => chosen e.name).map (·.name) := by
          obtain ⟨e', he', same⟩ := List.mem_map.mp known
          refine List.mem_map.mpr ⟨e', List.mem_filter.mpr ⟨he', ?_⟩, same⟩
          rw [same]
          exact hc
        rw [addEnum_known known, addEnum_known knownToo]
      · have newToo : e.name ∉ (enums.filter fun e => chosen e.name).map (·.name) := by
          intro h
          obtain ⟨e', he', same⟩ := List.mem_map.mp h
          exact known (List.mem_map.mpr ⟨e', (List.mem_filter.mp he').1, same⟩)
        simp only [addEnum_new known, addEnum_new newToo, List.filter_append, List.filter_cons, hc,
          if_true, List.filter_nil]
    · simp only [List.filter_cons, hc, Bool.false_eq_true, if_false]
      congr 1
      by_cases known : e.name ∈ enums.map (·.name)
      · rw [addEnum_known known]
      · simp only [addEnum_new known, List.filter_append, List.filter_cons, hc, Bool.false_eq_true,
          if_false, List.filter_nil, List.append_nil]

theorem mem_keepFirst_name :
    (name, e) ∈ keepFirst (fun e => some e.name) candidates ↔ name = e.name ∧ FirstOf (·.name) candidates e := by
  rw [mem_keepFirst]
  constructor
  · rintro ⟨before, after, split, named, first⟩
    cases named
    exact ⟨rfl, before, after, split, fun e' he' same => first e' he' (congrArg some same)⟩
  · rintro ⟨rfl, before, after, split, first⟩
    exact ⟨before, after, split, rfl, fun e' he' same => first e' he' (Option.some.inj same)⟩

/-- What is kept of candidates alone is what is kept under their names. -/
theorem keepNew_nil (candidates : List EnumType) :
    keepNew [] candidates = (keepFirst (fun e => some e.name) candidates).values := by
  induction candidates using List.reverseRecOn with
  | nil => rfl
  | append_singleton rest e ih =>
    have known : e.name ∈ (keepNew [] rest).map (·.name) ↔
        (keepFirst (fun e => some e.name) rest).has e.name = true := by
      rw [mem_names_keepNew, Fields.has_iff, mem_names_keepFirst]
      simp
    rw [keepNew_append, keepFirst_concat]
    dsimp only
    split
    · next h => exact (addEnum_known (known.mpr h)).trans ih
    · next h =>
      refine (addEnum_new (mt known.mp h)).trans ?_
      rw [ih, Fields.values, Fields.values, List.map_append, List.map_singleton]

/-- What is kept of candidates alone is the first of each name. -/
theorem mem_keepNew_nil : e ∈ keepNew [] candidates ↔ FirstOf (·.name) candidates e := by
  rw [keepNew_nil, Fields.mem_values]
  constructor
  · rintro ⟨name, h⟩
    exact (mem_keepFirst_name.mp h).2
  · intro first
    exact ⟨e.name, mem_keepFirst_name.mpr ⟨rfl, first⟩⟩

theorem nodup_names_keepNew_nil (candidates : List EnumType) :
    ((keepNew [] candidates).map (·.name)).Nodup := by
  have names : ((keepFirst (fun e => some e.name) candidates).values).map (·.name) =
      (keepFirst (fun e => some e.name) candidates).names := by
    rw [Fields.values, Fields.names, List.map_map]
    exact List.map_congr_left fun p hp => (mem_keepFirst_name.mp hp).1.symm
  rw [keepNew_nil, names]
  exact nodup_names_keepFirst _ candidates

/-- To keep the first of each name is to erase what repeats a name. -/
theorem keepNew_nil_eq_eraseDupsBy (candidates : List EnumType) :
    keepNew [] candidates = candidates.eraseDupsBy fun e first => first.name == e.name := by
  -- the erasure builds up what it keeps from the end
  have kept : ∀ (rest last : List EnumType), keepNew last.reverse rest =
      List.eraseDupsBy.loop (fun e first => first.name == e.name) rest last := by
    intro rest
    induction rest with
    | nil => exact fun _ => rfl
    | cons e rest ih =>
      intro last
      unfold keepNew at ih ⊢
      rw [List.foldl_cons, addEnum, List.any_reverse, List.eraseDupsBy.loop]
      cases last.any fun first => first.name == e.name with
      | true => exact ih last
      | false =>
        rw [if_neg Bool.false_ne_true, ← List.reverse_cons]
        exact ih (e :: last)
  exact kept candidates []

end

/-! ## What a document brings -/

variable (links : Links)

/-- The enumeration that a parameter brings. -/
def parameterCandidate? (p : Parameter) : Option EnumType :=
  match p.location, p.literals with
  | .path, some (first :: others) =>
    (literalEnum links (capitalize p.name) (first :: others)).toOption
  | _, _ => none

/-- The enumerations that an operation brings. -/
def endpointCandidates (e : Endpoint) : List EnumType :=
  e.operation.parameters.filterMap (parameterCandidate? links)

/-- The enumeration that a text property with literals brings. -/
def textCandidate? (field : String × Property) : Option EnumType :=
  match field.2.type, field.2.literals with
  | some "string", some (first :: rest) =>
    (literalEnum links (capitalize field.1) (first :: rest)).toOption
  | _, _ => none

/-- The enumeration that a property brings. -/
def propertyCandidate? (definitions : Fields Model) (field : String × Property) : Option EnumType :=
  match field.2.kind with
  | .reference => do
    let target ← field.2.target
    let m ← definitions.get? target
    (← (definitionEnum? links target m).toOption)
  | _ => textCandidate? links field

/-- The enumerations that the properties of the definitions bring. -/
def propertyCandidates (definitions : Fields Model) : List EnumType :=
  definitions.flatMap fun m => m.2.properties.filterMap (propertyCandidate? links definitions)

/-- The candidates of a document, in order. -/
def candidates (d : Document) : List EnumType :=
  d.endpoints.flatMap (endpointCandidates links) ++ propertyCandidates links d.definitions

variable {links}

/-- The enumeration of a definition goes by its model name. -/
theorem name_of_definitionEnum? {target : String} {m : Model} {e : EnumType}
    (h : definitionEnum? links target m = .ok (some e)) : e.name = modelName target := by
  unfold definitionEnum? at h
  split at h
  · obtain ⟨values, _, heq⟩ := bind_eq_ok.mp h
    cases heq
    rfl
  · cases h
  · cases h

/-- What a property adds is its candidate, unless the name is known. -/
theorem addPropertyEnum_eq (definitions : Fields Model) (enums : List EnumType)
    (field : String × Property) :
    addPropertyEnum links definitions enums field =
      match propertyCandidate? links definitions field with
      | some e => addEnum enums e
      | none => enums := by
  obtain ⟨key, p⟩ := field
  unfold addPropertyEnum propertyCandidate?
  dsimp only
  cases p.kind with
  | reference =>
    dsimp only
    cases p.target with
    | none => rfl
    | some target =>
      simp only [Option.bind_eq_bind, Option.bind_some]
      cases found : definitions.get? target with
      | none => simp
      | some m =>
        simp only [Option.bind_some]
        cases made : definitionEnum? links target m with
        | error fault => simp
        | ok e? =>
          cases e? with
          | none => simp
          | some e =>
            simp only [toOption_ok, Option.bind_some]
            split
            -- the name is asked for before the definition is looked at
            · next known =>
              refine (addEnum_known ?_).symm
              rw [name_of_definitionEnum? made]
              exact any_name_iff.mp known
            · rfl
  | _ =>
    dsimp only
    split
    · next first rest type literals =>
      have own : textCandidate? links (key, p) =
          (literalEnum links (capitalize key) (first :: rest)).toOption := by
        simp only [textCandidate?, type, literals]
      rw [own]
      cases literalEnum links (capitalize key) (first :: rest) <;> rfl
    · next other =>
      have own : textCandidate? links (key, p) = none := by
        unfold textCandidate?
        split
        · next type literals => exact absurd literals (other _ _ type)
        · rfl
      rw [own]

/-- Plain parameters add what they bring. -/
theorem addParameterEnums_eq {ps : List Parameter} (plain : ∀ p ∈ ps, p.Plain) (enums : List EnumType) :
    (addParameterEnums links ps enums).1 = keepNew enums (ps.filterMap (parameterCandidate? links)) := by
  induction ps generalizing enums with
  | nil => rfl
  | cons p rest ih =>
    have later := fun enums => ih (fun q hq => plain q (List.mem_cons_of_mem _ hq)) enums
    rw [addParameterEnums, List.filterMap_cons]
    split
    · next first others location stated =>
      obtain ⟨e, made⟩ := @exists_literalEnum links (capitalize p.name) _ (plain p List.mem_cons_self _ stated)
      have own : parameterCandidate? links p = some e := by
        simp only [parameterCandidate?, location, stated, made, toOption_ok]
      rw [made, own]
      exact later (addEnum enums e)
    · next other =>
      have own : parameterCandidate? links p = none := by
        unfold parameterCandidate?
        split
        · next location stated => exact absurd stated (other _ _ location)
        · rfl
      rw [own]
      exact later enums

theorem addEndpointEnums_eq {endpoints : List Endpoint}
    (plain : ∀ e ∈ endpoints, ∀ p ∈ e.operation.parameters, p.Plain) (enums : List EnumType) :
    (addEndpointEnums links endpoints enums).1 =
      keepNew enums (endpoints.flatMap (endpointCandidates links)) := by
  induction endpoints generalizing enums with
  | nil => rfl
  | cons e rest ih =>
    rw [addEndpointEnums, List.flatMap_cons, keepNew_append]
    dsimp only
    rw [addParameterEnums_eq (plain e List.mem_cons_self)]
    exact ih (fun e' he' => plain e' (List.mem_cons_of_mem _ he')) _

/-- The properties add what they bring. -/
theorem foldl_addPropertyEnum (definitions : Fields Model) (enums : List EnumType)
    (fields : Fields Property) :
    fields.foldl (addPropertyEnum links definitions) enums =
      keepNew enums (fields.filterMap (propertyCandidate? links definitions)) := by
  induction fields generalizing enums with
  | nil => rfl
  | cons f rest ih =>
    rw [List.foldl_cons, ih, addPropertyEnum_eq, List.filterMap_cons]
    cases propertyCandidate? links definitions f <;> rfl

/-- The second pass keeps what the properties bring beside the enumerations of the first. -/
theorem extractEnums_pass (d : Document) : (extractEnums links d).1 =
    keepNew (addEndpointEnums links d.endpoints []).1 (propertyCandidates links d.definitions) := by
  have properties : ∀ (models : Fields Model) (enums : List EnumType),
      models.foldl (fun enums m => m.2.properties.foldl (addPropertyEnum links d.definitions) enums) enums =
        keepNew enums (models.flatMap fun m =>
          m.2.properties.filterMap (propertyCandidate? links d.definitions)) := by
    intro models
    induction models with
    | nil => exact fun _ => rfl
    | cons m rest ih =>
      intro enums
      rw [List.foldl_cons, ih, foldl_addPropertyEnum, List.flatMap_cons, keepNew_append]
  exact properties d.definitions _

/-- **The enumerations of a document** are what is kept of its candidates. -/
theorem extractEnums_eq {d : Document}
    (plain : ∀ e ∈ d.endpoints, ∀ p ∈ e.operation.parameters, p.Plain) :
    (extractEnums links d).1 = keepNew [] (candidates links d) := by
  rw [extractEnums_pass, candidates, keepNew_append, addEndpointEnums_eq plain]

end TypedClient.Api
