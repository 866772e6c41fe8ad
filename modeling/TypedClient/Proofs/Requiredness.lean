import TypedClient.Api.Describe
import TypedClient.Proofs.Composition
import TypedClient.Proofs.RenderedTypes
import TypedClient.Proofs.Results
import TypedClient.Proofs.Spellings
import TypedClient.Proofs.WellFormed

/-!
# What is required is not optional

A definition lists the properties that it requires, and a parameter says of itself that it is required. On
the way to the package this becomes a flag of what is read, the nullability of a type, and in the end a
default and an `Optional` around a type hint.

**What is proved.** `requiredness_carried`: in every package each attribute of the class of a plain definition
has the default `None` exactly when the definition does not list its property, and each argument of a function
exactly when its parameter, or the request body that it stands for, is not flagged. Such an attribute or
argument is `Optional` unless its type hint is `Any`, and inside of a type hint nothing is, however many lists
there are around it.

The document may have links; what stands behind them is what is listed and flagged.
-/

namespace TypedClient

namespace Source

mutual
/-- A type hint in which `Optional` does not occur. -/
def TypeHint.NeverOptional (a : TypeHint) : Prop := match a with
  | .plain _ => True
  | .group parts wrapper => wrapper ≠ some "Optional" ∧ TypeHint.NoneOptional parts
termination_by structural a
/-- Type hints in none of which `Optional` occurs. -/
def TypeHint.NoneOptional (parts : List TypeHint) : Prop := match parts with
  | [] => True
  | a :: rest => TypeHint.NeverOptional a ∧ TypeHint.NoneOptional rest
termination_by structural parts
end

/-- A type hint that is `Optional` when the value may be missing, except around `Any`, and not inside. -/
def TypeHint.OptionalWhen (missing : Prop) (hint : TypeHint) : Prop :=
  ∃ base : TypeHint, base.NeverOptional ∧
    (missing ∧ base.text ≠ "Any" →
      hint = .group [base] (some "Optional") ∧ hint.text = "Optional[" ++ base.text ++ "]") ∧
    (¬ (missing ∧ base.text ≠ "Any") → hint = base)

/-- A type hint in which `Optional` occurs around the whole or not at all. -/
def TypeHint.Shallow (hint : TypeHint) : Prop :=
  ∃ base : TypeHint, base.NeverOptional ∧ (hint = base ∨ hint = .group [base] (some "Optional"))

theorem TypeHint.OptionalWhen.shallow {missing : Prop} {hint : TypeHint} (h : hint.OptionalWhen missing) :
    hint.Shallow := by
  obtain ⟨base, never, wrapped, bare⟩ := h
  refine ⟨base, never, ?_⟩
  by_cases optional : missing ∧ base.text ≠ "Any"
  · exact .inr (wrapped optional).1
  · exact .inl (bare optional)

theorem TypeHint.neverOptional_of (text : String) : (TypeHint.of text).NeverOptional :=
  ⟨nofun, trivial, trivial⟩

theorem TypeHint.neverOptional_list {a : TypeHint} (h : a.NeverOptional) :
    (TypeHint.group [a] (some "List")).NeverOptional :=
  ⟨by decide, h, trivial⟩

end Source

/-! ## Bound parameters -/

namespace Api

/-- What is bound to the path, the query or the body has a resolved type. -/
theorem exists_boundType {p : Schema.Parameter}
    (bound : p.location = .path ∨ p.location = .query ∨ p.location = .body) :
    ∃ b t, boundType? p = some (b, t) ∧ t.Resolved := by
  have found : ∃ b t, boundType? p = some (b, t) := by
    unfold boundType?
    rcases bound with h | h | h <;> rw [h] <;> exact ⟨_, _, rfl⟩
  obtain ⟨b, t, found⟩ := found
  exact ⟨b, t, found, boundType_resolved found⟩

end Api

namespace Client

open Schema Api Source

/-! ## Type hints -/

variable {d : Description}

theorem builtin_ne_none {p : Primitive} (valued : p ≠ .unit) : builtin p ≠ "None" := by
  cases p with
  | unit => exact absurd rfl valued
  | _ => decide

/-- A resolved type has a type hint without `Optional`; that of a nullable one is made optional as a whole. -/
theorem exists_baseHint {t : TypeRef} (resolved : t.Resolved) :
    ∃ base : TypeHint, base.NeverOptional ∧ base.text ≠ "None" ∧ base.text ≠ "" ∧
      ∀ nullable, typeHint (namesOf d) (t.withNullable nullable) = .ok (optionalIf nullable base) := by
  induction resolved with
  | scalar p valued =>
    refine ⟨.of (builtin p), TypeHint.neverOptional_of _, ?_, ?_, fun _ => rfl⟩
    · rw [text_of]
      exact builtin_ne_none valued
    · rw [text_of]
      cases p <;> decide
  | named name =>
    refine ⟨.of (((namesOf d).class? name).getD "Any"), TypeHint.neverOptional_of _, ?_, ?_, fun _ => rfl⟩
    · rw [text_of]
      cases found : (namesOf d).class? name with
      | none => decide
      | some c => exact (class?_named found).1
    · rw [text_of]
      cases found : (namesOf d).class? name with
      | none => decide
      | some c => exact (class?_named found).2
  | @listOf item resolved ih =>
    obtain ⟨inner, never, _, named, hinted⟩ := ih
    have inside : typeHint (namesOf d) item = .ok inner := by
      rw [← resolved.withNullable_false, hinted false]
      rfl
    refine ⟨.group [inner] (some "List"), TypeHint.neverOptional_list never, ?_, ?_, ?_⟩
    · rw [text_listOf named]
      exact list_ne_none _
    · rw [text_listOf named]
      intro empty
      have lengths := congrArg String.length empty
      simp [String.length_append] at lengths
    · intro nullable
      show (do return optionalIf nullable (.group [← typeHint (namesOf d) item] (some "List"))) = _
      rw [inside]
      rfl

/-- The type hint of a type that is nullable when it may be missing. -/
theorem optionalWhen_of_typeHint {t : TypeRef} (resolved : t.Resolved) {nullable : Bool} {hint : TypeHint}
    (h : typeHint (namesOf d) (t.withNullable nullable) = .ok hint) : hint.OptionalWhen (nullable = true) := by
  obtain ⟨base, never, valued, named, hinted⟩ := @exists_baseHint d t resolved
  rw [hinted nullable] at h
  cases h
  refine ⟨base, never, ?_, ?_⟩
  · rintro ⟨missing, other⟩
    rw [optionalIf, if_pos ⟨missing, other, valued⟩]
    refine ⟨rfl, ?_⟩
    simp [TypeHint.text, TypeHint.texts, named]
  · intro kept
    rw [optionalIf, if_neg]
    rintro ⟨missing, other, _⟩
    exact kept ⟨missing, other⟩

/-! ## Attributes -/

/-- What stands under the properties of a node. -/
def statedProperties (links : Links) (node : Fields Value) : Fields Value :=
  (links.fieldsIfPresent (node.value "properties")).toOption.getD []

/-- An attribute has the default `None`, as it is or within a `Field`. -/
def DefaultsToNone (a : Source.Parameter) : Prop :=
  a.default = some "None" ∨ ∃ rest, a.default = some ("Field(default=None, " ++ rest)

/-- An attribute goes by a key: by its name, or by an alias. -/
def GoesBy (key : String) (a : Source.Parameter) : Prop :=
  a.name = key ∨ ∃ start, a.default = some (start ++ "alias=" ++ Text.quote key ++ ")")

/-- An attribute against the key of its property, which may be required. -/
structure AttributeCarries (required : Prop) (key : String) (a : Source.Parameter) : Prop where
  key : GoesBy key a
  default : DefaultsToNone a ↔ ¬ required
  optional : ∃ hint, a.hint = some hint ∧ hint.OptionalWhen (¬ required)

/-- The default of an attribute is `None` exactly when the type of its field is nullable. -/
theorem defaultsToNone_iff {a : Source.Parameter} {f : ModelField} (h : a.default = attributeDefault a.name f) :
    DefaultsToNone a ↔ f.type.nullable = true := by
  rw [DefaultsToNone, h, attributeDefault]
  cases f.type.nullable with
  | true =>
    split
    · simp
    · simp only [if_true, iff_true]
      refine .inr ⟨"alias=" ++ Text.quote f.name ++ ")", ?_⟩
      rw [← String.append_assoc, ← String.append_assoc]
      rfl
  | false =>
    split
    · simp
    · -- the texts part at their seventh character
      have none : ∀ rest, "Field(alias=" ++ rest ≠ "None" := by
        intro rest same
        have lengths := congrArg String.length same
        have twelve : "Field(alias=".length = 12 := by decide
        have four : "None".length = 4 := by decide
        rw [String.length_append] at lengths
        omega
      have other : ∀ tail rest, "Field(alias=" ++ tail ≠ "Field(default=None, " ++ rest := by
        intro tail rest same
        have seventh := congrArg (fun s => s.toList[6]?) same
        simp at seventh
      simp only [Bool.false_eq_true, if_false, Option.some.injEq, iff_false, not_or, not_exists]
      rw [String.append_assoc]
      exact ⟨none _, other _⟩

theorem goesBy_of_default {a : Source.Parameter} {f : ModelField} (h : a.default = attributeDefault a.name f) :
    GoesBy f.name a := by
  rw [attributeDefault] at h
  split at h
  · next same => exact .inl same
  · split at h
    · refine .inr ⟨"Field(default=None, ", ?_⟩
      rw [h]
      rfl
    · refine .inr ⟨"Field(", ?_⟩
      rw [h]
      rfl

/-- The attribute of a property carries whether it is required. -/
theorem attributeCarries {context : TypeContext} {key : String} {p : Property} {a : Source.Parameter}
    {hint : TypeHint} (spelled : typeHint (namesOf d) (context.resolve p) = .ok hint) (hinted : a.hint = some hint)
    (default : a.default = attributeDefault a.name ⟨key, context.resolve p⟩) :
    AttributeCarries (p.required = true) key a := by
  obtain ⟨t, resolved, heq⟩ := context.exists_resolved p
  have nullable : (context.resolve p).nullable = !p.required := rfl
  have missing : (!p.required) = true ↔ ¬ p.required = true := by simp
  constructor
  · exact goesBy_of_default default
  · rw [defaultsToNone_iff default, nullable, missing]
  · rw [heq] at spelled
    have optional := optionalWhen_of_typeHint resolved spelled
    rw [missing] at optional
    exact ⟨hint, hinted, optional⟩

variable {links : Links} {node : Fields Value}

/-- The properties of a plain model are those that its node states, required where it lists them. -/
theorem readPlain_properties {m : Model} (read : Model.readPlain links node = .ok m) :
    List.Forall₂ (fun f p => p.1 = f.1 ∧ (p.2.required = true ↔ Requires links node f.1))
      (statedProperties links node) m.properties := by
  obtain ⟨required, described, listed, stated, each, _⟩ := readPlain_eq_ok read
  rw [statedProperties, stated]
  refine each.imp fun f p ⟨name, property⟩ => ⟨name, ?_⟩
  rw [Property.required_of_read property, List.contains_iff_mem, mem_readRequired_iff listed]

/-- A definition that is neither a reference nor composed reads as its own properties. -/
theorem effectiveProperties_plain {m : Model} (named : refTarget? node = none)
    (alone : links.present (node.value "allOf") = .ok false) (read : Model.read links (.object node) = .ok m)
    (definitions : Fields Model) :
    Model.readPlain links node = .ok m ∧ effectiveProperties definitions m = m.properties := by
  obtain ⟨onward, same⟩ := exists_readWith links
  have plain : Model.readPlain links node = .ok m := by
    rw [same, Model.readWith, named] at read
    simp only [alone, ok_bind] at read
    exact read
  refine ⟨plain, ?_⟩
  rw [effectiveProperties]
  cases definitions.length with
  | zero =>
    rw [propertiesFrom]
    exact propertiesWith_plain plain
  | succ fuel =>
    rw [propertiesFrom]
    exact propertiesWith_plain plain

/-- The class of a plain definition carries what it requires. -/
theorem class_carries {context : TypeContext} {key c : String} {m : Model} {decl : ClassDecl}
    (named : refTarget? node = none) (alone : links.present (node.value "allOf") = .ok false)
    (read : Model.read links (.object node) = .ok m)
    (made : modelClass (namesOf d) c (modelOf context (key, m)) = .ok decl) :
    List.Forall₂ (fun f a => AttributeCarries (Requires links node f.1) f.1 a)
      (statedProperties links node) decl.attributes := by
  obtain ⟨plain, own⟩ := effectiveProperties_plain named alone read context.definitions
  have fields := modelClass_hasFields made
  rw [HasFields, own] at fields
  refine (forall₂_trans (readPlain_properties plain) fields).imp fun f a h => ?_
  obtain ⟨⟨key, property⟩, ⟨same, required⟩, hint, spelled, hinted, default⟩ := h
  have carries := attributeCarries spelled hinted default
  rw [required] at carries
  exact same ▸ carries

/-! ## Arguments -/

/-- The text in a field of a node. -/
def textIn (links : Links) (node : Fields Value) (name : String) : Option String :=
  match links.look (node.value name) with
  | .ok (.str s) => some s
  | _ => none

/-- Whether a parameter or a request body is flagged as required. -/
def flagged (links : Links) (node : Fields Value) : Bool :=
  (links.present (node.value "required")).toOption.getD false

/-- The nodes of the parameters that a value lists. -/
def parameterNodes (links : Links) (v : Value) : List (Fields Value) :=
  ((links.itemsIfPresent v).toOption.getD []).map fun item => (links.fields item).toOption.getD []

/-- The node of a request body, if there is one. -/
def bodyNodes (links : Links) (v : Value) : List (Fields Value) :=
  if (links.present v).toOption.getD false then [(links.fields v).toOption.getD []] else []

/-- The places in a request that an argument can go to. -/
def boundPlaces : List String := ["path", "query", "body"]

/-- Whether a parameter goes to one of these places. -/
def isBoundNode (links : Links) (node : Fields Value) : Bool :=
  boundPlaces.any fun place => textIn links node "in" == some place

/-- Whether one of an operation's own parameters has the name and the place of another one. -/
def overrides (links : Links) (own : List (Fields Value)) (node : Fields Value) : Bool :=
  own.any fun n =>
    textIn links n "name" == textIn links node "name" && textIn links n "in" == textIn links node "in"

/-- The nodes of an entry that arguments are made of: the parameters of the operation, those of its path that
are not overridden, and the request body. -/
def boundNodes (links : Links) (e : Entry) : List (Fields Value) :=
  let operation := (links.fields e.node).toOption.getD []
  let own := parameterNodes links (operation.value "parameters")
  let shared := parameterNodes links e.shared
  (own ++ shared.filter (!overrides links own ·)).filter (isBoundNode links) ++
    bodyNodes links (operation.value "requestBody")

/-- An argument against the flag of its parameter. -/
structure ArgumentCarries (required : Bool) (a : Source.Parameter) : Prop where
  default : a.default = if required then none else some "None"
  optional : ∃ hint, a.hint = some hint ∧ hint.OptionalWhen (required = false)

/-- A parameter that is read from a node. -/
structure ReadFrom (links : Links) (node : Fields Value) (p : Schema.Parameter) : Prop where
  name : textIn links node "name" = some p.name
  location : Location.read links (node.value "in") = .ok p.location
  required : flagged links node = p.required

/-- A parameter of a method against a node: its type is nullable when the node is not flagged. -/
def TypedFrom (links : Links) (node : Fields Value) (p : MethodParameter) : Prop :=
  ∃ t : TypeRef, t.Resolved ∧ p.type = t.withNullable (!flagged links node)

theorem textIn_name {name : Value} {s : String} (there : demand node "name" = .ok name)
    (text : name.requiredText = .ok s) : textIn links node "name" = some s := by
  rw [demand] at there
  cases stated : node.get? "name" with
  | none =>
    rw [stated] at there
    cases there
  | some v =>
    rw [stated] at there
    obtain rfl : v = name := Except.ok.inj there
    have value : node.value "name" = v := by
      rw [Fields.value, stated]
      rfl
    rw [textIn, value]
    cases v with
    | str =>
      cases text
      rfl
    | _ => cases text

theorem flagged_of_present {required : Bool} (h : links.present (node.value "required") = .ok required) :
    flagged links node = required := by
  rw [flagged, h]
  rfl

/-- A parameter is read from the fields of what it stands for. -/
theorem readFrom_of_read {v : Value} {p : Schema.Parameter} (h : Schema.Parameter.read links v = .ok p) :
    ReadFrom links ((links.fields v).toOption.getD []) p := by
  cases Schema.Parameter.readAs_of_read h with
  | inBody object place labelled text flag | elsewhere object place _ labelled text flag =>
    rw [object]
    exact ⟨textIn_name labelled text, place, flagged_of_present flag⟩

/-- The place of a parameter is that which its node names. -/
theorem ReadFrom.location_iff {p : Schema.Parameter} (h : ReadFrom links node p) {location : Location}
    (named : location ≠ .other) : p.location = location ↔ textIn links node "in" = some location.name := by
  obtain ⟨w, seen, located⟩ := bind_eq_ok.mp h.location
  rw [textIn, seen]
  cases w with
  | str s =>
    have place : p.location = .ofName s := (Except.ok.inj located).symm
    simp [place, Location.ofName_eq_iff named]
  | _ =>
    have place : p.location = .other := (Except.ok.inj located).symm
    simp [place, named.symm]

/-- A parameter goes to the path, the query or the body when its node says so. -/
theorem ReadFrom.isBoundNode_iff {p : Schema.Parameter} (h : ReadFrom links node p) :
    isBoundNode links node = true ↔ p.location = .path ∨ p.location = .query ∨ p.location = .body := by
  have path : p.location = .path ↔ textIn links node "in" = some "path" := h.location_iff (by decide)
  have query : p.location = .query ↔ textIn links node "in" = some "query" := h.location_iff (by decide)
  have body : p.location = .body ↔ textIn links node "in" = some "body" := h.location_iff (by decide)
  rw [path, query, body]
  simp [isBoundNode, boundPlaces]

/-- A parameter that is bound is overridden exactly when its node is. -/
theorem overrides_eq {own : List (Fields Value)} {declared : List Schema.Parameter}
    (each : List.Forall₂ (ReadFrom links) own declared) {p : Schema.Parameter} (h : ReadFrom links node p)
    (bound : isBoundNode links node = true) : overrides links own node = isOverridden declared p := by
  have named : p.location ≠ .other := by
    intro other
    rcases h.isBoundNode_iff.mp bound with place | place | place <;> rw [other] at place <;> cases place
  have place : textIn links node "in" = some p.location.name := (h.location_iff named).mp rfl
  have same : ∀ n q, ReadFrom links n q →
      (textIn links n "name" = textIn links node "name" ∧ textIn links n "in" = textIn links node "in" ↔
        q.name = p.name ∧ q.location = p.location) := by
    intro n q hq
    rw [hq.name, h.name, place, ← hq.location_iff named, Option.some.injEq]
  rw [Bool.eq_iff_iff, overrides, isOverridden, List.any_eq_true, List.any_eq_true]
  simp only [Bool.and_eq_true, beq_iff_eq]
  constructor
  · rintro ⟨n, hn, agrees⟩
    obtain ⟨q, hq, rel⟩ := exists_of_mem_left each hn
    exact ⟨q, hq, (same n q rel).mp agrees⟩
  · rintro ⟨q, hq, agrees⟩
    obtain ⟨n, hn, rel⟩ := exists_of_mem_right each hq
    exact ⟨n, hn, (same n q rel).mpr agrees⟩

/-- A parameter that is bound is one of the method, with a type that carries the flag. -/
theorem exists_methodParameter {p : Schema.Parameter}
    (bound : p.location = .path ∨ p.location = .query ∨ p.location = .body) :
    ∃ q, methodParameter? p = some q ∧ ∃ t : TypeRef, t.Resolved ∧ q.type = t.withNullable (!p.required) := by
  obtain ⟨b, t, found, resolved⟩ := exists_boundType bound
  obtain ⟨q, made, _, type⟩ := exists_parameter found
  exact ⟨q, made, t, resolved, type⟩

theorem methodParameter?_eq_none {p : Schema.Parameter}
    (free : ¬ (p.location = .path ∨ p.location = .query ∨ p.location = .body)) : methodParameter? p = none := by
  rw [methodParameter?, boundType?]
  cases place : p.location with
  | path => exact absurd (.inl place) free
  | query => exact absurd (.inr (.inl place)) free
  | body => exact absurd (.inr (.inr place)) free
  | _ => rfl

/-- A node that is bound gives a parameter of the method, another one none. -/
theorem ReadFrom.typedFrom {p : Schema.Parameter} (h : ReadFrom links node p) :
    if isBoundNode links node then ∃ q, methodParameter? p = some q ∧ TypedFrom links node q
    else methodParameter? p = none := by
  split
  · next bound =>
    obtain ⟨q, found, typed⟩ := exists_methodParameter (h.isBoundNode_iff.mp bound)
    rw [← h.required] at typed
    exact ⟨q, found, typed⟩
  · next free => exact methodParameter?_eq_none (mt h.isBoundNode_iff.mpr free)

/-- The parameters that a value lists are read from their nodes. -/
theorem readFrom_parameterNodes {v : Value} {items : List Value} {ps : List Schema.Parameter}
    (listed : links.itemsIfPresent v = .ok items) (read : items.mapM (Schema.Parameter.read links) = .ok ps) :
    List.Forall₂ (ReadFrom links) (parameterNodes links v) ps := by
  rw [parameterNodes, listed]
  exact List.forall₂_map_left_iff.mpr ((mapM_eq_ok.mp read).imp fun _ _ => readFrom_of_read)

/-- A request body gives a parameter of the method. -/
theorem typedFrom_bodyNodes {v : Value} {ps : List Schema.Parameter} (read : readRequestBody links v = .ok ps) :
    List.Forall₂ (TypedFrom links) (bodyNodes links v) (ps.filterMap methodParameter?) := by
  rw [readRequestBody] at read
  obtain ⟨present, seen, read⟩ := bind_eq_ok.mp read
  rw [bodyNodes, seen]
  cases present with
  | false =>
    cases read
    exact .nil
  | true =>
    simp only [if_true, bind_eq_ok] at read
    obtain ⟨node, fields, _, _, required, flag, schema, _, heq⟩ := read
    cases heq
    obtain ⟨q, found, t, resolved, type⟩ :=
      @exists_methodParameter { name := "body", location := .body, required, schema } (.inr (.inr rfl))
    rw [fields, List.filterMap_cons, found]
    show List.Forall₂ (TypedFrom links) [node] [q]
    refine .cons ⟨t, resolved, ?_⟩ .nil
    rw [type, flagged_of_present flag]

/-- The parameters of an operation's method carry the flags of the nodes that they are made of. -/
theorem typedFrom_boundNodes {e : Entry} {o : Operation}
    (read : Operation.read links e.verb e.node e.shared = .ok o) :
    List.Forall₂ (TypedFrom links) (boundNodes links e) (o.parameters.filterMap methodParameter?) := by
  obtain ⟨operation, ownItems, declared, sharedItems, common, body, fields, ownListed, ownRead, sharedListed, sharedRead,
    bodyRead, parameters⟩ := Operation.parameters_of_read read
  have own := readFrom_parameterNodes ownListed ownRead
  have shared := readFrom_parameterNodes sharedListed sharedRead
  rw [boundNodes, fields, parameters]
  show List.Forall₂ (TypedFrom links)
    ((parameterNodes links (operation.value "parameters") ++
        (parameterNodes links e.shared).filter
          (!overrides links (parameterNodes links (operation.value "parameters")) ·)).filter (isBoundNode links) ++
      bodyNodes links (operation.value "requestBody"))
    ((declared ++ common.filter (!isOverridden declared ·) ++ body).filterMap methodParameter?)
  rw [List.filter_append, List.filter_filter, List.filterMap_append, List.filterMap_append, List.filterMap_filter]
  refine List.rel_append (List.rel_append ?_ ?_) (typedFrom_bodyNodes bodyRead)
  · exact forall₂_kept own fun _ _ h => h.typedFrom
  · refine forall₂_kept shared fun n p h => ?_
    have typed := h.typedFrom
    cases bound : isBoundNode links n with
    | false =>
      rw [bound] at typed
      simp only [Bool.false_and, Bool.false_eq_true, if_false] at typed ⊢
      rw [typed]
      split <;> rfl
    | true =>
      rw [bound] at typed
      rw [overrides_eq own h bound]
      cases isOverridden declared p with
      | false => exact typed
      | true => rfl

/-! ## The places of a document -/

/-- The root that is read: an empty object in place of one that is not present. -/
def rootIn (links : Links) (root : Value) : Value :=
  match links.present root with
  | .ok false => .object []
  | _ => root

/-- The definitions of a document that may have links. -/
def definitionsIn (links : Links) (root : Value) : Fields Value :=
  (partFields links "definitions" (findDefinitions links (rootIn links root))).toOption.getD []

/-- The entries of a path, whose operations may stand behind a link. -/
def entriesUnder (links : Links) (p : String × Value) : List Entry :=
  match PathItem.read links p.2 with
  | .ok item => item.verbs.map fun f => ⟨p.1, f.1, f.2, item.shared⟩
  | .error _ => []

/-- The entries of a document that may have links. -/
def entriesIn (links : Links) (root : Value) : List Entry :=
  ((partFields links "paths" (findPaths links (rootIn links root))).toOption.getD []).flatMap (entriesUnder links)

/-- The endpoints of a document are those of its entries that can be read. -/
theorem endpoints_entriesIn (links : Links) (root : Value) : (Document.read links root).1.endpoints =
    (entriesIn links root).filterMap fun e => (e.read links).toOption := by
  have each : ∀ paths : Fields Value, (readPaths links paths).1.flatMap pathEndpoints =
      (paths.flatMap (entriesUnder links)).filterMap fun e => (e.read links).toOption := by
    intro paths
    induction paths with
    | nil => rfl
    | cons p rest ih =>
      rw [readPaths, List.flatMap_cons, List.filterMap_append, ← ih, entriesUnder]
      cases PathItem.read links p.2 with
      | error => rfl
      | ok item =>
        rw [← (@readOperations_eq links p.1 item.shared item.verbs).1]
        rfl
  have paths := (@readPart_eq links "paths" (findPaths links (rootIn links root))).1
  rw [entriesIn, ← each, ← paths]
  rfl

/-- The entries of a document without links are those that stand in it. -/
theorem entriesIn_plain {root : Value} (plain : root.isPlain = true) : entriesIn links root = entriesOf root := by
  have seen : rootIn links root = presentRoot root := by
    rw [rootIn, Links.present_plain plain, presentRoot]
    cases root.truthy <;> rfl
  rw [entriesIn, seen, partFields_paths plain]
  refine List.flatMap_congr fun p hp => ?_
  rw [entriesUnder, pathItem_plain (statedPaths_plain plain p hp), pathEntries]
  cases p.2 <;> rfl

/-- The definitions of a document without links are those that stand in it. -/
theorem definitionsIn_plain {root : Value} (plain : root.isPlain = true) :
    definitionsIn links root = definitionsOf root := by
  have seen : rootIn links root = presentRoot root := by
    rw [rootIn, Links.present_plain plain, presentRoot]
    cases root.truthy <;> rfl
  rw [definitionsIn, seen, partFields_definitions plain]
  rfl

/-! ## The package -/

/-- The classes of the models against the definitions of a document. -/
structure ClassesCarry (links : Links) (root : Value) (document : Document) (d : Description) (models : File) :
    Prop where
  /-- The class of a definition that is neither a reference nor composed carries what the definition lists. -/
  plain : ∀ key node m c, (key, .object node) ∈ definitionsIn links root → refTarget? node = none →
    links.present (node.value "allOf") = .ok false → Model.read links (.object node) = .ok m →
    (c, modelOf (contextOf document d) (key, m)) ∈ modelsByClass (namesOf d) d.models →
    ∃ decl, (c, decl) ∈ models.classes ∧
      List.Forall₂ (fun f a => AttributeCarries (Requires links node f.1) f.1 a)
        (statedProperties links node) decl.attributes
  /-- No attribute of any class is optional inside. -/
  shallow : ∀ q ∈ models.classes, ∀ a ∈ q.2.attributes, ∃ hint, a.hint = some hint ∧ hint.Shallow

/-- A function against the entry that it is made of. -/
structure FunctionCarries (links : Links) (e : Entry) (f : FunctionDecl) : Prop where
  /-- The arguments carry the flags of their parameters and of the request body. -/
  arguments : ∃ arguments, f.parameters = { name := "self" } :: arguments ∧
    List.Forall₂ (fun node a => ArgumentCarries (flagged links node) a) (boundNodes links e) arguments
  /-- The result is not optional. -/
  response : ∃ hint : TypeHint, hint.NeverOptional ∧ f.response = hint.text

/-- What a result is made of is nothing or of a resolved type. -/
theorem payload_resolved {result : Option (String × Bool)} {t : TypeRef}
    (h : payload (resultType result) = some t) : t = .scalar .unit ∨ t.Resolved := by
  rcases result with _ | ⟨name, _ | _⟩
  · cases h
    exact .inl rfl
  · cases h
    exact .inr (.named name)
  · cases h
    exact .inr (.listOf (.named name))

/-- The type hint of a result is not optional. -/
theorem response_neverOptional {result : Option (String × Bool)} {m : Method} {model : Option String}
    {response : String} (returns : m.returns = resultType result)
    (delivers : Delivers (namesOf d) m model response) :
    ∃ hint : TypeHint, hint.NeverOptional ∧ response = hint.text := by
  cases delivers with
  | nothing _ _ text => exact ⟨.of "None", TypeHint.neverOptional_of _, text.trans (text_of _).symm⟩
  | result t hint delivered _ spelled text =>
    rw [returns] at delivered
    rcases payload_resolved delivered with rfl | resolved
    · cases spelled
      exact ⟨_, TypeHint.neverOptional_of _, text⟩
    · obtain ⟨base, never, _, _, hinted⟩ := @exists_baseHint d t resolved
      have bare := hinted false
      rw [resolved.withNullable_false, spelled] at bare
      obtain rfl : hint = base := Except.ok.inj bare
      exact ⟨hint, never, text⟩

/-- The function of an entry's method carries the flags of the entry. -/
theorem function_carries {modelNames : List String} {overrides : Value} {e : Entry} {m : Method} {f : FunctionDecl}
    (outcome : e.outcome links modelNames overrides = .ok m) (made : methodFunction (namesOf d) m = .ok f)
    (own : String) : FunctionCarries links e { f with name := own } := by
  obtain ⟨endpoint, read, method⟩ := bind_eq_ok.mp outcome
  obtain ⟨o, operation, heq⟩ := bind_eq_ok.mp read
  cases heq
  obtain ⟨parameters, returns⟩ := methodOf_eq_ok method
  obtain ⟨arguments, model, response, each, delivers, rfl⟩ := methodFunction_eq_ok made
  have typed := typedFrom_boundNodes operation
  rw [← show m.parameters = o.parameters.filterMap methodParameter? from parameters] at typed
  have named := forall₂_of_zip (length_argumentNames ["self"] m.parameters) each
  obtain ⟨result, known⟩ := exists_resultType modelNames o
  constructor
  · refine ⟨arguments, rfl, (forall₂_trans typed named).imp fun node a h => ?_⟩
    obtain ⟨p, ⟨t, resolved, type⟩, name, ha⟩ := h
    obtain ⟨hint, spelled, rfl⟩ := argument_eq_ok.mp ha
    have flag : p.type.nullable = !flagged links node := by
      rw [type]
      rfl
    constructor
    · show (if p.type.nullable = true then some "None" else none) = _
      rw [flag]
      cases flagged links node <;> rfl
    · refine ⟨hint, rfl, ?_⟩
      rw [type] at spelled
      have optional := optionalWhen_of_typeHint resolved spelled
      rwa [Bool.not_eq_true'] at optional
  · exact response_neverOptional (returns.trans known) delivers

/-- **Requiredness is carried end to end.** From every document and under all settings the files of the models
and of the interface can be rendered. The classes of plain definitions carry what these list as required, the
functions carry the flags of their parameters and request bodies, nothing is optional inside of a type hint,
and the files are those that a package has. -/
theorem requiredness_carried (links : Links) (settings config : Settings) (root : Value) :
    let document := (Document.read links root).1
    let d := (describe links settings document).1
    ∃ models interface name decl,
      modelsFile (namesOf d) d.models = .ok models ∧
      interfaceFile (namesOf d) (className d.interface.name) ("Методы API " ++ config.componentName.text)
        d.interface.methods = .ok interface ∧
      ClassesCarry links root document d models ∧
      interface.classes = [(name, decl)] ∧
      List.Forall₂ (fun e q => FunctionCarries links e q.2)
        ((entriesIn links root).filter fun e =>
          (e.outcome links d.modelNames settings.headerOverrides).toOption.isSome)
        decl.functions ∧
      ∀ p, package config d = .ok p →
        ∃ others, p.files = enumsFile d.enums :: models :: interface :: others := by
  intro document d
  have wellFormed := describe_wellFormed links settings document
  obtain ⟨models, hm⟩ := exists_modelsFile (namesOf d) wellFormed.models
  obtain ⟨interface, hi⟩ := exists_interfaceFile (namesOf d) (className d.interface.name)
    ("Методы API " ++ config.componentName.text) wellFormed.methods
  obtain ⟨functions, each, classes, _⟩ := interfaceFile_eq_ok hi
  refine ⟨models, interface, _, _, hm, hi, { plain := ?_, shallow := ?_ }, classes, ?_, ?_⟩
  · intro key node m c _ named alone read rendered
    obtain ⟨q, hq, same, built⟩ := exists_of_mem_left (modelsFile_eq_ok hm).1 rendered
    refine ⟨q.2, ?_, class_carries named alone read built⟩
    rw [← show q.1 = c from same]
    exact hq
  · intro q hq a ha
    obtain ⟨⟨c, m⟩, rendered, _, built⟩ := exists_of_mem_right (modelsFile_eq_ok hm).1 hq
    obtain ⟨definition, _, rfl⟩ := List.mem_map.mp (of_mem_modelsByClass rendered).1
    obtain ⟨p, _, hint, spelled, hinted, default⟩ := exists_of_mem_right (modelClass_hasFields built) ha
    obtain ⟨hint, hinted, optional⟩ := (attributeCarries spelled hinted default).optional
    exact ⟨hint, hinted, optional.shallow⟩
  · have listed : d.interface.methods = (entriesIn links root).filterMap fun e =>
        (e.outcome links d.modelNames settings.headerOverrides).toOption := by
      have methods : d.interface.methods = document.endpoints.filterMap fun e =>
          (methodOf d.modelNames settings.headerOverrides e).toOption := (methods_eq ..).1
      rw [methods, endpoints_entriesIn]
      exact (results_bind ..).symm
    rw [listed] at each
    refine (forall₂_trans (forall₂_filterMap _ _) each).imp fun e q h => ?_
    obtain ⟨m, outcome, f, made, placed⟩ := h
    rw [placed]
    exact function_carries (toOption_eq_some.mp outcome) made q.1
  · intro p hp
    obtain ⟨models', interface', others, hm', hi', files⟩ := package_eq_ok hp
    cases hm.symm.trans hm'
    cases hi.symm.trans hi'
    exact ⟨others, files⟩

/-- A definition that requires the first of its two properties; the other is a list of lists. -/
def petNode : Fields Value :=
  [("required", .list [.str "id"]), ("properties", .object [
    ("id", .object [("type", .str "integer")]),
    ("tags", .object [("type", .str "array"), ("items", .object [
      ("type", .str "array"), ("items", .object [("type", .str "string")])])])])]

/-- What is read of it. -/
def petModel : Model :=
  { properties := [
      ("id", { kind := .primitive, type := some "integer", required := true }),
      ("tags", .arrayOf (some (.arrayOf (some { kind := .primitive, type := some "string", required := true }) true))
        false)] }

/-- An operation with two parameters, of which the first is flagged. -/
def petEntry : Entry :=
  { path := "/pets", verb := "get", shared := .null
    node := .object [("operationId", .str "find"), ("parameters", .list [
      .object [("name", .str "id"), ("in", .str "query"), ("required", .bool true)],
      .object [("name", .str "limit"), ("in", .str "query")]])] }

/-- A document of the definition and the operation. -/
def petRoot : Value :=
  .object [("definitions", .object [("Pet", .object petNode)]),
    ("paths", .object [("/pets", .object [("get", petEntry.node)])])]

/-- The first attribute and the first argument are required, the others are not. -/
theorem requiredness_carried_pet :
    let d := (describe .none {} (Document.read .none petRoot).1).1
    ∃ models interface name decl, modelsFile (namesOf d) d.models = .ok models ∧
      interfaceFile (namesOf d) (className d.interface.name)
        ("Методы API " ++ ({} : Settings).componentName.text) d.interface.methods = .ok interface ∧
      interface.classes = [(name, decl)] ∧
      (∃ pet id tags, ("Pet", pet) ∈ models.classes ∧ pet.attributes = [id, tags] ∧
        ¬ DefaultsToNone id ∧ DefaultsToNone tags) ∧
      ∃ f ∈ decl.functions.values, ∃ id limit, f.parameters = [{ name := "self" }, id, limit] ∧
        ArgumentCarries true id ∧ ArgumentCarries false limit := by
  intro d
  obtain ⟨models, interface, name, decl, rendered, file, carries, classes, functions, _⟩ :=
    requiredness_carried .none {} {} petRoot
  refine ⟨models, interface, name, decl, rendered, file, classes, ?_, ?_⟩
  · have stated : ("Pet", Value.object petNode) ∈ definitionsIn .none petRoot := by
      rw [definitionsIn_plain rfl]
      exact List.mem_cons_self
    have given : (namesOf d).models.get? "Pet" = some "Pet" := by decide +kernel
    have split : d.models =
        [] ++ modelOf (contextOf (Document.read .none petRoot).1 d) ("Pet", petModel) :: [] := rfl
    have chosen := ClassNames.mem_modelsByClass d split nofun given
    obtain ⟨pet, member, attributes⟩ := carries.plain "Pet" petNode petModel "Pet" stated rfl rfl rfl chosen
    have listed : ∀ name, Requires .none petNode name ↔ .str name ∈ [Value.str "id"] :=
      requires_iff_mem (Value.isPlain_object.mp rfl) rfl
    have required : Requires .none petNode "id" := (listed "id").mpr List.mem_cons_self
    have free : ¬ Requires .none petNode "tags" := by
      rw [listed "tags"]
      simp
    obtain ⟨id, _, first, others, split⟩ := List.forall₂_cons_left_iff.mp attributes
    obtain ⟨tags, _, second, none, rfl⟩ := List.forall₂_cons_left_iff.mp others
    cases none
    exact ⟨pet, id, tags, member, split, fun none => first.default.mp none required, second.default.mpr free⟩
  · have entry : petEntry ∈ (entriesIn .none petRoot).filter fun e =>
        (e.outcome .none d.modelNames ({} : Settings).headerOverrides).toOption.isSome := by
      rw [entriesIn_plain rfl]
      exact List.mem_filter.mpr ⟨List.mem_cons_self, rfl⟩
    obtain ⟨f, hf, function⟩ := exists_of_mem_left functions entry
    obtain ⟨arguments, parameters, carries⟩ := function.arguments
    have nodes : boundNodes .none petEntry =
        [[("name", .str "id"), ("in", .str "query"), ("required", .bool true)],
         [("name", .str "limit"), ("in", .str "query")]] := rfl
    rw [nodes] at carries
    obtain ⟨id, _, first, others, rfl⟩ := List.forall₂_cons_left_iff.mp carries
    obtain ⟨limit, _, second, none, rfl⟩ := List.forall₂_cons_left_iff.mp others
    cases none
    exact ⟨f.2, List.mem_map_of_mem hf, id, limit, parameters, first, second⟩

end Client

end TypedClient
