import TypedClient.Proofs.LazyLinks
import TypedClient.Proofs.Literals
import TypedClient.Proofs.Respelling

/-!
# What reading looks at

A reference is only named where a schema is expected. Everywhere else a reader looks at the values that it
is given, and a link would have to be followed. `Document.visits` lists the values that the reading of a
plain document looks at away from the places of schemas, in the order in which it does; a step that fails
ends the list. Names and formats are not on it: there a reference is at fault whatever it leads to. Neither
are the literals of an enumeration, which are kept without being looked at.

**What is proved.** Reading a plain value and reading the same value with its links `Agree`: if nothing that
is looked at is a reference, both fail with one fault or both succeed, and what the second one gives is
what the first one gives but for the links among the literals (`Document.read_agrees`). Each way of
reading has its list of visits and its lemma, and `Agrees.bind` puts both together for a chain.
-/

namespace TypedClient

open Schema

/-! ## Readings that agree -/

section

variable {α β γ δ : Type} {R : α → β → Prop} {S : γ → δ → Prop}

/-- Two outcomes with one fault, or with results that stand to each other. -/
inductive Matches (R : α → β → Prop) : Except Fault α → Except Fault β → Prop
  | ok {a : α} {b : β} (h : R a b) : Matches R (.ok a) (.ok b)
  | error (fault : Fault) : Matches R (.error fault) (.error fault)

/-- Two readings that match if nothing they look at is a reference. -/
def Agrees (visits : List Value) (R : α → β → Prop) (plain : Except Fault α) (lazily : Except Fault β) : Prop :=
  Quiet visits → Matches R plain lazily

/-- What is looked at after a step, if it succeeds. -/
def after (x : Except Fault α) (rest : α → List Value) : List Value :=
  match x with
  | .ok a => rest a
  | .error _ => []

variable {visits : List Value} {x : Except Fault α} {y : Except Fault β}

theorem Matches.imp {T : α → β → Prop} (h : Matches R x y) (sub : ∀ a b, R a b → T a b) : Matches T x y := by
  cases h with
  | ok h => exact .ok (sub _ _ h)
  | error fault => exact .error fault

theorem Matches.eqs (h : Matches R x y) : (∃ a b, R a b ∧ x = .ok a ∧ y = .ok b) ∨
    ∃ fault, x = .error fault ∧ y = .error fault := by
  cases h with
  | ok h => exact .inl ⟨_, _, h, rfl, rfl⟩
  | error fault => exact .inr ⟨fault, rfl, rfl⟩

theorem Matches.refl (x : Except Fault α) : Matches Eq x x := by
  cases x with
  | ok a => exact .ok rfl
  | error fault => exact .error fault

theorem Matches.bind {f : α → Except Fault γ} {g : β → Except Fault δ} (first : Matches R x y)
    (later : ∀ a b, R a b → Matches S (f a) (g b)) : Matches S (x >>= f) (y >>= g) := by
  cases first with
  | ok h => exact later _ _ h
  | error fault => exact .error fault

theorem Agrees.ok {a : α} {b : β} (h : R a b) : Agrees [] R (.ok a) (.ok b) := fun _ => .ok h

/-- **A chain of readings** looks at what its first step looks at and, if that succeeds, at what the rest
looks at. -/
theorem Agrees.bind {f : α → Except Fault γ} {g : β → Except Fault δ} {rest : α → List Value}
    (first : Agrees visits R x y) (later : ∀ a b, R a b → Agrees (rest a) S (f a) (g b)) :
    Agrees (visits ++ after x rest) S (x >>= f) (y >>= g) := by
  intro quiet
  obtain ⟨quietFirst, quietRest⟩ := quiet_append.mp quiet
  cases first quietFirst with
  | ok h => exact later _ _ h quietRest
  | error fault => exact .error fault

/-- A step that looks at nothing more. -/
theorem Agrees.step {f : α → Except Fault γ} {g : β → Except Fault δ} (first : Agrees visits R x y)
    (later : ∀ a b, R a b → Matches S (f a) (g b)) : Agrees visits S (x >>= f) (y >>= g) :=
  fun quiet => (first quiet).bind later

/-- A first step that looks at nothing. -/
theorem Matches.step {f : α → Except Fault γ} {g : β → Except Fault δ} {rest : α → List Value}
    (first : Matches R x y) (later : ∀ a b, R a b → Agrees (rest a) S (f a) (g b)) :
    Agrees (after x rest) S (x >>= f) (y >>= g) := by
  cases first with
  | ok h => exact later _ _ h
  | error fault => exact fun _ => .error fault

theorem Agrees.map {f : α → γ} {g : β → δ} (agrees : Agrees visits R x y) (sub : ∀ a b, R a b → S (f a) (g b)) :
    Agrees visits S (x.map f) (y.map g) := by
  intro quiet
  cases agrees quiet with
  | ok h => exact .ok (sub _ _ h)
  | error fault => exact .error fault

/-- What is looked at on a way through a list that ends at the first fault. -/
def eachVisits (visits : α → List Value) (read : α → Except Fault γ) : List α → List Value
  | [] => []
  | a :: rest => visits a ++ after (read a) fun _ => eachVisits visits read rest

theorem Agrees.mapM {visits : α → List Value} {f : α → Except Fault γ} {g : β → Except Fault δ}
    (each : ∀ a b, R a b → Agrees (visits a) S (f a) (g b)) {as : List α} {bs : List β}
    (h : List.Forall₂ R as bs) : Agrees (eachVisits visits f as) (List.Forall₂ S) (as.mapM f) (bs.mapM g) := by
  induction h with
  | nil => exact Agrees.ok .nil
  | cons first _ ih =>
    rw [List.mapM_cons, List.mapM_cons]
    refine (each _ _ first).bind fun c d hcd => ?_
    exact ih.step fun cs ds rest => .ok (.cons hcd rest)

end

/-! ## Looking at values -/

/-- A value that is no reference, and the same value with its links: they have one shape. -/
inductive Seen : Value → Value → Prop
  | null : Seen .null .null
  | bool (b : Bool) : Seen (.bool b) (.bool b)
  | int (n : Int) : Seen (.int n) (.int n)
  | float (x : Binary64) : Seen (.float x) (.float x)
  | str (s : String) : Seen (.str s) (.str s)
  | moment (m : Moment) : Seen (.moment m) (.moment m)
  | list {vs ws : List Value} (items : List.Forall₂ Lazy vs ws) : Seen (.list vs) (.list ws)
  | object {fs gs : Fields Value} (fields : LazyFields fs gs) : Seen (.object fs) (.object gs)

theorem Lazy.seen {v w : Value} (h : Lazy v w) (notReference : Schema.refName? v = none) : Seen v w := by
  cases v with
  | list vs =>
    obtain ⟨ws, rfl, items⟩ := h.list
    exact .list items
  | object fs =>
    obtain ⟨gs, rfl, fields⟩ := h.object (Option.map_eq_none_iff.mp notReference)
    exact .object fields
  | link => cases notReference
  | _ =>
    rw [h.scalar (by simp) (by simp)]
    constructor

/-- Only null is null with its links. -/
theorem Lazy.eq_null_iff {v w : Value} (h : Lazy v w) : w = .null ↔ v = .null := by
  constructor
  · rintro rfl
    exact h.unlinked_eq.symm
  · rintro rfl
    exact h.scalar (by simp) (by simp)

theorem Lazy.text (s : String) : Lazy (.str s) (.str s) := ⟨rfl, "", [], rfl⟩

namespace Links

variable {links : Links} {v w : Value}

theorem look_agrees (h : Lazy v w) : Agrees [v] Seen (Links.none.look v) (links.look w) := by
  intro quiet
  have seen := h.seen (quiet v List.mem_cons_self)
  rw [look_plain h.1]
  cases seen with
  | list items => exact .ok (.list items)
  | object fields => exact .ok (.object fields)
  | _ => exact .ok (by constructor)

theorem present_agrees (h : Lazy v w) : Agrees [v] Eq (Links.none.present v) (links.present w) := by
  refine (look_agrees h).step fun a b seen => .ok ?_
  cases seen with
  | list items => cases items <;> rfl
  | object fields => cases fields <;> rfl
  | _ => rfl

theorem fields_agrees (h : Lazy v w) : Agrees [v] LazyFields (Links.none.fields v) (links.fields w) := by
  refine (look_agrees h).step fun a b seen => ?_
  cases seen with
  | object fields => exact .ok fields
  | _ => exact .error _

theorem isText_agrees (h : Lazy v w) (s : String) :
    Agrees [v] Eq (Links.none.isText v s) (links.isText w s) := by
  refine (look_agrees h).step fun a b seen => ?_
  cases seen <;> exact .ok rfl

theorem items_agrees (h : Lazy v w) :
    Agrees [v] (List.Forall₂ Lazy) (Links.none.items v) (links.items w) := by
  refine (look_agrees h).step fun a b seen => ?_
  cases seen with
  | list items => exact .ok items
  | str s =>
    refine .ok (List.forall₂_same.mpr fun c hc => ?_)
    obtain ⟨x, _, rfl⟩ := List.mem_map.mp hc
    exact Lazy.text _
  | object fields =>
    refine .ok ?_
    rw [List.forall₂_map_left_iff, List.forall₂_map_right_iff]
    exact fields.imp fun f g hfg => hfg.1 ▸ Lazy.text g.1
  | _ => exact .error _

theorem fieldsIfPresent_agrees (h : Lazy v w) :
    Agrees [v] LazyFields (Links.none.fieldsIfPresent v) (links.fieldsIfPresent w) := by
  intro quiet
  refine (present_agrees h quiet).bind fun present _ heq => ?_
  subst heq
  cases present with
  | true => exact fields_agrees h quiet
  | false => exact .ok .nil

theorem itemsIfPresent_agrees (h : Lazy v w) :
    Agrees [v] (List.Forall₂ Lazy) (Links.none.itemsIfPresent v) (links.itemsIfPresent w) := by
  intro quiet
  refine (present_agrees h quiet).bind fun present _ heq => ?_
  subst heq
  cases present with
  | true => exact items_agrees h quiet
  | false => exact .ok .nil

theorem optionalList_agrees (h : Lazy v w) :
    Agrees [v] (Option.Rel (List.Forall₂ Lazy)) (Links.none.optionalList v) (links.optionalList w) := by
  intro quiet
  cases h.seen (quiet v List.mem_cons_self) with
  | null => exact .ok .none
  | list items => exact .ok (.some items)
  | _ => exact .error _

/-- The text of a value that holds no reference. -/
theorem text_agrees (h : Lazy v w) : Agrees v.within Eq (Links.none.text v) (links.text w) := by
  intro quiet
  rw [h.eq_of_quiet quiet, text_plain h.1, text_plain h.1]
  exact .ok rfl

end Links

/-- A value with others inside it, or a link. -/
inductive Compound : Value → Prop
  | list (vs : List Value) : Compound (.list vs)
  | object (fs : Fields Value) : Compound (.object fs)
  | link (place : Place) (target : String) (fs : Fields Value) : Compound (.link place target fs)

theorem Lazy.eq_or_compound {v w : Value} (h : Lazy v w) : w = v ∨ Compound v ∧ Compound w := by
  cases v with
  | object fs =>
    cases ht : refTarget? fs with
    | none =>
      obtain ⟨gs, rfl, _⟩ := h.object ht
      exact .inr ⟨.object fs, .object gs⟩
    | some target =>
      obtain ⟨place, gs, rfl⟩ := h.reference ht
      exact .inr ⟨.object fs, .link _ _ _⟩
  | list vs =>
    obtain ⟨ws, rfl, _⟩ := h.list
    exact .inr ⟨.list vs, .list ws⟩
  | link => cases h.1
  | _ => exact .inl (h.scalar (by simp) (by simp))

/-- A text that is taken or nothing is the same with links: a reference is neither. -/
theorem optionalText_matches {v w : Value} (h : Lazy v w) : Matches Eq v.optionalText w.optionalText := by
  rcases h.eq_or_compound with rfl | ⟨hv, hw⟩
  · exact .refl _
  · cases hv <;> cases hw <;> exact .error _

theorem requiredText_matches {v w : Value} (h : Lazy v w) : Matches Eq v.requiredText w.requiredText := by
  rcases h.eq_or_compound with rfl | ⟨hv, hw⟩
  · exact .refl _
  · cases hv <;> cases hw <;> exact .error _

theorem Seen.isText_matches {links : Links} {v w : Value} (seen : Seen v w) (s : String) :
    Matches Eq (Links.none.isText v s) (links.isText w s) := by
  cases seen <;> exact .ok rfl

theorem Seen.optionalText_matches {v w : Value} (seen : Seen v w) :
    Matches Eq v.optionalText w.optionalText := by
  cases seen with
  | null => exact .ok rfl
  | str s => exact .ok rfl
  | _ => exact .error _

namespace Schema

variable {links : Links} {v w : Value} {fs gs : Fields Value}

/-- A reading without links, and the same one with links taken out again. -/
def Restores {α : Type} (restore : α → α) (a b : α) : Prop := restore b = a

theorem restores_map {α : Type} {restore : α → α} {as bs : List α}
    (h : List.Forall₂ (Restores restore) as bs) : Restores (List.map restore) as bs := by
  have same : as.map id = bs.map restore := map_eq_map (h.imp fun a b (hab : restore b = a) => hab.symm)
  rw [List.map_id] at same
  exact same.symm

theorem restores_change {α : Type} {restore : α → α} {as bs : Fields α}
    (h : List.Forall₂ (fun f g => g.1 = f.1 ∧ Restores restore f.2 g.2) as bs) :
    Restores (Fields.change fun _ => restore) as bs := by
  have each : List.Forall₂ (Restores fun g : String × α => (g.1, restore g.2)) as bs :=
    h.imp fun f g hfg => Prod.ext hfg.1 hfg.2
  exact restores_map each

theorem restores_literals {as bs : Option (List Value)} (h : Option.Rel (List.Forall₂ Lazy) as bs) :
    Restores (Option.map (List.map Value.unlinked)) as bs := by
  cases h with
  | none => rfl
  | some items =>
    have each : List.Forall₂ (Restores Value.unlinked) _ _ := items.imp fun v w lazily => lazily.unlinked_eq
    exact congrArg some (restores_map each)

/-! ## Types and properties -/

/-- What is looked at in a list of types: all up to the first that is not the text `null`. -/
def firstTypeVisits : List Value → List Value
  | [] => []
  | v :: rest => [v] ++ after (Links.none.isText v "null") fun isNull => if isNull then firstTypeVisits rest else []

/-- What is looked at in a type. -/
def typeVisits (v : Value) : List Value :=
  v :: match v with
    | .list vs => firstTypeVisits vs
    | _ => []

theorem firstType_agrees {vs ws : List Value} (h : List.Forall₂ Lazy vs ws) :
    Agrees (firstTypeVisits vs) Seen (firstType .none vs) (firstType links ws) := by
  induction h with
  | nil => exact Agrees.ok .null
  | @cons v w vs ws first _ ih =>
    intro quiet
    have seen := first.seen (quiet v (List.mem_append_left _ List.mem_cons_self))
    have agrees : Agrees (firstTypeVisits (v :: vs)) Seen (firstType .none (v :: vs))
        (firstType links (w :: ws)) := by
      refine (Links.isText_agrees first "null").bind fun isNull _ heq => ?_
      subst heq
      cases isNull with
      | true => exact ih
      | false => exact Agrees.ok seen
    exact agrees quiet

theorem typeOf_agrees (h : Lazy v w) : Agrees (typeVisits v) Seen (typeOf .none v) (typeOf links w) := by
  intro quiet
  cases h.seen (quiet v List.mem_cons_self) with
  | list items => exact firstType_agrees items fun u hu => quiet u (List.mem_cons_of_mem _ hu)
  | object fields => exact .ok (.object fields)
  | _ => exact .ok (by constructor)

/-- What is looked at in a property of a type that is neither an array nor an object. -/
def primitiveVisits (type : Value) (fields : Fields Value) : List Value :=
  after type.optionalText fun _ => after (fields.value "format").optionalText fun _ => [fields.value "enum"]

theorem Property.readPrimitive_agrees (seen : Seen v w) (h : LazyFields fs gs) (required : Bool) :
    Agrees (primitiveVisits v fs) (Restores (Property.mapLiterals Value.unlinked))
      (Property.readPrimitive .none v fs required) (Property.readPrimitive links w gs required) := by
  refine seen.optionalText_matches.step fun type _ heq => ?_
  subst heq
  refine (optionalText_matches (h.value "format")).step fun format _ heq => ?_
  subst heq
  refine (Links.optionalList_agrees (h.value "enum")).step fun literals literals' kept => .ok ?_
  show Property.mk _ _ _ _ _ _ _ = Property.mk _ _ _ _ _ _ _
  rw [restores_literals kept]

mutual
/-- What is looked at in a property. -/
def Property.visits (v : Value) : List Value := match v with
  | .object fields =>
    match refTarget? fields with
    | some _ => []
    | none =>
      if fields.isEmpty then []
      else typeVisits (Fields.value fields "type") ++ after (typeOf .none (Fields.value fields "type")) fun type =>
        after (Links.none.isText type "array") fun isArray =>
          if isArray then Property.itemsVisits fields
          else match type with
            | .null => []
            | type => after (Links.none.isText type "object") fun isObject =>
              if isObject then [] else primitiveVisits type fields
  | _ => []
termination_by structural v
/-- What is looked at in the items of a property. -/
def Property.itemsVisits (fields : List (String × Value)) : List Value := match fields with
  | [] => []
  | f :: rest => if f.1 = "items" then Property.itemVisits f else Property.itemsVisits rest
termination_by structural fields
/-- What is looked at in the items of a property. -/
def Property.itemVisits (field : String × Value) : List Value := match field with
  | (_, v) => Property.visits v
termination_by structural field
end

theorem restores_arrayOf {p q : Option Property} {required : Bool}
    (h : Restores (Option.map (Property.mapLiterals Value.unlinked)) p q) :
    Restores (Property.mapLiterals Value.unlinked) (.arrayOf p required) (.arrayOf q required) := by
  cases h
  cases q <;> rfl

theorem Property.readItem_eq (name : String) (h : v ≠ .null) :
    Property.readItem links (name, v) = (Property.read links true v).map some := by
  cases v with
  | null => exact absurd rfl h
  | _ => rfl

theorem Property.readOptional_eq {required : Bool} (h : v ≠ .null) :
    Property.readOptional links required v = (Property.read links required v).map some := by
  cases v with
  | null => exact absurd rfl h
  | _ => rfl

/-- A value that is no object describes any object, or nothing. -/
theorem Property.read_nonObject (h : Lazy v w) (noObject : ∀ fs, v ≠ .object fs) (required : Bool) :
    Matches (Restores (Property.mapLiterals Value.unlinked)) (Property.read .none required v)
      (Property.read links required w) := by
  cases v with
  | object fs => exact absurd rfl (noObject fs)
  | link => cases h.1
  | list vs =>
    obtain ⟨ws, rfl, items⟩ := h.list
    cases items with
    | nil => exact .ok rfl
    | cons => exact .error _
  | null =>
    rw [h.scalar (by simp) (by simp)]
    exact .ok rfl
  | bool b =>
    rw [h.scalar (by simp) (by simp)]
    exact .ok rfl
  | moment m =>
    rw [h.scalar (by simp) (by simp)]
    exact .error _
  | _ =>
    rw [h.scalar (by simp) (by simp)]
    show Matches _ (if Value.truthy _ = true then _ else _) (if Value.truthy _ = true then _ else _)
    split
    · exact .error _
    · exact .ok rfl

mutual
theorem Property.read_agrees (required : Bool) (v : Value) {w : Value} (h : Lazy v w) :
    Agrees (Property.visits v) (Restores (Property.mapLiterals Value.unlinked)) (Property.read .none required v)
      (Property.read links required w) := by
  cases v with
  | object fs =>
    cases ht : refTarget? fs with
    | some target =>
      obtain ⟨place, gs, rfl⟩ := h.reference ht
      have plain : Property.read .none required (.object fs) = .ok (.reference (lastSegment target) required) := by
        rw [Property.read, ht]
      intro _
      rw [plain]
      exact .ok rfl
    | none =>
      obtain ⟨gs, rfl, fields⟩ := h.object ht
      have ht' : refTarget? gs = none := fields.refTarget?.trans ht
      have items := Property.readItems_agrees fs fields
      rw [Property.read, Property.read, Property.visits, ht, ht']
      dsimp only
      rw [fields.isEmpty]
      by_cases empty : List.isEmpty fs = true
      · rw [if_pos empty, if_pos empty, if_pos empty]
        exact Agrees.ok rfl
      · rw [if_neg empty, if_neg empty, if_neg empty]
        refine (typeOf_agrees (fields.value "type")).bind fun type type' seen => ?_
        refine (seen.isText_matches "array").step fun isArray _ heq => ?_
        subst heq
        cases isArray with
        | true => exact items.step fun p q restored => .ok (restores_arrayOf restored)
        | false =>
          have rest : Agrees (after (Links.none.isText type "object") fun isObject =>
              if isObject then [] else primitiveVisits type fs) (Restores (Property.mapLiterals Value.unlinked))
              (do
                if ← Links.none.isText type "object" then return Property.anyObject required
                Property.readPrimitive .none type fs required)
              (do
                if ← links.isText type' "object" then return Property.anyObject required
                Property.readPrimitive links type' gs required) := by
            refine (seen.isText_matches "object").step fun isObject _ heq => ?_
            subst heq
            cases isObject with
            | true => exact Agrees.ok rfl
            | false => exact Property.readPrimitive_agrees seen fields required
          cases seen with
          | null => exact Agrees.ok rfl
          | _ => exact rest
  | _ =>
    intro _
    exact Property.read_nonObject h (by simp) required
termination_by structural v
theorem Property.readItems_agrees (fs : List (String × Value)) {gs : Fields Value} (h : LazyFields fs gs) :
    Agrees (Property.itemsVisits fs) (Restores (Option.map (Property.mapLiterals Value.unlinked)))
      (Property.readItems .none fs) (Property.readItems links gs) := by
  cases h with
  | nil => exact Agrees.ok rfl
  | @cons f g fs gs first rest =>
    have here := Property.readItem_agrees f first.2
    have later := Property.readItems_agrees fs rest
    rw [Property.readItems, Property.readItems, Property.itemsVisits, first.1]
    by_cases named : f.1 = "items"
    · rw [if_pos named, if_pos named, if_pos named]
      have same : g = (f.1, g.2) := Prod.ext first.1 rfl
      rw [same]
      exact here
    · rw [if_neg named, if_neg named, if_neg named]
      exact later
termination_by structural fs
theorem Property.readItem_agrees (f : String × Value) {w : Value} (h : Lazy f.2 w) :
    Agrees (Property.itemVisits f) (Restores (Option.map (Property.mapLiterals Value.unlinked)))
      (Property.readItem .none f) (Property.readItem links (f.1, w)) := by
  obtain ⟨name, v⟩ := f
  have inner := Property.read_agrees true v h
  by_cases null : v = .null
  · subst null
    rw [h.eq_null_iff.mpr rfl]
    exact fun _ => .ok rfl
  · rw [Property.readItem_eq name null, Property.readItem_eq name fun hw => null (h.eq_null_iff.mp hw)]
    exact inner.map fun p q restored => congrArg some restored
termination_by structural f
end

/-- A property that is there or not. -/
theorem Property.readOptional_agrees (required : Bool) (h : Lazy v w) :
    Agrees (Property.visits v) (Restores (Option.map (Property.mapLiterals Value.unlinked)))
      (Property.readOptional .none required v) (Property.readOptional links required w) := by
  have inner : Agrees (Property.visits v) _ _ (Property.read links required w) := Property.read_agrees required v h
  by_cases null : v = .null
  · subst null
    rw [h.eq_null_iff.mpr rfl]
    exact fun _ => .ok rfl
  · rw [Property.readOptional_eq null, Property.readOptional_eq fun hw => null (h.eq_null_iff.mp hw)]
    exact inner.map fun p q restored => congrArg some restored

/-! ## Models -/

/-- The name that a value lists as required, if it is a text. -/
def requiredName (links : Links) (v : Value) : Except Fault (Option String) := do
  match ← links.look v with
  | .str s => return some s
  | .list _ | .object _ => .error .notHashable
  | _ => return none

/-- What is looked at in the names that are required. -/
def requiredVisits (fields : Fields Value) : List Value :=
  [fields.value "required"] ++ after (Links.none.itemsIfPresent (fields.value "required")) fun listed =>
    eachVisits (fun v => [v]) (requiredName .none) listed

theorem readRequired_agrees (h : LazyFields fs gs) :
    Agrees (requiredVisits fs) Eq (readRequired .none fs) (readRequired links gs) := by
  have each : ∀ v w, Lazy v w → Agrees [v] Eq (requiredName .none v) (requiredName links w) := by
    intro v w lazily
    refine (Links.look_agrees lazily).step fun a b seen => ?_
    cases seen with
    | list | object => exact .error _
    | _ => exact .ok rfl
  refine (Links.itemsIfPresent_agrees (h.value "required")).bind fun listed listed' items => ?_
  refine (Agrees.mapM each items).step fun names names' same => ?_
  rw [List.forall₂_eq_eq_eq] at same
  subst same
  exact .ok rfl

/-- What is looked at in the properties of an object. -/
def propertiesVisits (required : List String) (fields : Fields Value) : List Value :=
  eachVisits (fun f => Property.visits f.2)
    (fun f => do return (f.1, ← Property.read .none (required.contains f.1) f.2)) fields

theorem readProperties_agrees (required : List String) (h : LazyFields fs gs) :
    Agrees (propertiesVisits required fs)
      (Restores (Fields.change fun _ => Property.mapLiterals Value.unlinked))
      (readProperties .none required fs) (readProperties links required gs) := by
  intro quiet
  refine (Agrees.mapM (S := fun f g => g.1 = f.1 ∧ Restores (Property.mapLiterals Value.unlinked) f.2 g.2)
    (fun f g hfg => ?_) h quiet).imp fun ps qs each => restores_change each
  obtain ⟨named, lazily⟩ := hfg
  rw [named]
  exact (Property.read_agrees _ f.2 lazily).step fun p q restored => .ok ⟨rfl, restored⟩

/-- What is looked at in names for literals: with each name all that is inside it. -/
def namesVisits (v : Value) : List Value :=
  [v] ++ after (Links.none.items v) fun items => eachVisits Value.within Links.none.text items

theorem readNames_agrees (h : Lazy v w) : Agrees (namesVisits v) Eq (readNames .none v) (readNames links w) := by
  refine (Links.items_agrees h).bind fun items items' each => ?_
  intro quiet
  refine (Agrees.mapM (fun v w lazily => Links.text_agrees lazily) each quiet).imp fun texts texts' same => ?_
  rwa [List.forall₂_eq_eq_eq] at same

/-- What is looked at in the fields that may name the literals. -/
def literalNamesVisits (fields : Fields Value) : List String → List Value
  | [] => []
  | name :: rest => [fields.value name] ++ after (Links.none.present (fields.value name)) fun present =>
    if present then namesVisits (fields.value name) else literalNamesVisits fields rest

theorem readLiteralNames_agrees (h : LazyFields fs gs) (names : List String) :
    Agrees (literalNamesVisits fs names) Eq (readLiteralNames .none fs names)
      (readLiteralNames links gs names) := by
  induction names with
  | nil => exact Agrees.ok rfl
  | cons name rest ih =>
    refine (Links.present_agrees (h.value name)).bind fun present _ heq => ?_
    subst heq
    cases present with
    | true => exact (readNames_agrees (h.value name)).step fun texts _ heq => .ok (congrArg some heq)
    | false => exact ih

/-- What is looked at in a model without regard to `allOf`. -/
def plainVisits (fields : Fields Value) : List Value :=
  requiredVisits fields ++ after (readRequired .none fields) fun required =>
    [fields.value "properties"] ++ after (Links.none.fieldsIfPresent (fields.value "properties")) fun described =>
      propertiesVisits required described ++ after (readProperties .none required described) fun _ =>
        literalNamesVisits fields literalNameFields ++
          after (readLiteralNames .none fields literalNameFields) fun _ =>
            typeVisits (fields.value "type") ++ after (typeOf .none (fields.value "type")) fun type =>
              primitiveVisits type fields

theorem Model.readPlain_agrees (h : LazyFields fs gs) :
    Agrees (plainVisits fs) (Restores (Model.mapLiterals Value.unlinked)) (Model.readPlain .none fs)
      (Model.readPlain links gs) := by
  refine (readRequired_agrees h).bind fun required _ heq => ?_
  subst heq
  refine (Links.fieldsIfPresent_agrees (h.value "properties")).bind fun described described' lazily => ?_
  refine (readProperties_agrees required lazily).bind fun properties properties' restored => ?_
  refine (readLiteralNames_agrees h literalNameFields).bind fun names _ heq => ?_
  subst heq
  refine (typeOf_agrees (h.value "type")).bind fun type type' seen => ?_
  refine seen.optionalText_matches.step fun type _ heq => ?_
  subst heq
  refine (optionalText_matches (h.value "format")).step fun format _ heq => ?_
  subst heq
  refine (Links.optionalList_agrees (h.value "enum")).step fun literals literals' kept => .ok ?_
  show Model.mk _ _ _ _ _ _ _ = Model.mk _ _ _ _ _ _ _
  rw [restores_literals kept]
  exact congrArg (Model.mk _ _ · _ _ _ _) restored

/-- What is looked at in the part that the properties beside `allOf` make. -/
def ownPartVisits (fields : Fields Value) : List Value :=
  [fields.value "properties"] ++ after (Links.none.present (fields.value "properties")) fun present =>
    if present then plainVisits fields else []

theorem Model.readOwnPart_agrees (h : LazyFields fs gs) :
    Agrees (ownPartVisits fs) (Restores (Model.mapPartLiterals Value.unlinked)) (Model.readOwnPart .none fs)
      (Model.readOwnPart links gs) := by
  refine (Links.present_agrees (h.value "properties")).bind fun present _ heq => ?_
  subst heq
  cases present with
  | true =>
    refine (Model.readPlain_agrees h).step fun m n restored => .ok ?_
    exact congrArg (fun m => [m]) restored
  | false => exact Agrees.ok rfl

/-- The fault of a list of parts behind a link where none are followed. -/
def noParts : List Value → Except Fault (List Model) := fun _ => .error .endlessReference

mutual
/-- What is looked at in a model. -/
def Model.visits (v : Value) : List Value := match v with
  | .object fields =>
    match refTarget? fields with
    | some _ => []
    | none =>
      [Fields.value fields "allOf"] ++ after (Links.none.present (Fields.value fields "allOf")) fun present =>
        if present then
          Model.partsVisits fields ++ after (Model.readParts .none noParts fields) fun _ =>
            ownPartVisits fields ++ after (Model.readOwnPart .none fields) fun _ =>
              typeVisits (Fields.value fields "type")
        else plainVisits fields
  | _ => []
termination_by structural v
/-- What is looked at in the parts under `allOf`. -/
def Model.partsVisits (fields : List (String × Value)) : List Value := match fields with
  | [] => []
  | f :: rest => if f.1 = "allOf" then Model.partsFieldVisits f else Model.partsVisits rest
termination_by structural fields
/-- What is looked at in the parts of an `allOf` field. -/
def Model.partsFieldVisits (field : String × Value) : List Value := match field with
  | (_, .list items) => Model.partVisits items
  | (_, v) => [v]
termination_by structural field
/-- What is looked at in the parts of a list. -/
def Model.partVisits (items : List Value) : List Value := match items with
  | [] => []
  | v :: rest => Model.visits v ++ after (Model.readWith .none noParts v) fun _ => Model.partVisits rest
termination_by structural items
end

theorem mapPartLiterals_append (f : Value → Value) (parts own : List Model) :
    Model.mapPartLiterals f (parts ++ own) = Model.mapPartLiterals f parts ++ Model.mapPartLiterals f own := by
  induction parts with
  | nil => rfl
  | cons m rest ih => rw [List.cons_append, Model.mapPartLiterals, ih, Model.mapPartLiterals, List.cons_append]

section

variable (onward : List Value → Except Fault (List Model))

mutual
theorem Model.readWith_agrees (v : Value) {w : Value} (h : Lazy v w) :
    Agrees (Model.visits v) (Restores (Model.mapLiterals Value.unlinked)) (Model.readWith .none noParts v)
      (Model.readWith links onward w) := by
  cases v with
  | object fs =>
    cases ht : refTarget? fs with
    | some target =>
      obtain ⟨place, gs, rfl⟩ := h.reference ht
      have plain : Model.readWith .none noParts (.object fs) = .ok { target := some (lastSegment target) } := by
        rw [Model.readWith, ht]
      intro _
      rw [plain]
      exact .ok rfl
    | none =>
      obtain ⟨gs, rfl, fields⟩ := h.object ht
      have ht' : refTarget? gs = none := fields.refTarget?.trans ht
      have parts := Model.readParts_agrees fs fields
      rw [Model.readWith, Model.readWith, Model.visits, ht, ht']
      refine (Links.present_agrees (fields.value "allOf")).bind fun present _ heq => ?_
      subst heq
      cases present with
      | false => exact Model.readPlain_agrees fields
      | true =>
        refine parts.bind fun listed listed' restored => ?_
        refine (Model.readOwnPart_agrees fields).bind fun own own' ownRestored => ?_
        refine (typeOf_agrees (fields.value "type")).step fun type type' seen => ?_
        refine seen.optionalText_matches.bind fun type _ heq => .ok ?_
        subst heq
        show Model.mk _ _ _ _ _ (Model.mapPartLiterals _ _) _ = Model.mk _ _ _ _ _ _ _
        rw [mapPartLiterals_append, restored, ownRestored]
        rfl
  | link => cases h.1
  | list vs =>
    obtain ⟨ws, rfl, _⟩ := h.list
    exact fun _ => .error _
  | _ =>
    rw [h.scalar (by simp) (by simp)]
    exact fun _ => .error _
termination_by structural v
theorem Model.readParts_agrees (fs : List (String × Value)) {gs : Fields Value} (h : LazyFields fs gs) :
    Agrees (Model.partsVisits fs) (Restores (Model.mapPartLiterals Value.unlinked))
      (Model.readParts .none noParts fs) (Model.readParts links onward gs) := by
  cases h with
  | nil => exact Agrees.ok rfl
  | @cons f g fs gs first rest =>
    have here := Model.readPartsField_agrees f first.2
    have later := Model.readParts_agrees fs rest
    rw [Model.readParts, Model.readParts, Model.partsVisits, first.1]
    by_cases named : f.1 = "allOf"
    · rw [if_pos named, if_pos named, if_pos named]
      have same : g = (f.1, g.2) := Prod.ext first.1 rfl
      rw [same]
      exact here
    · rw [if_neg named, if_neg named, if_neg named]
      exact later
termination_by structural fs
theorem Model.readPartsField_agrees (f : String × Value) {w : Value} (h : Lazy f.2 w) :
    Agrees (Model.partsFieldVisits f) (Restores (Model.mapPartLiterals Value.unlinked))
      (Model.readPartsField .none noParts f) (Model.readPartsField links onward (f.1, w)) := by
  obtain ⟨name, v⟩ := f
  cases v with
  | list vs =>
    obtain ⟨ws, rfl, items⟩ := Lazy.list h
    exact Model.readEach_agrees vs items
  | link => cases h.1
  | _ =>
    intro quiet
    cases h.seen (quiet _ List.mem_cons_self) with
    | _ => exact .error _
termination_by structural f
theorem Model.readEach_agrees (vs : List Value) {ws : List Value} (h : List.Forall₂ Lazy vs ws) :
    Agrees (Model.partVisits vs) (Restores (Model.mapPartLiterals Value.unlinked))
      (Model.readEach .none noParts vs) (Model.readEach links onward ws) := by
  cases h with
  | nil => exact Agrees.ok rfl
  | @cons v w vs ws first rest =>
    have here := Model.readWith_agrees v first
    have later := Model.readEach_agrees vs rest
    refine here.bind fun m n restored => ?_
    exact later.step fun ms ns rest => .ok (congrArg₂ List.cons restored rest)
termination_by structural vs
end

end

theorem Model.read_agrees (h : Lazy v w) : Agrees (Model.visits v) (Restores (Model.mapLiterals Value.unlinked))
    (Model.read .none v) (Model.read links w) := by
  rw [Model.read, Model.read]
  cases links.budget with
  | zero => exact Model.readWith_agrees _ v h
  | succ depth => exact Model.readWith_agrees _ v h

/-! ## Parameters -/

theorem Location.read_agrees (h : Lazy v w) :
    Agrees [v] Eq (Location.read .none v) (Location.read links w) := by
  refine (Links.look_agrees h).step fun a b seen => ?_
  cases seen <;> exact .ok rfl

theorem demand_matches (h : LazyFields fs gs) (name : String) : Matches Lazy (demand fs name) (demand gs name) := by
  rw [demand, demand]
  rcases h.get?_cases name with ⟨hf, hg⟩ | ⟨v, w, hf, hg, lazily⟩
  · rw [hf, hg]
    exact .error _
  · rw [hf, hg]
    exact .ok lazily

/-- What describes a parameter is found without a look at a reference. -/
theorem describingFields_matches (h : LazyFields fs gs) :
    Matches LazyFields (describingFields .none fs) (describingFields links gs) := by
  have schema := h.value "schema"
  by_cases own : fs.has "type" = true ∨ fs.value "schema" = .null ∨ refName? (fs.value "schema") ≠ none
  · rw [describingFields_own _ own, describingFields_own]
    · exact .ok h
    · rwa [h.has, schema.eq_null_iff, schema.refName?]
  · simp only [not_or, Bool.not_eq_true, not_not] at own
    obtain ⟨untyped, notNull, name⟩ := own
    rw [describingFields_schema _ untyped notNull name, describingFields_schema]
    · refine Links.fields_agrees schema fun u hu => ?_
      rw [List.mem_singleton.mp hu, name]
    · rwa [h.has]
    · rwa [ne_eq, schema.eq_null_iff]
    · rwa [schema.refName?]

/-- What is looked at in a parameter. -/
def Parameter.visits (v : Value) : List Value :=
  [v] ++ after (Links.none.fields v) fun fields =>
    [fields.value "in"] ++ after (Location.read .none (fields.value "in")) fun location =>
      if location = .body then
        after (demand fields "name") fun _ =>
          [fields.value "required"] ++ after (Links.none.present (fields.value "required")) fun _ =>
            Property.visits (fields.value "schema")
      else
        after (describingFields .none fields) fun source => after (demand fields "name") fun name =>
          typeVisits (source.value "type") ++ after (typeOf .none (source.value "type")) fun type =>
            [fields.value "required"] ++ after (Links.none.present (fields.value "required")) fun _ =>
              Property.visits (source.value "items") ++
                after (Property.readOptional .none true (source.value "items")) fun _ =>
                  after name.requiredText fun _ => primitiveVisits type source

theorem Parameter.read_agrees (h : Lazy v w) :
    Agrees (Parameter.visits v) (Restores (Parameter.mapLiterals Value.unlinked)) (Parameter.read .none v)
      (Parameter.read links w) := by
  refine (Links.fields_agrees h).bind fun fs gs fields => ?_
  refine (Location.read_agrees (fields.value "in")).bind fun location _ heq => ?_
  subst heq
  by_cases body : location = .body
  · simp only [if_pos body]
    refine (demand_matches fields "name").step fun name name' named => ?_
    refine (Links.present_agrees (fields.value "required")).bind fun required _ heq => ?_
    subst heq
    refine (Property.readOptional_agrees false (fields.value "schema")).step fun schema schema' restored => ?_
    refine (requiredText_matches named).bind fun name _ heq => .ok ?_
    subst heq
    exact congrArg (fun schema => ({ name, location, required, schema } : Parameter)) restored
  · simp only [if_neg body]
    refine (describingFields_matches fields).step fun source source' described => ?_
    refine (demand_matches fields "name").step fun name name' named => ?_
    refine (typeOf_agrees (described.value "type")).bind fun type type' seen => ?_
    refine (Links.present_agrees (fields.value "required")).bind fun required _ heq => ?_
    subst heq
    refine (Property.readOptional_agrees true (described.value "items")).bind fun items items' restored => ?_
    refine (requiredText_matches named).step fun name _ heq => ?_
    subst heq
    refine seen.optionalText_matches.step fun type _ heq => ?_
    subst heq
    refine (optionalText_matches (described.value "format")).step fun format _ heq => ?_
    subst heq
    refine (Links.optionalList_agrees (described.value "enum")).step fun literals literals' kept => .ok ?_
    show Parameter.mk _ _ _ _ _ (Option.map _ _) (Option.map _ _) _ = Parameter.mk _ _ _ _ _ _ _ _
    rw [restores_literals kept, restored]
    rfl

/-! ## Contents and responses -/

/-- The media type that is chosen of a content, given whether the preferred one is present. -/
def chosenMedia (media : Fields Value) (preferred : Bool) : Value :=
  if preferred then media.value preferredMediaType
  else match media with
    | [] => .null
    | (_, first) :: _ => first

/-- What is looked at in a content by media type. -/
def contentVisits (content : Value) : List Value :=
  [content] ++ after (Links.none.present content) fun present =>
    if present then
      [content] ++ after (Links.none.fields content) fun media =>
        [media.value preferredMediaType] ++
          after (Links.none.present (media.value preferredMediaType)) fun preferred => [chosenMedia media preferred]
    else []

theorem contentSchema_agrees (h : Lazy v w) :
    Agrees (contentVisits v) Lazy (contentSchema .none v) (contentSchema links w) := by
  refine (Links.present_agrees h).bind fun present _ heq => ?_
  subst heq
  cases present with
  | false => exact Agrees.ok Lazy.null
  | true =>
    refine (Links.fields_agrees h).bind fun media media' lazily => ?_
    refine (Links.present_agrees (lazily.value preferredMediaType)).bind fun preferred _ heq => ?_
    subst heq
    have schemaOf : ∀ {u u'}, Lazy u u' → Agrees [u] Lazy
        (do return (← Links.none.fieldsIfPresent u).value "schema")
        (do return (← links.fieldsIfPresent u').value "schema") := by
      intro u u' chosen
      exact (Links.fieldsIfPresent_agrees chosen).step fun fs gs fields => .ok (fields.value "schema")
    cases preferred with
    | true => exact schemaOf (lazily.value preferredMediaType)
    | false =>
      cases lazily with
      | nil => exact schemaOf Lazy.null
      | cons first _ => exact schemaOf first.2

/-- What is looked at to find the schema of a response. -/
def responseSchemaVisits (fields : Fields Value) : List Value :=
  match fields.value "schema" with
  | .null => contentVisits (fields.value "content")
  | _ => []

theorem responseSchema_stated (h : fs.value "schema" ≠ .null) :
    responseSchema links fs = .ok (fs.value "schema") := by
  rw [responseSchema]
  cases hs : fs.value "schema" with
  | null => exact absurd hs h
  | _ => rfl

theorem responseSchema_agrees (h : LazyFields fs gs) :
    Agrees (responseSchemaVisits fs) Lazy (responseSchema .none fs) (responseSchema links gs) := by
  have schema := h.value "schema"
  by_cases null : fs.value "schema" = .null
  · rw [responseSchemaVisits, responseSchema, responseSchema, schema.eq_null_iff.mpr null, null]
    exact contentSchema_agrees (h.value "content")
  · intro _
    rw [responseSchema_stated null, responseSchema_stated fun hw => null (schema.eq_null_iff.mp hw)]
    exact .ok schema

/-- What is looked at in a response. -/
def Response.visits (v : Value) : List Value :=
  [v] ++ after (Links.none.fields v) fun fields =>
    responseSchemaVisits fields ++ after (responseSchema .none fields) fun schema => Property.visits schema

theorem Response.read_agrees (h : Lazy v w) :
    Agrees (Response.visits v) (Restores (Response.mapLiterals Value.unlinked)) (Response.read .none v)
      (Response.read links w) := by
  rw [Response.read_eq, Response.read_eq]
  refine (Links.fields_agrees h).bind fun fs gs fields => ?_
  refine (responseSchema_agrees fields).bind fun schema schema' lazily => ?_
  refine (Property.readOptional_agrees false lazily).step fun schema schema' restored => ?_
  refine (optionalText_matches (fields.value "description")).bind fun description _ heq => .ok ?_
  subst heq
  exact congrArg (fun schema => ({ description, schema } : Response)) restored

/-- What is looked at in a request body. -/
def requestBodyVisits (v : Value) : List Value :=
  [v] ++ after (Links.none.present v) fun present =>
    if present then
      [v] ++ after (Links.none.fields v) fun fields =>
        contentVisits (fields.value "content") ++ after (contentSchema .none (fields.value "content")) fun schema =>
          [fields.value "required"] ++ after (Links.none.present (fields.value "required")) fun _ =>
            Property.visits schema
    else []

theorem readRequestBody_agrees (h : Lazy v w) :
    Agrees (requestBodyVisits v) (Restores (List.map (Parameter.mapLiterals Value.unlinked)))
      (readRequestBody .none v) (readRequestBody links w) := by
  refine (Links.present_agrees h).bind fun present _ heq => ?_
  subst heq
  cases present with
  | false => exact Agrees.ok rfl
  | true =>
    refine (Links.fields_agrees h).bind fun fs gs fields => ?_
    refine (contentSchema_agrees (fields.value "content")).bind fun schema schema' lazily => ?_
    refine (Links.present_agrees (fields.value "required")).bind fun required _ heq => ?_
    subst heq
    refine (Property.readOptional_agrees false lazily).step fun schema schema' restored => .ok ?_
    exact congrArg (fun schema => [({ name := "body", location := .body, required, schema } : Parameter)]) restored

/-! ## Operations -/

/-- The response under a code. -/
def namedResponse (links : Links) (r : String × Value) : Except Fault (String × Response) := do
  return (r.1, ← Response.read links r.2)

/-- What is looked at in an operation, under a path with shared parameters. -/
def Operation.visits (v shared : Value) : List Value :=
  [v] ++ after (Links.none.fields v) fun fields =>
    [fields.value "parameters"] ++ after (Links.none.itemsIfPresent (fields.value "parameters")) fun own =>
      eachVisits Parameter.visits (Parameter.read .none) own ++ after (own.mapM (Parameter.read .none)) fun _ =>
        [shared] ++ after (Links.none.itemsIfPresent shared) fun above =>
          eachVisits Parameter.visits (Parameter.read .none) above ++
            after (above.mapM (Parameter.read .none)) fun _ =>
              requestBodyVisits (fields.value "requestBody") ++
                after (readRequestBody .none (fields.value "requestBody")) fun _ =>
                  [fields.value "responses"] ++
                    after (Links.none.fieldsIfPresent (fields.value "responses")) fun named =>
                      eachVisits (fun r => Response.visits r.2) (namedResponse .none) named ++
                        after (named.mapM (namedResponse .none)) fun _ => [fields.value "deprecated"]

theorem namedResponses_agree (h : LazyFields fs gs) :
    Agrees (eachVisits (fun r => Response.visits r.2) (namedResponse .none) fs)
      (Restores (Fields.change fun _ => Response.mapLiterals Value.unlinked))
      (fs.mapM (namedResponse .none)) (gs.mapM (namedResponse links)) := by
  intro quiet
  refine (Agrees.mapM (S := fun f g => g.1 = f.1 ∧ Restores (Response.mapLiterals Value.unlinked) f.2 g.2)
    (fun f g hfg => ?_) h quiet).imp fun rs ts each => restores_change each
  obtain ⟨named, lazily⟩ := hfg
  refine (Response.read_agrees lazily).step fun r t restored => .ok ⟨named, restored⟩

theorem parameters_agree {vs ws : List Value} (h : List.Forall₂ Lazy vs ws) :
    Agrees (eachVisits Parameter.visits (Parameter.read .none) vs)
      (Restores (List.map (Parameter.mapLiterals Value.unlinked)))
      (vs.mapM (Parameter.read .none)) (ws.mapM (Parameter.read links)) := fun quiet =>
  (Agrees.mapM (fun _ _ lazily => Parameter.read_agrees lazily) h quiet).imp fun _ _ each => restores_map each

/-- Names and locations do not change with the literals, so neither does what is overridden. -/
theorem filter_isOverridden_map (f : Value → Value) (declared common : List Parameter) :
    (common.map (Parameter.mapLiterals f)).filter (!isOverridden (declared.map (Parameter.mapLiterals f)) ·) =
      (common.filter (!isOverridden declared ·)).map (Parameter.mapLiterals f) := by
  have same : ∀ p, isOverridden (declared.map (Parameter.mapLiterals f)) (p.mapLiterals f) =
      isOverridden declared p := by
    intro p
    rw [isOverridden, isOverridden, List.any_map]
    rfl
  rw [List.filter_map]
  exact congrArg (List.map _) (List.filter_congr fun p _ => congrArg not (same p))

theorem Operation.read_agrees (verb : String) (h : Lazy v w) {shared shared' : Value} (hs : Lazy shared shared') :
    Agrees (Operation.visits v shared) (Restores (Operation.mapLiterals Value.unlinked))
      (Operation.read .none verb v shared) (Operation.read links verb w shared') := by
  refine (Links.fields_agrees h).bind fun fs gs fields => ?_
  refine (Links.itemsIfPresent_agrees (fields.value "parameters")).bind fun own own' lazily => ?_
  refine (parameters_agree lazily).bind fun declared declared' hdeclared => ?_
  refine (Links.itemsIfPresent_agrees hs).bind fun above above' lazily => ?_
  refine (parameters_agree lazily).bind fun common common' hcommon => ?_
  refine (readRequestBody_agrees (fields.value "requestBody")).bind fun body body' hbody => ?_
  refine (Links.fieldsIfPresent_agrees (fields.value "responses")).bind fun named named' lazily => ?_
  refine (namedResponses_agree lazily).bind fun responses responses' hresponses => ?_
  refine (Links.present_agrees (fields.value "deprecated")).step fun deprecated _ heq => ?_
  subst heq
  refine (optionalText_matches (fields.value "operationId")).bind fun operationId _ heq => ?_
  subst heq
  refine (optionalText_matches (fields.value "summary")).bind fun summary _ heq => .ok ?_
  subst heq
  cases hdeclared
  cases hcommon
  cases hbody
  cases hresponses
  show Operation.mk _ _ (List.map _ _) _ _ _ = Operation.mk _ _ _ _ _ _
  rw [filter_isOverridden_map, List.map_append, List.map_append]

/-! ## Documents -/

/-- What is looked at to find the definitions: the components only where no definitions are present. -/
def definitionsVisits (root : Value) : List Value :=
  [root] ++ after (Links.none.fields root) fun fields =>
    [fields.value "definitions"] ++ after (Links.none.present (fields.value "definitions")) fun present =>
      if present then [] else [fields.value "components"]

theorem findDefinitions_agrees (h : Lazy v w) :
    Agrees (definitionsVisits v) Lazy (findDefinitions .none v) (findDefinitions links w) := by
  refine (Links.fields_agrees h).bind fun fs gs fields => ?_
  refine (Links.present_agrees (fields.value "definitions")).bind fun present _ heq => ?_
  subst heq
  cases present with
  | true => exact Agrees.ok (fields.value "definitions")
  | false =>
    refine (Links.fieldsIfPresent_agrees (fields.value "components")).step fun inner inner' lazily => ?_
    exact .ok (lazily.value "schemas")

theorem findPaths_agrees (h : Lazy v w) : Agrees [v] Lazy (findPaths .none v) (findPaths links w) :=
  (Links.fields_agrees h).step fun _ _ fields => .ok (fields.value "paths")

/-- What is looked at in a top-level part, once it is found. -/
def partVisits (visits : List Value) (found : Except Fault Value) : List Value :=
  visits ++ after found fun v => [v]

theorem readPart_agrees (name : String) {visits : List Value} {found found' : Except Fault Value}
    (h : Agrees visits Lazy found found') (quiet : Quiet (partVisits visits found)) :
    LazyFields (readPart .none name found).1 (readPart links name found').1 ∧
      (readPart links name found').2 = (readPart .none name found).2 := by
  have fields : Agrees (partVisits visits found) LazyFields (partFields .none name found)
      (partFields links name found') := by
    refine h.bind fun v w lazily quiet => ?_
    refine (Links.present_agrees lazily quiet).bind fun present _ heq => ?_
    subst heq
    cases present with
    | false => exact .ok .nil
    | true =>
      refine (Links.look_agrees lazily quiet).bind fun a b seen => ?_
      cases seen with
      | object fields => exact .ok fields
      | _ => exact .error _
  rw [readPart, readPart]
  rcases (fields quiet).eqs with ⟨fs, gs, lazily, plain, linked⟩ | ⟨fault, plain, linked⟩
  · rw [plain, linked]
    exact ⟨lazily, rfl⟩
  · rw [plain, linked]
    exact ⟨.nil, rfl⟩

/-- What is looked at in the definitions; a definition at fault does not keep from the next one. -/
def modelsVisits (definitions : Fields Value) : List Value := definitions.flatMap fun f => Model.visits f.2

theorem readDefinitions_agrees (h : LazyFields fs gs) (quiet : Quiet (modelsVisits fs)) :
    Restores (Prod.map (Fields.change fun _ => Model.mapLiterals Value.unlinked) id) (readDefinitions .none fs)
      (readDefinitions links gs) := by
  induction h with
  | nil => rfl
  | @cons f g fs gs first _ ih =>
    obtain ⟨name, v⟩ := f
    obtain ⟨name', w⟩ := g
    obtain ⟨rfl, lazily⟩ := first
    rw [modelsVisits, List.flatMap_cons, quiet_append] at quiet
    have rest := ih quiet.2
    rw [readDefinitions, readDefinitions, ← rest]
    have read : Matches _ (Model.read .none v) (Model.read links w) := Model.read_agrees lazily quiet.1
    rcases read.eqs with ⟨m, n, restored, plain, linked⟩ | ⟨fault, plain, linked⟩
    · rw [plain, linked]
      cases restored
      rfl
    · rw [plain, linked]
      rfl

/-- What is looked at in the operations of a path. -/
def operationsVisits (shared : Value) (verbs : Fields Value) : List Value :=
  verbs.flatMap fun f => Operation.visits f.2 shared

theorem readOperations_agrees {shared shared' : Value} (hs : Lazy shared shared') (h : LazyFields fs gs)
    (quiet : Quiet (operationsVisits shared fs)) :
    Restores (Prod.map (Fields.change fun _ => Operation.mapLiterals Value.unlinked) id)
      (readOperations .none shared fs) (readOperations links shared' gs) := by
  induction h with
  | nil => rfl
  | @cons f g fs gs first _ ih =>
    obtain ⟨verb, v⟩ := f
    obtain ⟨verb', w⟩ := g
    obtain ⟨rfl, lazily⟩ := first
    rw [operationsVisits, List.flatMap_cons, quiet_append] at quiet
    have rest := ih quiet.2
    rw [readOperations, readOperations, ← rest]
    have read : Matches _ (Operation.read .none verb' v shared) (Operation.read links verb' w shared') :=
      Operation.read_agrees verb' lazily hs quiet.1
    rcases read.eqs with ⟨o, p, restored, plain, linked⟩ | ⟨fault, plain, linked⟩
    · rw [plain, linked]
      cases restored
      rfl
    · rw [plain, linked]
      rfl

/-- What is looked at to find what stands under a path. -/
def PathItem.visits (v : Value) : List Value :=
  [v] ++ after (Links.none.fields v) fun fields => [fields.value "parameters"]

theorem PathItem.read_agrees (h : Lazy v w) :
    Agrees (PathItem.visits v) (fun i j => LazyFields i.verbs j.verbs ∧ Lazy i.shared j.shared)
      (PathItem.read .none v) (PathItem.read links w) := by
  refine (Links.fields_agrees h).bind fun fs gs fields => ?_
  refine (Links.present_agrees (fields.value "parameters")).step fun _ _ _ => .ok ⟨?_, fields.value "parameters"⟩
  refine List.rel_filter (fun f g hfg => ?_) fields
  show operationVerbs.contains f.1 = true ↔ operationVerbs.contains g.1 = true
  rw [hfg.1]

/-- What is looked at in the paths. -/
def pathsVisits (paths : Fields Value) : List Value :=
  paths.flatMap fun f => PathItem.visits f.2 ++
    after (PathItem.read .none f.2) fun item => operationsVisits item.shared item.verbs

theorem readPaths_agrees (h : LazyFields fs gs) (quiet : Quiet (pathsVisits fs)) :
    Restores (Prod.map (Fields.change fun _ => Fields.change fun _ => Operation.mapLiterals Value.unlinked) id)
      (readPaths .none fs) (readPaths links gs) := by
  induction h with
  | nil => rfl
  | @cons f g fs gs first _ ih =>
    obtain ⟨path, v⟩ := f
    obtain ⟨path', w⟩ := g
    obtain ⟨rfl, lazily⟩ := first
    rw [pathsVisits, List.flatMap_cons, quiet_append, quiet_append] at quiet
    have rest := ih quiet.2
    rw [readPaths, readPaths, ← rest]
    have read : Matches _ (PathItem.read .none v) (PathItem.read links w) :=
      PathItem.read_agrees lazily quiet.1.1
    rcases read.eqs with ⟨item, item', ⟨verbs, shared⟩, plain, linked⟩ | ⟨fault, plain, linked⟩
    · have under := quiet.1.2
      rw [plain] at under
      have here : Restores _ _ (readOperations links item'.shared item'.verbs) :=
        readOperations_agrees shared verbs under
      rw [plain, linked]
      dsimp only
      rw [← here]
      rfl
    · rw [plain, linked]
      rfl

/-- The object that a document is read from: an empty one where none is present. -/
def rootObject (links : Links) (root : Value) : Value :=
  match links.present root with
  | .ok false => .object []
  | _ => root

theorem rootObject_lazy (h : Lazy v w) (quiet : Quiet [v]) : Lazy (rootObject .none v) (rootObject links w) := by
  rw [rootObject, rootObject]
  have present : Matches Eq (Links.none.present v) (links.present w) := Links.present_agrees h quiet
  rcases present.eqs with ⟨p, _, rfl, plain, linked⟩ | ⟨_, plain, linked⟩
  · rw [plain, linked]
    cases p with
    | true => exact h
    | false => exact ⟨rfl, "", [], rfl⟩
  · rw [plain, linked]
    exact h

/-- What the reading of a document looks at. -/
def Document.visits (root : Value) : List Value :=
  let object := rootObject .none root
  let definitions := findDefinitions .none object
  let paths := findPaths .none object
  [root] ++ (partVisits (definitionsVisits object) definitions ++
    (modelsVisits (readPart .none "definitions" definitions).1 ++
      (partVisits [object] paths ++ pathsVisits (readPart .none "paths" paths).1)))

theorem readParts_agree (h : Lazy v w)
    (inDefinitions : Quiet (partVisits (definitionsVisits v) (findDefinitions .none v)))
    (inModels : Quiet (modelsVisits (readPart .none "definitions" (findDefinitions .none v)).1))
    (inPart : Quiet (partVisits [v] (findPaths .none v)))
    (inPaths : Quiet (pathsVisits (readPart .none "paths" (findPaths .none v)).1)) :
    Restores (Prod.map (Document.mapLiterals Value.unlinked) id) (Document.readParts .none v)
      (Document.readParts links w) := by
  have found : Agrees (definitionsVisits v) Lazy _ (findDefinitions links w) := findDefinitions_agrees h
  have foundPaths : Agrees [v] Lazy _ (findPaths links w) := findPaths_agrees h
  obtain ⟨definitions, skipped⟩ := @readPart_agrees links "definitions" _ _ _ found inDefinitions
  obtain ⟨paths, skippedPaths⟩ := @readPart_agrees links "paths" _ _ _ foundPaths inPart
  have models := @readDefinitions_agrees links _ _ definitions inModels
  have operations := @readPaths_agrees links _ _ paths inPaths
  rw [Document.readParts, Document.readParts, ← skipped, ← skippedPaths, ← models, ← operations]
  rfl

/-- **Reading through links**: if nothing that is looked at in a plain document is a reference, the document
with its links is read to the same end, with the same events, whatever the links lead to; only the literals
are still those with the links. -/
theorem Document.read_agrees (h : Lazy v w) (quiet : Quiet (Document.visits v)) :
    Restores (Prod.map (Document.mapLiterals Value.unlinked) id) (Document.read .none v)
      (Document.read links w) := by
  simp only [Document.visits, quiet_append] at quiet
  obtain ⟨present, inDefinitions, inModels, inPart, inPaths⟩ := quiet
  exact readParts_agree (rootObject_lazy h present) inDefinitions inModels inPart inPaths

end Schema

end TypedClient
