import TypedClient.Proofs.Plain
import TypedClient.References.Linked

/-!
# Documents with lazy links

A document is linked before it is read: every object with a `$ref` text gives way to a link that keeps the
object and is not followed yet. `withLinks` says this of a value without regard to what the links lead to,
and `unlinked` puts the objects back. A value and the same value with links are `Lazy` to each other, the
plain one first; where neither is a reference they have one shape, and their parts are lazy to each other.

**What is proved.** `linked_eq_withLinks`: linking is no more than that, unless the `$ref` of an object is
itself such an object. `Lazy.unlinked_eq`: with the objects put back there is the plain value again.
`unlinked_eq_self`: where no reference comes back, there was no link.
-/

namespace TypedClient

open Schema References

/-! ## Putting links in and taking them out -/

mutual
/-- A value with a link for every object with a `$ref` text; `steps` lead to it from the root of its
document. -/
def withLinks (document : String) (steps : List String) (v : Value) : Value := match v with
  | .list vs => .list (withItemLinks document steps 0 vs)
  | .object fs =>
    match refTarget? fs with
    | some target => .link ⟨document, steps⟩ target (withFieldLinks document steps fs)
    | none => .object (withFieldLinks document steps fs)
  | v => v
termination_by structural v
/-- The items of a list, from a position on. -/
def withItemLinks (document : String) (steps : List String) (n : Nat) (vs : List Value) :
    List Value := match vs with
  | [] => []
  | v :: rest => withLinks document (steps ++ [toString n]) v :: withItemLinks document steps (n + 1) rest
termination_by structural vs
/-- A field of an object. -/
def withFieldLink (document : String) (steps : List String) (f : String × Value) :
    String × Value := match f with
  | (name, v) => (name, withLinks document (steps ++ [name]) v)
termination_by structural f
/-- The fields of an object. -/
def withFieldLinks (document : String) (steps : List String) (fs : List (String × Value)) :
    List (String × Value) := match fs with
  | [] => []
  | f :: rest => withFieldLink document steps f :: withFieldLinks document steps rest
termination_by structural fs
end

namespace Value

mutual
/-- A value with an object in place of every link: the one that the link stands in for. -/
def unlinked (v : Value) : Value := match v with
  | .list vs => .list (unlinkedItems vs)
  | .object fs => .object (unlinkedFields fs)
  | .link _ target fs => .object (Fields.put (unlinkedFields fs) "$ref" (.str target))
  | v => v
termination_by structural v
/-- Items without links. -/
def unlinkedItems (vs : List Value) : List Value := match vs with
  | [] => []
  | v :: rest => unlinked v :: unlinkedItems rest
termination_by structural vs
/-- A field without links. -/
def unlinkedField (f : String × Value) : String × Value := match f with
  | (name, v) => (name, unlinked v)
termination_by structural f
/-- Fields without links. -/
def unlinkedFields (fs : List (String × Value)) : List (String × Value) := match fs with
  | [] => []
  | f :: rest => unlinkedField f :: unlinkedFields rest
termination_by structural fs
end

mutual
/-- A value and all the values inside it. -/
def within (v : Value) : List Value := match v with
  | .list vs => .list vs :: itemsWithin vs
  | .object fs => .object fs :: fieldsWithin fs
  | .link place target fs => .link place target fs :: fieldsWithin fs
  | v => [v]
termination_by structural v
/-- All the values inside a list. -/
def itemsWithin (vs : List Value) : List Value := match vs with
  | [] => []
  | v :: rest => within v ++ itemsWithin rest
termination_by structural vs
/-- All the values inside a field. -/
def fieldWithin (f : String × Value) : List Value := match f with
  | (_, v) => within v
termination_by structural f
/-- All the values inside an object. -/
def fieldsWithin (fs : List (String × Value)) : List Value := match fs with
  | [] => []
  | f :: rest => fieldWithin f ++ fieldsWithin rest
termination_by structural fs
end

theorem mem_within_self (v : Value) : v ∈ v.within := by
  cases v <;> simp [within]

end Value

/-- Values that are no references. -/
def Quiet (vs : List Value) : Prop := ∀ v ∈ vs, refName? v = none

instance (vs : List Value) : Decidable (Quiet vs) :=
  inferInstanceAs (Decidable (∀ v ∈ vs, refName? v = none))

theorem quiet_append {vs ws : List Value} : Quiet (vs ++ ws) ↔ Quiet vs ∧ Quiet ws := by
  simp [Quiet, or_imp, forall_and]

theorem quiet_cons {v : Value} {vs : List Value} : Quiet (v :: vs) ↔ refName? v = none ∧ Quiet vs := by
  simp [Quiet]

namespace Value

mutual
/-- Where no reference has come back, there was no link. -/
theorem unlinked_eq_self (v : Value) (h : Quiet (unlinked v).within) : unlinked v = v := by
  cases v with
  | list vs =>
    rw [unlinked, within, quiet_cons] at h
    exact congrArg Value.list (unlinkedItems_eq_self vs h.2)
  | object fs =>
    rw [unlinked, within, quiet_cons] at h
    exact congrArg Value.object (unlinkedFields_eq_self fs h.2)
  | link place target fs =>
    have named := h _ (mem_within_self _)
    rw [unlinked, refName?, refTarget?, Fields.get?_put, if_pos rfl] at named
    cases named
  | _ => rfl
termination_by structural v
theorem unlinkedItems_eq_self (vs : List Value) (h : Quiet (itemsWithin (unlinkedItems vs))) :
    unlinkedItems vs = vs := by
  cases vs with
  | nil => rfl
  | cons v rest =>
    rw [unlinkedItems, itemsWithin, quiet_append] at h
    rw [unlinkedItems, unlinked_eq_self v h.1, unlinkedItems_eq_self rest h.2]
termination_by structural vs
theorem unlinkedField_eq_self (f : String × Value) (h : Quiet (fieldWithin (unlinkedField f))) :
    unlinkedField f = f := by
  obtain ⟨name, v⟩ := f
  rw [unlinkedField, fieldWithin] at h
  rw [unlinkedField, unlinked_eq_self v h]
termination_by structural f
theorem unlinkedFields_eq_self (fs : List (String × Value)) (h : Quiet (fieldsWithin (unlinkedFields fs))) :
    unlinkedFields fs = fs := by
  cases fs with
  | nil => rfl
  | cons f rest =>
    rw [unlinkedFields, fieldsWithin, quiet_append] at h
    rw [unlinkedFields, unlinkedField_eq_self f h.1, unlinkedFields_eq_self rest h.2]
termination_by structural fs
end

mutual
theorem unlinked_withLinks (document : String) (steps : List String) (v : Value) (h : v.isPlain = true) :
    (withLinks document steps v).unlinked = v := by
  cases v with
  | list vs =>
    rw [isPlain] at h
    exact congrArg Value.list (unlinkedItems_withItemLinks document steps 0 vs h)
  | object fs =>
    rw [isPlain] at h
    have fields := unlinkedFields_withFieldLinks document steps fs h
    rw [withLinks]
    cases ht : refTarget? fs with
    | none => exact congrArg Value.object fields
    | some target =>
      have stated : Fields.get? fs "$ref" = some (.str target) := by
        rw [refTarget?] at ht
        split at ht
        · next hs => cases ht; exact hs
        · cases ht
      show Value.object (Fields.put (unlinkedFields (withFieldLinks document steps fs)) "$ref" (.str target)) = _
      rw [fields, Fields.put_of_get? stated]
  | link => cases h
  | _ => rfl
termination_by structural v
theorem unlinkedItems_withItemLinks (document : String) (steps : List String) (n : Nat) (vs : List Value)
    (h : arePlain vs = true) : unlinkedItems (withItemLinks document steps n vs) = vs := by
  cases vs with
  | nil => rfl
  | cons v rest =>
    rw [arePlain, Bool.and_eq_true] at h
    rw [withItemLinks, unlinkedItems, unlinked_withLinks document _ v h.1,
      unlinkedItems_withItemLinks document steps (n + 1) rest h.2]
termination_by structural vs
theorem unlinkedField_withFieldLink (document : String) (steps : List String) (f : String × Value)
    (h : fieldPlain f = true) : unlinkedField (withFieldLink document steps f) = f := by
  obtain ⟨name, v⟩ := f
  rw [fieldPlain] at h
  rw [withFieldLink, unlinkedField, unlinked_withLinks document _ v h]
termination_by structural f
theorem unlinkedFields_withFieldLinks (document : String) (steps : List String) (fs : List (String × Value))
    (h : fieldsPlain fs = true) : unlinkedFields (withFieldLinks document steps fs) = fs := by
  cases fs with
  | nil => rfl
  | cons f rest =>
    rw [fieldsPlain, Bool.and_eq_true] at h
    rw [withFieldLinks, unlinkedFields, unlinkedField_withFieldLink document steps f h.1,
      unlinkedFields_withFieldLinks document steps rest h.2]
termination_by structural fs
end

end Value

/-! ## A value and the same with links -/

/-- A value without links, and the same value with its links. -/
def Lazy (v w : Value) : Prop := v.isPlain = true ∧ ∃ document steps, w = withLinks document steps v

/-- Fields without links, and the same fields with their links. -/
def LazyFields (fs gs : Fields Value) : Prop :=
  List.Forall₂ (fun f g => g.1 = f.1 ∧ Lazy f.2 g.2) fs gs

namespace Lazy

variable {v w : Value} {fs gs : Fields Value}

theorem unlinked_eq (h : Lazy v w) : w.unlinked = v := by
  obtain ⟨plain, document, steps, rfl⟩ := h
  exact Value.unlinked_withLinks document steps v plain

/-- A value that holds no reference has no links. -/
theorem eq_of_quiet (h : Lazy v w) (quiet : Quiet v.within) : w = v := by
  have back := h.unlinked_eq
  rw [← back] at quiet
  exact (Value.unlinked_eq_self w quiet).symm.trans back

theorem null : Lazy .null .null := ⟨rfl, "", [], rfl⟩

theorem items {vs : List Value} (plain : ∀ v ∈ vs, v.isPlain = true) (document : String)
    (steps : List String) (n : Nat) : List.Forall₂ Lazy vs (withItemLinks document steps n vs) := by
  induction vs generalizing n with
  | nil => exact .nil
  | cons v rest ih =>
    have first : Lazy v (withLinks document (steps ++ [toString n]) v) :=
      ⟨plain v List.mem_cons_self, document, _, rfl⟩
    exact .cons first (ih (fun u hu => plain u (List.mem_cons_of_mem _ hu)) (n + 1))

theorem fields (plain : fs.Plain) (document : String) (steps : List String) :
    LazyFields fs (withFieldLinks document steps fs) := by
  induction fs with
  | nil => exact .nil
  | cons f rest ih =>
    obtain ⟨name, v⟩ := f
    have first : Lazy v (withLinks document (steps ++ [name]) v) :=
      ⟨plain _ List.mem_cons_self, document, _, rfl⟩
    exact .cons ⟨rfl, first⟩ (ih fun g hg => plain g (List.mem_cons_of_mem _ hg))

/-- A list stays a list. -/
theorem list {vs : List Value} (h : Lazy (.list vs) w) : ∃ ws, w = .list ws ∧ List.Forall₂ Lazy vs ws := by
  obtain ⟨plain, document, steps, rfl⟩ := h
  exact ⟨_, rfl, Lazy.items (Value.isPlain_list.mp plain) document steps 0⟩

/-- An object that is no reference stays an object. -/
theorem object (h : Lazy (.object fs) w) (notReference : refTarget? fs = none) :
    ∃ gs, w = .object gs ∧ LazyFields fs gs := by
  obtain ⟨plain, document, steps, rfl⟩ := h
  refine ⟨_, ?_, Lazy.fields (Value.isPlain_object.mp plain) document steps⟩
  rw [withLinks, notReference]

/-- An object that is a reference becomes a link. -/
theorem reference (h : Lazy (.object fs) w) {target : String} (named : refTarget? fs = some target) :
    ∃ place gs, w = .link place target gs := by
  obtain ⟨_, document, steps, rfl⟩ := h
  refine ⟨⟨document, steps⟩, withFieldLinks document steps fs, ?_⟩
  rw [withLinks, named]

/-- What is neither a list nor an object is the same with its links. -/
theorem scalar (h : Lazy v w) (noList : ∀ vs, v ≠ .list vs) (noObject : ∀ fs, v ≠ .object fs) : w = v := by
  obtain ⟨_, document, steps, rfl⟩ := h
  cases v with
  | list vs => exact absurd rfl (noList vs)
  | object fs => exact absurd rfl (noObject fs)
  | _ => rfl

end Lazy

namespace LazyFields

variable {fs gs : Fields Value}

/-- The values under a name are lazy to each other, or there are none. -/
theorem get?_cases (h : LazyFields fs gs) (name : String) :
    (fs.get? name = none ∧ gs.get? name = none) ∨
      ∃ v w, fs.get? name = some v ∧ gs.get? name = some w ∧ Lazy v w := by
  induction h with
  | nil => exact .inl ⟨rfl, rfl⟩
  | @cons f g _ _ first _ ih =>
    obtain ⟨key, v⟩ := f
    obtain ⟨key', w⟩ := g
    obtain ⟨rfl, lazily⟩ := first
    by_cases hk : name = key'
    · subst hk
      exact .inr ⟨v, w, by simp [Fields.get?], by simp [Fields.get?], lazily⟩
    · simp only [Fields.get?, List.lookup_cons, beq_eq_false_iff_ne.mpr hk] at ih ⊢
      exact ih

theorem value (h : LazyFields fs gs) (name : String) : Lazy (fs.value name) (gs.value name) := by
  rw [Fields.value, Fields.value]
  rcases h.get?_cases name with ⟨hf, hg⟩ | ⟨v, w, hf, hg, lazily⟩
  · rw [hf, hg]
    exact Lazy.null
  · rw [hf, hg]
    exact lazily

theorem has (h : LazyFields fs gs) (name : String) : gs.has name = fs.has name := by
  rw [Fields.has, Fields.has]
  rcases h.get?_cases name with ⟨hf, hg⟩ | ⟨v, w, hf, hg, _⟩ <;> rw [hf, hg]
  rfl

theorem isEmpty (h : LazyFields fs gs) : List.isEmpty gs = List.isEmpty fs := by
  cases h <;> rfl

/-- Fields with links name the same target. -/
theorem refTarget? (h : LazyFields fs gs) : refTarget? gs = refTarget? fs := by
  rw [Schema.refTarget?, Schema.refTarget?]
  rcases h.get?_cases "$ref" with ⟨hf, hg⟩ | ⟨v, w, hf, hg, lazily⟩
  · rw [hf, hg]
  · rw [hf, hg]
    obtain ⟨_, document, steps, rfl⟩ := lazily
    cases v with
    | object fs =>
      rw [withLinks]
      cases Schema.refTarget? fs <;> rfl
    | _ => rfl

end LazyFields

/-- A reference has one name, plain or as a link. -/
theorem Lazy.refName? {v w : Value} (h : Lazy v w) : refName? w = refName? v := by
  cases v with
  | object fs =>
    cases ht : refTarget? fs with
    | none =>
      obtain ⟨gs, rfl, fields⟩ := h.object ht
      exact congrArg (Option.map lastSegment) fields.refTarget?
    | some target =>
      obtain ⟨place, gs, rfl⟩ := h.reference ht
      exact (congrArg (Option.map lastSegment) ht).symm
  | link => cases h.1
  | list vs =>
    obtain ⟨ws, rfl, _⟩ := h.list
    rfl
  | _ =>
    obtain ⟨_, document, steps, rfl⟩ := h
    rfl

/-! ## What linking comes to -/

/-- No object in a value has a reference as its `$ref`. -/
def SimplyReferenced (v : Value) : Prop :=
  ∀ u ∈ v.within, ∀ fs, u = .object fs → refName? (Fields.value fs "$ref") = none

/-- Whether a value is no object with a reference as its `$ref`. -/
def hasSimpleRef : Value → Bool
  | .object fs => (refName? (Fields.value fs "$ref")).isNone
  | _ => true

theorem simplyReferenced_iff {v : Value} : SimplyReferenced v ↔ ∀ u ∈ v.within, hasSimpleRef u = true := by
  constructor
  · intro simple u hu
    cases u with
    | object fs => exact Option.isNone_iff_eq_none.mpr (simple _ hu fs rfl)
    | _ => rfl
  · rintro simple _ hu fs rfl
    exact Option.isNone_iff_eq_none.mp (simple _ hu)

instance (v : Value) : Decidable (SimplyReferenced v) := decidable_of_iff' _ simplyReferenced_iff

/-- Nothing has to be followed to see that an object is a reference, when its `$ref` is none. -/
theorem linkObject_eq (follow : Follow) (place : Place) {fs gs : Fields Value} (lazily : LazyFields fs gs)
    (simple : refName? (fs.value "$ref") = none) : linkObject follow place gs =
      .ok (match refTarget? fs with
        | some target => .link place target gs
        | none => .object gs) := by
  rw [linkObject, refTarget?]
  rcases lazily.get?_cases "$ref" with ⟨hf, hg⟩ | ⟨v, w, hf, hg, inner⟩
  · rw [hf, hg]
  · rw [Fields.value, hf] at simple
    rw [hf, hg]
    cases v with
    | object us =>
      have notReference : refTarget? us = none := Option.map_eq_none_iff.mp simple
      obtain ⟨ws, rfl, _⟩ := inner.object notReference
      rfl
    | list vs =>
      obtain ⟨ws, rfl, _⟩ := inner.list
      rfl
    | link => cases simple
    | _ =>
      obtain ⟨_, document, steps, rfl⟩ := inner
      rfl

mutual
theorem linked_eq_withLinks (follow : Follow) (document : String) (steps : List String) (v : Value)
    (plain : v.isPlain = true) (simple : SimplyReferenced v) :
    linked follow document steps v = .ok (withLinks document steps v) := by
  cases v with
  | list vs =>
    have items : linkedItems follow document steps 0 vs = .ok (withItemLinks document steps 0 vs) :=
      linkedItems_eq follow document steps 0 vs (by rwa [Value.isPlain] at plain)
        fun u hu => simple u (List.mem_cons_of_mem _ hu)
    rw [linked, items]
    rfl
  | object fs =>
    have fields : linkedFields follow document steps fs = .ok (withFieldLinks document steps fs) :=
      linkedFields_eq follow document steps fs (by rwa [Value.isPlain] at plain)
        fun u hu => simple u (List.mem_cons_of_mem _ hu)
    have lazily := Lazy.fields (Value.isPlain_object.mp plain) document steps
    rw [linked, fields, ok_bind, linkObject_eq follow _ lazily (simple _ (Value.mem_within_self _) fs rfl), withLinks]
  | _ => rfl
termination_by structural v
theorem linkedItems_eq (follow : Follow) (document : String) (steps : List String) (n : Nat) (vs : List Value)
    (plain : Value.arePlain vs = true)
    (simple : ∀ u ∈ Value.itemsWithin vs, ∀ fs, u = .object fs → refName? (Fields.value fs "$ref") = none) :
    linkedItems follow document steps n vs = .ok (withItemLinks document steps n vs) := by
  cases vs with
  | nil => rfl
  | cons v rest =>
    rw [Value.arePlain, Bool.and_eq_true] at plain
    rw [linkedItems, linked_eq_withLinks follow document _ v plain.1 fun u hu => simple u (List.mem_append_left _ hu),
      ok_bind, linkedItems_eq follow document steps (n + 1) rest plain.2
        fun u hu => simple u (List.mem_append_right _ hu)]
    rfl
termination_by structural vs
theorem linkedField_eq (follow : Follow) (document : String) (steps : List String) (f : String × Value)
    (plain : Value.fieldPlain f = true)
    (simple : ∀ u ∈ Value.fieldWithin f, ∀ fs, u = .object fs → refName? (Fields.value fs "$ref") = none) :
    linkedField follow document steps f = .ok (withFieldLink document steps f) := by
  obtain ⟨name, v⟩ := f
  rw [linkedField, linked_eq_withLinks follow document _ v (by rwa [Value.fieldPlain] at plain) simple]
  rfl
termination_by structural f
theorem linkedFields_eq (follow : Follow) (document : String) (steps : List String) (fs : List (String × Value))
    (plain : Value.fieldsPlain fs = true)
    (simple : ∀ u ∈ Value.fieldsWithin fs, ∀ gs, u = .object gs → refName? (Fields.value gs "$ref") = none) :
    linkedFields follow document steps fs = .ok (withFieldLinks document steps fs) := by
  cases fs with
  | nil => rfl
  | cons f rest =>
    rw [Value.fieldsPlain, Bool.and_eq_true] at plain
    rw [linkedFields, linkedField_eq follow document steps f plain.1 fun u hu => simple u (List.mem_append_left _ hu),
      ok_bind, linkedFields_eq follow document steps rest plain.2 fun u hu => simple u (List.mem_append_right _ hu)]
    rfl
termination_by structural fs
end

end TypedClient
