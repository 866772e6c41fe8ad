import TypedClient.Fields
import Mathlib.Data.List.Forall2
import Mathlib.Data.List.Induction
import Mathlib.Data.List.Nodup

/-!
# Facts about fields

Under distinct names a field is found exactly under its name, and a `put` changes that field alone.
`keepFirst` gathers things under names that are computed from them: of several with one name the first
is kept, and what has no name is left out.
-/

namespace TypedClient

variable {α β : Type}

namespace Fields

variable {fs : Fields α} {name : String} {value : α}

theorem mem_names : name ∈ fs.names ↔ ∃ value, (name, value) ∈ fs := by
  constructor
  · intro h
    obtain ⟨p, hp, rfl⟩ := List.mem_map.mp h
    exact ⟨p.2, hp⟩
  · rintro ⟨value, h⟩
    exact List.mem_map.mpr ⟨(name, value), h, rfl⟩

theorem mem_values : value ∈ fs.values ↔ ∃ name, (name, value) ∈ fs := by
  constructor
  · intro h
    obtain ⟨p, hp, rfl⟩ := List.mem_map.mp h
    exact ⟨p.1, hp⟩
  · rintro ⟨name, h⟩
    exact List.mem_map.mpr ⟨(name, value), h, rfl⟩

/-- What is found under a name stands there. -/
theorem mem_of_get? (h : fs.get? name = some value) : (name, value) ∈ fs := by
  induction fs with
  | nil => cases h
  | cons p rest ih =>
    by_cases hp : name = p.1
    · subst hp
      rw [get?, List.lookup_cons, beq_self_eq_true] at h
      cases h
      exact List.mem_cons_self
    · rw [get?, List.lookup_cons, beq_eq_false_iff_ne.mpr hp] at h
      exact List.mem_cons_of_mem _ (ih h)

/-- Under distinct names every field is found under its name. -/
theorem get?_of_mem (nodup : fs.names.Nodup) (h : (name, value) ∈ fs) : fs.get? name = some value := by
  induction fs with
  | nil => cases h
  | cons p rest ih =>
    obtain ⟨fresh, nodup⟩ := List.nodup_cons.mp nodup
    rw [get?, List.lookup_cons]
    rcases List.mem_cons.mp h with rfl | h
    · rw [beq_self_eq_true]
    · have hne : name ≠ p.1 := fun heq => fresh (heq ▸ mem_names.mpr ⟨value, h⟩)
      rw [beq_eq_false_iff_ne.mpr hne]
      exact ih nodup h

theorem has_iff : fs.has name = true ↔ name ∈ fs.names := by
  induction fs with
  | nil => exact ⟨fun h => (nomatch h), fun h => (nomatch h)⟩
  | cons p rest ih =>
    rw [has, get?, List.lookup_cons]
    by_cases hp : name = p.1
    · rw [beq_iff_eq.mpr hp]
      exact ⟨fun _ => hp ▸ List.mem_cons_self, fun _ => rfl⟩
    · rw [beq_eq_false_iff_ne.mpr hp]
      refine ih.trans ⟨List.mem_cons_of_mem _, fun h => ?_⟩
      exact (List.mem_cons.mp h).resolve_left hp

theorem get?_eq_none : fs.get? name = none ↔ name ∉ fs.names := by
  rw [← has_iff, has, Option.isSome_iff_ne_none, not_not]

theorem nodup_names_put (nodup : fs.names.Nodup) : (fs.put name value).names.Nodup := by
  rw [names_put]
  split
  · exact nodup
  · next h => exact List.nodup_append_comm.mp (List.nodup_cons.mpr ⟨h, nodup⟩)

/-- Under distinct names a `put` leaves every other field and no second one under its name. -/
theorem mem_put (nodup : fs.names.Nodup) {p : String × α} :
    p ∈ fs.put name value ↔ p = (name, value) ∨ p.1 ≠ name ∧ p ∈ fs := by
  obtain ⟨other, v⟩ := p
  have found : (other, v) ∈ fs.put name value ↔ (fs.put name value).get? other = some v :=
    ⟨get?_of_mem (nodup_names_put nodup), mem_of_get?⟩
  rw [found, get?_put]
  by_cases h : other = name
  · subst h
    simp [eq_comm]
  · simp only [h, if_false, Prod.mk.injEq, false_and, false_or, ne_eq, not_false_eq_true, true_and]
    exact ⟨mem_of_get?, get?_of_mem nodup⟩

theorem mem_values_put {v : α} (h : v ∈ (fs.put name value).values) : v = value ∨ v ∈ fs.values := by
  induction fs with
  | nil => exact .inl (List.mem_singleton.mp h)
  | cons p rest ih =>
    rw [put] at h
    split at h
    · rcases List.mem_cons.mp h with h | h
      · exact .inl h
      · exact .inr (List.mem_cons_of_mem _ h)
    · rcases List.mem_cons.mp h with h | h
      · exact .inr (h ▸ List.mem_cons_self)
      · exact (ih h).imp_right (List.mem_cons_of_mem _)

/-- A value that is new keeps the values distinct. -/
theorem nodup_values_put (nodup : fs.values.Nodup) (new : value ∉ fs.values) :
    (fs.put name value).values.Nodup := by
  induction fs with
  | nil => exact List.nodup_singleton value
  | cons p rest ih =>
    obtain ⟨fresh, nodup⟩ := List.nodup_cons.mp nodup
    obtain ⟨hne, new⟩ := not_or.mp (mt List.mem_cons.mpr new)
    rw [put]
    split
    · exact List.nodup_cons.mpr ⟨new, nodup⟩
    · refine List.nodup_cons.mpr ⟨fun h => ?_, ih nodup new⟩
      rcases mem_values_put h with h | h
      · exact hne h.symm
      · exact fresh h

/-- Distinct values stand under distinct names. -/
theorem name_eq_of_value_eq (nodup : fs.values.Nodup) {a b : String}
    (ha : (a, value) ∈ fs) (hb : (b, value) ∈ fs) : a = b :=
  congrArg Prod.fst (List.inj_on_of_nodup_map nodup ha hb rfl)

/-- To give a name the value that it has changes nothing. -/
theorem put_of_get? (h : fs.get? name = some value) : fs.put name value = fs := by
  induction fs with
  | nil => cases h
  | cons p rest ih =>
    obtain ⟨key, old⟩ := p
    by_cases hk : key = name
    · subst hk
      rw [get?, List.lookup_cons, beq_self_eq_true] at h
      cases h
      simp [put]
    · rw [get?, List.lookup_cons, beq_eq_false_iff_ne.mpr (Ne.symm hk)] at h
      simp only [put, hk, if_false, ih h]

/-! ## Fields put over others -/

section

variable {more : Fields α}

theorem nodup_names_putAll (nodup : fs.names.Nodup) (more : Fields α) : (fs.putAll more).names.Nodup := by
  induction more generalizing fs with
  | nil => exact nodup
  | cons p rest ih => exact ih (nodup_names_put nodup)

theorem mem_names_put {name other : String} {value : α} :
    other ∈ (fs.put name value).names ↔ other ∈ fs.names ∨ other = name := by
  rw [names_put]
  split
  · next known =>
    constructor
    · exact .inl
    · rintro (h | rfl)
      · exact h
      · exact known
  · simp

theorem mem_names_putAll {name : String} :
    name ∈ (fs.putAll more).names ↔ name ∈ fs.names ∨ name ∈ more.names := by
  induction more generalizing fs with
  | nil => simp [putAll, names]
  | cons p rest ih =>
    have step := @ih (fs.put p.1 p.2)
    rw [mem_names_put, or_assoc] at step
    simpa [putAll, names] using step

/-- What is put over other fields takes the place of those of its names. -/
theorem mem_putAll (nodup : fs.names.Nodup) {p : String × α} (h : p ∈ fs.putAll more) :
    p ∈ more ∨ p ∈ fs ∧ p.1 ∉ more.names := by
  induction more generalizing fs with
  | nil => exact .inr ⟨h, List.not_mem_nil⟩
  | cons q rest ih =>
    rcases ih (nodup_names_put nodup) h with later | ⟨here, kept⟩
    · exact .inl (List.mem_cons_of_mem _ later)
    · rcases (mem_put nodup).mp here with rfl | ⟨other, before⟩
      · exact .inl List.mem_cons_self
      · refine .inr ⟨before, ?_⟩
        intro member
        rcases List.mem_cons.mp member with same | member
        · exact other same
        · exact kept member

theorem mem_values_putAll {v : α} (h : v ∈ (fs.putAll more).values) : v ∈ more.values ∨ v ∈ fs.values := by
  induction more generalizing fs with
  | nil => exact .inr h
  | cons p rest ih =>
    rcases ih h with later | here
    · exact .inl (List.mem_cons_of_mem _ later)
    · rcases mem_values_put here with rfl | before
      · exact .inl List.mem_cons_self
      · exact .inr before

/-- Under a name there is what is put there, if anything is, and otherwise what was there before. -/
theorem get?_putAll (distinct : more.names.Nodup) (name : String) :
    (fs.putAll more).get? name = (more.get? name).or (fs.get? name) := by
  induction more generalizing fs with
  | nil => rfl
  | cons p rest ih =>
    obtain ⟨key, v⟩ := p
    obtain ⟨fresh, distinct⟩ := List.nodup_cons.mp distinct
    have step : (fs.putAll ((key, v) :: rest)).get? name = (get? rest name).or ((fs.put key v).get? name) :=
      ih distinct
    rw [step, get?_put]
    by_cases h : name = key
    · subst h
      rw [get?_eq_none.mpr fresh]
      simp [get?]
    · rw [if_neg h]
      simp [get?, List.lookup_cons, beq_eq_false_iff_ne.mpr h]

end

/-! ## Pairs that are merged

`ofPairs` puts one pair after another. So a name stands where it is first and has the value that it has last,
and it does not matter whether pairs are merged before they are put over other fields.
-/

section

variable {more gs : Fields α} {other : String} {pairs : List (String × α)}

/-- Of two values that a name is given the later one counts. -/
theorem put_put (fs : Fields α) (name : String) (first last : α) :
    (fs.put name first).put name last = fs.put name last := by
  induction fs with
  | nil => simp [put]
  | cons p rest ih =>
    obtain ⟨key, old⟩ := p
    by_cases hk : key = name
    · simp [put, hk]
    · simp [put, hk, ih]

/-- A name that is present can be given its value before another one as well as after it. -/
theorem put_comm {v : α} (present : name ∈ fs.names) (differ : other ≠ name) :
    (fs.put other v).put name value = (fs.put name value).put other v := by
  induction fs with
  | nil => cases present
  | cons p rest ih =>
    obtain ⟨key, old⟩ := p
    by_cases hk : key = name
    · subst hk
      simp [put, Ne.symm differ]
    · have later : name ∈ names rest := (List.mem_cons.mp present).resolve_left (Ne.symm hk)
      by_cases ho : key = other
      · simp [put, ho, differ]
      · simp [put, hk, ho, ih later]

theorem put_putAll (present : name ∈ fs.names) (apart : name ∉ more.names) :
    (fs.putAll more).put name value = (fs.put name value).putAll more := by
  induction more generalizing fs with
  | nil => rfl
  | cons p rest ih =>
    obtain ⟨differ, apart⟩ := not_or.mp (mt List.mem_cons.mpr apart)
    have step := @ih (fs.put p.1 p.2) (mem_names_put.mpr (.inl present)) apart
    rw [put_comm present (Ne.symm differ)] at step
    exact step

/-- What is put over other fields may be given one more value before or after that. -/
theorem putAll_put (distinct : gs.names.Nodup) : fs.putAll (gs.put name value) = (fs.putAll gs).put name value := by
  induction gs generalizing fs with
  | nil => rfl
  | cons p rest ih =>
    obtain ⟨key, old⟩ := p
    obtain ⟨fresh, distinct⟩ := List.nodup_cons.mp distinct
    by_cases hk : key = name
    · subst hk
      have present : key ∈ (fs.put key old).names := mem_names_put.mpr (.inr rfl)
      have moved := @put_putAll _ _ _ value _ present fresh
      rw [put_put] at moved
      simpa [put, putAll] using moved.symm
    · simpa [put, hk, putAll] using @ih (fs.put key old) distinct

/-- A name that is new goes to the end. -/
theorem put_of_not_mem (new : name ∉ fs.names) : fs.put name value = fs ++ [(name, value)] := by
  induction fs with
  | nil => rfl
  | cons p rest ih =>
    obtain ⟨differ, new⟩ := not_or.mp (mt List.mem_cons.mpr new)
    rw [put, if_neg (Ne.symm differ), ih new, List.cons_append]

theorem putAll_append (fs : Fields α) (pairs others : List (String × α)) :
    fs.putAll (pairs ++ others) = (fs.putAll pairs).putAll others := List.foldl_append

theorem ofPairs_concat (pairs : List (String × α)) (p : String × α) :
    ofPairs (pairs ++ [p]) = (ofPairs pairs).put p.1 p.2 := putAll_append [] pairs [p]

theorem nodup_names_ofPairs (pairs : List (String × α)) : (ofPairs pairs).names.Nodup :=
  @nodup_names_putAll _ [] List.nodup_nil pairs

/-- Pairs under distinct names are fields as they are. -/
theorem ofPairs_eq_self (distinct : (names pairs).Nodup) : ofPairs pairs = pairs := by
  induction pairs using List.reverseRecOn with
  | nil => rfl
  | append_singleton pairs p ih =>
    have split : names (pairs ++ [p]) = names pairs ++ [p.1] := List.map_append
    rw [split] at distinct
    obtain ⟨new, distinct⟩ := List.nodup_cons.mp (List.nodup_append_comm.mp distinct)
    rw [ofPairs_concat, ih distinct, put_of_not_mem new]

/-- Pairs that are merged first are put over other fields like the pairs themselves. -/
theorem putAll_ofPairs (fs : Fields α) (pairs : List (String × α)) : fs.putAll (ofPairs pairs) = fs.putAll pairs := by
  induction pairs using List.reverseRecOn with
  | nil => rfl
  | append_singleton pairs p ih =>
    rw [ofPairs_concat, putAll_put (nodup_names_ofPairs pairs), ih, putAll_append]
    rfl

/-- A name stands where it is first among the pairs. -/
theorem names_ofPairs (pairs : List (String × α)) : (ofPairs pairs).names = (names pairs).eraseDups := by
  induction pairs using List.reverseRecOn with
  | nil => rfl
  | append_singleton pairs p ih =>
    have split : names (pairs ++ [p]) = names pairs ++ [p.1] := List.map_append
    rw [ofPairs_concat, names_put, ih, split, List.eraseDups_append]
    by_cases known : p.1 ∈ names pairs
    · simp [known, List.removeAll]
    · simp [known, List.removeAll, List.eraseDups_cons]

/-- A name has the value that it has last among the pairs. -/
theorem get?_ofPairs (pairs : List (String × α)) (name : String) :
    (ofPairs pairs).get? name = get? pairs.reverse name := by
  induction pairs using List.reverseRecOn with
  | nil => rfl
  | append_singleton pairs p ih =>
    obtain ⟨key, v⟩ := p
    rw [ofPairs_concat, get?_put, ih, List.reverse_concat]
    by_cases h : name = key
    · simp [h, get?]
    · simp [h, get?, List.lookup_cons, beq_eq_false_iff_ne.mpr h]

end

/-! ## Fields that stand to each other -/

/-- Fields that stand to each other one by one, under the same names. -/
abbrev Alike (R : α → β → Prop) (fs : Fields α) (gs : Fields β) : Prop :=
  List.Forall₂ (fun f g => g.1 = f.1 ∧ R f.2 g.2) fs gs

/-- What is found under a name in one of them stands to what is found in the other. -/
theorem Alike.get? {R : α → β → Prop} {fs : Fields α} {gs : Fields β} (h : Alike R fs gs) (name : String) :
    Option.Rel R (fs.get? name) (gs.get? name) := by
  induction h with
  | nil => exact .none
  | @cons f g _ _ first _ ih =>
    obtain ⟨key, v⟩ := f
    obtain ⟨other, w⟩ := g
    obtain ⟨same, stands⟩ := first
    cases same
    unfold Fields.get? at ih ⊢
    by_cases here : name = key
    · subst here
      simpa using stands
    · rw [List.lookup_cons, List.lookup_cons, beq_eq_false_iff_ne.mpr here]
      exact ih

/-! ## Fields with other values, and a choice of fields -/

/-- The fields with their values changed, each as its name says. -/
def change (g : String → α → β) (fs : Fields α) : Fields β := fs.map fun f => (f.1, g f.1 f.2)

theorem change_cons (g : String → α → β) (f : String × α) (fs : Fields α) :
    change g (f :: fs) = (f.1, g f.1 f.2) :: change g fs := rfl

theorem get?_change (g : String → α → β) (fs : Fields α) (name : String) :
    (fs.change g).get? name = (fs.get? name).map (g name) := by
  induction fs with
  | nil => rfl
  | cons f rest ih =>
    obtain ⟨key, v⟩ := f
    simp only [get?, change, List.map_cons, List.lookup_cons] at ih ⊢
    by_cases h : name = key
    · subst h
      simp
    · simp only [beq_eq_false_iff_ne.mpr h, ih]

/-- The fields of certain names. -/
def only (chosen : List String) (fs : Fields α) : Fields α := fs.filter fun f => chosen.contains f.1

/-- The fields of all other names. -/
def without (chosen : List String) (fs : Fields α) : Fields α := fs.filter fun f => !chosen.contains f.1

theorem get?_filter (keep : String → Bool) (fs : Fields α) (name : String) :
    get? (fs.filter fun f => keep f.1) name = if keep name then fs.get? name else none := by
  induction fs with
  | nil => simp [get?]
  | cons f rest ih =>
    obtain ⟨key, v⟩ := f
    simp only [get?] at ih ⊢
    by_cases h : name = key
    · subst h
      cases hk : keep name with
      | true => simp [hk]
      | false => simpa [hk] using ih
    · cases hk : keep key with
      | true => simpa [hk, List.lookup_cons, beq_eq_false_iff_ne.mpr h] using ih
      | false => simpa [hk, List.lookup_cons, beq_eq_false_iff_ne.mpr h] using ih

/-- Under distinct names a value that is left out is not found at all. -/
theorem get?_filter_value (keep : α → Bool) (distinct : fs.names.Nodup) (name : String) :
    get? (fs.filter fun f => keep f.2) name = (fs.get? name).filter keep := by
  induction fs with
  | nil => rfl
  | cons f rest ih =>
    obtain ⟨key, v⟩ := f
    obtain ⟨fresh, distinct⟩ := List.nodup_cons.mp distinct
    have later := ih distinct
    by_cases h : name = key
    · subst h
      have here : get? ((name, v) :: rest) name = some v := by simp [get?]
      have absent : get? (rest.filter fun f => keep f.2) name = none := by
        rw [later, get?_eq_none.mpr fresh]
        rfl
      rw [here]
      cases hk : keep v with
      | true => simp [get?, hk, Option.filter]
      | false =>
        rw [List.filter_cons_of_neg (by simp [hk]), absent]
        simp [hk, Option.filter]
    · unfold get? at later ⊢
      cases hk : keep v with
      | true => simpa [hk, List.lookup_cons, beq_eq_false_iff_ne.mpr h] using later
      | false => simpa [hk, List.lookup_cons, beq_eq_false_iff_ne.mpr h] using later

theorem get?_only (chosen : List String) (fs : Fields α) (name : String) :
    (fs.only chosen).get? name = if chosen.contains name then fs.get? name else none :=
  get?_filter (chosen.contains ·) fs name

theorem get?_without (chosen : List String) (fs : Fields α) (name : String) :
    (fs.without chosen).get? name = if chosen.contains name then none else fs.get? name := by
  rw [without, get?_filter (!chosen.contains ·)]
  cases chosen.contains name <;> rfl

theorem get?_append (fs gs : Fields α) (name : String) :
    get? (fs ++ gs) name = (fs.get? name).or (gs.get? name) := by
  induction fs with
  | nil => simp [get?]
  | cons f rest ih =>
    obtain ⟨key, v⟩ := f
    simp only [get?, List.cons_append, List.lookup_cons] at ih ⊢
    by_cases h : name = key
    · subst h
      simp
    · simp only [beq_eq_false_iff_ne.mpr h, ih]

end Fields

/-! ## The first of each name -/

/-- The things that have a name, each under it, the first of those with one name. -/
def keepFirst (name? : α → Option String) (xs : List α) : Fields α :=
  xs.foldl (fun kept x =>
    match name? x with
    | none => kept
    | some c => if kept.has c then kept else kept ++ [(c, x)]) []

section

variable {name? : α → Option String} {xs : List α}

theorem keepFirst_concat (xs : List α) (x : α) :
    keepFirst name? (xs ++ [x]) = match name? x with
      | none => keepFirst name? xs
      | some c => if (keepFirst name? xs).has c then keepFirst name? xs
        else keepFirst name? xs ++ [(c, x)] := by
  rw [keepFirst, List.foldl_append]
  rfl

/-- A name is kept when something has it. -/
theorem mem_names_keepFirst {c : String} :
    c ∈ (keepFirst name? xs).names ↔ ∃ x ∈ xs, name? x = some c := by
  induction xs using List.reverseRecOn with
  | nil => exact ⟨fun h => (nomatch h), fun ⟨_, h, _⟩ => (nomatch h)⟩
  | append_singleton xs x ih =>
    simp only [List.mem_append, List.mem_singleton, or_and_right, exists_or, exists_eq_left, ← ih]
    rw [keepFirst_concat]
    cases hx : name? x with
    | none => simp
    | some d =>
      by_cases hd : (keepFirst name? xs).has d
      · simp only [hd, if_true, Option.some.injEq]
        exact ⟨.inl, fun h => h.elim id fun heq => heq ▸ Fields.has_iff.mp hd⟩
      · simp only [hd, Bool.false_eq_true, if_false, Fields.names, List.map_append, List.mem_append,
          List.map_singleton, List.mem_singleton, Option.some.injEq]
        exact or_congr_right eq_comm

theorem nodup_names_keepFirst (name? : α → Option String) (xs : List α) :
    (keepFirst name? xs).names.Nodup := by
  induction xs using List.reverseRecOn with
  | nil => exact List.nodup_nil
  | append_singleton xs x ih =>
    rw [keepFirst_concat]
    split
    · exact ih
    · split
      · exact ih
      · next c _ hc =>
        rw [Fields.names, List.map_append]
        refine List.nodup_append_comm.mp (List.nodup_cons.mpr ⟨fun h => hc ?_, ih⟩)
        exact Fields.has_iff.mpr h

/-- **What is kept under a name** is the first thing that has it. -/
theorem mem_keepFirst {c : String} {x : α} :
    (c, x) ∈ keepFirst name? xs ↔
      ∃ before after, xs = before ++ x :: after ∧ name? x = some c ∧ ∀ y ∈ before, name? y ≠ some c := by
  induction xs using List.reverseRecOn with
  | nil =>
    refine ⟨fun h => (nomatch h), ?_⟩
    rintro ⟨before, after, h, _⟩
    exact absurd h.symm (by simp)
  | append_singleton xs z ih =>
    have grow : (∃ before after, xs ++ [z] = before ++ x :: after ∧ name? x = some c ∧
          ∀ y ∈ before, name? y ≠ some c) ↔
        (c, x) ∈ keepFirst name? xs ∨
          x = z ∧ name? z = some c ∧ ∀ y ∈ xs, name? y ≠ some c := by
      rw [ih]
      constructor
      · rintro ⟨before, after, h, hx, first⟩
        rcases List.eq_nil_or_concat after with rfl | ⟨rest, last, rfl⟩
        · obtain ⟨rfl, hz⟩ := List.append_inj' h rfl
          cases hz
          exact .inr ⟨rfl, hx, first⟩
        · rw [List.concat_eq_append, ← List.cons_append, ← List.append_assoc] at h
          exact .inl ⟨before, rest, (List.append_inj' h rfl).1, hx, first⟩
      · rintro (⟨before, after, rfl, hx, first⟩ | ⟨rfl, hz, first⟩)
        · exact ⟨before, after ++ [z], by simp, hx, first⟩
        · exact ⟨xs, [], rfl, hz, first⟩
    rw [grow, keepFirst_concat]
    cases hz : name? z with
    | none => simp
    | some d =>
      have kept : (keepFirst name? xs).has d = true ↔ ∃ y ∈ xs, name? y = some d :=
        Fields.has_iff.trans mem_names_keepFirst
      by_cases hd : (keepFirst name? xs).has d
      · obtain ⟨y, hy, hyd⟩ := kept.mp hd
        simp only [hd, if_true, Option.some.injEq]
        refine ⟨.inl, fun h => h.elim id ?_⟩
        rintro ⟨_, rfl, first⟩
        exact absurd hyd (first y hy)
      · have first : ∀ y ∈ xs, name? y ≠ some d := fun y hy h => hd (kept.mpr ⟨y, hy, h⟩)
        simp only [hd, Bool.false_eq_true, if_false, List.mem_append, List.mem_singleton, Prod.mk.injEq,
          Option.some.injEq]
        refine or_congr_right ⟨?_, ?_⟩
        · rintro ⟨rfl, rfl⟩
          exact ⟨rfl, rfl, first⟩
        · rintro ⟨rfl, rfl, _⟩
          exact ⟨rfl, rfl⟩

/-- The first of its name among some things. -/
def FirstOf (name : α → String) (xs : List α) (x : α) : Prop :=
  ∃ before after, xs = before ++ x :: after ∧ ∀ y ∈ before, name y ≠ name x

/-- There is one first of each name. -/
theorem FirstOf.unique {name : α → String} {x y : α} (hx : FirstOf name xs x) (hy : FirstOf name xs y)
    (h : name x = name y) : x = y := by
  have kept : ∀ {z}, FirstOf name xs z →
      (keepFirst (fun x => some (name x)) xs).get? (name z) = some z := by
    rintro z ⟨before, after, split, first⟩
    refine Fields.get?_of_mem (nodup_names_keepFirst _ xs) ?_
    refine mem_keepFirst.mpr ⟨before, after, split, rfl, ?_⟩
    exact fun y hy heq => first y hy (Option.some.inj heq)
  exact Option.some.inj ((kept hx).symm.trans (h ▸ kept hy))

end

end TypedClient
