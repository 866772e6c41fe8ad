import TypedClient.Fault
import Mathlib.Data.List.Forall2

/-!
# Outcomes

Reading and rendering yield `Except Fault`. A chain of steps succeeds when each of its steps does, and a
traversal succeeds when it succeeds on every member; then its results stand to the members one by one.

A traversal may also step over its faults. Then each member leaves a result or a fault, and with two
steps to each member the faults are those of the first steps and those of the second ones.
-/

namespace TypedClient

variable {α β ε : Type}

/-- A chain succeeds when its first step does and the rest succeeds on what it gave. -/
theorem bind_eq_ok {x : Except ε α} {f : α → Except ε β} {b : β} :
    (x >>= f) = .ok b ↔ ∃ a, x = .ok a ∧ f a = .ok b := by
  cases x with
  | ok a =>
    constructor
    · exact fun h => ⟨a, rfl, h⟩
    · rintro ⟨_, h, hb⟩
      cases h
      exact hb
  | error e =>
    constructor
    · intro h
      cases h
    · rintro ⟨_, h, _⟩
      cases h

/-- What is made of an outcome is a success when the outcome is one. -/
theorem map_eq_ok {x : Except ε α} {f : α → β} {b : β} : x.map f = .ok b ↔ ∃ a, x = .ok a ∧ f a = b := by
  cases x with
  | ok a => simp [Except.map]
  | error e => simp [Except.map]

@[simp] theorem ok_bind (a : α) (f : α → Except ε β) : (Except.ok a >>= f) = f a := rfl

@[simp] theorem error_bind (e : ε) (f : α → Except ε β) : (Except.error e >>= f) = .error e := rfl

@[simp] theorem pure_eq_ok (a : α) : (pure a : Except ε α) = .ok a := rfl

/-! ## Lists that stand to each other one by one -/

section

variable {γ : Type} {R : α → β → Prop} {xs : List α} {ys : List β}

theorem exists_of_mem_right (h : List.Forall₂ R xs ys) {y : β} (hy : y ∈ ys) : ∃ x ∈ xs, R x y := by
  induction h with
  | nil => cases hy
  | cons hxy _ ih =>
    rcases List.mem_cons.mp hy with rfl | hy
    · exact ⟨_, List.mem_cons_self, hxy⟩
    · obtain ⟨x, hx, rel⟩ := ih hy
      exact ⟨x, List.mem_cons_of_mem _ hx, rel⟩

theorem exists_of_mem_left (h : List.Forall₂ R xs ys) {x : α} (hx : x ∈ xs) : ∃ y ∈ ys, R x y :=
  exists_of_mem_right h.flip hx

theorem forall₂_trans {S : β → γ → Prop} {zs : List γ} (first : List.Forall₂ R xs ys)
    (later : List.Forall₂ S ys zs) : List.Forall₂ (fun x z => ∃ y, R x y ∧ S y z) xs zs := by
  induction first generalizing zs with
  | nil =>
    cases later
    exact .nil
  | cons hxy _ ih =>
    cases later with
    | cons hyz later => exact .cons ⟨_, hxy, hyz⟩ (ih later)

/-- Lists whose members agree in something have the same list of it. -/
theorem map_eq_map {f : α → γ} {g : β → γ} (h : List.Forall₂ (fun x y => f x = g y) xs ys) :
    xs.map f = ys.map g := by
  induction h with
  | nil => rfl
  | cons hxy _ ih => rw [List.map_cons, List.map_cons, hxy, ih]

/-- What stands to pairs stands to their second parts. -/
theorem forall₂_of_zip {names : List String} {T : String × α → β → Prop}
    (length : names.length = xs.length) (h : List.Forall₂ T (names.zip xs) ys) :
    List.Forall₂ (fun x y => ∃ name, T (name, x) y) xs ys := by
  have seconds : (names.zip xs).map Prod.snd = xs := List.map_snd_zip (Nat.le_of_eq length.symm)
  rw [← seconds, List.forall₂_map_left_iff]
  exact h.imp fun p _ hp => ⟨p.1, hp⟩

/-- What is kept with a result stands to its result. -/
theorem forall₂_filterMap (f : α → Option β) (xs : List α) :
    List.Forall₂ (fun x y => f x = some y) (xs.filter fun x => (f x).isSome) (xs.filterMap f) := by
  induction xs with
  | nil => exact .nil
  | cons x rest ih =>
    rw [List.filter_cons, List.filterMap_cons]
    cases h : f x with
    | none => exact ih
    | some y => exact .cons h ih

/-- What is kept of one list stands to the results of the other, when the members that are kept are those with
a result. -/
theorem forall₂_kept {S : α → γ → Prop} {keep : α → Bool} {f : β → Option γ} (h : List.Forall₂ R xs ys)
    (each : ∀ x y, R x y → if keep x then ∃ z, f y = some z ∧ S x z else f y = none) :
    List.Forall₂ S (xs.filter keep) (ys.filterMap f) := by
  induction h with
  | nil => exact .nil
  | @cons x y _ _ rel _ ih =>
    have first := each x y rel
    rw [List.filter_cons, List.filterMap_cons]
    split at first
    · next kept =>
      obtain ⟨z, result, stands⟩ := first
      rw [if_pos kept, result]
      exact .cons stands ih
    · next left =>
      rw [if_neg left, first]
      exact ih

end

/-! ## Traversals -/

/-- A traversal succeeds exactly with the results of its members, one by one. -/
theorem mapM_eq_ok {f : α → Except ε β} {xs : List α} {ys : List β} :
    xs.mapM f = .ok ys ↔ List.Forall₂ (fun x y => f x = .ok y) xs ys := by
  induction xs generalizing ys with
  | nil => cases ys <;> simp
  | cons x xs ih =>
    rw [List.mapM_cons, bind_eq_ok]
    constructor
    · rintro ⟨y, hy, rest⟩
      obtain ⟨ys', hys, heq⟩ := bind_eq_ok.mp rest
      cases heq
      exact .cons hy (ih.mp hys)
    · intro h
      cases h with
      | cons hy hys => exact ⟨_, hy, bind_eq_ok.mpr ⟨_, ih.mpr hys, rfl⟩⟩

/-- Each result of a traversal is that of a member. -/
theorem exists_of_mem_mapM {f : α → Except ε β} {xs : List α} {ys : List β} (h : xs.mapM f = .ok ys)
    {y : β} (hy : y ∈ ys) : ∃ x ∈ xs, f x = .ok y :=
  exists_of_mem_right (mapM_eq_ok.mp h) hy

/-- A traversal succeeds when every member does. -/
theorem exists_mapM_eq_ok {f : α → Except ε β} {xs : List α}
    (each : ∀ x ∈ xs, ∃ y, f x = .ok y) : ∃ ys, xs.mapM f = .ok ys := by
  induction xs with
  | nil => exact ⟨[], rfl⟩
  | cons x xs ih =>
    obtain ⟨y, hy⟩ := each x List.mem_cons_self
    obtain ⟨ys, hys⟩ := ih fun x' h => each x' (List.mem_cons_of_mem _ h)
    exact ⟨y :: ys, mapM_eq_ok.mpr (.cons hy (mapM_eq_ok.mp hys))⟩

/-- A traversal gives the same when its members are changed in a way that no step sees. -/
theorem mapM_map_same {f : α → Except ε β} {g : α → α} {xs : List α} (same : ∀ x ∈ xs, f (g x) = f x) :
    (xs.map g).mapM f = xs.mapM f := by
  induction xs with
  | nil => rfl
  | cons x xs ih =>
    rw [List.map_cons, List.mapM_cons, List.mapM_cons, same x List.mem_cons_self,
      ih fun y hy => same y (List.mem_cons_of_mem _ hy)]

/-- A traversal gives back what was changed, when every step undoes the change. -/
theorem mapM_map_undone {f : β → Except ε α} {g : α → β} {xs : List α} (undone : ∀ x, f (g x) = .ok x) :
    (xs.map g).mapM f = .ok xs := by
  rw [mapM_eq_ok, List.forall₂_map_left_iff]
  exact List.forall₂_same.mpr fun x _ => undone x

/-! ## What a chain comes to -/

section

variable {kind : Fault → Prop}

/-- Where a computation is at fault, the fault is of a kind. -/
def FailsOnly (kind : Fault → Prop) (x : Except Fault α) : Prop := ∀ fault, x = .error fault → kind fault

theorem failsOnly_ok (a : α) : FailsOnly kind (.ok a : Except Fault α) := fun _ h => nomatch h

theorem failsOnly_error {fault : Fault} (h : kind fault) : FailsOnly kind (.error fault : Except Fault α) := by
  intro _ heq
  cases heq
  exact h

/-- A chain fails as its first step does, or as the rest of it does on what that gave. -/
theorem FailsOnly.bind_of_eq {x : Except Fault α} {f : α → Except Fault β} (hx : FailsOnly kind x)
    (hf : ∀ a, x = .ok a → FailsOnly kind (f a)) : FailsOnly kind (x >>= f) := by
  intro fault h
  cases x with
  | ok a => exact hf a rfl fault h
  | error e =>
    cases h
    exact hx _ rfl

theorem FailsOnly.bind {x : Except Fault α} {f : α → Except Fault β} (hx : FailsOnly kind x)
    (hf : ∀ a, FailsOnly kind (f a)) : FailsOnly kind (x >>= f) :=
  hx.bind_of_eq fun a _ => hf a

theorem FailsOnly.map {x : Except Fault α} (hx : FailsOnly kind x) (f : α → β) :
    FailsOnly kind (x.map f) := by
  intro fault h
  cases x with
  | ok a => cases h
  | error e =>
    cases h
    exact hx _ rfl

/-- A computation comes to something good, or its fault is of a kind. -/
structure Yields (good : α → Prop) (kind : Fault → Prop) (x : Except Fault α) : Prop where
  result : ∀ a, x = .ok a → good a
  fails : FailsOnly kind x

variable {good : α → Prop} {goodNext : β → Prop}

theorem yields_ok {a : α} (h : good a) : Yields good kind (.ok a) := by
  refine ⟨fun _ heq => ?_, failsOnly_ok a⟩
  cases heq
  exact h

theorem yields_error {fault : Fault} (h : kind fault) : Yields good kind (.error fault) :=
  ⟨fun _ heq => (nomatch heq), failsOnly_error h⟩

/-- What a computation comes to is what it comes to, which is good to know of the rest of a chain. -/
theorem FailsOnly.yields {x : Except Fault α} (h : FailsOnly kind x) : Yields (fun a => x = .ok a) kind x :=
  ⟨fun _ heq => heq, h⟩

theorem Yields.bind {x : Except Fault α} {f : α → Except Fault β} (hx : Yields good kind x)
    (hf : ∀ a, good a → Yields goodNext kind (f a)) : Yields goodNext kind (x >>= f) := by
  cases x with
  | ok a => exact hf a (hx.result a rfl)
  | error fault => exact yields_error (hx.fails fault rfl)

theorem Yields.map {x : Except Fault α} (hx : Yields good kind x) {f : α → β}
    (h : ∀ a, good a → goodNext (f a)) : Yields goodNext kind (x.map f) := by
  cases x with
  | ok a => exact yields_ok (h a (hx.result a rfl))
  | error fault => exact yields_error (hx.fails fault rfl)

/-- A traversal yields good results when each of its steps does. -/
theorem Yields.mapM {f : α → Except Fault β} {xs : List α} (each : ∀ x ∈ xs, Yields goodNext kind (f x)) :
    Yields (fun ys => ∀ y ∈ ys, goodNext y) kind (xs.mapM f) := by
  induction xs with
  | nil => exact yields_ok fun _ h => (nomatch h)
  | cons x rest ih =>
    rw [List.mapM_cons]
    refine (each x List.mem_cons_self).bind fun y hy => ?_
    refine (ih fun x' h => each x' (List.mem_cons_of_mem _ h)).bind fun ys hys => yields_ok ?_
    exact List.forall_mem_cons.mpr ⟨hy, hys⟩

theorem FailsOnly.mapM {f : α → Except Fault β} {xs : List α} (each : ∀ x ∈ xs, FailsOnly kind (f x)) :
    FailsOnly kind (xs.mapM f) := by
  have yields : Yields (fun ys => ∀ y ∈ ys, True) kind (xs.mapM f) :=
    Yields.mapM fun x hx => ⟨fun _ _ => trivial, each x hx⟩
  exact yields.fails

/-- What every step keeps good is good after all of them. -/
theorem Yields.foldlM {f : β → α → Except Fault β} {xs : List α} {b : β} (start : goodNext b)
    (each : ∀ b, ∀ x ∈ xs, goodNext b → Yields goodNext kind (f b x)) : Yields goodNext kind (xs.foldlM f b) := by
  induction xs generalizing b with
  | nil => exact yields_ok start
  | cons x rest ih =>
    rw [List.foldlM_cons]
    exact (each b x List.mem_cons_self start).bind fun b hb =>
      ih hb fun b x hx => each b x (List.mem_cons_of_mem _ hx)

end

/-! ## Stepping over faults -/

/-- The fault of a step, if it is at fault. -/
def fault? (x : Except ε α) : Option ε :=
  match x with
  | .ok _ => none
  | .error e => some e

@[simp] theorem fault?_ok (a : α) : fault? (.ok a : Except ε α) = none := rfl

@[simp] theorem fault?_error (e : ε) : fault? (.error e : Except ε α) = some e := rfl

@[simp] theorem toOption_ok (a : α) : (.ok a : Except ε α).toOption = some a := rfl

@[simp] theorem toOption_error (e : ε) : (.error e : Except ε α).toOption = none := rfl

theorem toOption_eq_some {x : Except ε α} {a : α} : x.toOption = some a ↔ x = .ok a := by
  cases x <;> simp

/-- A traversal leaves a result when each of its steps does. -/
theorem toOption_mapM {f : α → Except ε β} {g : α → Option β} {xs : List α}
    (same : ∀ x ∈ xs, (f x).toOption = g x) : (xs.mapM f).toOption = xs.mapM g := by
  induction xs with
  | nil => rfl
  | cons x xs ih =>
    rw [List.mapM_cons, List.mapM_cons, ← same x List.mem_cons_self,
      ← ih fun y hy => same y (List.mem_cons_of_mem _ hy)]
    cases f x with
    | error e => rfl
    | ok y => cases xs.mapM f <;> rfl

variable {γ : Type} (f : α → Except ε β) (g : β → Except ε γ) (xs : List α)

/-- The results of two steps to each member. -/
theorem results_bind : xs.filterMap (fun x => (f x >>= g).toOption) =
    (xs.filterMap fun x => (f x).toOption).filterMap fun y => (g y).toOption := by
  rw [List.filterMap_filterMap]
  refine List.filterMap_congr fun x _ => ?_
  cases f x <;> rfl

/-- The faults of two steps to each member. -/
theorem faults_bind : (xs.filterMap fun x => fault? (f x >>= g)).Perm
    ((xs.filterMap fun x => fault? (f x)) ++
      (xs.filterMap fun x => (f x).toOption).filterMap fun y => fault? (g y)) := by
  induction xs with
  | nil => exact .nil
  | cons x xs ih =>
    cases hx : f x with
    | error e =>
      simp only [List.filterMap_cons, hx, error_bind, fault?_error, toOption_error, List.cons_append]
      exact ih.cons e
    | ok y =>
      simp only [List.filterMap_cons, hx, ok_bind, fault?_ok, toOption_ok]
      cases g y with
      -- the fault of a second step stands behind all those of the first steps
      | error e => exact (ih.cons e).trans List.perm_middle.symm
      | ok z => exact ih

/-- Each member leaves a result or a fault. -/
theorem length_results_add_faults : (xs.filterMap fun x => (f x).toOption).length +
    (xs.filterMap fun x => fault? (f x)).length = xs.length := by
  induction xs with
  | nil => rfl
  | cons x xs ih =>
    cases hx : f x <;>
      simp only [List.filterMap_cons, hx, fault?_ok, fault?_error, toOption_ok, toOption_error,
        List.length_cons] <;>
      omega

end TypedClient
