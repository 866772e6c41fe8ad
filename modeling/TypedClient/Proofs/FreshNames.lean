import TypedClient.Naming
import Mathlib.Data.List.Nodup
import Mathlib.Data.List.Perm.Subperm

/-!
# Fresh names

`freshName` looks through one candidate more than there are names taken. When the candidates are
distinct they cannot all be taken, so the name that is found is free.

**What is proved.** `freshName_firstFree`: going through distinct candidates ends, at the first that is
free. `Renamed` says so of items that are named one after the other, each beside the names given before;
`Renamed.nodup` and `Renamed.not_mem` say that these names are distinct and new. How many candidates are gone
through is bounded by the number of names taken (`FirstFree.exists_le`).
-/

namespace TypedClient

variable {taken : List String} {candidate : Nat → String}

/-- No more of distinct candidates are taken than there are names taken. -/
theorem le_length_of_taken (distinct : Function.Injective candidate) {n : Nat}
    (all : ∀ k < n, candidate k ∈ taken) : n ≤ taken.length := by
  have within : (List.range n).map candidate ⊆ taken := by
    intro c member
    obtain ⟨k, hk, rfl⟩ := List.mem_map.mp member
    exact all k (List.mem_range.mp hk)
  have fits := (List.subperm_of_subset (List.Nodup.map distinct List.nodup_range) within).length_le
  rwa [List.length_map, List.length_range] at fits

/-- Among distinct candidates, one more than there are names taken, one is free. -/
theorem exists_free (distinct : Function.Injective candidate) :
    ∃ c ∈ (List.range (taken.length + 1)).map candidate, c ∉ taken := by
  by_contra none
  have all : ∀ k < taken.length + 1, candidate k ∈ taken := by
    intro k hk
    by_contra free
    exact none ⟨_, List.mem_map_of_mem (List.mem_range.mpr hk), free⟩
  have := le_length_of_taken distinct all
  omega

/-- A name at which going through the candidates ends: it is the first of them that is free. -/
def FirstFree (taken : List String) (candidate : Nat → String) (name : String) : Prop :=
  name ∉ taken ∧ ∃ n, name = candidate n ∧ ∀ k < n, candidate k ∈ taken

/-- **A fresh name is free.** -/
theorem freshName_not_mem (distinct : Function.Injective candidate) :
    freshName taken candidate ∉ taken := by
  obtain ⟨c, hc, free⟩ := @exists_free taken candidate distinct
  have found : ((List.range (taken.length + 1)).map candidate).find? (!taken.contains ·) ≠ none := by
    intro h
    exact List.find?_eq_none.mp h c hc (by simpa using free)
  obtain ⟨name, h⟩ := Option.ne_none_iff_exists'.mp found
  rw [freshName, h, Option.getD_some]
  simpa using List.find?_some h

/-- A fresh name is one of the candidates. -/
theorem exists_freshName_eq (taken : List String) (candidate : Nat → String) :
    ∃ n, freshName taken candidate = candidate n := by
  unfold freshName
  cases found : ((List.range (taken.length + 1)).map candidate).find? (!taken.contains ·) with
  | none => exact ⟨0, rfl⟩
  | some c =>
    obtain ⟨n, _, rfl⟩ := List.mem_map.mp (List.mem_of_find?_eq_some found)
    exact ⟨n, rfl⟩

/-- The first candidate is taken when it is free. -/
theorem freshName_eq_first (free : candidate 0 ∉ taken) : freshName taken candidate = candidate 0 := by
  have first : (!taken.contains (candidate 0)) = true := by simpa using free
  rw [freshName, List.range_succ_eq_map, List.map_cons, List.find?_cons, first, Option.getD_some]

/-- **Going through distinct candidates ends**, at the first that is free. -/
theorem freshName_firstFree (distinct : Function.Injective candidate) :
    FirstFree taken candidate (freshName taken candidate) := by
  refine ⟨freshName_not_mem distinct, ?_⟩
  have free := @freshName_not_mem taken candidate distinct
  unfold freshName at free ⊢
  rw [List.find?_map] at free ⊢
  cases found : (List.range (taken.length + 1)).find? ((!taken.contains ·) ∘ candidate) with
  | none => exact ⟨0, rfl, nofun⟩
  | some n =>
    obtain ⟨_, _, before⟩ := List.find?_range_eq_some.mp found
    exact ⟨n, rfl, fun k hk => by simpa using before k hk⟩

/-- The first candidate that is free comes after no more of them than there are names taken. -/
theorem FirstFree.exists_le {name : String} (h : FirstFree taken candidate name)
    (distinct : Function.Injective candidate) :
    ∃ n ≤ taken.length, name = candidate n ∧ ∀ k < n, candidate k ∈ taken := by
  obtain ⟨_, n, found, before⟩ := h
  exact ⟨n, le_length_of_taken distinct before, found, before⟩

/-- Low lines at the end make candidates of different lengths. -/
theorem underlined_injective (name : String) : Function.Injective (underlined name) := by
  intro a b h
  have := congrArg String.length h
  simpa [underlined] using this

/-- Different numbers make different candidates. -/
theorem numbered_injective (name : String) : Function.Injective (numbered name) := by
  have longer : ∀ n, name ≠ numbered name (n + 1) := by
    intro n same
    have length := congrArg String.length same
    have mark : "_".length = 1 := by decide
    rw [numbered, String.length_append, String.length_append, mark] at length
    omega
  intro a b same
  cases a with
  | zero =>
    cases b with
    | zero => rfl
    | succ b => exact absurd same (longer b)
  | succ a =>
    cases b with
    | zero => exact absurd same.symm (longer a)
    | succ b =>
      have chars := congrArg String.toList same
      simp only [numbered, String.toList_append] at chars
      have digits := congrArg (fun ds => Nat.ofDigitChars 10 ds 0) (List.append_cancel_left chars)
      simpa [Nat.toString_eq_ofList_toDigits] using digits

/-! ## Items named one after the other -/

section

variable {α : Type} {candidate : α → Nat → String} {used names : List String} {items : List α}

/-- Names for items: each is the first of its candidates that is free, beside the names used before and
those of the earlier items. -/
inductive Renamed (candidate : α → Nat → String) : List String → List α → List String → Prop
  | nil {used : List String} : Renamed candidate used [] []
  | cons {used names : List String} {item : α} {items : List α} {name : String}
    (first : FirstFree used (candidate item) name) (later : Renamed candidate (used ++ [name]) items names) :
    Renamed candidate used (item :: items) (name :: names)

/-- A function that takes a fresh name for each item, beside those taken before, renames the items. -/
theorem renamed_of_steps {names : List String → List α → List String} (nil : ∀ used, names used [] = [])
    (cons : ∀ used item rest, names used (item :: rest) =
      freshName used (candidate item) :: names (used ++ [freshName used (candidate item)]) rest)
    (distinct : ∀ item, Function.Injective (candidate item)) (used : List String) (items : List α) :
    Renamed candidate used items (names used items) := by
  induction items generalizing used with
  | nil => exact nil used ▸ .nil
  | cons item rest ih => exact cons used item rest ▸ .cons (freshName_firstFree (distinct item)) (ih _)

/-- No item gets a name that was used before. -/
theorem Renamed.not_mem (h : Renamed candidate used items names) : ∀ name ∈ names, name ∉ used := by
  induction h with
  | nil => exact fun _ member => nomatch member
  | cons first _ ih =>
    intro name member
    rcases List.mem_cons.mp member with rfl | later
    · exact first.1
    · exact fun known => ih name later (List.mem_append_left _ known)

/-- No two items get one name. -/
theorem Renamed.nodup (h : Renamed candidate used items names) : names.Nodup := by
  induction h with
  | nil => exact List.nodup_nil
  | cons _ later ih =>
    refine List.nodup_cons.mpr ⟨fun again => ?_, ih⟩
    exact later.not_mem _ again (List.mem_append_right _ (List.mem_singleton_self _))

/-- Items are named as others that have the same candidates, one by one. -/
theorem Renamed.of_same {β : Type} {others : List β} {candidate' : β → Nat → String}
    (h : Renamed candidate used items names)
    (same : List.Forall₂ (fun other item => candidate item = candidate' other) others items) :
    Renamed candidate' used others names := by
  induction h generalizing others with
  | nil =>
    cases same
    exact .nil
  | cons first _ ih =>
    obtain _ | ⟨alike, rest⟩ := same
    exact .cons (alike ▸ first) (ih rest)

/-- Each item gets one of its own candidates. -/
theorem Renamed.candidates (h : Renamed candidate used items names) :
    List.Forall₂ (fun item name => ∃ n, name = candidate item n) items names := by
  induction h with
  | nil => exact .nil
  | cons first _ ih => exact .cons (first.2.imp fun _ => And.left) ih

/-- What is found for an item is free beside the names used before and those of the items in front of it. -/
theorem Renamed.firstFree_getElem (h : Renamed candidate used items names) {i : Nat} {item : α} {name : String}
    (here : items[i]? = some item) (named : names[i]? = some name) :
    FirstFree (used ++ names.take i) (candidate item) name := by
  induction h generalizing i with
  | nil => cases here
  | cons first _ ih =>
    cases i with
    | zero =>
      cases here
      cases named
      simpa using first
    | succ i => simpa using ih here named

/-- There are as many names as items. -/
theorem Renamed.length_eq (h : Renamed candidate used items names) : names.length = items.length :=
  h.candidates.length_eq.symm

end

end TypedClient
