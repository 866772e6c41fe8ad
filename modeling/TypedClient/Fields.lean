/-!
# Fields in order

Named things whose order matters are kept as a list of pairs: the fields of an object, the definitions
of a document, the classes of a file. `put` gives a name its value: a name that is present keeps its
place and takes the new value, a new name goes to the end. So among the values written under one name
the last one counts, at the place of the first.
-/

namespace TypedClient

/-- Named values in order. -/
abbrev Fields (α : Type) := List (String × α)

namespace Fields

variable {α β : Type}

/-- The names in order. -/
def names (fs : Fields α) : List String := fs.map Prod.fst

/-- The values in order. -/
def values (fs : Fields α) : List α := fs.map Prod.snd

/-- The value under a name. -/
def get? (fs : Fields α) (name : String) : Option α := fs.lookup name

/-- Whether a name is present. -/
def has (fs : Fields α) (name : String) : Bool := (get? fs name).isSome

/-- Gives a name its value. -/
def put : Fields α → String → α → Fields α
  | [], name, value => [(name, value)]
  | (key, old) :: rest, name, value =>
    if key = name then (key, value) :: rest else (key, old) :: put rest name value

/-- Gives each of the names its value, in order. -/
def putAll (fs : Fields α) (more : Fields α) : Fields α :=
  more.foldl (fun acc p => put acc p.1 p.2) fs

/-- Pairs as fields: the last value of each name, at the place of its first. -/
def ofPairs (pairs : List (String × α)) : Fields α := putAll [] pairs

/-- After a `put`, its name has its value and the other names have theirs. -/
theorem get?_put (fs : Fields α) (name : String) (value : α) (other : String) :
    get? (put fs name value) other = if other = name then some value else get? fs other := by
  induction fs with
  | nil =>
    by_cases h : other = name
    · subst h; simp [put, get?]
    · simp [put, get?, List.lookup_cons, h, beq_eq_false_iff_ne.mpr h]
  | cons p rest ih =>
    obtain ⟨key, old⟩ := p
    simp only [get?] at ih ⊢
    by_cases hk : key = name
    · subst hk
      by_cases h : other = key
      · subst h; simp [put]
      · simp [put, List.lookup_cons, beq_eq_false_iff_ne.mpr h, h]
    · by_cases h : other = key
      · subst h; simp [put, hk]
      · simp [put, hk, List.lookup_cons, beq_eq_false_iff_ne.mpr h, ih]

/-- A `put` keeps the names and adds its own at the end if it is new. -/
theorem names_put (fs : Fields α) (name : String) (value : α) :
    names (put fs name value) = if name ∈ names fs then names fs else names fs ++ [name] := by
  induction fs with
  | nil => simp [put, names]
  | cons p rest ih =>
    obtain ⟨key, old⟩ := p
    by_cases hk : key = name
    · subst hk; simp [put, names]
    · have : name ≠ key := Ne.symm hk
      simp only [names] at ih
      simp only [put, hk, if_false, names, List.map_cons, List.mem_cons, this, false_or, ih]
      by_cases hn : name ∈ rest.map Prod.fst <;> simp [hn]

end Fields

end TypedClient
