import TypedClient.Proofs.Composition
import TypedClient.Proofs.WellFormed

/-!
# Arrays in the query

The type of an array goes down through the arrays in it to what they are made of, when it is the type of a property
or of a body. In the query the items of an array are resolved like a scalar: nothing is seen of them but their type
and their format, and an array among the items is taken for a list of texts.

**What is proved.** `queryArray_typed`: around a scalar, to whatever depth it is nested, an array in a body has the
type of as many lists, and an array in the query that of two lists of texts or, when there are no arrays in it, of
one list of the scalar. The two types are the same just for an array without arrays in it and for an array of arrays
of texts. A grid of integers is a list of lists of texts in the query.
-/

namespace TypedClient

open Schema Api

/-! ## Nested lists -/

namespace Api.TypeRef

/-- The lists of lists of a type, nested to a depth. -/
def lists (t : TypeRef) : Nat → TypeRef
  | 0 => t
  | depth + 1 => .listOf (t.lists depth)

/-- How deep a list is nested and around which scalar can be told from it. -/
theorem lists_scalar_inj {s r : Primitive} {m n : Nat} :
    (scalar s).lists m = (scalar r).lists n ↔ m = n ∧ s = r := by
  induction m generalizing n with
  | zero =>
    cases n with
    | zero => simp [lists, scalar]
    | succ n => simp [lists, scalar, listOf]
  | succ m ih =>
    cases n with
    | zero => simp [lists, scalar, listOf]
    | succ n =>
      have inner : (scalar s).lists (m + 1) = (scalar r).lists (n + 1) ↔ (scalar s).lists m = (scalar r).lists n := by
        simp [lists, listOf]
      rw [inner, ih, Nat.add_right_cancel_iff]

end Api.TypeRef

/-! ## Arrays in arrays -/

namespace Schema

/-- A property of a scalar type. -/
def Property.IsScalar (p : Property) : Prop :=
  p.kind = .primitive ∧ (p.type = some "integer" ∨ p.type = some "string" ∨ p.type = some "boolean")

/-- Arrays in arrays, nested to a depth around a property. -/
inductive Property.Nests (core : Property) : Nat → Property → Prop
  | here : Nests core 0 core
  | array {depth : Nat} {p inner : Property} (kind : p.kind = .array) (items : p.items = some inner)
    (within : Nests core depth inner) : Nests core (depth + 1) p

/-- An array that is read is of that type. -/
theorem Property.type_of_array {links : Links} {required : Bool} {v : Value} {p : Property}
    (read : Property.read links required v = .ok p) (kind : p.kind = .array) : p.type = some "array" := by
  cases Property.readAs_of_read read with
  | arrayOf => rfl
  | reference | anyObject | primitive => cases kind

/-- The items of a parameter are a property that is read, if there are any. -/
theorem Parameter.items_of_read {links : Links} {node : Value} {p : Parameter} {items : Property}
    (read : Parameter.read links node = .ok p) (listed : p.items = some items) :
    ∃ v, Property.read links true v = .ok items := by
  cases Parameter.readAs_of_read read with
  | inBody => cases listed
  | elsewhere _ _ _ _ _ _ _ _ described =>
    subst listed
    rcases Property.readOptional_eq_ok described with ⟨_, none⟩ | ⟨q, inner, same⟩
    · cases none
    · cases same
      exact ⟨_, inner⟩

end Schema

namespace Api

open TypeRef

variable {core items : Property}

/-- The primitive of a scalar. -/
theorem exists_primitive (scalar : core.IsScalar) : ∃ s : Primitive,
    resolveScalar core.type core.format = .scalar s ∧ TypeContext.itemType core = .scalar s ∧
      (s = .string ↔ core.type = some "string") := by
  obtain ⟨kind, type, format, required, target, inner, literals⟩ := core
  obtain ⟨kind, type⟩ := scalar
  cases kind
  rcases type with rfl | rfl | rfl
  · by_cases long : format = some "int64"
    · exact ⟨.int64, by simp [resolveScalar, integerType, long], by simp [TypeContext.itemType, integerType, long],
        by simp⟩
    · exact ⟨.int32, by simp [resolveScalar, integerType, long], by simp [TypeContext.itemType, integerType, long],
        by simp⟩
  · exact ⟨.string, rfl, rfl, by simp⟩
  · exact ⟨.bool, rfl, rfl, by simp⟩

/-- The type of an array goes down through the arrays in it. -/
theorem itemType_eq_lists {depth : Nat} {p : Property} (nests : core.Nests depth p) :
    TypeContext.itemType p = (TypeContext.itemType core).lists depth := by
  induction nests with
  | here => rfl
  | @array depth p inner kind items within ih =>
    obtain ⟨_, type, format, required, target, _, literals⟩ := p
    cases kind
    cases items
    rw [TypeContext.itemType, ih]
    rfl

theorem itemType_nests {s : Primitive} (scalar : TypeContext.itemType core = .scalar s) {depth : Nat} {p : Property}
    (nests : core.Nests depth p) : TypeContext.itemType p = (TypeRef.scalar s).lists depth := by
  rw [itemType_eq_lists nests, scalar]

/-- The type of an array in the query goes no further than to its items. -/
theorem queryArrayType_nests {p : Parameter} (listed : p.items = some items) {s : Primitive}
    (scalar : resolveScalar core.type core.format = .scalar s) {depth : Nat} (nests : core.Nests depth items)
    (typed : items.kind = .array → items.type = some "array") :
    queryArrayType p = if depth = 0 then (TypeRef.scalar s).lists 1 else (TypeRef.scalar .string).lists 2 := by
  rw [queryArrayType, listed]
  cases nests with
  | here =>
    dsimp only
    rw [scalar]
    rfl
  | array kind =>
    dsimp only
    rw [typed kind]
    rfl

theorem boundType_queryArray {p : Parameter} (query : p.location = .query) (array : p.type = some "array") :
    boundType? p = some (.query, queryArrayType p) := by
  simp [boundType?, query, array]

theorem boundType_bodyArray {p : Parameter} {s : Property} (body : p.location = .body) (schema : p.schema = some s)
    (kind : s.kind = .array) : boundType? p = some (.body, TypeContext.resolveArray s.items) := by
  simp [boundType?, body, bodyType, schema, kind]

/-! ## The query and the body -/

/-- **Arrays in the query against arrays in a body.** An array in the query, of items that are nested to a depth
around a scalar, gives a parameter of the method. It is a list of the scalar at depth zero and a list of lists of
texts at any other, where the type of the same array in a body has a list for each array. Up to whether they may be
null, the two are the same just at depth zero and, around texts, at depth one. -/
theorem queryArray_typed {links : Links} {node : Value} {p : Parameter} (read : Parameter.read links node = .ok p)
    (query : p.location = .query) (array : p.type = some "array") {items core : Property} {depth : Nat}
    (listed : p.items = some items) (nests : core.Nests depth items) (scalar : core.IsScalar) :
    let element := resolveScalar core.type core.format
    TypeContext.resolveArray p.items = element.lists (depth + 1) ∧
      (∀ (b : Parameter) (s : Property), b.location = .body → b.schema = some s → s.kind = .array →
        s.items = p.items → ∃ q, methodParameter? b = some q ∧ q.binding = .body ∧
          q.type = (TypeContext.resolveArray p.items).withNullable (!b.required)) ∧
      ∃ q, methodParameter? p = some q ∧ q.binding = .query ∧
        q.type = (if depth = 0 then listOf element else listOf (listOf (.scalar .string))).withNullable
          (!p.required) ∧
        (q.type.withNullable false = TypeContext.resolveArray p.items ↔
          depth = 0 ∨ depth = 1 ∧ core.type = some "string") := by
  obtain ⟨s, resolved, item, text⟩ := exists_primitive scalar
  have typed : items.kind = .array → items.type = some "array" := by
    intro kind
    obtain ⟨v, described⟩ := Parameter.items_of_read read listed
    exact Property.type_of_array described kind
  have everywhere : TypeContext.resolveArray p.items = (TypeRef.scalar s).lists (depth + 1) := by
    rw [listed]
    exact congrArg listOf (itemType_nests item nests)
  have inQuery := queryArrayType_nests listed resolved nests typed
  obtain ⟨q, made, binding, type⟩ := exists_parameter (boundType_queryArray query array)
  have bare : q.type.withNullable false = queryArrayType p := by
    rw [type]
    exact (queryArrayType_resolved p).withNullable_false
  intro element
  refine ⟨?_, ?_, q, made, binding, ?_, ?_⟩
  · rw [everywhere, show element = .scalar s from resolved]
  · intro b schema body stated kind same
    rw [← same]
    exact exists_parameter (boundType_bodyArray body stated kind)
  · rw [type, inQuery, show element = .scalar s from resolved]
    rfl
  · rw [bare, inQuery, everywhere, ← text]
    by_cases flat : depth = 0
    · simp [flat]
    · rw [if_neg flat, lists_scalar_inj]
      constructor
      · rintro ⟨deep, same⟩
        exact .inr ⟨by omega, same.symm⟩
      · rintro (none | ⟨one, same⟩)
        · exact absurd none flat
        · exact ⟨by omega, same.symm⟩

/-- An array in the query, of arrays of a type. -/
def gridNode (type : String) : Value :=
  .object [("name", .str "rows"), ("in", .str "query"), ("required", .bool true), ("type", .str "array"),
    ("items", .object [("type", .str "array"), ("items", .object [("type", .str type)])])]

/-- What is read from it. -/
def grid (type : String) : Parameter :=
  { name := "rows", location := .query, type := some "array", required := true
    items := some (.arrayOf (some { kind := .primitive, type := some type, required := true }) true) }

theorem nests_grid (type : String) : Property.Nests { kind := .primitive, type := some type, required := true } 1
    (.arrayOf (some { kind := .primitive, type := some type, required := true }) true) :=
  .array rfl rfl .here

/-- A grid of texts is the same in the query and in a body. -/
theorem queryArray_typed_texts : ∃ q, methodParameter? (grid "string") = some q ∧
    q.type = listOf (listOf (.scalar .string)) ∧ q.type = TypeContext.resolveArray (grid "string").items := by
  have read : Parameter.read .none (gridNode "string") = .ok (grid "string") := rfl
  obtain ⟨_, _, q, made, _, type, alike⟩ :=
    queryArray_typed read rfl rfl rfl (nests_grid "string") ⟨rfl, .inr (.inl rfl)⟩
  have same := alike.mpr (.inr ⟨rfl, rfl⟩)
  rw [type] at same
  exact ⟨q, made, type, type.trans same⟩

/-- An array of scalars, nested to whatever depth, has one type in the query and in a body. -/
def EveryQueryArrayAlike (links : Links) (node : Value) : Prop :=
  ∀ (p : Parameter) (items core : Property) (depth : Nat), Parameter.read links node = .ok p → p.location = .query →
    p.type = some "array" → p.items = some items → core.Nests depth items → core.IsScalar →
    ∃ q, methodParameter? p = some q ∧ q.type.withNullable false = TypeContext.resolveArray p.items

/-- Not every array has one type: a grid of integers is one of texts in the query. -/
theorem not_everyQueryArrayAlike : ¬ EveryQueryArrayAlike .none (gridNode "integer") := by
  intro alike
  obtain ⟨q, made, same⟩ := alike (grid "integer") _ _ 1 rfl rfl rfl rfl (nests_grid "integer") ⟨rfl, .inl rfl⟩
  cases made
  cases same

end Api

end TypedClient
