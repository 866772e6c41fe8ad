import TypedClient.Proofs.QueryArrays

/-!
# The type of a property

A property is resolved as a whole or as the item of an array. As a whole it may be nullable, and a reference in it
may lead to an enumeration; an item is never nullable, and a reference among items stays one. The rules for scalars
are there twice.

**What is proved.** `resolve_shape`: whatever the property, its type is nullable just when it is not required, no
type below the outermost is nullable, and there is no deferral and no result without data in it. Arrays in arrays
become as many lists, around what the innermost of them has as its item. `resolveItem_eq_resolve_iff`: a property
that was read has one type as an item and as a whole, up to whether it may be null, unless it refers to an
enumeration or is a number of the format `float`.
-/

namespace TypedClient.Api

open Schema

namespace TypeRef

/-! ## Types below a type -/

/-- A type that another is a list of, or that stands below such a one. -/
inductive Below (inner : TypeRef) : TypeRef → Prop
  | item {outer : TypeRef} (item : outer.item = some inner) : Below inner outer
  | within {between outer : TypeRef} (item : outer.item = some between) (below : Below inner between) :
    Below inner outer

theorem below_listOf {inner item : TypeRef} : Below inner (listOf item) ↔ inner = item ∨ Below inner item := by
  constructor
  · intro below
    cases below with
    | item same =>
      cases same
      exact .inl rfl
    | within same below =>
      cases same
      exact .inr below
  · rintro (rfl | below)
    · exact .item rfl
    · exact .within rfl below

/-- Whether a type may be null says nothing of the types below it. -/
theorem below_withNullable {inner outer : TypeRef} {nullable : Bool} :
    Below inner (outer.withNullable nullable) ↔ Below inner outer := by
  constructor
  · intro below
    cases below with
    | item item => exact .item item
    | within item below => exact .within item below
  · intro below
    cases below with
    | item item => exact .item item
    | within item below => exact .within item below

namespace Resolved

variable {t u : TypeRef}

/-- All types below a resolved one are resolved. -/
theorem of_below (resolved : t.Resolved) (below : Below u t) : u.Resolved := by
  induction resolved with
  | scalar => cases below <;> contradiction
  | named => cases below <;> contradiction
  | listOf inner ih =>
    rcases below_listOf.mp below with rfl | deeper
    · exact inner
    · exact ih deeper

theorem nullable (resolved : t.Resolved) : t.nullable = false := by
  cases resolved <;> rfl

theorem kind_ne_deferred (resolved : t.Resolved) : t.kind ≠ .deferred := by
  cases resolved <;> nofun

theorem primitive_ne_unit (resolved : t.Resolved) : t.primitive ≠ some .unit := by
  cases resolved with
  | scalar p valued => exact fun unit => valued (Option.some.inj unit)
  | named => nofun
  | listOf => nofun

end Resolved

/-! ## Lists in lists -/

theorem listOf_lists (t : TypeRef) (depth : Nat) : (listOf t).lists depth = t.lists (depth + 1) := by
  induction depth with
  | zero => rfl
  | succ depth ih => exact congrArg listOf ih

end TypeRef

open TypeRef

namespace TypeContext

variable {core p : Property} {depth : Nat}

theorem resolveItem_array (array : p.kind = .array) : resolveItem (some p) = resolveArray p.items := by
  obtain ⟨_, _, _, _, _, items, _⟩ := p
  cases array
  cases items <;> rfl

theorem resolve_array (context : TypeContext) (array : p.kind = .array) :
    context.resolve p = (resolveItem (some p)).withNullable (!p.required) := by
  rw [resolveItem_array array, resolve, array]

theorem kind_of_nests (nests : core.Nests depth p) (nested : 0 < depth) : p.kind = .array := by
  cases nests with
  | here => contradiction
  | array kind => exact kind

/-! ## The shape of the type of a property -/

/-- **The shape of the type that a property is resolved to**, for every property and whatever it is resolved against.
The outermost type is nullable just when the property is not required, nothing below it is, and there is neither a
deferral nor a result without data in it. A chain of arrays becomes a chain of as many lists: around the type that
the property in the innermost of them has as an item, or around texts when that one does not describe its items. -/
theorem resolve_shape (context : TypeContext) (p : Property) :
    ((context.resolve p).nullable = true ↔ p.required = false) ∧
      (∀ t, Below t (context.resolve p) → t.nullable = false) ∧
      (∀ t, t = context.resolve p ∨ Below t (context.resolve p) → t.kind ≠ .deferred ∧ t.primitive ≠ some .unit) ∧
      (∀ (core : Property) (depth : Nat), core.Nests depth p → 0 < depth →
        context.resolve p = ((resolveItem (some core)).lists depth).withNullable (!p.required)) ∧
      ∀ (core : Property) (depth : Nat), core.Nests depth p → core.kind = .array → core.items = none →
        context.resolve p = ((scalar .string).lists (depth + 1)).withNullable (!p.required) := by
  obtain ⟨type, resolved, heq⟩ := context.exists_resolved p
  refine ⟨?_, ?_, ?_, ?_, ?_⟩
  · rw [heq, withNullable, Bool.not_eq_true']
  · rw [heq]
    intro t below
    exact (resolved.of_below (below_withNullable.mp below)).nullable
  · rw [heq]
    rintro t (rfl | below)
    · exact ⟨resolved.kind_ne_deferred, resolved.primitive_ne_unit⟩
    · have inner := resolved.of_below (below_withNullable.mp below)
      exact ⟨inner.kind_ne_deferred, inner.primitive_ne_unit⟩
  · intro core depth nests nested
    rw [resolve_array context (kind_of_nests nests nested)]
    exact congrArg (withNullable · _) (itemType_eq_lists nests)
  · intro core depth nests array undescribed
    have innermost : resolveItem (some core) = listOf (scalar .string) := by
      rw [resolveItem_array array, undescribed]
      rfl
    have kind : p.kind = .array := by
      cases nests with
      | here => exact array
      | array kind => exact kind
    have item : resolveItem (some p) = (scalar .string).lists (depth + 1) := by
      rw [← listOf_lists, ← innermost]
      exact itemType_eq_lists nests
    rw [resolve_array context kind, item]

/-- An optional grid of references stays one of references, whatever enumerations there are. -/
theorem resolve_shape_grid : TypeContext.resolve ⟨[], ["Color"]⟩
      (.arrayOf (some (.arrayOf (some (.reference "Color" true)) true)) false) =
    ((named "Color").lists 2).withNullable true :=
  (resolve_shape ⟨[], ["Color"]⟩ _).2.2.2.1 (.reference "Color" true) 2 (.array rfl rfl (.array rfl rfl .here))
    Nat.two_pos

/-! ## Items and properties -/

theorem capitalize_object : capitalize "object" = "Object" := by decide

/-- No type name and an empty one stand for the same type as `object`. -/
theorem resolveScalar_textOr (type format : Option String) :
    resolveScalar (textOr type "object") format = resolveScalar type format := by
  cases type with
  | none => exact congrArg named capitalize_object
  | some name =>
    by_cases empty : name = ""
    · subst empty
      exact congrArg named capitalize_object
    · simp [textOr]

/-- A primitive is resolved alike as an item, up to the numbers of the format `float`. -/
theorem itemType_primitive (primitive : p.kind = .primitive) : itemType p =
    if p.type = some "number" ∧ p.format = some "float" then .scalar .float else resolveScalar p.type p.format := by
  fun_cases itemType p with
  | case1 => cases primitive
  | case2 => cases primitive
  | case3 => cases primitive
  | case4 => rfl
  | case5 => rfl
  | case6 =>
    next other =>
      rw [if_neg fun float => other float.2]
      rfl
  | case7 =>
    next number =>
      rw [if_neg fun float => number float.1]
      exact resolveScalar_textOr _ _

theorem resolveTarget_other {context : TypeContext} {name : String} (other : modelName name ∉ context.enumNames) :
    context.resolveTarget name = named name := by
  rw [resolveTarget, if_neg (by simpa using other)]

/-- The type of a property, apart from whether it may be null. -/
theorem resolve_withNullable_false (context : TypeContext) (p : Property) :
    (context.resolve p).withNullable false = match p.kind with
      | .reference => context.resolveTarget (p.target.getD "")
      | .array => resolveArray p.items
      | .primitive => resolveScalar p.type p.format
      | .object => resolveScalar (textOr p.type "object") none := by
  obtain ⟨kind, _, _, _, _, _, _⟩ := p
  cases kind with
  | reference => exact (resolveTarget_resolved context _).withNullable_false
  | array => exact (resolveArray_resolved _).withNullable_false
  | primitive => exact (resolveScalar_resolved _ _).withNullable_false
  | object => exact (resolveScalar_resolved _ _).withNullable_false

/-- **A property has one type as an item and as a whole**, when it was read and is not a reference to an enumeration:
the type as an item is that as a whole, not nullable, unless the property is a number of the format `float`. -/
theorem resolveItem_eq_resolve_iff {links : Links} {required : Bool} {v : Value} {p : Property}
    (read : Property.read links required v = .ok p) (context : TypeContext)
    (other : ∀ name, p.kind = .reference → p.target = some name → modelName name ∉ context.enumNames) :
    resolveItem (some p) = (context.resolve p).withNullable false ↔
      ¬ (p.kind = .primitive ∧ p.type = some "number" ∧ p.format = some "float") := by
  rw [resolve_withNullable_false]
  cases Property.readAs_of_read read with
  | @reference name =>
    have type : context.resolveTarget name = named name := resolveTarget_other (other name rfl rfl)
    exact iff_of_true type.symm nofun
  | anyObject => exact iff_of_true rfl nofun
  | arrayOf => exact iff_of_true (resolveItem_array rfl) nofun
  | @primitive type format literals =>
    have item := itemType_primitive (p := { kind := .primitive, type, format, required, literals }) rfl
    show itemType _ = resolveScalar type format ↔ _
    rw [item]
    split
    · next float =>
      obtain ⟨rfl, rfl⟩ := float
      exact iff_of_false (fun same => by cases same) fun same => same ⟨rfl, rfl, rfl⟩
    · next other => exact iff_of_true rfl fun float => other float.2

/-- A count is the same type in a list and alone, though enumerations are generated. -/
theorem resolveItem_eq_resolve_iff_count :
    let p : Property := { kind := .primitive, type := some "integer", format := some "int64", required := false }
    Property.read .none false (.object [("type", .str "integer"), ("format", .str "int64")]) = .ok p ∧
      resolveItem (some p) = (TypeContext.resolve ⟨[], ["Color"]⟩ p).withNullable false :=
  ⟨rfl, (@resolveItem_eq_resolve_iff .none false (.object [("type", .str "integer"), ("format", .str "int64")]) _ rfl
    ⟨[], ["Color"]⟩ nofun).mpr (by decide)⟩

end TypeContext

end TypedClient.Api
