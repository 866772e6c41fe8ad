import TypedClient.Proofs.Composition

/-!
# Which values describe a property

A property is read from any value of a document, well-formed or not. Reading looks at a field only when the fields
before it have decided that it counts: a reference is taken whatever else it states, an array without regard to its
format, an object without regard to its items. So what makes a value acceptable is said case by case.

**What is proved.** `read_accepts`: a value without links is read as a property exactly when it is a
`WellFormedNode`, and the property is then `Shaped`. A reference has nothing but its target, items stand on arrays
alone, literals and a format on primitives alone, and everything below the root is required.

The first direction goes down the value with the reading, the other one follows the derivation of `WellFormedNode`.
-/

namespace TypedClient.Schema

/-! ## Well-formed nodes -/

/-- Whether a value is a given text. -/
def isGivenText (s : String) : Value → Bool
  | .str t => t == s
  | _ => false

/-- The type that a `type` field states. Of a list it is the first item that is not the text `null`, and null when
there is none. -/
def statedType : Value → Value
  | .list vs => (vs.find? (!isGivenText "null" ·)).getD .null
  | v => v

/-- Null or a text. -/
inductive NullOrText : Value → Prop
  | null : NullOrText .null
  | text (s : String) : NullOrText (.str s)

/-- Null or a list. -/
inductive NullOrList : Value → Prop
  | null : NullOrList .null
  | list (vs : List Value) : NullOrList (.list vs)

/-- A value that describes a property. An absent field counts as null, and null is well-formed. -/
inductive WellFormedNode : Value → Prop
  | reference {fields : Fields Value} {target : String} (named : fields.value "$ref" = .str target) :
    WellFormedNode (.object fields)
  | truthValue (b : Bool) : WellFormedNode (.bool b)
  | blank {v : Value} (absent : v.truthy = false) : WellFormedNode v
  | untyped {fields : Fields Value} (type : statedType (fields.value "type") = .null) :
    WellFormedNode (.object fields)
  | object {fields : Fields Value} (type : statedType (fields.value "type") = .str "object") :
    WellFormedNode (.object fields)
  | array {fields : Fields Value} (type : statedType (fields.value "type") = .str "array")
    (items : WellFormedNode (fields.value "items")) : WellFormedNode (.object fields)
  | primitive {fields : Fields Value} {name : String} (type : statedType (fields.value "type") = .str name)
    (noArray : name ≠ "array") (noObject : name ≠ "object") (format : NullOrText (fields.value "format"))
    (literals : NullOrList (fields.value "enum")) : WellFormedNode (.object fields)

/-- A property as it is read: of one of four kinds, each with what belongs to it, and required or not at its root
alone. -/
inductive Property.Shaped : (required : Bool) → Property → Prop
  | reference {required : Bool} (name : String) :
    Shaped required { kind := .reference, type := some "ref", target := some name, required }
  | list {required : Bool} : Shaped required { kind := .array, type := some "array", required }
  | listOf {required : Bool} {items : Property} (each : Shaped true items) :
    Shaped required { kind := .array, type := some "array", items := some items, required }
  | object {required : Bool} : Shaped required { kind := .object, type := some "object", required }
  | primitive {required : Bool} {type : String} (noArray : type ≠ "array") (noObject : type ≠ "object")
    (format : Option String) (literals : Option (List Value)) :
    Shaped required { kind := .primitive, type := some type, format, literals, required }

variable {links : Links} {required : Bool}

/-! ## Fields of a plain object -/

theorem isText_plain {v : Value} (plain : v.isPlain = true) (s : String) :
    links.isText v s = .ok (isGivenText s v) := by
  rw [Links.isText, Links.look_plain plain, ok_bind]
  cases v <;> rfl

/-- The stated type is a part of the value, so it is plain. -/
theorem statedType_plain {v : Value} (plain : v.isPlain = true) : (statedType v).isPlain = true := by
  cases v with
  | list vs =>
    rw [statedType]
    cases found : vs.find? (!isGivenText "null" ·) with
    | none => rfl
    | some u => exact Value.isPlain_list.mp plain u (List.mem_of_find?_eq_some found)
  | _ => exact plain

theorem firstType_plain {vs : List Value} (plain : ∀ v ∈ vs, v.isPlain = true) :
    firstType links vs = .ok (statedType (.list vs)) := by
  induction vs with
  | nil => rfl
  | cons v rest ih =>
    obtain ⟨first, later⟩ := List.forall_mem_cons.mp plain
    rw [firstType, isText_plain first, ok_bind, ih later, statedType, statedType, List.find?_cons]
    cases isGivenText "null" v <;> rfl

theorem typeOf_plain {v : Value} (plain : v.isPlain = true) : typeOf links v = .ok (statedType v) := by
  rw [typeOf, Links.look_plain plain, ok_bind]
  cases v with
  | list vs => exact firstType_plain (Value.isPlain_list.mp plain)
  | _ => rfl

theorem refTarget?_eq_some {fields : Fields Value} {target : String} :
    refTarget? fields = some target ↔ fields.value "$ref" = .str target := by
  unfold refTarget? Fields.value
  cases fields.get? "$ref" with
  | none => simp
  | some v => cases v <;> simp

theorem exists_optionalText {v : Value} : (∃ s, v.optionalText = .ok s) ↔ NullOrText v := by
  constructor
  · rintro ⟨s, h⟩
    cases v with
    | null => exact .null
    | str t => exact .text t
    | _ => cases h
  · rintro (_ | s)
    · exact ⟨_, rfl⟩
    · exact ⟨_, rfl⟩

theorem exists_optionalList {v : Value} (plain : v.isPlain = true) :
    (∃ vs, links.optionalList v = .ok vs) ↔ NullOrList v := by
  constructor
  · rintro ⟨vs, h⟩
    cases v with
    | null => exact .null
    | list us => exact .list us
    | link => cases plain
    | _ => cases h
  · rintro (_ | us)
    · exact ⟨_, rfl⟩
    · exact ⟨_, rfl⟩

/-- The items of an array are read from its field `items`. -/
theorem Property.readItems_eq (fields : Fields Value) :
    Property.readItems links fields = Property.readOptional links true (fields.value "items") := by
  induction fields with
  | nil => rfl
  | cons f rest ih =>
    rw [Property.readItems, Fields.value_cons, ih]
    split
    · obtain ⟨name, v⟩ := f
      cases v <;> rfl
    · rfl

theorem sizeOf_value_lt {fields : Fields Value} {name : String} (stated : fields.value name ≠ .null) :
    sizeOf (fields.value name) < sizeOf (Value.object fields) := by
  unfold Fields.value at stated ⊢
  cases found : fields.get? name with
  | none =>
    rw [found] at stated
    exact absurd rfl stated
  | some v =>
    have inner := List.sizeOf_lt_of_mem (Fields.mem_of_get? found)
    rw [Option.getD_some]
    simp only [Prod.mk.sizeOf_spec, Value.object.sizeOf_spec] at inner ⊢
    omega

/-- Induction down the items of arrays. An absent field counts as null, which is no object. -/
theorem Value.items_induction {motive : Value → Prop}
    (other : ∀ v, (∀ fields, v ≠ .object fields) → motive v)
    (object : ∀ fields, motive (Fields.value fields "items") → motive (.object fields)) (v : Value) : motive v := by
  match v with
  | .object fields =>
    apply object
    by_cases absent : Fields.value fields "items" = .null
    · rw [absent]
      exact other .null fun _ same => nomatch same
    · have smaller := sizeOf_value_lt absent
      exact items_induction other object (Fields.value fields "items")
  | .null | .bool _ | .int _ | .float _ | .str _ | .moment _ | .list _ | .link .. =>
    exact other _ fun _ same => nomatch same
termination_by sizeOf v
decreasing_by exact smaller

/-! ## What an object is read as -/

theorem Property.read_reference {fields : Fields Value} {target : String}
    (named : fields.value "$ref" = .str target) :
    Property.read links required (.object fields) = .ok (.reference (lastSegment target) required) := by
  rw [Property.read, refTarget?_eq_some.mpr named]

/-- An object that is no reference is read as its type says. -/
theorem Property.read_typed {fields : Fields Value} (plain : fields.Plain) (unnamed : refTarget? fields = none)
    (inhabited : fields.isEmpty = false) : Property.read links required (.object fields) =
      match statedType (fields.value "type") with
      | .null => .ok (.anyObject required)
      | .str name =>
        if name = "array" then
          (Property.readOptional links true (fields.value "items")).map (Property.arrayOf · required)
        else if name = "object" then .ok (.anyObject required)
        else Property.readPrimitive links (.str name) fields required
      | _ => .error .invalidField := by
  have typePlain := statedType_plain (plain.value "type")
  rw [Property.read, unnamed]
  simp only [inhabited, Bool.false_eq_true, if_false]
  rw [typeOf_plain (plain.value "type"), ok_bind, isText_plain typePlain, ok_bind, Property.readItems_eq]
  generalize statedType (fields.value "type") = type at typePlain
  cases type with
  | str name =>
    simp only [isGivenText, beq_iff_eq, isText_plain typePlain, ok_bind]
    rfl
  | link => cases typePlain
  | _ => rfl

theorem Property.readPrimitive_eq_ok {name : String} {fields : Fields Value} {p : Property} :
    Property.readPrimitive links (.str name) fields required = .ok p ↔ ∃ format literals,
      (fields.value "format").optionalText = .ok format ∧ links.optionalList (fields.value "enum") = .ok literals ∧
        p = { kind := .primitive, type := some name, format, literals, required } := by
  simp only [Property.readPrimitive, Value.optionalText, ok_bind, bind_eq_ok]
  constructor
  · rintro ⟨format, hformat, literals, hliterals, heq⟩
    cases heq
    exact ⟨format, literals, hformat, hliterals, rfl⟩
  · rintro ⟨format, literals, hformat, hliterals, rfl⟩
    exact ⟨format, hformat, literals, hliterals, rfl⟩

/-! ## Acceptance -/

/-- A value that is no object describes a property when it is a truth value or blank. -/
theorem accepted_of_nonObject {v : Value} (plain : v.isPlain = true) (other : ∀ fields, v ≠ .object fields)
    {p : Property} (h : Property.read links required v = .ok p) : WellFormedNode v ∧ p.Shaped required := by
  cases v with
  | object fields => exact absurd rfl (other fields)
  | link => cases plain
  | bool b =>
    cases h
    exact ⟨.truthValue b, .object⟩
  | _ =>
    simp only [Property.read] at h
    split at h
    · cases h
    · next absent =>
      cases h
      exact ⟨.blank (Bool.eq_false_iff.mpr absent), .object⟩

/-- An object with a type describes a property as its type says, when its items do. -/
theorem accepted_of_typed {fields : Fields Value} (plain : fields.Plain) (unnamed : refTarget? fields = none)
    (inhabited : fields.isEmpty = false)
    (items : ∀ p, Property.read links true (fields.value "items") = .ok p →
      WellFormedNode (fields.value "items") ∧ p.Shaped true)
    {p : Property} (h : Property.read links required (.object fields) = .ok p) :
    WellFormedNode (.object fields) ∧ p.Shaped required := by
  rw [Property.read_typed plain unnamed inhabited] at h
  split at h
  · next type =>
    cases h
    exact ⟨.untyped type, .object⟩
  · next name type =>
    split at h
    · next array =>
      obtain ⟨inner, within, heq⟩ := map_eq_ok.mp h
      cases heq
      cases array
      rcases Property.readOptional_eq_ok within with ⟨absent, rfl⟩ | ⟨q, read, rfl⟩
      · exact ⟨.array type (absent ▸ .blank rfl), .list⟩
      · obtain ⟨accepted, shaped⟩ := items q read
        exact ⟨.array type accepted, .listOf shaped⟩
    · next noArray =>
      split at h
      · next object =>
        cases h
        exact ⟨.object (object ▸ type), .object⟩
      · next noObject =>
        obtain ⟨format, literals, hformat, hliterals, rfl⟩ := Property.readPrimitive_eq_ok.mp h
        have formatted := exists_optionalText.mp ⟨_, hformat⟩
        have listed := (exists_optionalList (plain.value "enum")).mp ⟨_, hliterals⟩
        exact ⟨.primitive type noArray noObject formatted listed, .primitive noArray noObject format literals⟩
  · cases h

/-- An object describes a property when it is a reference, when it is empty, or as its type says. -/
theorem accepted_of_object {fields : Fields Value} (plain : fields.Plain)
    (items : ∀ p, Property.read links true (fields.value "items") = .ok p →
      WellFormedNode (fields.value "items") ∧ p.Shaped true)
    {p : Property} (h : Property.read links required (.object fields) = .ok p) :
    WellFormedNode (.object fields) ∧ p.Shaped required := by
  cases named : refTarget? fields with
  | some target =>
    have stated := refTarget?_eq_some.mp named
    rw [Property.read_reference stated] at h
    cases h
    exact ⟨.reference stated, .reference _⟩
  | none =>
    cases empty : fields.isEmpty with
    | true =>
      obtain rfl := List.isEmpty_iff.mp empty
      cases h
      exact ⟨.blank rfl, .object⟩
    | false => exact accepted_of_typed plain named empty items h

/-- What is read as a property is well-formed, and the property has its shape. -/
theorem accepted_of_read {v : Value} (plain : v.isPlain = true) {required : Bool} {p : Property}
    (h : Property.read links required v = .ok p) : WellFormedNode v ∧ p.Shaped required := by
  induction v using Value.items_induction generalizing required p with
  | other v other => exact accepted_of_nonObject plain other h
  | object fields ih =>
    have fieldsPlain := Value.isPlain_object.mp plain
    exact accepted_of_object fieldsPlain (fun q read => ih (fieldsPlain.value "items") read) h

/-- An object is read when it is a reference, when it is empty, or as its type says. -/
theorem exists_read_object {fields : Fields Value}
    (typed : refTarget? fields = none → fields.isEmpty = false →
      ∃ p, Property.read links required (.object fields) = .ok p) :
    ∃ p, Property.read links required (.object fields) = .ok p := by
  cases named : refTarget? fields with
  | some target => exact ⟨_, Property.read_reference (refTarget?_eq_some.mp named)⟩
  | none =>
    cases empty : fields.isEmpty with
    | true =>
      obtain rfl := List.isEmpty_iff.mp empty
      exact ⟨_, rfl⟩
    | false => exact typed named empty

theorem exists_readOptional {v : Value} (read : ∃ p, Property.read links required v = .ok p) :
    ∃ p, Property.readOptional links required v = .ok p := by
  obtain ⟨p, read⟩ := read
  cases v with
  | null => exact ⟨none, rfl⟩
  | _ => exact ⟨some p, map_eq_ok.mpr ⟨p, read, rfl⟩⟩

/-- A well-formed value is read as a property. -/
theorem exists_read {v : Value} (plain : v.isPlain = true) (accepted : WellFormedNode v) (required : Bool) :
    ∃ p, Property.read links required v = .ok p := by
  induction accepted generalizing required with
  | reference named => exact ⟨_, Property.read_reference named⟩
  | truthValue b => exact ⟨_, rfl⟩
  | @blank v absent =>
    cases v with
    | object fields =>
      refine exists_read_object fun _ inhabited => ?_
      rw [Value.truthy, inhabited] at absent
      cases absent
    | link => cases plain
    | bool b => exact ⟨_, rfl⟩
    | _ =>
      simp only [Property.read, absent]
      exact ⟨_, rfl⟩
  | untyped type =>
    have fieldsPlain := Value.isPlain_object.mp plain
    refine exists_read_object fun named inhabited => ?_
    rw [Property.read_typed fieldsPlain named inhabited, type]
    exact ⟨_, rfl⟩
  | object type =>
    have fieldsPlain := Value.isPlain_object.mp plain
    refine exists_read_object fun named inhabited => ?_
    rw [Property.read_typed fieldsPlain named inhabited, type]
    exact ⟨_, rfl⟩
  | array type _ ih =>
    have fieldsPlain := Value.isPlain_object.mp plain
    refine exists_read_object fun named inhabited => ?_
    obtain ⟨items, within⟩ := exists_readOptional (ih (fieldsPlain.value "items") true)
    rw [Property.read_typed fieldsPlain named inhabited, type]
    exact ⟨_, map_eq_ok.mpr ⟨items, within, rfl⟩⟩
  | primitive type noArray noObject format literals =>
    have fieldsPlain := Value.isPlain_object.mp plain
    refine exists_read_object fun named inhabited => ?_
    obtain ⟨format, hformat⟩ := exists_optionalText.mpr format
    obtain ⟨literals, hliterals⟩ : ∃ vs, links.optionalList (Fields.value _ "enum") = .ok vs :=
      (exists_optionalList (fieldsPlain.value "enum")).mpr literals
    rw [Property.read_typed fieldsPlain named inhabited, type]
    simp only [noArray, noObject, if_false]
    exact ⟨_, Property.readPrimitive_eq_ok.mpr ⟨format, literals, hformat, hliterals, rfl⟩⟩

/-- **Exactly the well-formed values describe a property.** What is read of one has the shape of a property, with
the given mark at its root alone. -/
theorem read_accepts (links : Links) {v : Value} (plain : v.isPlain = true) (required : Bool) :
    ((∃ p, Property.read links required v = .ok p) ↔ WellFormedNode v) ∧
      ∀ p, Property.read links required v = .ok p → p.Shaped required :=
  ⟨⟨fun ⟨_, read⟩ => (accepted_of_read plain read).1, fun accepted => exists_read plain accepted required⟩,
    fun _ read => (accepted_of_read plain read).2⟩

/-- A table of numbers that may be absent. -/
def gridNode : Value :=
  .object [("type", .list [.str "null", .str "array"]), ("items", .object [("type", .str "array"),
    ("items", .object [("type", .str "integer"), ("format", .str "int64")])])]

/-- The table is well-formed, and its rows and their numbers are required though the table is not. -/
theorem read_accepts_grid : gridNode.isPlain = true ∧ WellFormedNode gridNode ∧
    ∃ p, Property.read .none false gridNode = .ok p ∧ p.Shaped false := by
  have accepts := read_accepts .none (v := gridNode) (by decide) false
  have numbers : WellFormedNode (.object [("type", .str "integer"), ("format", .str "int64")]) :=
    .primitive rfl (by decide) (by decide) (.text _) .null
  have accepted : WellFormedNode gridNode := .array rfl (.array rfl numbers)
  obtain ⟨p, read⟩ := accepts.1.mpr accepted
  exact ⟨by decide, accepted, p, read, accepts.2 p read⟩

/-- An array is not well-formed when the type of its items is a number. -/
example : ¬ WellFormedNode (.object [("type", .str "array"), ("items", .object [("type", .int 5)])]) := by
  intro accepted
  obtain ⟨p, read⟩ : ∃ p, Property.read .none true _ = .ok p := exists_read (by decide) accepted true
  cases read

end TypedClient.Schema
