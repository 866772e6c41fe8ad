import TypedClient.Proofs.Acceptance
import TypedClient.Proofs.Reachability
import TypedClient.Proofs.Requiredness
import TypedClient.Proofs.Resolution

/-!
# The types that fields refer to

The types of the fields of a model refer to other types by name. Such a name comes from far away: the field may be
gathered from any definition, through parts and behind references, and be an array of arrays, or a reference that
leads to an enumeration. In the document it is either the name that a reference gives its target, or the type name
of a schema that the generator has no type of its own for.

**What is proved.** `fields_known`: when all definitions are read, and every reference among the properties and the
items of arrays names one of them, each name in the type of a field is that of a model that is generated, or is
`CoinedFrom` a schema of the document that is neither a reference nor an array. References among the parts of a
composition need not lead anywhere; those that do not contribute no fields.

The schemas of a document are followed down from its definitions, as `ModelNode` and `PropertyNode`. What is read of
them is made of them (`FromNodes`), which each step from a model keeps, and so the way to the model that a field
comes from.
-/

namespace TypedClient

namespace Schema

/-! ## The schemas of a document -/

/-- The type name that a schema states, the first that is not `null` when it lists several. -/
def typeName? (links : Links) : Value → Option String
  | .object fields =>
    match typeOf links (Fields.value fields "type") >>= links.look with
    | .ok (.str name) => some name
    | _ => none
  | _ => none

/-- A schema that models are read from: a definition or a part of a composition. -/
inductive ModelNode (links : Links) (definitions : Fields Value) : Value → Prop
  | definition {d : String × Value} (member : d ∈ definitions) : ModelNode links definitions d.2
  | part {fields : Fields Value} {items : List Value} {v : Value} (node : ModelNode links definitions (.object fields))
    (own : refTarget? fields = none) (listed : links.itemsIfPresent (fields.value "allOf") = .ok items)
    (member : v ∈ items) : ModelNode links definitions v

/-- A schema that properties are read from: that of a property or of the items of an array. -/
inductive PropertyNode (links : Links) (definitions : Fields Value) : Value → Prop
  | property {fields described : Fields Value} {f : String × Value}
    (node : ModelNode links definitions (.object fields)) (own : refTarget? fields = none)
    (stated : links.fieldsIfPresent (fields.value "properties") = .ok described) (member : f ∈ described) :
    PropertyNode links definitions f.2
  | items {fields : Fields Value} (node : PropertyNode links definitions (.object fields))
    (own : refTarget? fields = none) (array : typeName? links (.object fields) = some "array")
    (described : fields.value "items" ≠ .null) : PropertyNode links definitions (fields.value "items")

/-- A schema of a document. -/
def SchemaNode (links : Links) (definitions : Fields Value) (v : Value) : Prop :=
  ModelNode links definitions v ∨ PropertyNode links definitions v

/-- Every reference among the properties and the items of arrays names a definition. -/
def ReferencesDefined (links : Links) (definitions : Fields Value) : Prop :=
  ∀ v name, PropertyNode links definitions v → refName? v = some name → name ∈ definitions.names

/-! ## What is read of them -/

variable {links : Links} {definitions : Fields Value}

theorem typeName?_of_look {fields : Fields Value} {type : Value} {name : String}
    (stated : typeOf links (fields.value "type") = .ok type) (seen : links.look type = .ok (.str name)) :
    typeName? links (.object fields) = some name := by
  rw [typeName?, stated, ok_bind, seen]

theorem look_of_isText {v : Value} {s : String} (h : links.isText v s = .ok true) : links.look v = .ok (.str s) := by
  obtain ⟨w, seen, h⟩ := bind_eq_ok.mp h
  split at h
  · next t =>
    have same : (t == s) = true := Except.ok.inj h
    rw [seen, beq_iff_eq.mp same]
  · cases h

/-- What is taken as a text stands there as one. -/
theorem typeName?_of_optionalText {fields : Fields Value} {type : Value} {name : Option String}
    (stated : typeOf links (fields.value "type") = .ok type) (text : type.optionalText = .ok name) :
    typeName? links (.object fields) = name := by
  cases type with
  | null =>
    cases text
    rw [typeName?, stated]
    rfl
  | str s =>
    cases text
    exact typeName?_of_look stated rfl
  | _ => cases text

/-- A property is of the type that its schema states; no type and an empty one count as `object`. -/
theorem Property.typeName?_of_read {required : Bool} {v : Value} {p : Property}
    (read : Property.read links required v = .ok p) (other : refName? v = none) :
    Api.textOr (typeName? links v) "object" = Api.textOr p.type "object" := by
  cases v with
  | link => cases other
  | object fields =>
    rw [Property.read] at read
    split at read
    · next named =>
      rw [refName?, named] at other
      cases other
    · split at read
      · next empty =>
        cases read
        obtain rfl := List.isEmpty_iff.mp empty
        rfl
      · obtain ⟨type, stated, read⟩ := bind_eq_ok.mp read
        obtain ⟨isArray, array, read⟩ := bind_eq_ok.mp read
        split at read
        · next found =>
          obtain ⟨items, _, heq⟩ := bind_eq_ok.mp read
          cases heq
          rw [typeName?_of_look stated (look_of_isText (found ▸ array))]
          rfl
        · split at read
          · cases read
            rw [typeName?_of_optionalText stated rfl]
            rfl
          · obtain ⟨isObject, object, read⟩ := bind_eq_ok.mp read
            split at read
            · next found =>
              cases read
              rw [typeName?_of_look stated (look_of_isText (found ▸ object))]
              rfl
            · obtain ⟨name, text, read⟩ := bind_eq_ok.mp read
              simp only [bind_eq_ok] at read
              obtain ⟨_, _, _, _, heq⟩ := read
              cases heq
              rw [typeName?_of_optionalText stated text]
  | bool b =>
    cases read
    rfl
  | _ =>
    simp only [Property.read] at read
    split at read
    · cases read
    · cases read
      rfl

theorem Model.typeName?_of_readPlain {fields : Fields Value} {m : Model} (read : Model.readPlain links fields = .ok m) :
    typeName? links (.object fields) = m.type := by
  simp only [Model.readPlain, bind_eq_ok] at read
  obtain ⟨_, _, _, _, _, _, _, _, type, stated, name, text, _, _, _, _, heq⟩ := read
  cases heq
  exact typeName?_of_optionalText stated text

theorem Model.readPlain_of_readOwnPart {fields : Fields Value} {own : List Model}
    (read : Model.readOwnPart links fields = .ok own) : ∀ part ∈ own, Model.readPlain links fields = .ok part := by
  obtain ⟨stated, _, read⟩ := bind_eq_ok.mp read
  split at read
  · obtain ⟨m, plain, heq⟩ := bind_eq_ok.mp read
    cases heq
    intro part member
    rw [List.mem_singleton.mp member, plain]
  · cases read
    exact fun _ member => absurd member List.not_mem_nil

/-- A model that is made of schemas of a document: a reference, what a schema itself states, or a composition of such
models. -/
inductive Model.FromNodes (links : Links) (definitions : Fields Value) : Model → Prop
  | reference (target : String) : FromNodes links definitions { target := some target }
  | plain {fields : Fields Value} {m : Model} (node : ModelNode links definitions (.object fields))
    (own : refTarget? fields = none) (read : Model.readPlain links fields = .ok m) : FromNodes links definitions m
  | composed {type : Option String} {parts : List Model} (each : ∀ part ∈ parts, FromNodes links definitions part) :
    FromNodes links definitions { type, parts }

/-- What is read behind links, when schemas of a document stand there, is made of its schemas. -/
def MadeBehind (links : Links) (definitions : Fields Value) (onward : List Value → Except Fault (List Model)) : Prop :=
  ∀ items parts, (∀ v ∈ items, ModelNode links definitions v) → onward items = .ok parts →
    ∀ part ∈ parts, part.FromNodes links definitions

section

variable {onward : List Value → Except Fault (List Model)}

mutual
/-- One pass through a schema of a document makes a model of its schemas, when what stands behind links does. -/
theorem fromNodes_of_readWith (behind : MadeBehind links definitions onward) (v : Value)
    (node : ModelNode links definitions v) {m : Model} (read : Model.readWith links onward v = .ok m) :
    m.FromNodes links definitions := by
  cases v with
  | link place target fields =>
    cases read
    exact .reference _
  | object fields =>
    have each := @fromNodes_of_readParts behind fields
    rw [Model.readWith] at read
    cases named : refTarget? fields with
    | some target =>
      rw [named] at read
      cases read
      exact .reference _
    | none =>
      rw [named] at read
      obtain ⟨isComposed, present, read⟩ := bind_eq_ok.mp read
      cases isComposed with
      | false => exact .plain node named read
      | true =>
        simp only [if_true, bind_eq_ok] at read
        obtain ⟨parts, hparts, own, hown, type, _, name, _, heq⟩ := read
        cases heq
        refine .composed fun part member => ?_
        rcases List.mem_append.mp member with member | member
        · exact each (fun items listed v hv => .part node named listed hv) present hparts part member
        · exact .plain node named (Model.readPlain_of_readOwnPart hown part member)
  | _ => cases read
termination_by structural v
theorem fromNodes_of_readParts (behind : MadeBehind links definitions onward) (fs : List (String × Value))
    (nodes : ∀ items, links.itemsIfPresent (Fields.value fs "allOf") = .ok items →
      ∀ v ∈ items, ModelNode links definitions v)
    (present : links.present (Fields.value fs "allOf") = .ok true) {parts : List Model}
    (read : Model.readParts links onward fs = .ok parts) : ∀ part ∈ parts, part.FromNodes links definitions := by
  cases fs with
  | nil => cases present
  | cons f rest =>
    have first := @fromNodes_of_readPartsField behind f
    have later := @fromNodes_of_readParts behind rest
    rw [Model.readParts] at read
    rw [Fields.value_cons] at nodes present
    by_cases here : f.1 = "allOf"
    · rw [if_pos here] at read nodes present
      exact first nodes present read
    · rw [if_neg here] at read nodes present
      exact later nodes present read
termination_by structural fs
theorem fromNodes_of_readPartsField (behind : MadeBehind links definitions onward) (f : String × Value)
    (nodes : ∀ items, links.itemsIfPresent f.2 = .ok items → ∀ v ∈ items, ModelNode links definitions v)
    (present : links.present f.2 = .ok true) {parts : List Model}
    (read : Model.readPartsField links onward f = .ok parts) : ∀ part ∈ parts, part.FromNodes links definitions := by
  obtain ⟨name, v⟩ := f
  cases v with
  | list items =>
    have each := @fromNodes_of_readEach behind items
    exact each (nodes items (Links.itemsIfPresent_list items)) read
  | link place target fields =>
    obtain ⟨items, listed, read⟩ := bind_eq_ok.mp read
    refine behind items parts (nodes items ?_) read
    rw [Links.itemsIfPresent, present, ok_bind, if_pos rfl, listed]
  | _ => cases read
termination_by structural f
theorem fromNodes_of_readEach (behind : MadeBehind links definitions onward) (items : List Value)
    (nodes : ∀ v ∈ items, ModelNode links definitions v) {parts : List Model}
    (read : Model.readEach links onward items = .ok parts) : ∀ part ∈ parts, part.FromNodes links definitions := by
  cases items with
  | nil =>
    cases read
    exact fun _ member => absurd member List.not_mem_nil
  | cons v rest =>
    have first := @fromNodes_of_readWith behind v
    have later := @fromNodes_of_readEach behind rest
    obtain ⟨node, others⟩ := List.forall_mem_cons.mp nodes
    rw [Model.readEach] at read
    obtain ⟨m, hm, read⟩ := bind_eq_ok.mp read
    obtain ⟨more, hmore, heq⟩ := bind_eq_ok.mp read
    cases heq
    exact List.forall_mem_cons.mpr ⟨first node hm, later others hmore⟩
termination_by structural items
end

end

/-- What is read of a schema of a document is made of its schemas. -/
theorem fromNodes_of_readTo (depth : Nat) {v : Value} (node : ModelNode links definitions v) {m : Model}
    (read : Model.readTo links depth v = .ok m) : m.FromNodes links definitions := by
  induction depth generalizing v m with
  | zero => exact fromNodes_of_readWith (fun _ _ _ endless => by cases endless) v node read
  | succ depth ih =>
    refine fromNodes_of_readWith (fun items parts nodes each part member => ?_) v node read
    obtain ⟨w, hw, behind⟩ := exists_of_mem_right (mapM_eq_ok.mp each) member
    exact ih (nodes w hw) behind

namespace Model.FromNodes

variable {models : Fields Model} {m c : Model}

/-- A step from a model that is made of schemas leads to one that is. -/
theorem leads (defined : ∀ d ∈ models, d.2.FromNodes links definitions) (leads : Model.Leads models m c)
    (made : m.FromNodes links definitions) : c.FromNodes links definitions := by
  cases leads with
  | reference _ found => exact defined _ (Fields.mem_of_get? found)
  | part own member =>
    cases made with
    | reference => cases own
    | plain _ _ read =>
      obtain ⟨_, _, _, _, _, _, undivided⟩ := readPlain_eq_ok read
      rw [undivided] at member
      cases member
    | composed each => exact each c member

theorem reaches (defined : ∀ d ∈ models, d.2.FromNodes links definitions) (reaches : Model.Reaches models m c)
    (made : m.FromNodes links definitions) : c.FromNodes links definitions := by
  induction reaches with
  | refl => exact made
  | tail _ step ih => exact ih.leads defined step

/-- The properties of a whole model are read from schemas. -/
theorem exists_propertyNode (made : m.FromNodes links definitions) (whole : m.IsWhole) {p : Property}
    (member : p ∈ m.properties.values) :
    ∃ v required, PropertyNode links definitions v ∧ Property.read links required v = .ok p := by
  cases made with
  | reference => cases whole.1
  | composed => cases member
  | plain node own read =>
    obtain ⟨_, described, _, stated, each, _, _⟩ := readPlain_eq_ok read
    obtain ⟨field, hfield, rfl⟩ := List.mem_map.mp member
    obtain ⟨f, hf, _, described⟩ := exists_of_mem_right each hfield
    exact ⟨f.2, _, .property node own stated hf, described⟩

end Model.FromNodes

theorem textOr_eq_array {type : Option String} : Api.textOr type "object" = "array" ↔ type = some "array" := by
  fun_cases Api.textOr type "object" with
  | case1 => simp
  | case2 => simp
  | case3 => simp

/-- What is read of the items of an array is read from a schema. -/
theorem PropertyNode.exists_items {required : Bool} {v : Value} {inner : Property}
    (node : PropertyNode links definitions v)
    (read : Property.read links required v = .ok (.arrayOf (some inner) required)) :
    ∃ w, PropertyNode links definitions w ∧ Property.read links true w = .ok inner := by
  have typed := Property.typeName?_of_read read
  cases Property.readAs_of_read read with
  | @arrayOf fields _ other object within =>
    subst object
    rw [Property.readItems_eq] at within
    have own : refTarget? fields = none := Option.map_eq_none_iff.mp other
    have array : typeName? links (.object fields) = some "array" := textOr_eq_array.mp (typed other)
    rcases Property.readOptional_eq_ok within with ⟨_, none⟩ | ⟨q, inside, same⟩
    · cases none
    · cases same
      have described : fields.value "items" ≠ .null := by
        intro null
        rw [null] at within
        cases within
      exact ⟨_, .items node own array described, inside⟩

end Schema

namespace Api

open Schema

/-! ## The names in a type -/

/-- A name that is made up from a schema which is neither a reference nor an array: its capitalized type name,
`Object` when it states none. -/
def CoinedFrom (links : Links) (v : Value) (name : String) : Prop :=
  refName? v = none ∧ typeName? links v ≠ some "array" ∧ name = capitalize (textOr (typeName? links v) "object")

/-- A name that a type may refer to: that of a definition, or one that is coined from a schema. -/
inductive Known (links : Links) (definitions : Fields Value) : String → Prop
  | defined {name : String} (member : name ∈ definitions.names) : Known links definitions name
  | coined {v : Value} {name : String} (node : SchemaNode links definitions v) (coined : CoinedFrom links v name) :
    Known links definitions name

/-- A type that refers to nothing but known names. -/
def TypeRef.RefersTo (known : String → Prop) (t : TypeRef) : Prop :=
  ∀ name ∈ t.referencedNames, ∃ n, name = some n ∧ known n

namespace TypeRef

variable {known : String → Prop}

theorem refersTo_scalar (p : Primitive) : (scalar p).RefersTo known := by
  intro name member
  cases member

theorem refersTo_integerType (format : Option String) : (integerType format).RefersTo known := by
  unfold integerType
  split
  · exact refersTo_scalar _
  · exact refersTo_scalar _

theorem refersTo_named {name : String} : (named name).RefersTo known ↔ known name := by
  simp [RefersTo, named, referencedNames]

theorem refersTo_listOf {t : TypeRef} : (listOf t).RefersTo known ↔ t.RefersTo known := Iff.rfl

theorem refersTo_withNullable {t : TypeRef} {nullable : Bool} :
    (t.withNullable nullable).RefersTo known ↔ t.RefersTo known := by
  obtain ⟨kind, _, _, item, _⟩ := t
  cases kind <;> cases item <;> exact Iff.rfl

end TypeRef

open TypeRef

theorem refersTo_resolveScalar {known : String → Prop} {type format : Option String}
    (coined : type ≠ some "array" → known (capitalize (textOr type "object"))) :
    (resolveScalar type format).RefersTo known := by
  unfold resolveScalar
  split
  · exact refersTo_integerType _
  · exact refersTo_scalar _
  · exact refersTo_scalar _
  · exact refersTo_scalar _
  · exact refersTo_listOf.mpr (refersTo_scalar _)
  · rw [refersTo_named, ← TypeContext.capitalize_object]
    exact coined (by simp)
  · next name _ _ _ _ other inhabited =>
    have text : textOr (some name) "object" = name := by simp [textOr]
    rw [refersTo_named]
    exact text ▸ coined fun array => other (Option.some.inj array)
  · rw [refersTo_named, ← TypeContext.capitalize_object]
    exact coined (by simp)

section

variable {links : Links} {definitions : Fields Value} {required : Bool} {v : Value} {p : Property}

/-- The type of the type name that a schema states refers to known names. -/
theorem refersTo_stated (node : SchemaNode links definitions v) (other : refName? v = none)
    {type format : Option String} (typed : textOr (typeName? links v) "object" = textOr type "object") :
    (resolveScalar type format).RefersTo (Known links definitions) := by
  refine refersTo_resolveScalar fun array => ?_
  have listless : typeName? links v ≠ some "array" := by rwa [Ne, ← textOr_eq_array, typed, textOr_eq_array]
  exact .coined node ⟨other, listless, by rw [typed]⟩

/-- The type of a property as an item refers to known names. -/
theorem refersTo_itemType (closed : ReferencesDefined links definitions) (node : PropertyNode links definitions v)
    (read : Property.read links required v = .ok p) : (TypeContext.itemType p).RefersTo (Known links definitions) := by
  have typed := Property.typeName?_of_read read
  fun_induction TypeContext.itemType p generalizing required v with
  | case1 =>
    cases Property.readAs_of_read read with
    | reference named => exact refersTo_named.mpr (.defined (closed v _ node named))
  | case2 => exact refersTo_listOf.mpr (refersTo_scalar _)
  | case3 _ _ _ _ _ _ ih =>
    cases Property.readAs_of_read read with
    | arrayOf =>
      obtain ⟨w, within, inside⟩ := node.exists_items read
      exact refersTo_listOf.mpr (ih within inside (Property.typeName?_of_read inside))
  | case4 => exact refersTo_integerType _
  | case5 => exact refersTo_scalar _
  | case6 => exact refersTo_scalar _
  | case7 =>
    -- no type is left that is known as that of an item, so the rule for scalars applies
    rw [TypeContext.resolveScalar_textOr]
    cases Property.readAs_of_read read with
    | reference => contradiction
    | anyObject other => exact refersTo_stated (.inr node) other (typed other)
    | arrayOf => exact refersTo_listOf.mpr (refersTo_scalar _)
    | primitive other => exact refersTo_stated (.inr node) other (typed other)

/-- The type of a reference refers to known names: to the definition itself or, when that is an enumeration, to what
its literals are. -/
theorem refersTo_resolveTarget {context : TypeContext}
    (made : ∀ d ∈ context.definitions, d.2.FromNodes links definitions) {name : String}
    (defined : name ∈ definitions.names) : (context.resolveTarget name).RefersTo (Known links definitions) := by
  have itself : (TypeRef.named name).RefersTo (Known links definitions) := refersTo_named.mpr (.defined defined)
  unfold TypeContext.resolveTarget
  split
  · split
    · next found =>
      -- only a model that a schema itself states has literals
      have definition := made _ (Fields.mem_of_get? found)
      dsimp only at definition
      cases definition with
      | @plain fields _ node own read =>
        have other : refName? (.object fields) = none := Option.map_eq_none_iff.mpr own
        have typed := congrArg (textOr · "object") (Model.typeName?_of_readPlain read)
        exact refersTo_stated (.inl node) other typed
    · exact itself
  · exact itself

/-- The type of a property refers to known names. -/
theorem refersTo_resolve {context : TypeContext}
    (made : ∀ d ∈ context.definitions, d.2.FromNodes links definitions) (closed : ReferencesDefined links definitions)
    (node : PropertyNode links definitions v) (read : Property.read links required v = .ok p) :
    (context.resolve p).RefersTo (Known links definitions) := by
  rw [← @refersTo_withNullable _ _ false, context.resolve_withNullable_false]
  have typed := Property.typeName?_of_read read
  cases Property.readAs_of_read read with
  | @reference name named => exact refersTo_resolveTarget made (closed v name node named)
  | anyObject other => exact refersTo_stated (.inr node) other (typed other)
  | @arrayOf _ items _ _ _ =>
    rw [← TypeContext.resolveItem_array rfl]
    exact refersTo_itemType closed node read
  | primitive other => exact refersTo_stated (.inr node) other (typed other)

end

/-! ## The models of a document -/

/-- The models of a document are made of its schemas. -/
theorem fromNodes_definitions {links : Links} {root : Value}
    (readable : ∀ d ∈ Client.definitionsIn links root, ∃ m, Model.read links d.2 = .ok m) :
    (∀ d ∈ (Document.read links root).1.definitions, d.2.FromNodes links (Client.definitionsIn links root)) ∧
      (Document.read links root).1.definitions.names = (Client.definitionsIn links root).names := by
  have all : (Client.definitionsIn links root).filter (fun d => (Model.read links d.2).toOption.isSome) =
      Client.definitionsIn links root := by
    refine List.filter_eq_self.mpr fun d hd => ?_
    obtain ⟨m, read⟩ := readable d hd
    rw [read]
    rfl
  have stated : (Document.read links root).1.definitions =
      (readDefinitions links (Client.definitionsIn links root)).1 := by
    rw [Client.definitionsIn, ← (readPart_eq "definitions" _).1]
    rfl
  have readAs := readDefinitions_readAs links (Client.definitionsIn links root)
  rw [all, ← stated] at readAs
  constructor
  · intro d hd
    obtain ⟨f, hf, _, read⟩ := exists_of_mem_right readAs hd
    exact fromNodes_of_readTo links.budget (.definition hf) read
  · exact (map_eq_map (readAs.imp fun _ _ h => h.1.symm)).symm

/-- **No field refers to an unknown type.** In every document of which all definitions are read, and in which the
references among properties and items name definitions, each name in the type of a field of a model is that of a
model, or is coined from a schema of the document: its capitalized type name, `Object` when it states none. -/
theorem fields_known (links : Links) (settings : Settings) (root : Value)
    (readable : ∀ d ∈ Client.definitionsIn links root, ∃ m, Model.read links d.2 = .ok m)
    (closed : ReferencesDefined links (Client.definitionsIn links root)) :
    let d := (describe links settings (Document.read links root).1).1
    ∀ model ∈ d.models, ∀ f ∈ model.fields, ∀ name ∈ f.type.referencedNames, ∃ n, name = some n ∧
      (modelName n ∈ d.modelNames ∨
        ∃ v, SchemaNode links (Client.definitionsIn links root) v ∧ CoinedFrom links v n) := by
  intro d model hmodel f hf name hname
  obtain ⟨made, names⟩ := fromNodes_definitions readable
  obtain ⟨definition, defined, rfl⟩ := List.mem_map.mp hmodel
  obtain ⟨field, gathered, rfl⟩ := List.mem_map.mp hf
  obtain ⟨c, reached, whole, member⟩ := exists_of_mem_effectiveProperties (List.mem_map_of_mem gathered)
  obtain ⟨v, required, node, read⟩ := ((made _ defined).reaches made reached).exists_propertyNode whole member
  obtain ⟨n, same, known⟩ := refersTo_resolve made closed node read name hname
  refine ⟨n, same, ?_⟩
  cases known with
  | defined member =>
    rw [← names] at member
    obtain ⟨other, hother, rfl⟩ := List.mem_map.mp member
    exact .inl (List.mem_map.mpr ⟨_, List.mem_map_of_mem hother, rfl⟩)
  | coined node coined => exact .inr ⟨_, node, coined⟩

/-- A schema of a type that the generator does not know. -/
def fileNode : Value := .object [("type", .str "file")]

/-- A reference to a definition. -/
def referenceNode (name : String) : Value := .object [("$ref", .str ("#/definitions/" ++ name))]

/-- A list of references. -/
def friendsNode : Value := .object [("type", .str "array"), ("items", referenceNode "Pet")]

/-- A definition with a photo. -/
def ownerNode : Value := .object [("properties", .object [("photo", fileNode)])]

/-- A definition that is composed of the other one, with friends of its own kind beside. -/
def petNode : Value :=
  .object [("allOf", .list [referenceNode "Owner"]), ("properties", .object [("friends", friendsNode)])]

/-- A document of the two. -/
def petsRoot : Value := .object [("definitions", .object [("Owner", ownerNode), ("Pet", petNode)])]

theorem definitionsIn_pets : Client.definitionsIn .none petsRoot = [("Owner", ownerNode), ("Pet", petNode)] :=
  Client.definitionsIn_plain rfl

theorem modelNode_pets {v : Value} (node : ModelNode .none (Client.definitionsIn .none petsRoot) v) :
    v = ownerNode ∨ v = petNode ∨ v = referenceNode "Owner" := by
  rw [definitionsIn_pets] at node
  induction node with
  | definition member =>
    rcases List.mem_cons.mp member with rfl | member
    · exact .inl rfl
    · rcases List.mem_singleton.mp member with rfl
      exact .inr (.inl rfl)
  | part _ own listed member ih =>
    rcases ih with owner | pet | reference
    · cases owner
      cases listed
      cases member
    · cases pet
      cases listed
      rcases List.mem_singleton.mp member with rfl
      exact .inr (.inr rfl)
    · cases reference
      cases own

theorem propertyNode_pets {v : Value} (node : PropertyNode .none (Client.definitionsIn .none petsRoot) v) :
    v = fileNode ∨ v = friendsNode ∨ v = referenceNode "Pet" := by
  induction node with
  | property node own stated member =>
    rcases modelNode_pets node with owner | pet | reference
    · cases owner
      cases stated
      rcases List.mem_singleton.mp member with rfl
      exact .inl rfl
    · cases pet
      cases stated
      rcases List.mem_singleton.mp member with rfl
      exact .inr (.inl rfl)
    · cases reference
      cases own
  | items node own array described ih =>
    rcases ih with file | friends | reference
    · cases file
      exact absurd array (by decide)
    · cases friends
      exact .inr (.inr rfl)
    · cases reference
      cases own

/-- The friends of a pet are pets. -/
theorem fields_known_pets :
    let d := (describe .none {} (Document.read .none petsRoot).1).1
    ∃ model ∈ d.models, ∃ f ∈ model.fields, f.name = "friends" ∧ some "Pet" ∈ f.type.referencedNames ∧
      (modelName "Pet" ∈ d.modelNames ∨
        ∃ v, SchemaNode .none (Client.definitionsIn .none petsRoot) v ∧ CoinedFrom .none v "Pet") := by
  intro d
  have readable : ∀ d ∈ Client.definitionsIn .none petsRoot, ∃ m, Model.read .none d.2 = .ok m := by
    rw [definitionsIn_pets]
    intro d member
    rcases List.mem_cons.mp member with rfl | member
    · exact ⟨_, rfl⟩
    · rcases List.mem_singleton.mp member with rfl
      exact ⟨_, rfl⟩
  have closed : ReferencesDefined .none (Client.definitionsIn .none petsRoot) := by
    intro v name node named
    rw [definitionsIn_pets]
    rcases propertyNode_pets node with rfl | rfl | rfl
    · cases named
    · cases named
    · cases named
      exact .tail _ (.head _)
  have friends : ∃ model ∈ d.models, ∃ f ∈ model.fields, f.name = "friends" ∧ some "Pet" ∈ f.type.referencedNames := by
    decide +kernel
  obtain ⟨model, hmodel, f, hf, name, refers⟩ := friends
  obtain ⟨n, same, known⟩ := fields_known .none {} petsRoot readable closed model hmodel f hf (some "Pet") refers
  cases same
  exact ⟨model, hmodel, f, hf, name, refers, known⟩

end Api

end TypedClient
