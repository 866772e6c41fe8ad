import TypedClient.Api.Describe
import TypedClient.Proofs.Accounting

/-!
# Where the fields of a composition come from

A composition is made up of nodes: plain objects, which state properties and which of them are required.
`MadeUp` says in what order they come, going through `allOf` and behind references as the document has
it: a reference to a definition that is already being gone through, or to none, gives nothing, and the
properties beside `allOf` make the last node.

**What is proved.** `field_declared`: each field of a model is the property of the last of its nodes that
declares it. So it is required when that node lists it, and it is not null then. `derivedRoot` shows that
what another node lists does not count: a later declaration takes the place of an earlier one as a whole.

Reading goes through the models, with a bound on the references in a row; that the bound is never
reached is part of what is proved.
-/

namespace TypedClient

namespace Fields

theorem value_cons (f : String × Value) (rest : Fields Value) (name : String) :
    value (f :: rest) name = if f.1 = name then f.2 else rest.value name := by
  obtain ⟨key, v⟩ := f
  unfold value get?
  by_cases h : key = name
  · subst h
    simp
  · simp [List.lookup_cons, beq_eq_false_iff_ne.mpr (Ne.symm h), h]

end Fields

namespace Schema

/-! ## The nodes of a composition -/

/-- A node that states properties beside `allOf`. -/
def ownNodes (fields : Fields Value) : List (Fields Value) :=
  if (fields.value "properties").truthy then [fields] else []

mutual
/-- The nodes that a schema is made up of, having come through the definitions in `visited`. -/
inductive MadeUp (definitions : Fields Value) : List String → Value → List (Fields Value) → Prop
  | plain {visited : List String} {fields : Fields Value} (named : refTarget? fields = none)
    (alone : (fields.value "allOf").truthy = false) : MadeUp definitions visited (.object fields) [fields]
  | parts {visited : List String} {fields : Fields Value} {items : List Value} {nodes : List (Fields Value)}
    (named : refTarget? fields = none) (composed : fields.value "allOf" = .list items) (inhabited : items ≠ [])
    (each : MadeUpOfEach definitions visited items nodes) :
    MadeUp definitions visited (.object fields) (nodes ++ ownNodes fields)
  | reference {visited : List String} {fields : Fields Value} {target : String} {nodes : List (Fields Value)}
    (named : refTarget? fields = some target)
    (behind : MadeUpBehind definitions visited (lastSegment target) nodes) :
    MadeUp definitions visited (.object fields) nodes
/-- The nodes of schemas one after the other. -/
inductive MadeUpOfEach (definitions : Fields Value) : List String → List Value → List (Fields Value) → Prop
  | nil {visited : List String} : MadeUpOfEach definitions visited [] []
  | cons {visited : List String} {v : Value} {rest : List Value} {nodes more : List (Fields Value)}
    (first : MadeUp definitions visited v nodes) (later : MadeUpOfEach definitions visited rest more) :
    MadeUpOfEach definitions visited (v :: rest) (nodes ++ more)
/-- The nodes behind the name of a definition. -/
inductive MadeUpBehind (definitions : Fields Value) : List String → String → List (Fields Value) → Prop
  | found {visited : List String} {name : String} {v : Value} {nodes : List (Fields Value)}
    (defined : definitions.get? name = some v) (new : name ∉ visited)
    (within : MadeUp definitions (name :: visited) v nodes) : MadeUpBehind definitions visited name nodes
  | missing {visited : List String} {name : String} (undefined : definitions.get? name = none) :
    MadeUpBehind definitions visited name []
  | circular {visited : List String} {name : String} (known : name ∈ visited) :
    MadeUpBehind definitions visited name []
end

mutual
/-- A schema is made up of nodes in one way. -/
theorem MadeUp.unique {definitions : Fields Value} : ∀ {visited : List String} {v : Value}
    {nodes nodes' : List (Fields Value)}, MadeUp definitions visited v nodes →
    MadeUp definitions visited v nodes' → nodes = nodes'
  | _, _, _, _, .plain named alone, h' => by
    cases h' with
    | plain => rfl
    | parts _ composed inhabited _ => simp [composed, Value.truthy, inhabited] at alone
    | reference named' _ => cases named.symm.trans named'
  | _, _, _, _, .parts named composed inhabited each, h' => by
    cases h' with
    | plain _ alone => simp [composed, Value.truthy, inhabited] at alone
    | parts _ composed' _ each' =>
      have same := Value.list.inj (composed'.symm.trans composed)
      rw [same] at each'
      rw [MadeUpOfEach.unique each each']
    | reference named' _ => cases named.symm.trans named'
  | _, _, _, _, .reference named behind, h' => by
    cases h' with
    | plain named' _ => cases named.symm.trans named'
    | parts named' _ _ _ => cases named.symm.trans named'
    | reference named' behind' =>
      have same := Option.some.inj (named'.symm.trans named)
      rw [same] at behind'
      exact MadeUpBehind.unique behind behind'
theorem MadeUpOfEach.unique {definitions : Fields Value} : ∀ {visited : List String} {items : List Value}
    {nodes nodes' : List (Fields Value)}, MadeUpOfEach definitions visited items nodes →
    MadeUpOfEach definitions visited items nodes' → nodes = nodes'
  | _, _, _, _, .nil, .nil => rfl
  | _, _, _, _, .cons first later, .cons first' later' => by
    rw [MadeUp.unique first first', MadeUpOfEach.unique later later']
theorem MadeUpBehind.unique {definitions : Fields Value} : ∀ {visited : List String} {name : String}
    {nodes nodes' : List (Fields Value)}, MadeUpBehind definitions visited name nodes →
    MadeUpBehind definitions visited name nodes' → nodes = nodes'
  | _, _, _, _, .found defined new within, h' => by
    cases h' with
    | found defined' _ within' =>
      have same := Option.some.inj (defined'.symm.trans defined)
      rw [same] at within'
      exact MadeUp.unique within within'
    | missing undefined => cases defined.symm.trans undefined
    | circular known => exact absurd known new
  | _, _, _, _, .missing undefined, h' => by
    cases h' with
    | found defined _ _ => cases defined.symm.trans undefined
    | missing => rfl
    | circular => rfl
  | _, _, _, _, .circular known, h' => by
    cases h' with
    | found _ new _ => exact absurd known new
    | missing => rfl
    | circular => rfl
end

/-! ## What a node states -/

/-- A node states a property of a name. -/
def Declares (node : Fields Value) (name : String) : Prop :=
  ∃ fs, node.value "properties" = .object fs ∧ name ∈ Fields.names fs

/-- A node lists a name as required. -/
def Lists (node : Fields Value) (name : String) : Prop :=
  ∃ vs, node.value "required" = .list vs ∧ .str name ∈ vs

/-- A node requires a name: going through what it lists as required one comes upon the name. -/
def Requires (links : Links) (node : Fields Value) (name : String) : Prop :=
  ∃ listed, links.itemsIfPresent (node.value "required") = .ok listed ∧
    ∃ v ∈ listed, links.look v = .ok (.str name)

/-- A property is read from a node, in which there is no link. -/
def Describes (links : Links) (node : Fields Value) (field : String × Property) : Prop :=
  node.Plain ∧ ∃ m, Model.readPlain links node = .ok m ∧ field ∈ m.properties

variable {links : Links}

/-- All that a value can be read as: what is a reference becomes one, anything else may be any object, a list with
the items that it states, or a primitive. -/
inductive Property.ReadAs (links : Links) (required : Bool) (v : Value) : Property → Prop
  | reference {name : String} (named : refName? v = some name) :
    ReadAs links required v (.reference name required)
  | anyObject (other : refName? v = none) : ReadAs links required v (.anyObject required)
  | arrayOf {fields : Fields Value} {items : Option Property} (other : refName? v = none)
    (object : v = .object fields) (within : Property.readItems links fields = .ok items) :
    ReadAs links required v (.arrayOf items required)
  | primitive {type format : Option String} {literals : Option (List Value)} (other : refName? v = none) :
    ReadAs links required v { kind := .primitive, type, format, required, literals }

theorem Property.readAs_of_read {required : Bool} {v : Value} {p : Property}
    (h : Property.read links required v = .ok p) : Property.ReadAs links required v p := by
  cases v with
  | link place target fields =>
    cases h
    exact .reference rfl
  | object fields =>
    rw [Property.read] at h
    split at h
    · next target named =>
      cases h
      exact .reference (by rw [refName?, named]; rfl)
    · next named =>
      have other : refName? (.object fields) = none := by rw [refName?, named]; rfl
      split at h
      · cases h
        exact .anyObject other
      · obtain ⟨type, _, h⟩ := bind_eq_ok.mp h
        obtain ⟨isArray, _, h⟩ := bind_eq_ok.mp h
        split at h
        · obtain ⟨items, within, heq⟩ := bind_eq_ok.mp h
          cases heq
          exact .arrayOf other rfl within
        · split at h
          · cases h
            exact .anyObject other
          · obtain ⟨isObject, _, h⟩ := bind_eq_ok.mp h
            split at h
            · cases h
              exact .anyObject other
            · simp only [Property.readPrimitive, bind_eq_ok] at h
              obtain ⟨_, _, _, _, _, _, heq⟩ := h
              cases heq
              exact .primitive other
  | bool b =>
    cases h
    exact .anyObject rfl
  | _ =>
    simp only [Property.read] at h
    split at h
    · cases h
    · cases h
      exact .anyObject rfl

/-- Null is read as no property, any other value as a property. -/
theorem Property.readOptional_eq_ok {required : Bool} {v : Value} {schema : Option Property}
    (h : Property.readOptional links required v = .ok schema) :
    v = .null ∧ schema = none ∨ ∃ p, Property.read links required v = .ok p ∧ schema = some p := by
  unfold Property.readOptional at h
  split at h
  · cases h
    exact .inl ⟨rfl, rfl⟩
  · obtain ⟨p, read, same⟩ := map_eq_ok.mp h
    exact .inr ⟨p, read, same.symm⟩

/-- A property is required when it is read as such. -/
theorem Property.required_of_read {required : Bool} {v : Value} {p : Property}
    (h : Property.read links required v = .ok p) : p.required = required := by
  cases Property.readAs_of_read h <;> rfl

/-- A plain model has the properties that its node states, each of them read as required when it is listed; it is no
reference and has no parts. -/
theorem readPlain_eq_ok {node : Fields Value} {m : Model} (h : Model.readPlain links node = .ok m) :
    ∃ required described, readRequired links node = .ok required ∧
      links.fieldsIfPresent (node.value "properties") = .ok described ∧
      List.Forall₂ (fun f p => p.1 = f.1 ∧ Property.read links (required.contains f.1) f.2 = .ok p.2)
        described m.properties ∧
      m.target = none ∧ m.parts = [] := by
  simp only [Model.readPlain, bind_eq_ok] at h
  obtain ⟨required, listed, described, stated, properties, each, _, _, _, _, _, _, _, _, _, _, heq⟩ := h
  cases heq
  refine ⟨required, described, listed, stated, (mapM_eq_ok.mp each).imp fun f p hp => ?_, rfl, rfl⟩
  obtain ⟨property, read, heq⟩ := bind_eq_ok.mp hp
  cases heq
  exact ⟨rfl, read⟩

/-- A property that is read from a node is required when the node is read to list it. -/
theorem required_of_describes {node : Fields Value} {field : String × Property}
    (h : Describes links node field) :
    ∃ required, readRequired links node = .ok required ∧ field.2.required = required.contains field.1 := by
  obtain ⟨_, m, read, member⟩ := h
  obtain ⟨required, described, listed, _, each, _⟩ := readPlain_eq_ok read
  obtain ⟨f, _, name, property⟩ := exists_of_mem_right each member
  refine ⟨required, listed, ?_⟩
  rw [name]
  exact Property.required_of_read property

/-- A node without links requires the names that its list contains. -/
theorem requires_iff_mem {node : Fields Value} (plain : node.Plain) {listed : List Value}
    (stated : node.value "required" = .list listed) (name : String) :
    Requires links node name ↔ .str name ∈ listed := by
  have items : links.itemsIfPresent (.list listed) = .ok listed := by
    cases listed <;> rfl
  have each : ∀ v ∈ listed, links.look v = .ok v := by
    have listPlain := plain.value "required"
    rw [stated] at listPlain
    intro v hv
    exact Links.look_plain (Value.isPlain_list.mp listPlain v hv)
  rw [Requires, stated]
  constructor
  · rintro ⟨listed', items', v, hv, seen⟩
    obtain rfl : listed = listed' := Except.ok.inj (items.symm.trans items')
    obtain rfl : v = .str name := Except.ok.inj ((each v hv).symm.trans seen)
    exact hv
  · intro member
    exact ⟨listed, items, .str name, member, each _ member⟩

/-- A name is among those read as required exactly when the node requires it. -/
theorem mem_readRequired_iff {node : Fields Value} {required : List String}
    (read : readRequired links node = .ok required) (name : String) : name ∈ required ↔ Requires links node name := by
  obtain ⟨listed, items, read⟩ := bind_eq_ok.mp read
  obtain ⟨names, each, heq⟩ := bind_eq_ok.mp read
  cases heq
  -- of what is gone through a text is read as itself, anything else as nothing
  have texts : List.Forall₂ (fun v found => found = some name ↔ links.look v = .ok (.str name)) listed names := by
    refine (mapM_eq_ok.mp each).imp fun v found h => ?_
    obtain ⟨w, seen, h⟩ := bind_eq_ok.mp h
    rw [seen]
    cases w with
    | str s =>
      cases h
      simp
    | list => cases h
    | object => cases h
    | _ =>
      cases h
      simp
  constructor
  · intro member
    obtain ⟨found, hfound, same⟩ := List.mem_filterMap.mp member
    obtain ⟨v, hv, reads⟩ := exists_of_mem_right texts hfound
    exact ⟨listed, items, v, hv, reads.mp same⟩
  · rintro ⟨listed', items', v, hv, seen⟩
    cases items.symm.trans items'
    obtain ⟨found, hfound, reads⟩ := exists_of_mem_left texts hv
    exact List.mem_filterMap.mpr ⟨found, hfound, reads.mpr seen⟩

/-- What a node lists as required is read. -/
theorem mem_readRequired {node : Fields Value} (plain : node.Plain) {name : String} (h : Lists node name)
    {required : List String} (read : readRequired links node = .ok required) : name ∈ required := by
  obtain ⟨listed, stated, member⟩ := h
  exact (mem_readRequired_iff read name).mpr ((requires_iff_mem plain stated name).mpr member)

/-- The properties of a plain model are those that its node states. -/
theorem declares_iff {node : Fields Value} (plain : node.Plain) {m : Model}
    (read : Model.readPlain links node = .ok m) (name : String) :
    Declares node name ↔ name ∈ m.properties.names := by
  obtain ⟨required, described, _, hd, each, _⟩ := readPlain_eq_ok read
  have names : m.properties.names = described.names := (map_eq_map (each.imp fun _ _ h => h.1.symm)).symm
  rw [names]
  rw [fieldsIfPresent_plain (plain.value "properties")] at hd
  unfold Declares
  cases stated : node.value "properties" with
  | object fs =>
    rw [stated] at hd
    cases hd
    simp
  | _ =>
    rw [stated] at hd
    simp only [Value.objectOr] at hd
    split at hd
    · cases hd
    · cases hd
      simp [Fields.names]

/-! ## The last declaration -/

/-- Properties that come from nodes: each from the last of them that declares it, and none is missing. -/
structure Provides (links : Links) (nodes : List (Fields Value)) (properties : Fields Property) : Prop where
  declared : ∀ node ∈ nodes, ∀ name, Declares node name → name ∈ properties.names
  last : ∀ field ∈ properties, ∃ before node after, nodes = before ++ node :: after ∧
    Describes links node field ∧ ∀ n ∈ after, ¬ Declares n field.1

theorem provides_nil : Provides links [] [] where
  declared := by simp
  last := by simp

/-- A node provides the properties that are read from it. -/
theorem provides_node {node : Fields Value} (plain : node.Plain) {m : Model}
    (read : Model.readPlain links node = .ok m) : Provides links [node] m.properties where
  declared := by
    intro n hn name declares
    cases List.mem_singleton.mp hn
    exact (declares_iff plain read name).mp declares
  last := by
    intro field member
    exact ⟨[], node, [], rfl, ⟨plain, m, read, member⟩, by simp⟩

/-- Later nodes take the place of earlier ones in what they declare. -/
theorem Provides.putAll {nodes more : List (Fields Value)} {gathered properties : Fields Property}
    (earlier : Provides links nodes gathered) (nodup : gathered.names.Nodup)
    (later : Provides links more properties) :
    Provides links (nodes ++ more) (gathered.putAll properties) where
  declared := by
    intro node hnode name declares
    apply Fields.mem_names_putAll.mpr
    rcases List.mem_append.mp hnode with hnode | hnode
    · exact .inl (earlier.declared node hnode name declares)
    · exact .inr (later.declared node hnode name declares)
  last := by
    intro field member
    rcases Fields.mem_putAll nodup member with own | ⟨kept, other⟩
    · obtain ⟨before, node, after, rfl, describes, last⟩ := later.last field own
      exact ⟨nodes ++ before, node, after, by simp, describes, last⟩
    · obtain ⟨before, node, after, rfl, describes, last⟩ := earlier.last field kept
      refine ⟨before, node, after ++ more, by simp, describes, ?_⟩
      intro n hn declares
      rcases List.mem_append.mp hn with hn | hn
      · exact last n hn declares
      · exact other (later.declared n hn _ declares)

/-! ## Reading the nodes -/

open Api

variable {definitions : Fields Value} {visited : List String}
  {onward : List Value → Except Fault (List Model)} {behind : String → Fields Property}

theorem propertiesWith_plain {fields : Fields Value} {m : Model} (read : Model.readPlain links fields = .ok m) :
    propertiesWith behind m = m.properties := by
  obtain ⟨_, _, _, _, _, own, undivided⟩ := readPlain_eq_ok read
  obtain ⟨⟩ := m
  cases own
  cases undivided
  rfl

theorem propertiesWith_parts (type : Option String) (parts : List Model) :
    propertiesWith behind { type, parts } = propertiesOfParts behind [] parts := by
  cases parts <;> rfl

theorem propertiesOfParts_append (gathered : Fields Property) (parts more : List Model) :
    propertiesOfParts behind gathered (parts ++ more) =
      propertiesOfParts behind (propertiesOfParts behind gathered parts) more := by
  induction parts generalizing gathered with
  | nil => rfl
  | cons m rest ih =>
    rw [List.cons_append, propertiesOfParts, propertiesOfParts]
    exact ih _

/-- Parts that are read one by one put what their nodes provide over what was gathered before. -/
def ProvidesEach (links : Links) (definitions : Fields Value) (visited : List String)
    (behind : String → Fields Property) (items : List Value) (parts : List Model) : Prop :=
  ∃ nodes, MadeUpOfEach definitions visited items nodes ∧
    ∀ earlier gathered, Provides links earlier gathered → gathered.names.Nodup →
      Provides links (earlier ++ nodes) (propertiesOfParts behind gathered parts) ∧
        (propertiesOfParts behind gathered parts).names.Nodup

/-- The properties behind every name are provided by the nodes behind it. -/
def ProvidesBehind (links : Links) (definitions : Fields Value) (visited : List String)
    (behind : String → Fields Property) : Prop :=
  ∀ name, ∃ nodes, MadeUpBehind definitions visited name nodes ∧ Provides links nodes (behind name)

/-- The properties beside `allOf` are put over those of the parts. -/
theorem provides_ownPart {fields : Fields Value} (plain : fields.Plain) {nodes : List (Fields Value)}
    {gathered : Fields Property} (provides : Provides links nodes gathered) (nodup : gathered.names.Nodup)
    {own : List Model} (read : Model.readOwnPart links fields = .ok own) :
    Provides links (nodes ++ ownNodes fields) (propertiesOfParts behind gathered own) := by
  rw [Model.readOwnPart, Links.present_plain (plain.value "properties"), ok_bind] at read
  unfold ownNodes
  split at read
  · next states =>
    obtain ⟨m, leaf, heq⟩ := bind_eq_ok.mp read
    cases heq
    rw [if_pos states, propertiesOfParts, propertiesOfParts, propertiesWith_plain leaf]
    exact provides.putAll nodup (provides_node plain leaf)
  · next states =>
    cases read
    rw [if_neg states, List.append_nil]
    exact provides

/-- What is read of a composition is provided by the nodes of its parts and its own. -/
theorem provides_composed {fields : Fields Value} (plain : fields.Plain) (named : refTarget? fields = none)
    (composed : (fields.value "allOf").truthy = true) {parts own : List Model}
    (each : ∃ items, fields.value "allOf" = .list items ∧
      ProvidesEach links definitions visited behind items parts)
    (read : Model.readOwnPart links fields = .ok own) :
    ∃ nodes, MadeUp definitions visited (.object fields) nodes ∧
      Provides links nodes (propertiesOfParts behind [] (parts ++ own)) := by
  obtain ⟨items, stated, nodes, made, gather⟩ := each
  have inhabited : items ≠ [] := by
    rintro rfl
    rw [stated] at composed
    cases composed
  obtain ⟨provides, nodup⟩ := gather [] [] provides_nil List.nodup_nil
  refine ⟨nodes ++ ownNodes fields, .parts named stated inhabited made, ?_⟩
  rw [propertiesOfParts_append]
  exact provides_ownPart plain provides nodup read

mutual
/-- What is read of a schema is provided by the nodes that it is made up of. -/
theorem provides_of_readWith (reached : ProvidesBehind links definitions visited behind) (v : Value)
    (plain : v.isPlain = true) {m : Model}
    (read : Model.readWith links onward v = .ok m) :
    ∃ nodes, MadeUp definitions visited v nodes ∧ Provides links nodes (propertiesWith behind m) := by
  cases v with
  | object fields =>
    have fieldsPlain : Fields.Plain fields := Value.isPlain_object.mp plain
    have each := @provides_of_readParts reached fields fieldsPlain
    rw [Model.readWith] at read
    cases named : refTarget? fields with
    | some target =>
      rw [named] at read
      cases read
      obtain ⟨nodes, made, provides⟩ := reached (lastSegment target)
      exact ⟨nodes, .reference named made, provides⟩
    | none =>
      rw [named] at read
      simp only [Links.present_plain (fieldsPlain.value "allOf"), ok_bind] at read
      cases composed : (Fields.value fields "allOf").truthy with
      | false =>
        simp only [composed, Bool.false_eq_true, if_false] at read
        rw [propertiesWith_plain read]
        exact ⟨[fields], .plain named composed, provides_node fieldsPlain read⟩
      | true =>
        simp only [composed, if_true, bind_eq_ok] at read
        obtain ⟨parts, hparts, own, hown, type, _, type', _, heq⟩ := read
        cases heq
        rw [propertiesWith_parts]
        exact provides_composed fieldsPlain named composed (each hparts composed) hown
  | link => cases plain
  | _ => cases read
termination_by structural v
theorem provides_of_readParts (reached : ProvidesBehind links definitions visited behind)
    (fs : List (String × Value)) (plain : Fields.Plain fs) {parts : List Model}
    (read : Model.readParts links onward fs = .ok parts) (composed : (Fields.value fs "allOf").truthy = true) :
    ∃ items, Fields.value fs "allOf" = .list items ∧
      ProvidesEach links definitions visited behind items parts := by
  cases fs with
  | nil => cases composed
  | cons f rest =>
    have first := @provides_of_readPartsField reached f (plain f List.mem_cons_self)
    have later := @provides_of_readParts reached rest fun g hg => plain g (List.mem_cons_of_mem _ hg)
    rw [Model.readParts] at read
    by_cases here : f.1 = "allOf"
    · rw [if_pos here] at read
      rw [Fields.value_cons, if_pos here]
      exact first read
    · rw [if_neg here] at read
      rw [Fields.value_cons, if_neg here] at composed ⊢
      exact later read composed
termination_by structural fs
theorem provides_of_readPartsField (reached : ProvidesBehind links definitions visited behind)
    (f : String × Value) (plain : f.2.isPlain = true) {parts : List Model}
    (read : Model.readPartsField links onward f = .ok parts) :
    ∃ items, f.2 = .list items ∧ ProvidesEach links definitions visited behind items parts := by
  obtain ⟨name, v⟩ := f
  cases v with
  | list items =>
    have each := @provides_of_readEach reached items (Value.isPlain_list.mp plain)
    exact ⟨items, rfl, each read⟩
  | link => cases plain
  | _ => cases read
termination_by structural f
theorem provides_of_readEach (reached : ProvidesBehind links definitions visited behind)
    (items : List Value) (plain : ∀ v ∈ items, v.isPlain = true) {parts : List Model}
    (read : Model.readEach links onward items = .ok parts) :
    ProvidesEach links definitions visited behind items parts := by
  cases items with
  | nil =>
    cases read
    refine ⟨[], .nil, fun earlier gathered provides nodup => ?_⟩
    rw [List.append_nil]
    exact ⟨provides, nodup⟩
  | cons v rest =>
    have first := @provides_of_readWith reached v (plain v List.mem_cons_self)
    have later := @provides_of_readEach reached rest fun w hw => plain w (List.mem_cons_of_mem _ hw)
    rw [Model.readEach] at read
    obtain ⟨m, hm, read⟩ := bind_eq_ok.mp read
    obtain ⟨more, hmore, heq⟩ := bind_eq_ok.mp read
    cases heq
    obtain ⟨nodes, made, own⟩ := first hm
    obtain ⟨others, each, gather⟩ := later hmore
    refine ⟨nodes ++ others, .cons made each, fun earlier gathered provides nodup => ?_⟩
    rw [propertiesOfParts, ← List.append_assoc]
    exact gather _ _ (provides.putAll nodup own) (Fields.nodup_names_putAll nodup _)
termination_by structural items
end

/-! ## Behind references -/

/-- The definitions of a document that can be read. -/
def readableDefinitions (links : Links) (root : Value) : Fields Value :=
  (definitionsOf root).filter fun d => (Model.read links d.2).toOption.isSome

/-- Definitions against the models that are read from them, one by one. -/
def ReadAs (links : Links) (definitions : Fields Value) (models : Fields Model) : Prop :=
  List.Forall₂ (fun d e => e.1 = d.1 ∧ Model.read links d.2 = .ok e.2) definitions models

theorem readDefinitions_readAs (links : Links) (fs : Fields Value) :
    ReadAs links (fs.filter fun d => (Model.read links d.2).toOption.isSome) (readDefinitions links fs).1 := by
  induction fs with
  | nil => exact .nil
  | cons f rest ih =>
    obtain ⟨name, v⟩ := f
    rw [List.filter_cons, readDefinitions]
    cases read : Model.read links v with
    | ok m => simpa [read] using .cons ⟨rfl, read⟩ ih
    | error fault => simpa [read] using ih

variable {models : Fields Model}

theorem get?_of_readAs (readAs : ReadAs links definitions models) (name : String) :
    (definitions.get? name = none ∧ models.get? name = none) ∨
      ∃ v m, definitions.get? name = some v ∧ models.get? name = some m ∧ Model.read links v = .ok m := by
  have alike : Fields.Alike (fun v m => Model.read links v = .ok m) definitions models := readAs
  have related := alike.get? name
  generalize definitions.get? name = v, models.get? name = m at related ⊢
  cases related with
  | none => exact .inl ⟨rfl, rfl⟩
  | some read => exact .inr ⟨_, _, rfl, rfl, read⟩

/-- A plain value is read by one pass through its parts, whatever the depth. -/
theorem exists_readWith (links : Links) : ∃ onward, Model.read links = Model.readWith links onward := by
  unfold Model.read
  cases links.budget with
  | zero => exact ⟨_, rfl⟩
  | succ depth => exact ⟨_, rfl⟩

/-- The definitions that a reading has come through: each once, and each of them is there. -/
structure Visited (definitions : Fields Value) (visited : List String) : Prop where
  distinct : visited.Nodup
  known : visited ⊆ definitions.names

theorem visited_nil (definitions : Fields Value) : Visited definitions [] := ⟨List.nodup_nil, by simp⟩

theorem Visited.cons (h : Visited definitions visited) {name : String} {v : Value}
    (defined : definitions.get? name = some v) (new : name ∉ visited) :
    Visited definitions (name :: visited) where
  distinct := List.nodup_cons.mpr ⟨new, h.distinct⟩
  known := by
    apply List.cons_subset.mpr
    exact ⟨Fields.mem_names.mpr ⟨v, Fields.mem_of_get? defined⟩, h.known⟩

theorem Visited.length_le (h : Visited definitions visited) : visited.length ≤ definitions.length := by
  have fits := (List.subperm_of_subset h.distinct h.known).length_le
  simpa [Fields.names] using fits

/-- Behind names there is what is behind the definitions that were not visited yet. -/
theorem providesBehind_of_new (readAs : ReadAs links definitions models) {next : String → Model → Fields Property}
    (new : ∀ name v m, definitions.get? name = some v → Model.read links v = .ok m → name ∉ visited →
      ∃ nodes, MadeUp definitions (name :: visited) v nodes ∧ Provides links nodes (next name m)) :
    ProvidesBehind links definitions visited fun name =>
      match models.get? name with
      | none => []
      | some m => if visited.contains name then [] else next name m := by
  intro name
  rcases get?_of_readAs readAs name with ⟨undefined, unread⟩ | ⟨v, m, defined, found, read⟩
  · simp only [unread]
    exact ⟨[], .missing undefined, provides_nil⟩
  · simp only [found]
    by_cases known : name ∈ visited
    · rw [if_pos (List.contains_iff_mem.mpr known)]
      exact ⟨[], .circular known, provides_nil⟩
    · rw [if_neg fun h => known (List.contains_iff_mem.mp h)]
      obtain ⟨nodes, made, provides⟩ := new name v m defined read known
      exact ⟨nodes, .found defined known made, provides⟩

/-- What is read of a schema is provided by its nodes, where the bound leaves room for the definitions that
were not visited yet. -/
theorem provides_propertiesFrom (plain : definitions.Plain) (readAs : ReadAs links definitions models)
    (fuel : Nat) (come : Visited definitions visited) (room : definitions.length ≤ visited.length + fuel)
    {v : Value} (vPlain : v.isPlain = true) {m : Model} (read : Model.read links v = .ok m) :
    ∃ nodes, MadeUp definitions visited v nodes ∧
      Provides links nodes (propertiesFrom models fuel visited m) := by
  obtain ⟨onward, passes⟩ := exists_readWith links
  induction fuel generalizing visited v m with
  | zero =>
    rw [passes] at read
    rw [propertiesFrom]
    refine provides_of_readWith (providesBehind_of_new readAs ?_) v vPlain read
    -- as many definitions were visited as there are, so none is new
    intro name w m' defined _ new
    have fits := (come.cons defined new).length_le
    simp only [List.length_cons] at fits
    omega
  | succ fuel ih =>
    rw [passes] at read
    rw [propertiesFrom]
    refine provides_of_readWith (providesBehind_of_new readAs ?_) v vPlain read
    intro name w m' defined behind new
    have left : definitions.length ≤ (name :: visited).length + fuel := by
      simp only [List.length_cons]
      omega
    exact ih (come.cons defined new) left (plain _ (Fields.mem_of_get? defined)) behind

/-! ## The fields of a model -/

theorem readableDefinitions_plain {root : Value} (plain : root.isPlain = true) :
    (readableDefinitions links root).Plain := by
  intro d hd
  exact definitionsOf_plain plain d (List.mem_filter.mp hd).1

/-- The effective properties of a definition come from the nodes that it is made up of. -/
theorem provides_effectiveProperties {root : Value} (plain : root.isPlain = true) {v : Value}
    (vPlain : v.isPlain = true) {m : Model} (read : Model.read links v = .ok m) :
    ∃ nodes, MadeUp (readableDefinitions links root) [] v nodes ∧
      Provides links nodes (effectiveProperties (Document.read links root).1.definitions m) := by
  have readAs : ReadAs links (readableDefinitions links root) (Document.read links root).1.definitions := by
    rw [definitions_read plain]
    exact readDefinitions_readAs links _
  have room : (readableDefinitions links root).length ≤
      ([] : List String).length + (Document.read links root).1.definitions.length := by
    rw [readAs.length_eq]
    simp
  exact provides_propertiesFrom (readableDefinitions_plain plain) readAs _ (visited_nil _) room vPlain read

/-- A node is the last of several that declares a name. -/
def DeclaredLast (nodes : List (Fields Value)) (node : Fields Value) (name : String) : Prop :=
  ∃ before after, nodes = before ++ node :: after ∧ Declares node name ∧ ∀ n ∈ after, ¬ Declares n name

/-- The fields of a model against the nodes of its definition. -/
structure FieldsDeclared (nodes : List (Fields Value)) (model : ModelType) : Prop where
  /-- What a node declares is a field. -/
  fields : ∀ node ∈ nodes, ∀ name, Declares node name → ∃ f ∈ model.fields, f.name = name
  /-- A field is the property of the last node that declares it, and not null when that node lists it. -/
  declared : ∀ f ∈ model.fields, ∃ node, DeclaredLast nodes node f.name ∧
    (Lists node f.name → f.type.nullable = false)

theorem Provides.fieldsDeclared {nodes : List (Fields Value)} {context : TypeContext}
    {definition : String × Model}
    (provides : Provides links nodes (effectiveProperties context.definitions definition.2)) :
    FieldsDeclared nodes (modelOf context definition) where
  fields := by
    intro node hnode name declares
    obtain ⟨p, member⟩ := Fields.mem_names.mp (provides.declared node hnode name declares)
    exact ⟨_, List.mem_map_of_mem member, rfl⟩
  declared := by
    intro f hf
    obtain ⟨field, member, rfl⟩ := List.mem_map.mp hf
    obtain ⟨before, node, after, split, describes, last⟩ := provides.last field member
    obtain ⟨required, listed, same⟩ := required_of_describes describes
    obtain ⟨plain, m, read, stated⟩ := describes
    have declares : Declares node field.1 := (declares_iff plain read _).mpr (List.mem_map_of_mem stated)
    refine ⟨node, ⟨before, after, split, declares, last⟩, fun lists => ?_⟩
    have isRequired : field.2.required = true := by
      rw [same]
      exact List.contains_iff_mem.mpr (mem_readRequired plain lists listed)
    show (!field.2.required) = false
    rw [isRequired]
    rfl

/-- **A field is that of its last declaration**: every definition that can be read is made up of nodes, its
model is generated, and a field of it is not null when the node that declares it last lists it as
required. -/
theorem field_declared {root : Value} (plain : root.isPlain = true) (links : Links) (settings : Settings)
    {key : String} {v : Value} (stated : (key, v) ∈ definitionsOf root) {m : Model}
    (read : Model.read links v = .ok m) :
    let document := (Document.read links root).1
    let d := (describe links settings document).1
    let model := modelOf ⟨document.definitions, d.enums.map (·.name)⟩ (key, m)
    model ∈ d.models ∧
      ∃ nodes, MadeUp (readableDefinitions links root) [] v nodes ∧ FieldsDeclared nodes model := by
  intro document d model
  have defined : (key, m) ∈ document.definitions := by
    have readable : (key, v) ∈ readableDefinitions links root := by
      refine List.mem_filter.mpr ⟨stated, ?_⟩
      rw [read]
      rfl
    have readAs := readDefinitions_readAs links (definitionsOf root)
    rw [← definitions_read plain] at readAs
    obtain ⟨⟨key', m'⟩, member, same, read'⟩ := exists_of_mem_left readAs readable
    cases same
    cases read.symm.trans read'
    exact member
  obtain ⟨nodes, made, provides⟩ := provides_effectiveProperties plain (definitionsOf_plain plain _ stated) read
  exact ⟨List.mem_map_of_mem defined, nodes, made, provides.fieldsDeclared⟩

/-- A base that requires what it declares. -/
def baseNode : Fields Value :=
  [("required", .list [.str "id"]), ("properties", .object [("id", .object [("type", .str "string")])])]

/-- A node that declares it again, and does not require it. -/
def againNode : Fields Value := [("properties", .object [("id", .object [("type", .str "integer")])])]

/-- A composition of the two. -/
def derivedNode : Value :=
  .object [("allOf", .list [.object [("$ref", .str "#/definitions/Base")], .object againNode])]

/-- A document of the base and the composition. -/
def derivedRoot : Value :=
  .object [("definitions", .object [("Base", .object baseNode), ("Derived", derivedNode)])]

/-- What is read of the composition. -/
def derivedModel : Model :=
  { parts := [{ target := some "Base" },
      { properties := [("id", { kind := .primitive, type := some "integer" })] }] }

/-- The composition is made up of the base and the other node, and its field is that of the latter. -/
theorem field_declared_derived :
    ∃ model ∈ (describe .none {} (Document.read .none derivedRoot).1).1.models,
      model.name = "Derived" ∧ FieldsDeclared [baseNode, againNode] model := by
  have stated : ("Derived", derivedNode) ∈ definitionsOf derivedRoot := List.mem_cons_of_mem _ List.mem_cons_self
  have read : Model.read .none derivedNode = .ok derivedModel := rfl
  obtain ⟨member, nodes, made, declared⟩ := field_declared rfl .none {} stated read
  have base : MadeUp (readableDefinitions .none derivedRoot) ["Base"] (.object baseNode) [baseNode] :=
    .plain rfl rfl
  have again : MadeUp (readableDefinitions .none derivedRoot) [] (.object againNode) [againNode] :=
    .plain rfl rfl
  have behind : MadeUpBehind (readableDefinitions .none derivedRoot) [] "Base" [baseNode] :=
    .found rfl (by simp) base
  have both : MadeUp (readableDefinitions .none derivedRoot) [] derivedNode ([baseNode] ++ ([againNode] ++ []) ++ _) :=
    .parts rfl rfl (List.cons_ne_nil _ _) (.cons (.reference rfl behind) (.cons again .nil))
  rw [made.unique both] at declared
  exact ⟨_, member, rfl, declared⟩

/-! ## What other nodes list -/

/-- A node of a composition: the schema itself, or a node of a part or behind a reference. -/
inductive NodeOf (definitions : Fields Value) : Value → Fields Value → Prop
  | self {fields : Fields Value} : NodeOf definitions (.object fields) fields
  | part {fields node : Fields Value} {items : List Value} {v : Value}
    (composed : fields.value "allOf" = .list items) (member : v ∈ items) (within : NodeOf definitions v node) :
    NodeOf definitions (.object fields) node
  | behind {fields node : Fields Value} {target : String} {v : Value}
    (named : refTarget? fields = some target) (defined : definitions.get? (lastSegment target) = some v)
    (within : NodeOf definitions v node) : NodeOf definitions (.object fields) node

/-- Whether no field is null that some node of its definition lists as required. -/
def EveryListedRequired (links : Links) (settings : Settings) (root : Value) : Prop :=
  let document := (Document.read links root).1
  let d := (describe links settings document).1
  ∀ key v m, (key, v) ∈ definitionsOf root → Model.read links v = .ok m →
    ∀ node, NodeOf (definitionsOf root) v node →
      ∀ f ∈ (modelOf ⟨document.definitions, d.enums.map (·.name)⟩ (key, m)).fields,
        Lists node f.name → f.type.nullable = false

/-- What the base lists does not hold of the later declaration. -/
theorem not_everyListedRequired : ¬ EveryListedRequired .none {} derivedRoot := by
  intro every
  have stated : ("Derived", derivedNode) ∈ definitionsOf derivedRoot := List.mem_cons_of_mem _ List.mem_cons_self
  have base : NodeOf (definitionsOf derivedRoot) derivedNode baseNode :=
    .part rfl List.mem_cons_self (.behind rfl rfl .self)
  have lists : Lists baseNode "id" := ⟨_, rfl, List.mem_cons_self⟩
  have properties : effectiveProperties (Document.read .none derivedRoot).1.definitions derivedModel =
      [("id", { kind := .primitive, type := some "integer" })] := by
    have definitions : (Document.read .none derivedRoot).1.definitions =
        [("Base", { properties := [("id", { kind := .primitive, type := some "string", required := true })] }),
          ("Derived", derivedModel)] := rfl
    rw [definitions]
    show propertiesFrom _ 2 [] derivedModel = _
    simp [propertiesFrom, propertiesWith, propertiesOfParts, derivedModel, Fields.get?, Fields.putAll, Fields.put]
  have field : (⟨"id", (TypeRef.scalar .int32).withNullable true⟩ : ModelField) ∈
      (modelOf ⟨(Document.read .none derivedRoot).1.definitions,
        (describe .none {} (Document.read .none derivedRoot).1).1.enums.map (·.name)⟩
        ("Derived", derivedModel)).fields := by
    unfold modelOf
    rw [properties]
    exact List.mem_singleton.mpr rfl
  have notNull := every "Derived" derivedNode derivedModel stated rfl baseNode base _ field lists
  cases notNull

end Schema

end TypedClient
