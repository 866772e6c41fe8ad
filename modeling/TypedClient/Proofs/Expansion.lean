import TypedClient.Proofs.Reachability

/-!
# What a composition expands to

A composition of definitions that are not composed of themselves could be gone through without a thought of
where one has been: every reference is replaced by what it names, and the whole models that are left are read
off from left to right. `Expands` is this reading. It keeps no record of the way and merges nothing, so a
definition that is reached twice is read twice.

**What is proved.** `expanded_of_acyclic`: where no definition is composed of itself, every model expands to one
list of properties, and its effective properties are this list with the repetitions taken out, each name at its
first place with its last value. To leave out the check for references that lead back changes nothing there.

A definition may be reached on several ways, as long as none of them leads back. `ComesTo` is what carries the
proof: on every way the definitions that have been come through are none of those that are still to come.
-/

namespace TypedClient

namespace Schema

/-! ## Definitions composed of others -/

mutual
/-- The references that a model consists of: its own target, or those of its parts. -/
def Model.targets (m : Model) : List String := match m with
  | ⟨_, _, _, _, _, _, some target⟩ => [target]
  | ⟨_, _, _, _, _, parts, none⟩ => targetsOfParts parts
termination_by structural m
/-- The references that parts consist of. -/
def targetsOfParts (parts : List Model) : List String := match parts with
  | [] => []
  | m :: rest => m.targets ++ targetsOfParts rest
termination_by structural parts
end

/-- A reference consists of its own target. -/
theorem Model.mem_targets_of_named {m : Model} {target : String} (named : m.target = some target) :
    target ∈ m.targets := by
  obtain ⟨⟩ := m
  cases named
  exact List.mem_singleton_self target

theorem mem_targetsOfParts {parts : List Model} {name : String} :
    name ∈ targetsOfParts parts ↔ ∃ part ∈ parts, name ∈ part.targets := by
  induction parts with
  | nil => simp [targetsOfParts]
  | cons m rest ih => simp [targetsOfParts, ih]

/-- What a part consists of belongs to the composition. -/
theorem Model.mem_targets_of_part {m part : Model} {name : String} (own : m.target = none)
    (member : part ∈ m.parts) (h : name ∈ part.targets) : name ∈ m.targets := by
  obtain ⟨⟩ := m
  cases own
  exact mem_targetsOfParts.mpr ⟨part, member, h⟩

/-- One definition is composed of another: it is a reference to it, or one of its parts is, at whatever depth. -/
def ComposedOf (definitions : Fields Model) (key other : String) : Prop :=
  ∃ d, definitions.get? key = some d ∧ other ∈ d.targets

/-- No definition is composed of itself, be it through others. -/
def IsAcyclic (definitions : Fields Model) : Prop :=
  ∀ key, ¬ Relation.TransGen (ComposedOf definitions) key key

/-- On the way through a model one comes to a reference of this name. -/
def Model.ComesTo (definitions : Fields Model) (m : Model) (name : String) : Prop :=
  ∃ target ∈ m.targets, Relation.ReflTransGen (ComposedOf definitions) target name

variable {definitions : Fields Model} {m d : Model} {key name target : String}

theorem Model.ComesTo.of_part {part : Model} (own : m.target = none) (member : part ∈ m.parts)
    (h : part.ComesTo definitions name) : m.ComesTo definitions name := by
  obtain ⟨target, stated, way⟩ := h
  exact ⟨target, m.mem_targets_of_part own member stated, way⟩

theorem Model.ComesTo.of_behind (stated : target ∈ m.targets) (defined : definitions.get? target = some d)
    (h : d.ComesTo definitions name) : m.ComesTo definitions name := by
  obtain ⟨next, statedNext, way⟩ := h
  exact ⟨target, stated, .head ⟨d, defined, statedNext⟩ way⟩

/-- A definition comes to its own name exactly when it is composed of itself. -/
theorem comesTo_own_iff (defined : definitions.get? key = some d) :
    d.ComesTo definitions key ↔ Relation.TransGen (ComposedOf definitions) key key := by
  rw [Relation.TransGen.head'_iff]
  constructor
  · rintro ⟨target, stated, way⟩
    exact ⟨target, ⟨d, defined, stated⟩, way⟩
  · rintro ⟨target, ⟨d', defined', stated⟩, way⟩
    cases defined.symm.trans defined'
    exact ⟨target, stated, way⟩

/-- Definitions that refer only to those of lower rank are not composed of themselves. -/
theorem isAcyclic_of_rank (rank : String → Nat)
    (falls : ∀ p ∈ definitions, ∀ target ∈ p.2.targets, rank target < rank p.1) : IsAcyclic definitions := by
  have falls' : ∀ a b, Relation.TransGen (ComposedOf definitions) a b → rank b < rank a := by
    intro a b way
    induction way with
    | single step =>
      obtain ⟨d, defined, stated⟩ := step
      exact falls _ (Fields.mem_of_get? defined) _ stated
    | tail _ step ih =>
      obtain ⟨d, defined, stated⟩ := step
      exact Nat.lt_trans (falls _ (Fields.mem_of_get? defined) _ stated) ih
  exact fun key way => Nat.lt_irrefl _ (falls' key key way)

/-! ## Properties under distinct names -/

mutual
/-- Whether the properties of a model are under distinct names, and those of its parts. -/
def Model.isKeyed (m : Model) : Bool := match m with
  | ⟨_, _, properties, _, _, parts, _⟩ => decide properties.names.Nodup && arePartsKeyed parts
termination_by structural m
/-- Whether the properties of each part are under distinct names. -/
def arePartsKeyed (parts : List Model) : Bool := match parts with
  | [] => true
  | m :: rest => m.isKeyed && arePartsKeyed rest
termination_by structural parts
end

theorem arePartsKeyed_iff {parts : List Model} : arePartsKeyed parts = true ↔ ∀ part ∈ parts, part.isKeyed = true := by
  induction parts with
  | nil => simp [arePartsKeyed]
  | cons m rest ih => simp [arePartsKeyed, ih]

theorem Model.isKeyed_iff :
    m.isKeyed = true ↔ m.properties.names.Nodup ∧ ∀ part ∈ m.parts, part.isKeyed = true := by
  obtain ⟨⟩ := m
  simp [Model.isKeyed, arePartsKeyed_iff]

/-- The properties of all models of a document are under distinct names, so that they are tables and not just lists
of pairs. -/
def Document.IsKeyed (document : Document) : Prop :=
  ∀ key m, document.definitions.get? key = some m → m.isKeyed = true

end Schema

namespace Api

open Schema

/-! ## The expansion -/

mutual
/-- The properties of the whole models that a model is made of, from left to right: a reference is read as the
definition that it names, one without a definition as nothing. -/
inductive Expands (definitions : Fields Model) : Model → List (String × Property) → Prop
  | whole {m : Model} (whole : m.IsWhole) : Expands definitions m m.properties
  | composed {m : Model} {stated : List (String × Property)} (own : m.target = none) (inhabited : m.parts ≠ [])
    (each : ExpandsParts definitions m.parts stated) : Expands definitions m stated
  | behind {m d : Model} {target : String} {stated : List (String × Property)} (named : m.target = some target)
    (defined : definitions.get? target = some d) (within : Expands definitions d stated) :
    Expands definitions m stated
  | missing {m : Model} {target : String} (named : m.target = some target)
    (undefined : definitions.get? target = none) : Expands definitions m []
/-- The properties of parts, one after the other. -/
inductive ExpandsParts (definitions : Fields Model) : List Model → List (String × Property) → Prop
  | nil : ExpandsParts definitions [] []
  | cons {m : Model} {rest : List Model} {stated more : List (String × Property)}
    (first : Expands definitions m stated) (later : ExpandsParts definitions rest more) :
    ExpandsParts definitions (m :: rest) (stated ++ more)
end

variable {definitions : Fields Model} {visited : List String}

mutual
/-- A model expands in one way. -/
theorem Expands.unique : ∀ {m : Model} {stated stated' : List (String × Property)},
    Expands definitions m stated → Expands definitions m stated' → stated = stated'
  | m, _, _, .whole whole, h' => by
    obtain ⟨own, undivided⟩ := whole
    cases h' with
    | whole => rfl
    | composed _ inhabited _ => exact absurd undivided inhabited
    | behind named | missing named => cases own.symm.trans named
  | m, _, _, .composed own inhabited each, h' => by
    cases h' with
    | whole whole => exact absurd whole.2 inhabited
    | composed _ _ each' => exact each.unique each'
    | behind named | missing named => cases own.symm.trans named
  | m, _, _, .behind named defined within, h' => by
    cases h' with
    | whole whole => cases whole.1.symm.trans named
    | composed own => cases own.symm.trans named
    | behind named' defined' within' =>
      cases named.symm.trans named'
      cases defined.symm.trans defined'
      exact within.unique within'
    | missing named' undefined =>
      cases named.symm.trans named'
      cases defined.symm.trans undefined
  | m, _, _, .missing named undefined, h' => by
    cases h' with
    | whole whole => cases whole.1.symm.trans named
    | composed own => cases own.symm.trans named
    | behind named' defined =>
      cases named.symm.trans named'
      cases undefined.symm.trans defined
    | missing => rfl
theorem ExpandsParts.unique : ∀ {parts : List Model} {stated stated' : List (String × Property)},
    ExpandsParts definitions parts stated → ExpandsParts definitions parts stated' → stated = stated'
  | _, _, _, .nil, h' => by
    cases h'
    rfl
  | _, _, _, .cons first later, h' => by
    cases h' with
    | cons first' later' => rw [first.unique first', later.unique later']
end

/-! ## References that do not lead back -/

/-- None of the definitions that have been come through is still to come. -/
def Clear (definitions : Fields Model) (visited : List String) (m : Model) : Prop :=
  ∀ name, m.ComesTo definitions name → name ∉ visited

theorem clear_nil (m : Model) : Clear definitions [] m := fun _ _ => List.not_mem_nil

theorem Clear.part {m part : Model} (clear : Clear definitions visited m) (own : m.target = none)
    (member : part ∈ m.parts) : Clear definitions visited part :=
  fun name h => clear name (h.of_part own member)

/-- A reference that is come to has not been come through. -/
theorem Clear.of_target {m : Model} {target : String} (clear : Clear definitions visited m)
    (stated : target ∈ m.targets) : target ∉ visited := clear target ⟨target, stated, .refl⟩

/-- **Behind a reference** the way stays clear, since a definition that came back to its name would be composed
of itself. -/
theorem Clear.behind {m d : Model} {target : String} (clear : Clear definitions visited m)
    (acyclic : IsAcyclic definitions) (stated : target ∈ m.targets) (defined : definitions.get? target = some d) :
    Clear definitions (target :: visited) d := by
  intro name h known
  rcases List.mem_cons.mp known with rfl | known
  · exact acyclic name ((comesTo_own_iff defined).mp h)
  · exact clear name (h.of_behind stated defined) known

section

variable {document : Document}

mutual
/-- What is gathered on a clear way is the expansion, merged. -/
theorem Gathers.expands (acyclic : IsAcyclic document.definitions) (keyed : document.IsKeyed) :
    ∀ {visited : List String} {m : Model} {ps : Fields Property},
    Gathers document.definitions visited m ps → Clear document.definitions visited m → m.isKeyed = true →
    ∃ stated, Expands document.definitions m stated ∧ ps = Fields.ofPairs stated
  | _, m, _, .whole whole, _, keyedOwn => by
    refine ⟨m.properties, .whole whole, ?_⟩
    exact (Fields.ofPairs_eq_self (Model.isKeyed_iff.mp keyedOwn).1).symm
  | _, m, _, .composed own inhabited each, clear, keyedOwn => by
    obtain ⟨stated, expands, merged⟩ := each.expands acyclic keyed (fun part member => clear.part own member)
      (Model.isKeyed_iff.mp keyedOwn).2
    exact ⟨stated, .composed own inhabited expands, merged⟩
  | _, _, _, .behind named defined _ within, clear, _ => by
    have clearWithin := clear.behind acyclic (Model.mem_targets_of_named named) defined
    obtain ⟨stated, expands, merged⟩ := within.expands acyclic keyed clearWithin (keyed _ _ defined)
    exact ⟨stated, .behind named defined expands, merged⟩
  | _, _, _, .missing named undefined, _, _ => ⟨[], .missing named undefined, rfl⟩
  | _, _, _, .circular named known, clear, _ =>
    absurd known (clear.of_target (Model.mem_targets_of_named named))
theorem GathersParts.expands (acyclic : IsAcyclic document.definitions) (keyed : document.IsKeyed) :
    ∀ {visited : List String} {gathered : Fields Property} {parts : List Model} {ps : Fields Property},
    GathersParts document.definitions visited gathered parts ps →
    (∀ part ∈ parts, Clear document.definitions visited part) → (∀ part ∈ parts, part.isKeyed = true) →
    ∃ stated, ExpandsParts document.definitions parts stated ∧ ps = gathered.putAll stated
  | _, _, _, _, .nil, _, _ => ⟨[], .nil, rfl⟩
  | _, gathered, _, _, .cons first later, clear, keyedParts => by
    obtain ⟨clearFirst, clear⟩ := List.forall_mem_cons.mp clear
    obtain ⟨keyedFirst, keyedParts⟩ := List.forall_mem_cons.mp keyedParts
    obtain ⟨stated, expands, merged⟩ := first.expands acyclic keyed clearFirst keyedFirst
    obtain ⟨more, others, out⟩ := later.expands acyclic keyed clear keyedParts
    refine ⟨stated ++ more, .cons expands others, ?_⟩
    rw [out, merged, Fields.putAll_ofPairs, Fields.putAll_append]
end

end

/-! ## Gathering without the check -/

/-- The effective properties of a model, through at most `fuel` references in a row, whether or not they lead
back. -/
def uncheckedProperties (definitions : Fields Model) (fuel : Nat) : Model → Fields Property :=
  propertiesWith fun target =>
    match definitions.get? target with
    | none => []
    | some m => match fuel with
      | 0 => []
      | fuel + 1 => uncheckedProperties definitions fuel m

section

variable {onward others : String → Fields Property}

mutual
/-- The properties of a model depend on what is behind its own references only. -/
theorem propertiesWith_congr (m : Model) (same : ∀ target ∈ m.targets, onward target = others target) :
    propertiesWith onward m = propertiesWith others m := by
  match m with
  | ⟨_, _, _, _, _, _, some target⟩ =>
    rw [propertiesWith, propertiesWith]
    exact same target (List.mem_singleton_self target)
  | ⟨_, _, _, _, _, [], none⟩ => rw [propertiesWith, propertiesWith]
  | ⟨_, _, _, _, _, first :: rest, none⟩ =>
    rw [propertiesWith, propertiesWith]
    · exact propertiesOfParts_congr [] (first :: rest) same
    · exact List.cons_ne_nil _ _
    · exact List.cons_ne_nil _ _
termination_by structural m
theorem propertiesOfParts_congr (gathered : Fields Property) (parts : List Model)
    (same : ∀ target ∈ targetsOfParts parts, onward target = others target) :
    propertiesOfParts onward gathered parts = propertiesOfParts others gathered parts := by
  match parts with
  | [] => rw [propertiesOfParts, propertiesOfParts]
  | m :: rest =>
    obtain ⟨first, later⟩ := List.forall_mem_append.mp same
    rw [propertiesOfParts, propertiesOfParts, propertiesWith_congr m first]
    exact propertiesOfParts_congr _ rest later
termination_by structural parts
end

end

/-- **On a clear way the check is idle**, since no reference leads back. -/
theorem propertiesFrom_eq_unchecked (acyclic : IsAcyclic definitions) (fuel : Nat) (m : Model)
    (clear : Clear definitions visited m) :
    propertiesFrom definitions fuel visited m = uncheckedProperties definitions fuel m := by
  induction fuel generalizing visited m with
  | zero =>
    rw [propertiesFrom, uncheckedProperties]
    refine propertiesWith_congr m fun target _ => ?_
    cases definitions.get? target <;> simp
  | succ fuel ih =>
    rw [propertiesFrom, uncheckedProperties]
    refine propertiesWith_congr m fun target stated => ?_
    have new := clear.of_target stated
    cases defined : definitions.get? target with
    | none => rfl
    | some d =>
      simp only [mt List.contains_iff_mem.mp new, Bool.false_eq_true, if_false]
      exact ih d (clear.behind acyclic stated defined)

/-! ## The result -/

/-- A longer bound on the references in a row changes nothing. -/
theorem propertiesFrom_eq_effective (fuel : Nat) (m : Model) (room : definitions.length ≤ fuel) :
    propertiesFrom definitions fuel [] m = effectiveProperties definitions m := by
  have enough : unvisited definitions [] ≤ fuel := Nat.le_trans (unvisited_le_length definitions []) room
  exact (gathers_propertiesFrom fuel enough m).unique (gathers_effectiveProperties definitions m)

/-- **A composition is its expansion.** In a document where no definition is composed of itself every definition
expands to one list of properties. Its effective properties are this list merged, each name at
the place where it is first and with the value that it has last; and they are the same when references that lead
back are not looked for, with any bound on the references in a row that leaves room for all definitions. -/
theorem expanded_of_acyclic (document : Document) (keyed : document.IsKeyed)
    (acyclic : IsAcyclic document.definitions) {key : String} {m : Model}
    (defined : document.definitions.get? key = some m) :
    let gathered := effectiveProperties document.definitions m
    (∃ stated, (∀ other, Expands document.definitions m other ↔ other = stated) ∧
      gathered.names = (Fields.names stated).eraseDups ∧
      ∀ name, gathered.get? name = Fields.get? stated.reverse name) ∧
    ∀ fuel, document.definitions.length ≤ fuel → uncheckedProperties document.definitions fuel m = gathered := by
  intro gathered
  obtain ⟨stated, expands, merged⟩ :=
    (gathers_effectiveProperties document.definitions m).expands acyclic keyed (clear_nil m) (keyed key m defined)
  refine ⟨⟨stated, fun other => ⟨(·.unique expands), (· ▸ expands)⟩, ?_, fun name => ?_⟩, fun fuel room => ?_⟩
  · exact (congrArg Fields.names merged).trans (Fields.names_ofPairs stated)
  · exact (congrArg (Fields.get? · name) merged).trans (Fields.get?_ofPairs stated name)
  · rw [← propertiesFrom_eq_unchecked acyclic fuel m (clear_nil m)]
    exact propertiesFrom_eq_effective fuel m room

/-- A property that is a text. -/
def textProperty : Property := { kind := .primitive, type := some "string" }

/-- A property that is a number. -/
def numberProperty : Property := { kind := .primitive, type := some "number" }

/-- Both definitions of a composition are composed of the same base, and each declares one of its properties
again. -/
def diamond : Document where
  definitions := [
    ("Base", { properties := [("id", textProperty), ("note", textProperty)] }),
    ("Left", { parts := [{ target := some "Base" }, { properties := [("note", numberProperty)] }] }),
    ("Right", { parts := [{ target := some "Base" }, { properties := [("id", numberProperty)] }] }),
    ("Both", { parts := [{ target := some "Left" }, { target := some "Missing" }, { target := some "Right" }] })]

/-- The composition of both. -/
def diamondBoth : Model :=
  { parts := [{ target := some "Left" }, { target := some "Missing" }, { target := some "Right" }] }

/-- The base is read twice. So the note of the left definition does not last, while the number of the right one,
which comes last, stands at the place of the first text. -/
theorem expanded_of_acyclic_diamond :
    let gathered := effectiveProperties diamond.definitions diamondBoth
    diamond.IsKeyed ∧ IsAcyclic diamond.definitions ∧ gathered.names = ["id", "note"] ∧
      gathered.get? "id" = some numberProperty ∧ gathered.get? "note" = some textProperty ∧
      uncheckedProperties diamond.definitions 4 diamondBoth = gathered := by
  intro gathered
  have keyed : diamond.IsKeyed := by
    have each : ∀ p ∈ diamond.definitions, p.2.isKeyed = true := by decide
    exact fun key m defined => each _ (Fields.mem_of_get? defined)
  have acyclic : IsAcyclic diamond.definitions := by
    refine isAcyclic_of_rank (fun name => if name = "Both" then 2 else if name ∈ ["Left", "Right"] then 1 else 0) ?_
    decide
  have defined : diamond.definitions.get? "Both" = some diamondBoth := rfl
  obtain ⟨⟨stated, only, names, values⟩, unchecked⟩ := expanded_of_acyclic diamond keyed acyclic defined
  have base : Expands diamond.definitions { target := some "Base" } [("id", textProperty), ("note", textProperty)] :=
    .behind rfl rfl (.whole ⟨rfl, rfl⟩)
  have own (field : String × Property) : Expands diamond.definitions { properties := [field] } [field] :=
    .whole ⟨rfl, rfl⟩
  have left : Expands diamond.definitions { target := some "Left" } _ :=
    .behind rfl rfl (.composed rfl nofun (.cons base (.cons (own ("note", numberProperty)) .nil)))
  have right : Expands diamond.definitions { target := some "Right" } _ :=
    .behind rfl rfl (.composed rfl nofun (.cons base (.cons (own ("id", numberProperty)) .nil)))
  have missing : Expands diamond.definitions { target := some "Missing" } [] := .missing rfl rfl
  have both : Expands diamond.definitions diamondBoth _ :=
    .composed rfl nofun (.cons left (.cons missing (.cons right .nil)))
  rw [← (only _).mp both] at names values
  exact ⟨keyed, acyclic, names, values "id", values "note", unchecked 4 (Nat.le_refl 4)⟩

end Api

end TypedClient
