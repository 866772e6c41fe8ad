import TypedClient.Api.Models
import TypedClient.Proofs.Fields
import Mathlib.Logic.Relation

/-!
# What a composition reaches

The effective properties of a model are gathered through its parts and behind references, under a bound on the
references in a row and past those that lead back. Neither has a place in what a schema means: there the
properties of a model are those of every whole model that can be reached from it, however often and by
whatever way.

**What is proved.** `Gathers` is the gathering without a bound: a definition is gone through again only when
the way to it has not come through it yet. `gathers_reachable`: gathering comes to an end from every model of
every document, with one result, which is what the bounded function gives, and the names of the result are
exactly those of the properties of the whole models that `Reaches` relates the model to. So neither a cycle nor
a definition that is reached twice loses a name or adds one.

The measure is that of the claim that gathering ends: first the definitions not come through, then the size of
the model. That no name is lost needs `reaches_iff_afresh`: what is reached is also reached without
coming through a definition twice.
-/

namespace TypedClient

namespace Schema

/-- A model that is neither given by reference nor composed. -/
def Model.IsWhole (m : Model) : Prop := m.target = none ∧ m.parts = []

/-- One step from a model: from a composition to one of its parts, from a reference to the definition that it
names. What is given by reference is nothing but its target, whatever else it states. -/
inductive Model.Leads (definitions : Fields Model) : Model → Model → Prop
  | part {m part : Model} (own : m.target = none) (member : part ∈ m.parts) : Leads definitions m part
  | reference {m d : Model} {target : String} (named : m.target = some target)
    (defined : definitions.get? target = some d) : Leads definitions m d

/-- Any number of steps from a model. -/
abbrev Model.Reaches (definitions : Fields Model) : Model → Model → Prop :=
  Relation.ReflTransGen (Model.Leads definitions)

end Schema

namespace Api

open Schema

/-! ## Gathering without a bound -/

mutual
/-- What gathering the properties of a model gives, having come through the definitions in `visited`. -/
inductive Gathers (definitions : Fields Model) : List String → Model → Fields Property → Prop
  | whole {visited : List String} {m : Model} (whole : m.IsWhole) : Gathers definitions visited m m.properties
  | composed {visited : List String} {m : Model} {ps : Fields Property} (own : m.target = none)
    (inhabited : m.parts ≠ []) (each : GathersParts definitions visited [] m.parts ps) :
    Gathers definitions visited m ps
  | behind {visited : List String} {m d : Model} {target : String} {ps : Fields Property}
    (named : m.target = some target) (defined : definitions.get? target = some d) (new : target ∉ visited)
    (within : Gathers definitions (target :: visited) d ps) : Gathers definitions visited m ps
  | missing {visited : List String} {m : Model} {target : String} (named : m.target = some target)
    (undefined : definitions.get? target = none) : Gathers definitions visited m []
  | circular {visited : List String} {m : Model} {target : String} (named : m.target = some target)
    (known : target ∈ visited) : Gathers definitions visited m []
/-- What gathering the properties of parts gives, put over those gathered so far. -/
inductive GathersParts (definitions : Fields Model) :
    List String → Fields Property → List Model → Fields Property → Prop
  | nil {visited : List String} {gathered : Fields Property} :
    GathersParts definitions visited gathered [] gathered
  | cons {visited : List String} {gathered ps out : Fields Property} {m : Model} {rest : List Model}
    (first : Gathers definitions visited m ps)
    (later : GathersParts definitions visited (gathered.putAll ps) rest out) :
    GathersParts definitions visited gathered (m :: rest) out
end

variable {definitions : Fields Model} {visited : List String}

mutual
/-- Gathering has one result. -/
theorem Gathers.unique : ∀ {visited : List String} {m : Model} {ps ps' : Fields Property},
    Gathers definitions visited m ps → Gathers definitions visited m ps' → ps = ps'
  | _, m, _, _, .whole whole, h' => by
    obtain ⟨own, undivided⟩ := whole
    cases h' with
    | whole => rfl
    | composed _ inhabited _ => exact absurd undivided inhabited
    | behind named | missing named | circular named => cases own.symm.trans named
  | _, m, _, _, .composed own inhabited each, h' => by
    cases h' with
    | whole whole => exact absurd whole.2 inhabited
    | composed _ _ each' => exact each.unique each'
    | behind named | missing named | circular named => cases own.symm.trans named
  | _, m, _, _, .behind named defined new within, h' => by
    cases h' with
    | whole whole => cases whole.1.symm.trans named
    | composed own => cases own.symm.trans named
    | behind named' defined' _ within' =>
      cases named.symm.trans named'
      cases defined.symm.trans defined'
      exact within.unique within'
    | missing named' undefined =>
      cases named.symm.trans named'
      cases defined.symm.trans undefined
    | circular named' known =>
      cases named.symm.trans named'
      exact absurd known new
  | _, m, _, _, .missing named undefined, h' => by
    cases h' with
    | whole whole => cases whole.1.symm.trans named
    | composed own => cases own.symm.trans named
    | behind named' defined =>
      cases named.symm.trans named'
      cases undefined.symm.trans defined
    | missing | circular => rfl
  | _, m, _, _, .circular named known, h' => by
    cases h' with
    | whole whole => cases whole.1.symm.trans named
    | composed own => cases own.symm.trans named
    | behind named' _ new =>
      cases named.symm.trans named'
      exact absurd known new
    | missing | circular => rfl
theorem GathersParts.unique : ∀ {visited : List String} {gathered : Fields Property} {parts : List Model}
    {ps ps' : Fields Property}, GathersParts definitions visited gathered parts ps →
    GathersParts definitions visited gathered parts ps' → ps = ps'
  | _, _, _, _, _, .nil, h' => by
    cases h'
    rfl
  | _, _, _, _, _, .cons first later, h' => by
    cases h' with
    | cons first' later' =>
      cases first.unique first'
      exact later.unique later'
end

/-- How many definitions a way has not come through. -/
def unvisited (definitions : Fields Model) (visited : List String) : Nat :=
  (definitions.names.filter (· ∉ visited)).length

theorem unvisited_le_length (definitions : Fields Model) (visited : List String) :
    unvisited definitions visited ≤ definitions.length := by
  have bound : unvisited definitions visited ≤ definitions.names.length := List.length_filter_le _ _
  rwa [Fields.names, List.length_map] at bound

/-- A way that goes on through a new definition leaves fewer of them. -/
theorem unvisited_lt {target : String} {d : Model} (defined : definitions.get? target = some d)
    (new : target ∉ visited) : unvisited definitions (target :: visited) < unvisited definitions visited := by
  have member : target ∈ definitions.names := Fields.mem_names.mpr ⟨d, Fields.mem_of_get? defined⟩
  have fewer : definitions.names.filter (· ∉ target :: visited) =
      (definitions.names.filter (· ∉ visited)).filter (· ≠ target) := by
    rw [List.filter_filter]
    refine List.filter_congr fun name _ => ?_
    simp [not_or]
  unfold unvisited
  rw [fewer]
  apply List.length_filter_lt_length_iff_exists.mpr
  exact ⟨target, by simp [member, new], by simp⟩

section

variable {onward : String → Fields Property}

mutual
/-- One pass through a model gathers its properties, when what is behind each reference is gathered. -/
theorem gathers_propertiesWith
    (behind : ∀ m target, m.target = some target → Gathers definitions visited m (onward target)) (m : Model) :
    Gathers definitions visited m (propertiesWith onward m) := by
  match m with
  | ⟨_, _, _, _, _, _, some target⟩ =>
    rw [propertiesWith]
    exact behind _ target rfl
  | ⟨_, _, _, _, _, [], none⟩ =>
    rw [propertiesWith]
    exact .whole ⟨rfl, rfl⟩
  | ⟨_, _, _, _, _, first :: rest, none⟩ =>
    rw [propertiesWith]
    · exact .composed rfl (List.cons_ne_nil _ _) (gathers_propertiesOfParts behind [] (first :: rest))
    · exact List.cons_ne_nil _ _
termination_by structural m
theorem gathers_propertiesOfParts
    (behind : ∀ m target, m.target = some target → Gathers definitions visited m (onward target))
    (gathered : Fields Property) (parts : List Model) :
    GathersParts definitions visited gathered parts (propertiesOfParts onward gathered parts) := by
  match parts with
  | [] =>
    rw [propertiesOfParts]
    exact .nil
  | m :: rest =>
    rw [propertiesOfParts]
    exact .cons (gathers_propertiesWith behind m) (gathers_propertiesOfParts behind _ rest)
termination_by structural parts
end

end

/-- The bounded function gathers, when its bound leaves room for the definitions not come through. -/
theorem gathers_propertiesFrom (fuel : Nat) (room : unvisited definitions visited ≤ fuel) (m : Model) :
    Gathers definitions visited m (propertiesFrom definitions fuel visited m) := by
  induction fuel generalizing visited m with
  | zero =>
    rw [propertiesFrom]
    refine gathers_propertiesWith (fun m target named => ?_) m
    cases defined : definitions.get? target with
    | none => exact .missing named defined
    | some d =>
      -- nothing is left to come through, so the definition is one of the visited
      have known : target ∈ visited := by
        by_contra new
        exact absurd (unvisited_lt defined new) (by omega)
      simp only [List.contains_iff_mem.mpr known, if_true]
      exact .circular named known
  | succ fuel ih =>
    rw [propertiesFrom]
    refine gathers_propertiesWith (fun m target named => ?_) m
    cases defined : definitions.get? target with
    | none => exact .missing named defined
    | some d =>
      by_cases known : target ∈ visited
      · simp only [List.contains_iff_mem.mpr known, if_true]
        exact .circular named known
      · have fewer := unvisited_lt defined known
        simp only [mt List.contains_iff_mem.mp known]
        exact .behind named defined known (ih (by omega) d)

/-- The effective properties of a model are what gathering gives. -/
theorem gathers_effectiveProperties (definitions : Fields Model) (m : Model) :
    Gathers definitions [] m (effectiveProperties definitions m) :=
  gathers_propertiesFrom _ (unvisited_le_length definitions []) m

/-! ## Ways that come through no definition twice -/

/-- A model is reached on a way that comes through none of the visited definitions, and through no other one
twice. -/
inductive ReachesAfresh (definitions : Fields Model) : List String → Model → Model → Prop
  | here {visited : List String} {m : Model} : ReachesAfresh definitions visited m m
  | part {visited : List String} {m part c : Model} (own : m.target = none) (member : part ∈ m.parts)
    (onward : ReachesAfresh definitions visited part c) : ReachesAfresh definitions visited m c
  | reference {visited : List String} {m d c : Model} {target : String} (named : m.target = some target)
    (defined : definitions.get? target = some d) (new : target ∉ visited)
    (onward : ReachesAfresh definitions (target :: visited) d c) : ReachesAfresh definitions visited m c

/-- A way may also be gone when fewer definitions are forbidden. -/
theorem ReachesAfresh.anti {visited fewer : List String} {m c : Model} (subset : fewer ⊆ visited)
    (h : ReachesAfresh definitions visited m c) : ReachesAfresh definitions fewer m c := by
  induction h generalizing fewer with
  | here => exact .here
  | part own member _ ih => exact .part own member (ih subset)
  | reference named defined new _ ih =>
    exact .reference named defined (fun known => new (subset known)) (ih (List.cons_subset_cons _ subset))

/-- **Loop cutting**: a way either keeps off a definition, or what follows where it last comes through it is a
way from there that does. -/
theorem ReachesAfresh.cut {m c : Model} (h : ReachesAfresh definitions visited m c) (name : String) :
    ReachesAfresh definitions (name :: visited) m c ∨
      ∃ d, definitions.get? name = some d ∧ ReachesAfresh definitions (name :: visited) d c := by
  induction h with
  | here => exact .inl .here
  | part own member _ ih =>
    rcases ih with off | again
    · exact .inl (.part own member off)
    · exact .inr again
  | @reference visited m d c target named defined new onward ih =>
    by_cases same : target = name
    · subst same
      exact .inr ⟨d, defined, onward⟩
    · have swap : target :: name :: visited ⊆ name :: target :: visited := by
        intro other member
        simpa [or_left_comm] using member
      rcases ih with off | ⟨d', defined', off⟩
      · refine .inl (.reference named defined ?_ (off.anti swap))
        simp [same, new]
      · refine .inr ⟨d', defined', off.anti ?_⟩
        exact List.cons_subset_cons _ (List.subset_cons_self _ _)

/-- What is reached is reached without coming through a definition twice. -/
theorem reaches_iff_afresh {m c : Model} :
    Model.Reaches definitions m c ↔ ReachesAfresh definitions [] m c := by
  constructor
  · intro h
    induction h using Relation.ReflTransGen.head_induction_on with
    | refl => exact .here
    | head step _ ih =>
      cases step with
      | part own member => exact .part own member ih
      | reference named defined =>
        -- the way from the definition is cut where it comes back to it
        rcases ih.cut _ with off | ⟨d, defined', off⟩
        · exact .reference named defined List.not_mem_nil off
        · exact .reference named defined' List.not_mem_nil off
  · intro h
    generalize [] = visited at h
    induction h with
    | here => exact .refl
    | part own member _ ih => exact .head (.part own member) ih
    | reference named defined _ _ ih => exact .head (.reference named defined) ih

/-! ## The properties that are gathered -/

mutual
/-- What is gathered is a property of a whole model that is reached. -/
theorem Gathers.mem_values {p : Property} : ∀ {visited : List String} {m : Model} {ps : Fields Property},
    Gathers definitions visited m ps → p ∈ ps.values →
    ∃ c, Model.Reaches definitions m c ∧ c.IsWhole ∧ p ∈ c.properties.values
  | _, m, _, .whole whole, member => ⟨m, .refl, whole, member⟩
  | _, _, _, .composed own _ each, member => by
    rcases each.mem_values member with none | ⟨part, stated, c, reached, within⟩
    · cases none
    · exact ⟨c, .head (.part own stated) reached, within⟩
  | _, _, _, .behind named defined _ behind, member => by
    obtain ⟨c, reached, within⟩ := behind.mem_values member
    exact ⟨c, .head (.reference named defined) reached, within⟩
  | _, _, _, .missing _ _, member => by cases member
  | _, _, _, .circular _ _, member => by cases member
theorem GathersParts.mem_values {p : Property} : ∀ {visited : List String} {gathered : Fields Property}
    {parts : List Model} {ps : Fields Property}, GathersParts definitions visited gathered parts ps → p ∈ ps.values →
    p ∈ gathered.values ∨
      ∃ part ∈ parts, ∃ c, Model.Reaches definitions part c ∧ c.IsWhole ∧ p ∈ c.properties.values
  | _, _, _, _, .nil, member => .inl member
  | _, _, _, _, .cons first later, member => by
    rcases later.mem_values member with before | ⟨part, stated, within⟩
    · rcases Fields.mem_values_putAll before with here | earlier
      · exact .inr ⟨_, List.mem_cons_self, first.mem_values here⟩
      · exact .inl earlier
    · exact .inr ⟨part, List.mem_cons_of_mem _ stated, within⟩
end

/-- An effective property of a model is one of a whole model that it reaches. -/
theorem exists_of_mem_effectiveProperties {m : Model} {p : Property}
    (member : p ∈ (effectiveProperties definitions m).values) :
    ∃ c, Model.Reaches definitions m c ∧ c.IsWhole ∧ p ∈ c.properties.values :=
  (gathers_effectiveProperties definitions m).mem_values member

/-! ## The names of what is gathered -/

/-- A name is that of a property of a whole model that is reached afresh. -/
def Offers (definitions : Fields Model) (visited : List String) (m : Model) (name : String) : Prop :=
  ∃ c, ReachesAfresh definitions visited m c ∧ c.IsWhole ∧ name ∈ c.properties.names

variable {m : Model} {name : String}

theorem offers_of_whole (whole : m.IsWhole) :
    Offers definitions visited m name ↔ name ∈ m.properties.names := by
  constructor
  · rintro ⟨c, reached, _, member⟩
    cases reached with
    | here => exact member
    | part _ stated => exact absurd (whole.2 ▸ stated) List.not_mem_nil
    | reference named => cases whole.1.symm.trans named
  · exact fun member => ⟨m, .here, whole, member⟩

theorem offers_of_composed (own : m.target = none) (inhabited : m.parts ≠ []) :
    Offers definitions visited m name ↔ ∃ part ∈ m.parts, Offers definitions visited part name := by
  constructor
  · rintro ⟨c, reached, whole, member⟩
    cases reached with
    | here => exact absurd whole.2 inhabited
    | part _ stated onward => exact ⟨_, stated, c, onward, whole, member⟩
    | reference named => cases own.symm.trans named
  · rintro ⟨part, stated, c, reached, whole, member⟩
    exact ⟨c, .part own stated reached, whole, member⟩

theorem offers_of_reference {target : String} (named : m.target = some target) :
    Offers definitions visited m name ↔
      ∃ d, definitions.get? target = some d ∧ target ∉ visited ∧ Offers definitions (target :: visited) d name := by
  constructor
  · rintro ⟨c, reached, whole, member⟩
    cases reached with
    | here => cases whole.1.symm.trans named
    | part own => cases own.symm.trans named
    | reference named' defined new onward =>
      cases named.symm.trans named'
      exact ⟨_, defined, new, c, onward, whole, member⟩
  · rintro ⟨d, defined, new, c, reached, whole, member⟩
    exact ⟨c, .reference named defined new reached, whole, member⟩

mutual
/-- The names of what is gathered are those that the model offers. -/
theorem Gathers.mem_names {name : String} : ∀ {visited : List String} {m : Model} {ps : Fields Property},
    Gathers definitions visited m ps → (name ∈ ps.names ↔ Offers definitions visited m name)
  | _, _, _, .whole whole => (offers_of_whole whole).symm
  | _, _, _, .composed own inhabited each => by
    rw [offers_of_composed own inhabited, each.mem_names]
    simp [Fields.names]
  | _, _, _, .behind named defined new within => by
    rw [offers_of_reference named, within.mem_names]
    simp [defined, new]
  | _, _, _, .missing named undefined => by
    rw [offers_of_reference named]
    simp [undefined, Fields.names]
  | _, _, _, .circular named known => by
    rw [offers_of_reference named]
    simp [known, Fields.names]
theorem GathersParts.mem_names {name : String} : ∀ {visited : List String} {gathered : Fields Property}
    {parts : List Model} {ps : Fields Property}, GathersParts definitions visited gathered parts ps →
    (name ∈ ps.names ↔ name ∈ gathered.names ∨ ∃ part ∈ parts, Offers definitions visited part name)
  | _, _, _, _, .nil => by simp
  | _, _, _, _, .cons first later => by
    rw [later.mem_names, Fields.mem_names_putAll, first.mem_names]
    simp [or_assoc]
end

/-- The names of the effective properties of a model are those of the whole models that it reaches. -/
theorem mem_names_effectiveProperties : name ∈ (effectiveProperties definitions m).names ↔
    ∃ c, Model.Reaches definitions m c ∧ c.IsWhole ∧ name ∈ c.properties.names := by
  rw [(gathers_effectiveProperties definitions m).mem_names]
  exact exists_congr fun c => and_congr_left' reaches_iff_afresh.symm

/-- **A model has the fields of all that it reaches.** Gathering the properties of a model of a document comes
to an end, with one result, which is that of the bounded function; and a name is among them exactly when
it is that of a property of some whole model that is reached through parts and behind references to
definitions that are there. -/
theorem gathers_reachable (document : Document) (m : Model) :
    let gathered := effectiveProperties document.definitions m
    Gathers document.definitions [] m gathered ∧
      (∀ ps, Gathers document.definitions [] m ps → ps = gathered) ∧
      ∀ name, name ∈ gathered.names ↔
        ∃ c, Model.Reaches document.definitions m c ∧ c.IsWhole ∧ name ∈ c.properties.names := by
  intro gathered
  have gathers := gathers_effectiveProperties document.definitions m
  exact ⟨gathers, fun ps other => other.unique gathers, fun name => mem_names_effectiveProperties⟩

/-- Two compositions of each other, both over the same base. -/
example :
    let text : Property := { kind := .primitive, type := some "string" }
    let definitions : Fields Model := [
      ("Base", { properties := [("id", text)] }),
      ("Left", { parts := [{ target := some "Base" }, { target := some "Right" }, { properties := [("a", text)] }] }),
      ("Right", { parts := [{ target := some "Left" }, { target := some "Base" }, { properties := [("b", text)] }] })]
    (effectiveProperties definitions { target := some "Left" }).names = ["id", "b", "a"] := by
  decide +kernel

end Api

end TypedClient
