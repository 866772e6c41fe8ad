import TypedClient.Proofs.Rendering

/-!
# The members of an enumeration

The class of an enumeration has a member for each constant. What the names of two constants become may be the same,
and then the later member gets a number. The name with the number may be taken as well, since an earlier constant may
have been called so from the start; and a later one may be called so, which then gets a number itself. What carries
the members through is that a name is looked for beside all names that were found before.

**What is proved.** `enumClass_members`: from every list of constants the class has one member for each, in order,
with the literal of the constant's value. The names are distinct, and each is found after no more numbers than there
are members in front of it. The class derives from the integers exactly when there are constants and the values of
all of them are integers.
-/

namespace TypedClient.Client

open Api Source

/-- A member for a constant, beside the names of the members in front of it: its name is the first candidate that is
free, its default the literal of the value. -/
structure MemberFor (earlier : List String) (c : Constant) (a : Parameter) : Prop where
  found : ∃ n ≤ earlier.length, a.name = numbered (memberName c.name) n ∧
    ∀ k < n, numbered (memberName c.name) k ∈ earlier
  free : a.name ∉ earlier
  literal : a.default = some (constantLiteral c.value)
  untyped : a.hint = none

/-- A class for an enumeration: a member for each constant and nothing else. -/
structure EnumClassFor (name : String) (e : EnumType) (decl : ClassDecl) : Prop where
  named : decl.name = name
  count : decl.attributes.length = e.constants.length
  members : ∀ i c a, e.constants[i]? = some c → decl.attributes[i]? = some a →
    MemberFor ((decl.attributes.take i).map (·.name)) c a
  distinct : (decl.attributes.map (·.name)).Nodup
  bases : decl.bases = ["int", "Enum"] ∨ decl.bases = ["str", "Enum"]
  integers : "int" ∈ decl.bases ↔ e.constants ≠ [] ∧ ∀ c ∈ e.constants, ∃ n, c.value = .int n
  bare : decl.blocks = [] ∧ decl.functions = []

/-! ## Members -/

variable {constants : List Constant}

theorem length_memberNames (used : List String) (constants : List Constant) :
    (memberNames used constants).length = constants.length :=
  (renamed_memberNames used constants).length_eq

theorem length_enumMembers (constants : List Constant) : (enumMembers constants).length = constants.length := by
  rw [enumMembers, List.length_zipWith, length_memberNames, Nat.min_self]

/-- The member for a constant has its name from the names and all else from the constant. -/
theorem getElem?_enumMembers {i : Nat} {c : Constant} {a : Parameter} (here : constants[i]? = some c)
    (member : (enumMembers constants)[i]? = some a) : (memberNames [] constants)[i]? = some a.name ∧
      a.default = some (constantLiteral c.value) ∧ a.hint = none := by
  obtain ⟨name, c', named, here', made⟩ := List.getElem?_zipWith_eq_some.mp member
  cases here.symm.trans here'
  subst made
  exact ⟨named, rfl, rfl⟩

theorem memberFor_enumMembers {i : Nat} {c : Constant} {a : Parameter} (here : constants[i]? = some c)
    (member : (enumMembers constants)[i]? = some a) :
    MemberFor (((enumMembers constants).take i).map (·.name)) c a := by
  obtain ⟨named, literal, untyped⟩ := getElem?_enumMembers here member
  have first := (renamed_memberNames [] constants).firstFree_getElem here named
  rw [List.nil_append, ← names_enumMembers, ← List.map_take] at first
  exact ⟨first.exists_le (numbered_injective _), first.1, literal, untyped⟩

theorem nodup_names_enumMembers (constants : List Constant) : ((enumMembers constants).map (·.name)).Nodup := by
  rw [names_enumMembers]
  exact (renamed_memberNames [] constants).nodup

/-! ## The base class -/

theorem isIntegerConstant_iff {c : Constant} : isIntegerConstant c = true ↔ ∃ n, c.value = .int n := by
  obtain ⟨name, value⟩ := c
  cases value with
  | int n => exact iff_of_true rfl ⟨n, rfl⟩
  | str s => exact iff_of_false Bool.false_ne_true nofun

theorem isIntegerEnum_iff {e : EnumType} :
    isIntegerEnum e = true ↔ e.constants ≠ [] ∧ ∀ c ∈ e.constants, ∃ n, c.value = .int n := by
  rw [isIntegerEnum, Bool.and_eq_true, List.all_eq_true, Bool.not_eq_true', List.isEmpty_eq_false_iff]
  simp only [isIntegerConstant_iff]

/-- **The class of an enumeration.** Whatever its constants are, the class has one member for each of them, in order,
under distinct names and with the literals of the values. It derives from the integers exactly when there are
constants and all of them are integers. -/
theorem enumClass_members (name : String) (e : EnumType) : EnumClassFor name e (enumClass name e) where
  named := rfl
  count := length_enumMembers e.constants
  members := fun _ _ _ => memberFor_enumMembers
  distinct := nodup_names_enumMembers e.constants
  bases := by
    cases integers : isIntegerEnum e with
    | true => exact .inl (by simp [enumClass, integers])
    | false => exact .inr (by simp [enumClass, integers])
  integers := by
    rw [← isIntegerEnum_iff]
    cases integers : isIntegerEnum e <;> simp [enumClass, integers]
  bare := ⟨rfl, rfl⟩

/-- A number that is called for twice, by a clash and by the name of a later constant. -/
example : (enumMembers [⟨"a-b", .str "a-b"⟩, ⟨"a_b", .int 1⟩, ⟨"a b 2", .str "it's"⟩, ⟨"a_b", .int (-2)⟩]).map
      Parameter.text = ["A_B = 'a-b'", "A_B_2 = 1", "A_B_2_2 = \"it's\"", "A_B_3 = -2"] := by decide +kernel

end TypedClient.Client
