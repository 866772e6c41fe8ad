import TypedClient.Client.Types
import TypedClient.Proofs.Outcome

/-!
# What type hints name

A type comes down to a scalar or to one reference, however many lists and deferrals are around it, and
its type hint comes down to one name. `Annotated` relates the two: the name is that of a built-in type
when nothing is referred to, `Any` when the reference has no class, and otherwise the class.

**What is proved.** `typeHint_annotated`: every type hint stands in this relation to its type.
`mem_usedClasses`: the classes that a type is said to use are those that its reference leads to.
-/

namespace TypedClient

namespace Api

/-- The name that a type refers to, behind its lists and deferrals. -/
def TypeRef.reference? (t : TypeRef) : Option String := match t with
  | ⟨.primitive, _, _, _, _⟩ => none
  | ⟨.reference, _, name, _, _⟩ => some (name.getD "")
  | ⟨_, _, _, some item, _⟩ => item.reference?
  | ⟨_, _, _, none, _⟩ => none
termination_by structural t

end Api

namespace Source

mutual
/-- The names in a type hint, without the generic types around them. -/
def TypeHint.leaves (a : TypeHint) : List String := match a with
  | .plain s => [s]
  | .group parts _ => TypeHint.leavesOfParts parts
termination_by structural a
/-- The names in type hints side by side. -/
def TypeHint.leavesOfParts (parts : List TypeHint) : List String := match parts with
  | [] => []
  | a :: rest => TypeHint.leaves a ++ TypeHint.leavesOfParts rest
termination_by structural parts
end

@[simp] theorem TypeHint.leaves_wrapped (a : TypeHint) (wrapper : Option String) :
    (TypeHint.group [a] wrapper).leaves = a.leaves :=
  List.append_nil _

end Source

namespace Client

open Api Source

/-- What a type hint says about its type. Of the class that it names, something is `known`. -/
inductive Annotated (names : ClassNames) (known : String → Prop) (t : TypeRef) (hint : TypeHint) : Prop where
  /-- Nothing is referred to. -/
  | scalar (p : Primitive) (scalar : t.reference? = none) (leaf : hint.leaves = [builtin p])
  /-- There is no class for the reference. -/
  | unknown (name : String) (refers : t.reference? = some name) (missing : names.class? name = none)
    (leaf : hint.leaves = ["Any"])
  /-- The reference leads to a class. -/
  | known (name c : String) (refers : t.reference? = some name) (found : names.class? name = some c)
    (leaf : hint.leaves = [c]) (is : known c)

@[simp] theorem leaves_optionalIf (nullable : Bool) (a : TypeHint) :
    (optionalIf nullable a).leaves = a.leaves := by
  unfold optionalIf
  split
  · exact TypeHint.leaves_wrapped a _
  · rfl

variable {names : ClassNames} {known : String → Prop} {t : TypeRef} {hint : TypeHint} {c : String}

/-- The classes used by a type are those that its reference leads to. -/
theorem usedClasses_eq (names : ClassNames) (t : TypeRef) :
    usedClasses names t = (t.reference?.bind names.class?).toList := by
  fun_induction usedClasses names t with
  | case1 => rfl
  | case2 => rfl
  | case3 kind p name nullable item hp hr ih =>
    cases kind with
    | primitive => exact (hp rfl).elim
    | reference => exact (hr rfl).elim
    | _ => exact ih
  | case4 kind p name nullable hp hr =>
    cases kind with
    | primitive => exact (hp rfl).elim
    | reference => exact (hr rfl).elim
    | _ => rfl

theorem mem_usedClasses :
    c ∈ usedClasses names t ↔ ∃ name, t.reference? = some name ∧ names.class? name = some c := by
  rw [usedClasses_eq, Option.mem_toList, Option.bind_eq_some_iff]

/-- What is around a type and around its hint changes nothing about what is said. -/
theorem Annotated.around {item : TypeRef} {inner : TypeHint} (h : Annotated names known item inner)
    (reference : t.reference? = item.reference?) (leaves : hint.leaves = inner.leaves) :
    Annotated names known t hint := by
  cases h with
  | scalar p none leaf => exact .scalar p (reference.trans none) (leaves.trans leaf)
  | unknown name refers missing leaf =>
    exact .unknown name (reference.trans refers) missing (leaves.trans leaf)
  | known name c refers found leaf is =>
    exact .known name c (reference.trans refers) found (leaves.trans leaf) is

/-- **A type hint says what its type refers to**, and what is known of the used classes is known of the
one that it names. -/
theorem typeHint_annotated (h : typeHint names t = .ok hint) (used : ∀ c ∈ usedClasses names t, known c) :
    Annotated names known t hint := by
  fun_induction typeHint names t generalizing hint with
  | case1 p =>
    cases h
    exact .scalar p rfl (leaves_optionalIf ..)
  | case2 => cases h
  | case3 _ name =>
    cases h
    cases found : names.class? (name.getD "") with
    | none => exact .unknown _ rfl found (leaves_optionalIf ..)
    | some c =>
      have is := used c (mem_usedClasses.mpr ⟨_, rfl, found⟩)
      exact .known _ c rfl found (leaves_optionalIf ..) is
  | case4 _ _ item _ ih =>
    obtain ⟨inner, hi, heq⟩ := bind_eq_ok.mp h
    cases heq
    refine (ih hi used).around rfl ?_
    rw [leaves_optionalIf, TypeHint.leaves_wrapped]
  | case5 _ _ item _ ih => exact (ih h used).around rfl rfl
  | case6 => cases h

/-- A class that a type uses is named in its hint. -/
theorem Annotated.mem_leaves (h : Annotated names known t hint) (used : c ∈ usedClasses names t) :
    c ∈ hint.leaves := by
  obtain ⟨name, refers, found⟩ := mem_usedClasses.mp used
  cases h with
  | scalar _ none _ => cases refers.symm.trans none
  | unknown _ refers' missing _ =>
    cases refers.symm.trans refers'
    cases found.symm.trans missing
  | known _ _ refers' found' leaf _ =>
    cases refers.symm.trans refers'
    cases found.symm.trans found'
    exact leaf ▸ List.mem_singleton_self c

end Client

end TypedClient
