import TypedClient.Client.ClassNames
import TypedClient.Fault
import TypedClient.Source.Text

/-!
# Types in the package

A type reference is written as a type hint: a scalar by its built-in type, a reference by its class or
as `Any`, a list as `List[…]`, a deferred result as its payload. What may be null is `Optional[…]`,
except where that adds nothing. `usedClasses` are the classes that a type hint names, which is what
has to be imported for it.
-/

namespace TypedClient.Client

open Api Source

/-- The built-in type of a scalar. -/
def builtin : Primitive → String
  | .int32 | .int64 => "int"
  | .float | .double => "float"
  | .string => "str"
  | .bool => "bool"
  | .unit => "None"

/-- A type hint that may be null. -/
def optionalIf (nullable : Bool) (a : TypeHint) : TypeHint :=
  if nullable ∧ a.text ≠ "Any" ∧ a.text ≠ "None" then .group [a] (some "Optional") else a

/-- The type hint of a type. -/
def typeHint (names : ClassNames) (t : TypeRef) : Except Fault TypeHint := match t with
  | ⟨.primitive, some p, _, _, nullable⟩ => .ok (optionalIf nullable (.of (builtin p)))
  | ⟨.primitive, none, _, _, _⟩ => .error (.missingField "primitive")
  | ⟨.reference, _, name, _, nullable⟩ =>
    .ok (optionalIf nullable (.of ((names.class? (name.getD "")).getD "Any")))
  | ⟨.list, _, _, some item, nullable⟩ => do
    let inner ← typeHint names item
    return optionalIf nullable (.group [inner] (some "List"))
  | ⟨.deferred, _, _, some item, _⟩ => typeHint names item
  | ⟨_, _, _, none, _⟩ => .error .notObject
termination_by structural t

/-- The classes that the type hint of a type names. -/
def usedClasses (names : ClassNames) (t : TypeRef) : List String := match t with
  | ⟨.primitive, _, _, _, _⟩ => []
  | ⟨.reference, _, name, _, _⟩ => (names.class? (name.getD "")).toList
  | ⟨_, _, _, some item, _⟩ => usedClasses names item
  | ⟨_, _, _, none, _⟩ => []
termination_by structural t

/-- The texts of a list without repetitions, in order. -/
def sortedNames (names : List String) : List String :=
  names.eraseDups.mergeSort fun a b => decide (a ≤ b)

/-- The names in a sequence of classes that are among those used, in order. -/
def importedNames (used available : List String) : List String :=
  sortedNames (used.filter (available.contains ·))

/-- The line that imports names from a module of the package; none when there is nothing to import. -/
def importLines (module : String) (names : List String) : List String :=
  if names.isEmpty then [] else ["from ." ++ module ++ " import " ++ ", ".intercalate names]

/-- The imports of every file with types. -/
def typingImports : List String :=
  ["from __future__ import annotations", "", "from typing import Any, List, Optional", ""]

end TypedClient.Client
