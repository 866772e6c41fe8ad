import TypedClient.Client.ClassNames
import TypedClient.Source.Basic
import TypedClient.Text.Literal

/-!
# The enumerations of the package

An enumeration is a class with one member per constant, in order. A member whose name is taken gets a
number, starting with two. The class derives from the integers when it has constants and all of them
are integers, otherwise from the texts.
-/

namespace TypedClient.Client

open Api Source

/-- The literal of a constant's value. An integer is written however long it is: neither a document in text nor
the reading of integers gives one of more digits than `Number.maxDigits`. -/
def constantLiteral : ConstantValue → String
  | .int n => toString n
  | .str s => Text.quote s

/-- Whether a constant is an integer. -/
def isIntegerConstant (c : Constant) : Bool :=
  match c.value with
  | .int _ => true
  | .str _ => false

/-- The names of the members for the constants, beside the names used before. -/
def memberNames : List String → List Constant → List String
  | _, [] => []
  | used, c :: rest =>
    let name := freshName used (numbered (memberName c.name))
    name :: memberNames (used ++ [name]) rest

/-- The members of an enumeration. -/
def enumMembers (constants : List Constant) : List Parameter :=
  List.zipWith (fun name c => { name, default := some (constantLiteral c.value) })
    (memberNames [] constants) constants

/-- Whether an enumeration derives from the integers. -/
def isIntegerEnum (e : EnumType) : Bool :=
  !e.constants.isEmpty && e.constants.all isIntegerConstant

/-- The class of an enumeration. -/
def enumClass (name : String) (e : EnumType) : ClassDecl :=
  { name, bases := [if isIntegerEnum e then "int" else "str", "Enum"], attributes := enumMembers e.constants }

/-- The file of the enumerations. -/
def enumsFile (enums : List EnumType) : File :=
  { name := "enums.py"
    imports := ["from enum import Enum"]
    classes := (enumsByClass enums).map fun p => (p.1, enumClass p.1 p.2) }

end TypedClient.Client
