import TypedClient.Fields

/-!
# Source text as data

A generated file is put together from classes, functions, annotated parameters and blocks of ready code
before any of it is text. A class is known in its file by its name, and so is a function in its class:
a later one of the same name takes the place of the earlier.
-/

namespace TypedClient.Source

/-- A type hint: a text, or type hints side by side, wrapped in a generic type or not. -/
inductive TypeHint where
  | plain (text : String)
  | group (parts : List TypeHint) (wrapper : Option String)
deriving Repr, Inhabited

/-- A type hint that is one text. -/
def TypeHint.of (text : String) : TypeHint := .group [.plain text] none

/-- A parameter of a function or an attribute of a class. -/
structure Parameter where
  name : String
  hint : Option TypeHint := none
  default : Option String := none
deriving Repr, Inhabited

/-- Ready code. -/
structure Block where
  code : String := "pass"
  order : Int := 0
deriving DecidableEq, Repr, Inhabited

/-- A function. -/
structure FunctionDecl where
  name : String
  parameters : List Parameter := []
  response : String := "None"
  isAsync : Bool := false
  decorators : List String := []
  description : Option String := none
  body : Block := {}
deriving Repr, Inhabited

/-- A class. -/
structure ClassDecl where
  name : String
  bases : List String := []
  description : Option String := none
  attributes : List Parameter := []
  blocks : List Block := []
  functions : Fields FunctionDecl := []
  order : Int := 0
deriving Repr, Inhabited

/-- Puts a function into a class under its name. -/
def ClassDecl.addFunction (c : ClassDecl) (f : FunctionDecl) : ClassDecl :=
  { c with functions := c.functions.put f.name f }

/-- A file. -/
structure File where
  name : String
  imports : List String := []
  classes : Fields ClassDecl := []
  blocks : List Block := []
deriving Repr, Inhabited

/-- Puts a class into a file under its name. -/
def File.addClass (f : File) (c : ClassDecl) : File :=
  { f with classes := f.classes.put c.name c }

/-- Adds a block at the end of a file's blocks. -/
def File.addBlock (f : File) (b : Block) : File :=
  { f with blocks := f.blocks ++ [b] }

/-- A generated package. -/
structure Project where
  name : String
  files : List File := []
deriving Repr, Inhabited

end TypedClient.Source
