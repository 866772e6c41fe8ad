import TypedClient.Source.Basic
import TypedClient.Text.Blank
import TypedClient.Text.Split

/-!
# The text of source

How the pieces of a file are written. A body is indented by four spaces, empty lines stay empty, and
tabs become four spaces. In a signature the parameters without a default come first. In a file the
blocks and classes of a higher order come first; of equal order the blocks precede the classes and
each keep the order in which they were added.
-/

namespace TypedClient.Source

/-- Four spaces for every tab. -/
def expandTabs (s : String) : String :=
  String.ofList (s.toList.flatMap fun c => if c = '\t' then [' ', ' ', ' ', ' '] else [c])

/-- The text without the line ends at its end. -/
def dropLineEnds (s : String) : String :=
  String.ofList (Text.dropEndWhile (· == '\n') s.toList)

/-- Every line that is not empty, indented by one level. -/
def indent (s : String) : String :=
  "\n".intercalate <| (Text.split '\n' s.toList).map fun line =>
    if line.isEmpty then "" else "    " ++ String.ofList line

/-- Every three double quotes in a row, from the left, written with single quotes. -/
def softenQuotes (cs : List Char) : List Char :=
  Text.replaceSeq ['"', '"', '"'] ['\'', '\'', '\''] cs

/-- The documentation of a class or function, nothing for an empty text. -/
def docstring (description : Option String) : String :=
  match description with
  | none | some "" => ""
  | some s => "\"\"\"" ++ Text.trim (String.ofList (softenQuotes s.toList)) ++ "\"\"\"\n"

mutual
/-- The text of a type hint. A wrapper around nothing is `Any`. -/
def TypeHint.text (a : TypeHint) : String := match a with
  | .plain s => s
  | .group parts wrapper =>
    let inner := ", ".intercalate (TypeHint.texts parts)
    match wrapper with
    | none => inner
    | some w => if inner = "" then "Any" else w ++ "[" ++ inner ++ "]"
termination_by structural a
/-- The texts of type hints. -/
def TypeHint.texts (parts : List TypeHint) : List String := match parts with
  | [] => []
  | a :: rest => TypeHint.text a :: TypeHint.texts rest
termination_by structural parts
end

/-- The text of a parameter. -/
def Parameter.text (p : Parameter) : String :=
  p.name
    ++ (match p.hint with | none => "" | some a => ": " ++ a.text)
    ++ (match p.default with | none => "" | some d => " = " ++ d)

/-- The text of a block. -/
def Block.text (b : Block) : String := expandTabs b.code

/-- The parameters of a signature: those without a default, then those with one. -/
def FunctionDecl.signature (f : FunctionDecl) : List Parameter :=
  f.parameters.filter (·.default.isNone) ++ f.parameters.filter (·.default.isSome)

/-- The text of a signature, on one line unless there are several parameters. -/
def FunctionDecl.signatureText (f : FunctionDecl) : String :=
  let parameters := f.signature.map Parameter.text
  let inner :=
    if 1 < parameters.length then "\n" ++ String.join (parameters.map fun p => "    " ++ p ++ ",\n")
    else ", ".intercalate parameters
  "(" ++ inner ++ ") -> " ++ f.response ++ ":"

/-- The text of a function. -/
def FunctionDecl.text (f : FunctionDecl) : String :=
  String.join (f.decorators.map (· ++ "\n"))
    ++ (if f.isAsync then "async " else "") ++ "def " ++ f.name ++ f.signatureText ++ "\n"
    ++ indent (docstring f.description ++ f.body.text)

/-- The sections of a class: its documentation, blocks, attributes, and each of its functions. -/
def ClassDecl.sections (c : ClassDecl) : List String :=
  let documentation := match c.description with
    | none | some "" => []
    | some s => [dropLineEnds (docstring (some s))]
  let blocks := if c.blocks.isEmpty then [] else ["\n".intercalate (c.blocks.map Block.text)]
  let attributes :=
    if c.attributes.isEmpty then [] else ["\n".intercalate (c.attributes.map Parameter.text)]
  documentation ++ blocks ++ attributes ++ c.functions.values.map FunctionDecl.text

/-- The text of a class. -/
def ClassDecl.text (c : ClassDecl) : String :=
  let bases := if c.bases.isEmpty then "" else "(" ++ ", ".intercalate c.bases ++ ")"
  let body := if c.sections.isEmpty then "pass" else "\n\n".intercalate c.sections
  "class " ++ c.name ++ bases ++ ":\n" ++ indent body

/-- What stands in a file below its imports. -/
inductive Item where
  | block (b : Block)
  | class (c : ClassDecl)
deriving Repr, Inhabited

namespace Item

/-- The order of an item. -/
def order : Item → Int
  | .block b => b.order
  | .class c => c.order

/-- The text of an item. -/
def text : Item → String
  | .block b => b.text
  | .class c => c.text

end Item

/-- The blocks and then the classes of a file. -/
def File.items (f : File) : List Item :=
  f.blocks.map .block ++ f.classes.values.map .class

/-- The items of a file as they are written: the higher order first, equal orders as they come. -/
def File.sortedItems (f : File) : List Item :=
  f.items.mergeSort fun a b => decide (b.order ≤ a.order)

/-- The text of a file. -/
def File.text (f : File) : String :=
  let imports := if f.imports.isEmpty then [] else ["\n".intercalate f.imports]
  let parts := imports ++ f.sortedItems.map fun i => dropLineEnds i.text
  expandTabs ("\n\n\n".intercalate parts) ++ "\n"

end TypedClient.Source
