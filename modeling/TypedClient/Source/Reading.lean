import TypedClient.Links
import TypedClient.Number.LooseInteger
import TypedClient.Source.Basic

/-!
# Source from dynamic values

The pieces of a file can be given as values. Each field is checked against its type, and what does not
fit is an invalid field; fields that a piece does not have are ignored. In the short forms a type hint
may be given as its text, a function's body as its code and the functions of a class as a list, and
parameters and functions have no order.
-/

namespace TypedClient.Source

/-- A list field, empty when absent. -/
def readList (fields : Fields Value) (name : String) : Except Fault (List Value) :=
  match fields.get? name with
  | none => .ok []
  | some (.list vs) => .ok vs
  | some _ => .error .invalidField

/-- A field that is a list of texts, empty when absent. -/
def readTexts (fields : Fields Value) (name : String) : Except Fault (List String) := do
  (← readList fields name).mapM Value.requiredText

/-- A text field with a default. -/
def readText (fields : Fields Value) (name default : String) : Except Fault String :=
  match fields.get? name with
  | none => .ok default
  | some v => v.requiredText

/-- The integer that a value stands for: itself, a truth value as one or zero, a number that is equal to
one within 64 bits, a text that spells one. -/
def integerOf? : Value → Option Int
  | .int n => some n
  | .bool b => some (if b then 1 else 0)
  | .float x => x.integer?.filter fun n => n.natAbs < pow2 63
  | .str s => Number.readLoose? s
  | _ => none

/-- An integer field, zero when absent. -/
def readInteger (fields : Fields Value) (name : String) : Except Fault Int :=
  match fields.get? name with
  | none => .ok 0
  | some v =>
    match integerOf? v with
    | some n => .ok n
    | none => .error .invalidField

/-- The truth value that a word stands for, in letters of either case. -/
def truthOfWord? (word : String) : Option Bool :=
  let lower := word.toList.map Char.toLower
  if ["1", "t", "y", "on", "yes", "true"].any (·.toList == lower) then some true
  else if ["0", "f", "n", "no", "off", "false"].any (·.toList == lower) then some false
  else none

/-- The truth value that a value stands for: itself, one or zero, or a word. -/
def truthOf? : Value → Option Bool
  | .bool b => some b
  | .str s => truthOfWord? s
  | .int 0 => some false
  | .int 1 => some true
  | .float x =>
    if x.isZero then some false
    else if x = Binary64.ofFraction false 1 1 then some true
    else none
  | _ => none

/-- A truth value, false when absent. -/
def readFlag (fields : Fields Value) (name : String) : Except Fault Bool :=
  match fields.get? name with
  | none => .ok false
  | some v =>
    match truthOf? v with
    | some b => .ok b
    | none => .error .invalidField

/-- The order of a piece that has one only in the long form. What it is does not matter. -/
def checkOrder (short : Bool) (fields : Fields Value) : Except Fault Unit := do
  if !short then
    let _ ← readInteger fields "order"

/-- The fields of a piece. -/
def readFields (v : Value) : Except Fault (Fields Value) :=
  match v with
  | .object fs => .ok fs
  | _ => .error .invalidField

mutual
/-- One of the type hints side by side. -/
def TypeHint.readPart (v : Value) : Except Fault TypeHint := match v with
  | .str s => .ok (.plain s)
  | .object fs => do
    let parts ← TypeHint.readParts fs
    let wrapper ← (Fields.value fs "wrap_name").optionalText
    return .group parts wrapper
  | _ => .error .invalidField
termination_by structural v
/-- The type hints under `value`, none when it is absent. -/
def TypeHint.readParts (fields : List (String × Value)) : Except Fault (List TypeHint) :=
  match fields with
  | [] => .ok []
  | f :: rest => if f.1 = "value" then TypeHint.readField f else TypeHint.readParts rest
termination_by structural fields
/-- The type hints of a `value` field, one when it is not a list. -/
def TypeHint.readField (field : String × Value) : Except Fault (List TypeHint) := match field with
  | (_, .list vs) => TypeHint.readEach vs
  | (_, v) => (TypeHint.readPart v).map ([·])
termination_by structural field
/-- The type hints of a list. -/
def TypeHint.readEach (vs : List Value) : Except Fault (List TypeHint) := match vs with
  | [] => .ok []
  | v :: rest => do
    let a ← TypeHint.readPart v
    return a :: (← TypeHint.readEach rest)
termination_by structural vs
end

/-- A type hint. In the short form a text is a type hint. -/
def TypeHint.read (short : Bool) (v : Value) : Except Fault TypeHint :=
  match v with
  | .str s => if short then .ok (.of s) else .error .invalidField
  | v => TypeHint.readPart v

/-- A parameter. -/
def Parameter.read (short : Bool) (v : Value) : Except Fault Parameter := do
  let fields ← readFields v
  let name ← (fields.value "name").requiredText
  let hint ← match fields.value "var_type" with
    | .null => pure none
    | v => some <$> TypeHint.read short v
  let default ← (fields.value "default").optionalText
  checkOrder short fields
  return { name, hint, default }

/-- A block. -/
def Block.read (v : Value) : Except Fault Block := do
  let fields ← readFields v
  let code ← readText fields "code" "pass"
  let order ← readInteger fields "order"
  return { code, order }

/-- The body of a function. In the short form a text is the code of a block. -/
def readBody (short : Bool) (fields : Fields Value) : Except Fault Block :=
  match fields.get? "code" with
  | none => .ok {}
  | some (.str s) => if short then .ok { code := s } else .error .invalidField
  | some v => Block.read v

/-- A function. -/
def FunctionDecl.read (short : Bool) (v : Value) : Except Fault FunctionDecl := do
  let fields ← readFields v
  let name ← (fields.value "name").requiredText
  let parameters ← (← readList fields "parameters").mapM (Parameter.read short)
  let response ← readText fields "response" "None"
  let isAsync ← readFlag fields "async_def"
  let decorators ← readTexts fields "decorators"
  let description ← (fields.value "description").optionalText
  let body ← readBody short fields
  checkOrder short fields
  return { name, parameters, response, isAsync, decorators, description, body }

/-- The functions of a class: fields by name, or in the short form a list, each under its own name. -/
def readFunctions (short : Bool) (fields : Fields Value) : Except Fault (Fields FunctionDecl) :=
  match fields.get? "functions" with
  | none => .ok []
  | some (.list vs) =>
    if short then do
      let functions ← vs.mapM (FunctionDecl.read short)
      return Fields.ofPairs (functions.map fun f => (f.name, f))
    else .error .invalidField
  | some (.object fs) => fs.mapM fun f => do return (f.1, ← FunctionDecl.read short f.2)
  | some _ => .error .invalidField

/-- A class. -/
def ClassDecl.read (short : Bool) (v : Value) : Except Fault ClassDecl := do
  let fields ← readFields v
  let name ← (fields.value "name").requiredText
  let bases ← readTexts fields "inherits"
  let description ← (fields.value "description").optionalText
  let attributes ← (← readList fields "parameters").mapM (Parameter.read short)
  let blocks ← (← readList fields "code_blocks").mapM Block.read
  let functions ← readFunctions short fields
  let order ← readInteger fields "order"
  return { name, bases, description, attributes, blocks, functions, order }

/-- A piece that is given by one of its fields, with the other fields beside it. Names that are taken
cannot be among these. -/
def withField (taken : List String) (key text : String) (others : Fields Value) :
    Except Fault Value :=
  match (key :: taken).find? others.has with
  | some name => .error (.repeatedField name)
  | none => .ok (.object ((key, .str text) :: others))

/-- A class by its name and its other fields. -/
def ClassDecl.ofName (name : String) (others : Fields Value) : Except Fault ClassDecl := do
  ClassDecl.read false (← withField ["self", "cls"] "name" name others)

/-- A function by its name and its other fields. -/
def FunctionDecl.ofName (name : String) (others : Fields Value) : Except Fault FunctionDecl := do
  FunctionDecl.read false (← withField ["self", "function"] "name" name others)

/-- A block by its code and its other fields. -/
def Block.ofCode (code : String) (others : Fields Value) : Except Fault Block := do
  Block.read (← withField ["self", "code_block"] "code" code others)

/-- A step in putting a file together. What cannot be read fails when its step is taken. -/
inductive Step where
  | addImport (text : String)
  | addClass (c : Except Fault ClassDecl)
  | addBlock (b : Except Fault Block)
  | addFunction (className : String) (f : Except Fault FunctionDecl)
  | nothing
deriving Inhabited

/-- The file after a step. A function can only be added to a class that is there. -/
def File.apply (file : File) : Step → Except Fault File
  | .addImport text => .ok { file with imports := file.imports ++ [text] }
  | .addClass c => c.map file.addClass
  | .addBlock b => b.map file.addBlock
  | .addFunction name f =>
    match file.classes.get? name with
    | some c => f.map fun f => { file with classes := file.classes.put name (c.addFunction f) }
    | none => .error (.missingField name)
  | .nothing => .ok file

end TypedClient.Source
