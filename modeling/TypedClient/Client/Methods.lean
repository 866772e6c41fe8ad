import TypedClient.Api.Verb
import TypedClient.Client.Types
import TypedClient.Text.Literal

/-!
# The interface of the package

A method is an asynchronous function with a decorator for its verb. The decorator says to which part of
the request each argument is bound, and which model the result is made of, if any. Arguments whose name
is taken get low lines at their end, methods a number.
-/

namespace TypedClient.Client

open Api Source

/-- The names of the arguments for the parameters, beside the names used before. -/
def argumentNames : List String → List MethodParameter → List String
  | _, [] => []
  | used, p :: rest =>
    let name := freshName used (underlined (argumentName p.name))
    name :: argumentNames (used ++ [name]) rest

/-- The parameters of a method with the names of their arguments. None is called `self`. -/
def namedParameters (m : Method) : List (String × MethodParameter) :=
  (argumentNames ["self"] m.parameters).zip m.parameters

/-- The argument of a parameter. -/
def argument (names : ClassNames) (p : String × MethodParameter) : Except Fault Parameter := do
  let a ← typeHint names p.2.type
  return { name := p.1, hint := some a, default := if p.2.type.nullable then some "None" else none }

/-- The arguments bound to a part of the request, with their names there. -/
def boundTo (b : Binding) (parameters : List (String × MethodParameter)) : Fields String :=
  (parameters.filter (·.2.binding == b)).map fun p => (p.1, p.2.wireName)

/-- The literal of a table of texts. -/
def tableLiteral (table : Fields String) : String :=
  "\x7b" ++ ", ".intercalate (table.map fun p => Text.quote p.1 ++ ": " ++ Text.quote p.2) ++ "\x7d"

/-- What a method delivers, without the deferral; none when a deferred result lacks its payload. -/
def payload (t : TypeRef) : Option TypeRef :=
  match t.kind with
  | .deferred => t.item
  | _ => some t

/-- The reference whose class makes up a payload: the payload itself or the item of a list. -/
def payloadTarget (t : TypeRef) : Option TypeRef :=
  match t.kind with
  | .list => t.item
  | _ => some t

/-- The model class that a payload is made of; none when it is not made of a generated model. -/
def responseModel (names : ClassNames) (t : TypeRef) : Except Fault (Option String) :=
  match payloadTarget t with
  | some { kind := .reference, name := some name, .. } =>
    .ok ((names.class? name).filter (names.models.values.contains ·))
  | some { kind := .reference, name := none, .. } => .error .notIterable
  | _ => .ok none

/-- The parts of a decorator that say what a method delivers. -/
def responseArguments (model : Option String) (isList : Bool) : List String :=
  match model with
  | none => []
  | some c => ("response_model=" ++ c) :: (if isList then ["many=True"] else [])

/-- The parts of a decorator that bind the arguments. -/
def bindingArguments (parameters : List (String × MethodParameter)) : List String :=
  let path := boundTo .path parameters
  let query := boundTo .query parameters
  let body := (boundTo .body parameters).getLast?
  (if path.isEmpty then [] else ["path_params=" ++ tableLiteral path])
    ++ (if query.isEmpty then [] else ["query=" ++ tableLiteral query])
    ++ (match body with | none => [] | some b => ["body=" ++ Text.quote b.1])

/-- The documentation of a method. -/
def methodDescription (m : Method) : Option String :=
  let summary := m.summary.getD ""
  let text := if m.deprecated then Text.trim (summary ++ "\n\nDeprecated.") else summary
  if text = "" then none else some text

/-- The decorators of a method. -/
def methodDecorators (m : Method) (arguments : List String) : List String :=
  ("@" ++ m.verb.decorator ++ "(" ++ ", ".intercalate (Text.quote m.path :: arguments) ++ ")")
    :: (if m.headers.isEmpty then []
        else ["@headers(" ++ ", ".intercalate (m.headers.map Text.quote) ++ ")"])

/-- The function of a method. -/
def methodFunction (names : ClassNames) (m : Method) : Except Fault FunctionDecl := do
  let parameters := namedParameters m
  let arguments ← parameters.mapM (argument names)
  let delivered := payload m.returns
  let model ← match delivered with
    | none => pure none
    | some t => responseModel names t
  let isList := delivered.any (·.kind == .list)
  let response ← match delivered with
    | none => pure "None"
    | some t => do pure (← typeHint names t).text
  return {
    name := argumentName m.name
    parameters := { name := "self" } :: arguments
    response
    isAsync := true
    decorators := methodDecorators m (bindingArguments parameters ++ responseArguments model isList)
    description := methodDescription m }

/-- The classes that a method names: in the types of its parameters and of its result. -/
def methodClasses (names : ClassNames) (m : Method) : List String :=
  m.parameters.flatMap (fun p => usedClasses names p.type)
    ++ (match payload m.returns with | none => [] | some t => usedClasses names t)

/-- The functions under names of their own, beside those already there. -/
def nameFunctions : Fields FunctionDecl → List FunctionDecl → Fields FunctionDecl
  | named, [] => named
  | named, f :: rest =>
    let name := freshName named.names (numbered f.name)
    nameFunctions (named ++ [(name, { f with name })]) rest

/-- The class of the interface. -/
def interfaceClass (names : ClassNames) (name description : String) (methods : List Method) :
    Except Fault ClassDecl := do
  let functions ← methods.mapM (methodFunction names)
  return { name, bases := ["ApiInterface"], description := some description
           functions := nameFunctions [] functions }

/-- The names that the interface takes from the module of common code. -/
def commonNames (methods : List Method) : List String :=
  "ApiInterface" :: sortedNames (methods.map (·.verb.decorator))
    ++ (if methods.any (!·.headers.isEmpty) then ["headers"] else [])

/-- The file of the interface. -/
def interfaceFile (names : ClassNames) (name description : String) (methods : List Method) :
    Except Fault File := do
  let c ← interfaceClass names name description methods
  let used := methods.flatMap (methodClasses names)
  return {
    name := "interface.py"
    imports := typingImports ++ importLines "common" (commonNames methods)
      ++ importLines "enums" (importedNames used names.enums.values)
      ++ importLines "models" (importedNames used names.models.values)
    classes := [(c.name, c)] }

end TypedClient.Client
