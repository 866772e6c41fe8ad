import TypedClient.Files.Tree
import TypedClient.Json
import TypedClient.References.Library
import TypedClient.References.Locator
import TypedClient.Schema.Document

/-!
# Loading a schema

A schema is loaded from a file or from an address of the web. What can go wrong before the document is
there is one fault, which ends the loading; an empty document takes its place. What is no fault of a
document, as links that never end, is left to the caller.

How far a text may be nested and how its links are made is not settled here: a `Linker` says so.
`Origin.linker` is one without a limit to the nesting. Its links are followed only as far as the reading of
the document looks at them; they may lead to other files, relative to the document they stand in, and to
data in an address, but not to the web.
-/

namespace TypedClient.Schema

open Files References

/-- What the web answers at an address. -/
structure Reply where
  status : Int
  body : String
deriving DecidableEq, Repr, Inhabited

/-- Where schemas come from: the files, the path of the working directory from the root, and the web by
address. -/
structure Origin where
  files : FileTree
  directory : String
  web : Fields Reply := []

/-- The address of the file at a path. -/
def Origin.fileAddress (o : Origin) (path : String) : String :=
  "file:///" ++ encode ("/".intercalate (Path.namesFromRoot o.directory path))

/-- The path in the tree of a file at a path: one from the root that leads below the working directory
begins there. -/
def Origin.pathInTree (o : Origin) (path : String) : String :=
  let p := Path.ofText path
  let above := (Path.ofText o.directory).names
  if p.fromRoot && above.isPrefixOf p.names then
    "/".intercalate ("." :: p.names.drop above.length) ++ if p.ofDirectory then "/" else ""
  else path

/-- A source on the web. -/
def isWebAddress (source : String) : Bool :=
  "http://".toList.isPrefixOf source.toList || "https://".toList.isPrefixOf source.toList

/-- The text that the web has at an address; an answer other than a success is as good as none. -/
def Origin.fetch (o : Origin) (address : String) : Except Fault String :=
  match o.web.get? address with
  | some r => if 200 ≤ r.status ∧ r.status < 300 then .ok r.body else .error .unreadableSchema
  | none => .error .unreadableSchema

/-- The source that a setting names. -/
def sourceText (setting : Value) : Except Fault String :=
  if !setting.truthy then .error .noSource
  else
    match setting with
    | .str s => .ok s
    | _ => .error .notObject

/-- Whether a fault on the way to a document is taken for one of loading: what the files refuse, and what
may be wrong with a text, a value, an address or a link. -/
def isDocumentFault : Fault → Bool
  | .file _ | .notText | .notNumber | .impossibleOffset | .invalidField | .invalidAddress
  | .brokenReference => true
  | _ => false

/-- The answer of a step on the way to a document. A fault of the document makes the schema unreadable; any
other is left as it is. -/
def attempt {α : Type} (answer : Except Fault α) : Except Fault α :=
  answer.mapError fun fault => if isDocumentFault fault then .unreadableSchema else fault

/-- The text of a schema and its address. -/
def Origin.read (o : Origin) (source : String) : Except Fault (String × String) := do
  if isWebAddress source then return (← o.fetch source, source)
  if !o.files.exists? source then throw (.fileNotFound source)
  return (← attempt (o.files.readText source), o.fileAddress source)

/-- The text of the document at an address, if it is to be had without the web. -/
def Origin.text? (o : Origin) (address : String) : Option String :=
  match Locator.ofAddress? address with
  | some (.file path) => (o.files.readText (o.pathInTree (String.ofList path))).toOption
  | some (.data bytes) => Files.decode bytes
  | none => none

/-- The content of the document at an address. -/
def Origin.content? (o : Origin) (address : String) : Option Value :=
  (o.text? address).bind Json.read?

/-- A loaded document with its links. -/
structure Loaded where
  root : Value
  links : Links

/-- What makes a document of a text. `fits` are the texts that are nested no deeper than can be gone through;
`link` gives the document with its links, from its address and its content. -/
structure Linker where
  fits : String → Bool
  link : String → Value → Except Fault Loaded

/-- How many links are followed at most to find what one of them stands for. -/
def maxFollowed : Nat := 165

/-- A document with its links, from its content and its address. Links lead back to it unless its address
has a fragment. -/
def Origin.link (o : Origin) (address : String) (content : Value) : Except Fault Loaded := do
  let (document, fragment) ← addressed (Uri.splitFragment? address)
  let spelling ← addressed (Uri.spelling? document)
  let others : Library := { content? := o.content? }
  let root ← linked (others.follow maxFollowed [spelling]) document [] content
  let first? := if fragment.isEmpty then some ⟨document, root⟩ else none
  return ⟨root, { others with first? }.links maxFollowed⟩

/-- The links of an origin, for texts of any depth. -/
def Origin.linker (o : Origin) : Linker where
  fits _ := true
  link := o.link

/-- The document of a source. Its root is not looked at yet. -/
def Origin.loadWith (o : Origin) (linker : Linker) (source : String) : Except Fault Loaded := do
  let (text, address) ← o.read source
  if !linker.fits text then throw .endlessReference
  match Json.read? text with
  | none => throw .unreadableSchema
  | some content => attempt (linker.link address content)

/-- The document that a setting names, and its fields: it must be an object. -/
def Origin.loadFieldsWith (o : Origin) (linker : Linker) (setting : Value) :
    Except Fault (Loaded × Fields Value) := do
  let source ← sourceText setting
  let loaded ← o.loadWith linker source
  match ← loaded.links.look loaded.root with
  | .object fields => return (loaded, fields)
  | _ => throw (.rootNotObject source)

/-- The document that a setting names and its fields, with the links of its origin. -/
def Origin.loadFields (o : Origin) : Value → Except Fault (Loaded × Fields Value) :=
  o.loadFieldsWith o.linker

/-- Whether a fault ends the loading of a schema and nothing else. -/
def isLoadingFault : Fault → Bool
  | .schema .. | .unreadableSchema => true
  | _ => false

/-- What came of loading: a document, and the links to go on with. -/
structure Outcome where
  document : Document := {}
  links : Links := Links.none
  events : List Event := []

/-- The schema that a setting names. When it cannot be loaded it is empty, and the fault is noted and
reported. A root that is a link without a target is no such fault. -/
def Origin.schemaWith (o : Origin) (linker : Linker) (setting : Value) : Except Fault Outcome :=
  match o.loadFieldsWith linker setting with
  | .ok (loaded, _) =>
    let (document, events) := Document.read loaded.links loaded.root
    .ok { document, links := loaded.links, events }
  | .error fault =>
    if isLoadingFault fault then
      .ok { events := [.notice (.documentNotLoaded fault), .failure fault] }
    else .error fault

/-- The schema that a setting names, with the links of its origin. -/
def Origin.schema (o : Origin) : Value → Except Fault Outcome := o.schemaWith o.linker

end TypedClient.Schema
