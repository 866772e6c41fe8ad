import TypedClient.Text.Uppercase

/-!
# Faults

A `Fault` is the cause for which an operation has no answer. Most causes are met while a document of
unknown shape is read; `Fault.message?` gives the wording of those that the tool itself explains to its
user, and nothing for the others. `Fault.isReported` picks out the ones that the command line turns into
a message and an exit code; every other fault leaves the program.
-/

namespace TypedClient

/-- What the file system refuses. -/
inductive FileFault where
  /-- There is no such file or directory. -/
  | absent
  /-- A file stands where a directory is to be made. -/
  | occupied
  /-- A step of the path is not a directory. -/
  | notDirectory
  /-- A directory stands where a file is expected. -/
  | isDirectory
  /-- A name or a path is longer than the file system allows. -/
  | tooLong
  /-- A path has a character that no name can have. -/
  | invalidName
deriving DecidableEq, Repr

/-- The cause for which an operation has no answer. -/
inductive Fault where
  /-- Fields are asked of something that has none. -/
  | notObject
  /-- An object lacks a required field. -/
  | missingField (name : String)
  /-- The items are asked of something that has none, or text is asked of something else. -/
  | notIterable
  /-- A list or an object is to be a member of a set. -/
  | notHashable
  /-- A value does not have the type of the field that is to hold it. -/
  | invalidField
  /-- A field is given twice. -/
  | repeatedField (name : String)
  /-- A position is asked of something too short. -/
  | outOfRange
  /-- A text is not a number, or a number has more digits than are read or written. -/
  | notNumber
  /-- A number is infinite or too large for what it stands for. -/
  | tooLarge
  /-- A moment is to be shown or kept whose offset no clock has. -/
  | impossibleOffset
  /-- A text is not an address. -/
  | invalidAddress
  /-- A reference has no target. -/
  | brokenReference
  /-- A reference leads to itself through others, or a document goes on deeper than it can be followed. -/
  | endlessReference
  /-- Bytes are not a text. -/
  | notText
  /-- A text of several lines begins under an empty name. -/
  | namelessText
  /-- The file system refuses. -/
  | file (cause : FileFault)
  /-- The schema is missing or is not a schema. -/
  | schema (explanation : String) (source : Option String)
  /-- The schema cannot be fetched or read. -/
  | unreadableSchema
  /-- An operation of the schema cannot become a method. -/
  | operation (explanation path verb : String)
  /-- The settings are not as they should be. -/
  | settings (explanation : String)
  /-- The settings file cannot be read. -/
  | unreadableSettings (path detail : String)
  /-- The tool gives up for the reason stated. -/
  | general (explanation : String)
deriving DecidableEq, Repr

namespace Fault

/-- No source was given. -/
def noSource : Fault := .schema "источник схемы не указан" none

/-- The source is neither an address nor an existing file. -/
def fileNotFound (source : String) : Fault := .schema "файл не найден" (some source)

/-- The root of a document is not an object. -/
def rootNotObject (source : String) : Fault :=
  .schema "корень документа должен быть объектом" (some source)

/-- A top-level part of a document is not an object. -/
def partNotObject (name : String) : Fault :=
  .schema ("раздел " ++ name ++ " должен быть объектом") none

/-- An operation has no identifier, so its method has no name. -/
def noOperationId (path verb : String) : Fault := .operation "не указан operationId" path verb

/-- The table of headers is something else. -/
def headersNotTable : Fault := .settings "[headers] должен быть таблицей operationId -> список"

/-- The settings name no source. -/
def sourceNotSet : Fault := .settings "Источник схемы не указан в конфигурации"

/-- A header argument is not of the form `operation=Header: value`. -/
def badHeaderArgument (literal : String) : Fault :=
  .settings ("Ожидается operationId=Header: value, получено " ++ literal)

/-- The wording of a fault that the tool explains itself. An empty source is as good as none. -/
def message? : Fault → Option String
  | .schema explanation source =>
    match source with
    | none => some explanation
    | some s => some (if s = "" then explanation else s ++ ": " ++ explanation)
  | .operation explanation path verb =>
    some ("[" ++ Text.upper verb ++ "] " ++ path ++ ": " ++ explanation)
  | .settings explanation => some explanation
  | .general explanation => some explanation
  | _ => none

/-- Whether the command line reports a fault and ends with an exit code. -/
def isReported : Fault → Bool
  | .schema .. | .unreadableSchema | .operation .. | .settings _ | .unreadableSettings .. | .general _ => true
  | _ => false

/-- What the command line writes after its own words about a reported fault. -/
def explanation (f : Fault) : String :=
  match f with
  | .unreadableSettings path detail => "Не удалось прочитать " ++ path ++ ": " ++ detail
  | f => f.message?.getD ""

end Fault

end TypedClient
