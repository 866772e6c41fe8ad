import TypedClient.Fault
import TypedClient.Files.Path

/-!
# File trees

The files that the tool reads and writes, as a value: what is at a place is a directory or a file with
its content. The working directory is always there, and so are the directories above it, those that
every system has at its root, and the null device, which is a file that stays empty. Reading follows a path from the working directory, or from the root, and
says why it cannot be followed; writing gives a new tree. The way down to the working directory is not
known, so what is below it is found from there only.
-/

namespace TypedClient.Files

/-- The content of a file. -/
inductive Content where
  | text (s : String)
  | bytes (bs : List UInt8)
deriving DecidableEq, Repr, Inhabited

/-- What is at a place. -/
inductive Node where
  | directory
  | file (content : Content)
deriving DecidableEq, Repr, Inhabited

/-- A place: the names on the way to it from the working directory. Above the working directory the way
begins with two points for each step up, and a way from the root begins with a slash. -/
abbrev Location := List String

/-- The root of all directories. -/
def root : Location := ["/"]

/-- The directories that every system has at its root. -/
def systemDirectories : List String :=
  ["bin", "dev", "etc", "home", "lib", "media", "mnt", "opt", "proc", "root", "run", "sbin", "srv", "sys",
   "tmp", "usr", "var"]

/-- What is at a place whatever is written: the working directory, a directory above it, one that every
system has, or the null device. -/
def standing? (place : Location) : Option Node :=
  match place with
  | ["/"] => some .directory
  | ["/", name] => if systemDirectories.contains name then some .directory else none
  | ["/", "dev", "null"] => some (.file (.text ""))
  | place => if place.all (· == "..") then some .directory else none

/-- The place above a place. -/
def above (place : Location) : Location :=
  if place = root then root
  else if place.all (· == "..") then place ++ [".."]
  else place.dropLast

/-- Whether a place is below the working directory. -/
def isInside (place : Location) : Bool :=
  !place.head?.any fun name => name == ".." || name == "/"

/-- The places that are known, and what is there. -/
structure FileTree where
  nodes : List (Location × Node) := []
deriving DecidableEq, Repr, Inhabited

/-- Bytes as a text, if they are one. -/
def decode (bs : List UInt8) : Option String := String.fromUTF8? ⟨bs.toArray⟩

/-- A text with every kind of line end written as one line feed. -/
def plainLineEnds : List Char → List Char
  | [] => []
  | '\r' :: '\n' :: rest => '\n' :: plainLineEnds rest
  | '\r' :: rest => '\n' :: plainLineEnds rest
  | c :: rest => c :: plainLineEnds rest

/-- The text of a file. -/
def Content.text? : Content → Except Fault String
  | .text s => .ok s
  | .bytes bs =>
    match decode bs with
    | some s => .ok s
    | none => .error .notText

namespace FileTree

/-- What is at a place. -/
def node? (t : FileTree) (place : Location) : Option Node :=
  standing? place <|> t.nodes.lookup place

/-- The tree with something put at a place. -/
def put (t : FileTree) (place : Location) (node : Node) : FileTree :=
  ⟨t.nodes.filter (·.1 ≠ place) ++ [(place, node)]⟩

/-- The greatest number of bytes that a name may have. -/
def maxNameSize : Nat := 255

/-- The greatest number of bytes that a path may have. -/
def maxPathSize : Nat := 4095

/-- Whether a text has the character that no name can have. -/
def hasNull (s : String) : Bool := s.toList.contains '\x00'

/-- What is wrong with the text of a path, wherever it leads. -/
def pathFault? (path : String) : Option FileFault :=
  if hasNull path then some .invalidName
  else if maxPathSize < path.utf8ByteSize then some .tooLong
  else if path = "" then some .absent
  else none

/-- The directory from which the names of a path lead on. -/
def startOf (p : Path) : Location := if p.fromRoot then root else []

/-- The place that names lead to from a directory. -/
def walk (t : FileTree) (start : Location) : List String → Except FileFault Location
  | [] => .ok start
  | name :: rest =>
    if name = ".." then t.walk (above start) rest
    else if maxNameSize < name.utf8ByteSize then .error .tooLong
    else
      match t.node? (start ++ [name]) with
      | none => .error .absent
      | some .directory => t.walk (start ++ [name]) rest
      | some (.file _) =>
        if rest.isEmpty then .ok (start ++ [name]) else .error .notDirectory

/-- The place and the node that a path leads to. -/
def find (t : FileTree) (path : String) : Except FileFault (Location × Node) := do
  if let some fault := pathFault? path then throw fault
  let p := Path.ofText path
  let place ← t.walk (startOf p) p.names
  match t.node? place with
  | none => throw .absent
  | some .directory => return (place, .directory)
  | some (.file content) => if p.ofDirectory then throw .notDirectory else return (place, .file content)

/-- Whether there is something at a path. -/
def exists? (t : FileTree) (path : String) : Bool := (t.find path).isOk

/-- Whether there is a directory at a path. -/
def isDirectory (t : FileTree) (path : String) : Bool :=
  match t.find path with
  | .ok (_, .directory) => true
  | _ => false

/-- The text of the file at a path. -/
def readText (t : FileTree) (path : String) : Except Fault String :=
  match t.find path with
  | .error cause => .error (.file cause)
  | .ok (_, .directory) => .error (.file .isDirectory)
  | .ok (_, .file content) => do
    return String.ofList (plainLineEnds (← content.text?).toList)

/-- Why no directory can be made below a file: the name it would have is looked at first. -/
def belowFile : List String → FileFault
  | [] => .occupied
  | name :: _ => if hasNull name then .invalidName else .notDirectory

/-- Makes the directories on the way along some names, as far as they are missing. What is made stays
when the way comes to an end. -/
def makeAlong (t : FileTree) (start : Location) : List String → FileTree × Except FileFault Unit
  | [] => (t, .ok ())
  | name :: rest =>
    if name = ".." then t.makeAlong (above start) rest
    else if hasNull name then (t, .error .invalidName)
    else if maxNameSize < name.utf8ByteSize then (t, .error .tooLong)
    else
      match t.node? (start ++ [name]) with
      | none => (t.put (start ++ [name]) .directory).makeAlong (start ++ [name]) rest
      | some .directory => t.makeAlong (start ++ [name]) rest
      | some (.file _) => (t, .error (belowFile rest))

/-- Makes the directory at a path and those above it, as far as they are missing. -/
def makeDirectories (t : FileTree) (path : String) : FileTree × Except Fault Unit :=
  let p := Path.ofText path
  if path = "" then (t, .error (.file .absent))
  else if maxPathSize < path.utf8ByteSize then (t, .error (.file .tooLong))
  else
    match t.makeAlong (startOf p) p.names with
    | (t, .ok ()) => (t, .ok ())
    | (t, .error .occupied) =>
      (t, .error (.file (if p.ofDirectory then .notDirectory else .occupied)))
    | (t, .error cause) => (t, .error (.file cause))

/-- Writes a file at a path whose directory is there. -/
def writeText (t : FileTree) (path text : String) : Except Fault FileTree :=
  let p := Path.ofText path
  match t.find path with
  | .ok (_, .directory) => .error (.file .isDirectory)
  | .ok (place, .file _) => .ok (t.put place (.file (.text text)))
  | .error .absent =>
    if path = "" then .error (.file .absent)
    else
      match p.names.getLast?, t.walk (startOf p) p.names.dropLast with
      | some name, .ok directory =>
        if t.node? directory = some .directory then
          if p.ofDirectory then .error (.file .isDirectory)
          else .ok (t.put (directory ++ [name]) (.file (.text text)))
        else .error (.file .notDirectory)
      | none, .ok _ => .error (.file .absent)
      | _, .error cause => .error (.file cause)
  | .error cause => .error (.file cause)

/-- The tree with a directory at a place and at those above it, where nothing is there yet. -/
def addDirectories (t : FileTree) (place : Location) : FileTree :=
  ((List.range place.length).map fun n => place.take (n + 1)).foldl
    (fun t above => if (t.node? above).isSome then t else t.put above .directory) t

/-- The tree with a file and the directories above it. -/
def addFile (t : FileTree) (path : String) (content : Content) : FileTree :=
  let place := (Path.ofText path).names
  (t.addDirectories place.dropLast).put place (.file content)

/-- The tree with a directory and those above it. -/
def addDirectory (t : FileTree) (path : String) : FileTree :=
  t.addDirectories (Path.ofText path).names

/-- Every file below the working directory with its place as text, in the order of these texts. -/
def files (t : FileTree) : List (String × Content) :=
  (t.nodes.filterMap fun
    | (place, .file content) => if isInside place then some ("/".intercalate place, content) else none
    | (_, .directory) => none).mergeSort fun a b => decide (a.1 ≤ b.1)

/-- The names of the directories in a directory, in order. Those that begin with a point do not count. -/
def subdirectories (t : FileTree) (place : Location) : List String :=
  (t.nodes.filterMap fun
    | (below, .directory) =>
      if below.dropLast = place then
        below.getLast?.filter fun name => name.toList.head? ≠ some '.'
      else none
    | (_, .file _) => none).mergeSort fun a b => decide (a ≤ b)

/-- A directory and the directories below it, each before those inside it, to a depth. -/
def directoriesFrom (t : FileTree) : Nat → Location → List Location
  | 0, place => [place]
  | depth + 1, place => place :: (t.subdirectories place).flatMap fun name => t.directoriesFrom depth (place ++ [name])

/-- The directories of the tree that are not hidden, each before those inside it. -/
def directories (t : FileTree) : List Location := t.directoriesFrom t.nodes.length []

end FileTree

end TypedClient.Files
