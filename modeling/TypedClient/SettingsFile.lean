import TypedClient.Files.Tree
import TypedClient.Settings
import TypedClient.Toml.Reader

/-!
# Settings in files

Settings are kept in a file of a fixed name, in the directory of the package or in the working
directory. A file that is not there is no fault; one that cannot be read is.
-/

namespace TypedClient.Settings

open Files

/-- What the file system says when it refuses to open a file. -/
def refusal (path : String) : FileFault → String
  | .absent => "[Errno 2] No such file or directory: " ++ Text.quote path
  | .occupied => "[Errno 17] File exists: " ++ Text.quote path
  | .notDirectory => "[Errno 20] Not a directory: " ++ Text.quote path
  | .isDirectory => "[Errno 21] Is a directory: " ++ Text.quote path
  | .tooLong => "[Errno 36] File name too long: " ++ Text.quote path
  | .invalidName => "embedded null byte"

/-- The settings in the file at a path. -/
def readFile (files : FileTree) (path : String) : Except Fault Settings := do
  match files.readText path with
  | .ok text => ofTable (← Toml.readFile path text)
  | .error (.file .invalidName) => throw (.file .invalidName)
  | .error (.file cause) => throw (.unreadableSettings path (refusal path cause))
  | .error fault => throw fault

/-- The settings in the file at a path; none when there is no file. -/
def readFile? (files : FileTree) (path : String) : Except Fault (Option Settings) :=
  if files.exists? path then some <$> readFile files path else .ok none

/-- The path of the settings: in the directory that is searched, when there is such a directory and it
has the file, otherwise the given one. -/
def locate (files : FileTree) (path : String) (searched : Option String) : String :=
  match searched with
  | none | some "" => path
  | some directory =>
    if files.isDirectory directory ∧ files.exists? (Path.join directory fileName) then
      Path.join directory fileName
    else path

/-- The settings in the file that is found; none when there is none. -/
def find? (files : FileTree) (path : String) (searched : Option String) :
    Except Fault (Option Settings) :=
  readFile? files (locate files path searched)

/-- The tree with the settings written to a path. What is there is emptied first, so it stays empty when
the settings cannot be written. -/
def save (s : Settings) (files : FileTree) (path : String) : FileTree × Except Fault String :=
  match files.writeText path "" with
  | .error fault => (files, .error fault)
  | .ok emptied =>
    match Toml.write s.toTable with
    | .error fault => (emptied, .error fault)
    | .ok text =>
      match files.writeText path text with
      | .ok written => (written, .ok text)
      | .error fault => (files, .error fault)

end TypedClient.Settings
