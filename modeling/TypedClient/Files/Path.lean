import TypedClient.Text.Split

/-!
# Paths

A path is read as its names: slashes separate them, and empty names and single points do not count. Two
points lead back to the directory above, which is only known when the path is followed. `Path.absolute`
is the place of a path by its names alone, as it is shown to the user: a path that does not begin at the
root begins at the working directory. Two slashes at the front of a path, but no more, are kept.
-/

namespace TypedClient.Files

/-- A path by its names. -/
structure Path where
  /-- Whether the path begins at the root of all directories. -/
  fromRoot : Bool := false
  names : List String := []
  /-- Whether the path can only be that of a directory. -/
  ofDirectory : Bool := false
deriving DecidableEq, Repr, Inhabited

namespace Path

/-- A name that counts. -/
def counts (name : String) : Bool := name != "" && name != "."

/-- The path that a text states. -/
def ofText (s : String) : Path :=
  let names := (Text.split '/' s.toList).map String.ofList
  { fromRoot := s.toList.head? = some '/'
    names := names.filter counts
    ofDirectory := names.getLast?.any fun name => !counts name || name == ".." }

/-- Two paths as text, the second below the first. -/
def join (directory name : String) : String :=
  if directory = "" then name
  else if directory.toList.getLast? = some '/' then directory ++ name
  else directory ++ "/" ++ name

/-- The text of a path without its last name, and without the slashes before that name. -/
def parent (s : String) : String :=
  let upTo := s.toList.reverse.dropWhile (· != '/')
  let kept := upTo.dropWhile (· == '/')
  String.ofList (if kept.isEmpty then upTo else kept).reverse

/-- The last name of a path, empty after a slash at its end. -/
def baseName (s : String) : String :=
  String.ofList (s.toList.reverse.takeWhile (· != '/')).reverse

/-- Names with every pair of a name and two points after it left out. What is left over of two points
stays at the front. -/
def collapse (names : List String) : List String :=
  names.foldl (fun kept name =>
    if name = ".." then
      match kept.getLast? with
      | some last => if last = ".." then kept ++ [name] else kept.dropLast
      | none => kept ++ [name]
    else kept ++ [name]) []

/-- The names on the way from the root, for who works in a directory. -/
def namesFromRoot (workingDirectory s : String) : List String :=
  let path := ofText s
  if path.fromRoot then path.names else (ofText workingDirectory).names ++ path.names

/-- The slashes that a place is shown with, for a path as it was given. -/
def frontSlashes (s : String) : String :=
  match s.toList with
  | '/' :: '/' :: '/' :: _ => "/"
  | '/' :: '/' :: _ => "//"
  | _ => "/"

/-- The place of a path, as it is shown to who works in a directory. -/
def absolute (workingDirectory s : String) : String :=
  let names := collapse (namesFromRoot workingDirectory s)
  frontSlashes s ++ "/".intercalate (names.dropWhile (· == ".."))

end Path

end TypedClient.Files
