import TypedClient.CommandLine.Run

/-!
# The program

The command line on real files. The files below the working directory are read into a tree, the run is
made on it, its lines are printed, and the files that it left different are written. There is no access
to the web here, so a schema on the web cannot be fetched.
-/

namespace TypedClient.CommandLine

open Files

/-- The path of a place. -/
def pathOf : Location → String
  | "/" :: names => "/" ++ "/".intercalate names
  | names => "/".intercalate ("." :: names)

/-- The names on the way from a directory to a path below it. -/
def namesBelow (directory path : String) : Location :=
  (Path.ofText path).names.drop (Path.ofText directory).names.length

/-- The tree with what is at a path below the working directory. -/
def readInto (directory : String) (t : FileTree) (path : String) (isDirectory : Bool) : IO FileTree := do
  let place := namesBelow directory path
  if isDirectory then return t.addDirectories place
  else
    let bytes ← IO.FS.readBinFile path
    let content := match String.fromUTF8? bytes with
      | some s => Content.text s
      | none => .bytes bytes.toList
    return (t.addDirectories place.dropLast).put place (.file content)

/-- The tree of the working directory. -/
def readTree : IO FileTree := do
  let directory ← IO.currentDir
  let paths ← directory.walkDir
  paths.foldlM (fun t path => do readInto directory.toString t path.toString (← path.isDir)) {}

/-- Writes what a run left different: new directories, and files whose text is new. -/
def writeChanges (before after : FileTree) : IO Unit :=
  after.nodes.forM fun (place, node) => do
    if before.node? place ≠ some node then
      let path := pathOf place
      match node with
      | .directory => IO.FS.createDirAll path
      | .file (.text s) => IO.FS.writeFile path s
      | .file (.bytes _) => pure ()

end TypedClient.CommandLine

open TypedClient in
/-- Runs the tool and ends with its exit code. -/
def main (arguments : List String) : IO UInt32 := do
  let files ← CommandLine.readTree
  let directory ← IO.currentDir
  let outcome := CommandLine.run { workingDirectory := directory.toString } files arguments
  IO.print outcome.output
  CommandLine.writeChanges files outcome.progress.files
  match outcome.exit with
  | .ok code => return UInt32.ofNat code
  | .error fault =>
    IO.eprintln fault.explanation
    return 1
