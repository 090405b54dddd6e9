import ExEditor.Program.Input

/-! The program as it is started: it gathers the files that the run may look at, runs, and puts on
the disk what the run has changed. -/
namespace ExEditor
namespace Program

/-- What is found at a path, with the names on the way to it. -/
def look (path : Text) : IO (Option (List Text × Entry)) := do
  let names := (Path.pieces path).filter fun piece => piece ≠ [] && piece ≠ ['.']
  try
    let place := (← IO.currentDir) / String.ofList path
    if ← place.isDir then return some (names, .directory)
    return some (names, .file (.ofBytes (← IO.FS.readBinFile place)))
  catch _ => return none

/-- Look for names in directories, and for the names that are mentioned in what is found there, in as
many rounds as the first argument says. -/
def gather : Nat → FileTree → (directories names : List Text) → IO FileTree
  | 0, files, _, _ => return files
  | n + 1, files, directories, names => do
    let mut files := files
    let mut directories' := directories
    let mut names' := names
    for directory in directories do
      for name in names do
        if let some (place, entry) ← look (Path.join directory name) then
          if (files.entries.lookup place).isNone then
            files := files.put place entry
            match entry with
            | .directory => directories' := Path.ofNames place :: directories'
            | .file content => names' := names' ++ mentionsIn content
    if names'.length = names.length && directories'.length = directories.length then return files
    gather n files directories' names'

/-- Put entries on the disk, and take away what is gone. -/
def deliver (changes : List (List Text × Entry) × List (List Text)) : IO Unit := do
  let root ← IO.currentDir
  for (names, entry) in changes.1 do
    let place := root / String.ofList (Path.ofNames names)
    match entry with
    | .directory => IO.FS.createDirAll place
    | .file content => IO.FS.writeBinFile place content.toBytes
  for names in changes.2 do
    IO.FS.removeFile (root / String.ofList (Path.ofNames names))

/-- The environment variables that a run looks at. -/
def environment : IO (List (Text × Text)) := do
  let mut known := []
  for name in ["HOME", "XDG_CONFIG_HOME"] do
    if let some value ← IO.getEnv name then known := (name.toList, value.toList) :: known
  return known

/-- Run with arguments, and return the exit code. -/
def start (arguments : List Text) : IO UInt32 := do
  let environment ← environment
  let workDir := (← IO.currentDir).toString.toList
  let bytes ← (← IO.getStdin).readBinToEnd
  let input := inputLines bytes
  let base : FileTree := { workDir, entries := [((Path.pieces workDir).filter (· ≠ []), .directory)] }
  let files ← gather 16 base [workDir] (wanted environment arguments ++ mentionsIn (.ofBytes bytes))
  let completed := run { arguments, input, files, environment }
  deliver (differences files completed.files)
  IO.print (String.ofList completed.output)
  if completed.complaint ≠ [] then IO.eprintln (String.ofList completed.complaint)
  return completed.exitCode.toUInt32

end Program
end ExEditor

/-- Start the program. -/
def main (arguments : List String) : IO UInt32 :=
  ExEditor.Program.start (arguments.map String.toList)
