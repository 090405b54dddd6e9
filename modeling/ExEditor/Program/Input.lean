import ExEditor.Program.Run

/-! What the program takes from its surroundings before it runs: the lines of its standard input, and
the names of the files that a run may look at. -/
namespace ExEditor
namespace Program

/-- Bytes cut after each line feed. -/
def splitBytes : List UInt8 → List (List UInt8)
  | [] => []
  | b :: rest =>
    if b = 10 then [b] :: splitBytes rest
    else
      match splitBytes rest with
      | [] => [[b]]
      | piece :: others => (b :: piece) :: others

/-- The lines of some bytes without their line breaks; `none` is a line that is no text. -/
def inputLines (bytes : ByteArray) : List (Option Text) :=
  (splitBytes bytes.toList).map fun line =>
    match Content.ofBytes ⟨line.toArray⟩ with
    | .text t => some ((Text.rows t).headD [])
    | .bytes _ => none

/-- The names that a text may hold: its words, and what follows the first word of a line. -/
def mentions (t : Text) : List Text :=
  t.words ++ t.rows.map fun row =>
    Text.trim (Text.trimStart (row.trimStart.dropWhile (! Unicode.isBlank ·)))

/-- The names that content may hold. -/
def mentionsIn : Content → List Text
  | .text t => mentions t
  | .bytes _ => []

/-- The paths that arguments lead to, with the directories that they lie in. -/
def wanted (environment : List (Text × Text)) (arguments : List Text) : List Text :=
  match readArguments arguments with
  | .ok (.edit a) =>
    let files := a.file.toList ++ (a.file.map backupPath).toList
    let others := a.initScript.toList ++ (storePath? environment a).toList
    files ++ others ++ (files ++ others).filterMap Path.parent?
  | _ => []

/-- What differs between two trees: entries that are new or have changed, and names that are gone. -/
def differences (before after : FileTree) : List (List Text × Entry) × List (List Text) :=
  (after.entries.filter fun e => !(before.entries.contains e),
    (before.entries.map (·.1)).filter fun names => !(after.entries.map (·.1)).contains names)

end Program
end ExEditor
