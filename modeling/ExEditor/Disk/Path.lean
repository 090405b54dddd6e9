import ExEditor.Text.Basic

/-! File paths as texts: names with slashes between them. -/
namespace ExEditor
namespace Path

/-- Whether a path starts at the root. -/
def isAbsolute (p : Text) : Bool := p.head? == some '/'

/-- A path as seen from a directory. An absolute path stays as it is. -/
def join (directory p : Text) : Text :=
  if isAbsolute p then p
  else if directory = [] || directory.getLast? == some '/' then directory ++ p
  else directory ++ '/' :: p

/-- The pieces between slashes, empty ones included. -/
def pieces : Text → List Text
  | [] => [[]]
  | c :: t =>
    if c = '/' then [] :: pieces t
    else
      match pieces t with
      | [] => [[c]]
      | piece :: rest => (c :: piece) :: rest

/-- The absolute path of some names. -/
def ofNames (names : List Text) : Text := if names = [] then ['/'] else names.flatMap ('/' :: ·)

/-- A path without slashes and `.` names at its end; the slash of the root stays. The text is taken
backwards. -/
def trimBack : Text → Text
  | '/' :: c :: t => trimBack (c :: t)
  | '.' :: '/' :: t => trimBack ('/' :: t)
  | t => t

/-- The path up to its last name, and this name. The names `.` and `..` at the end are no file names,
but `..` has a path before it. -/
def splitName (p : Text) : Text × Text :=
  let back := trimBack p.reverse
  let name := back.takeWhile (· ≠ '/')
  (((trimBack (back.drop name.length)).reverse), name.reverse)

/-- The last name of a path, if it names a file. -/
def fileName? (p : Text) : Option Text :=
  let (_, name) := splitName p
  if name = [] || name = ['.'] || name = ['.', '.'] then none else some name

/-- The path without its last name. The root and the empty path have none. -/
def parent? (p : Text) : Option Text :=
  let (directory, name) := splitName p
  if name = [] then none else some directory

end Path
end ExEditor
