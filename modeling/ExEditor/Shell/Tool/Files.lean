import ExEditor.Shell.Glob
import ExEditor.Shell.Tool.Options

/-! Tools that look at the files or change them. -/
namespace ExEditor
namespace Shell

/-- How a tool complains that it could not do something with a file. -/
def couldNot (tool act : String) (name : Text) (fault : FileFault) : Text :=
  tool.toList ++ ": cannot ".toList ++ act.toList ++ ' ' :: quoted name ++ ": ".toList ++ fault.cause

/-- End with a failure after a complaint. -/
def State.fail (s : State) (complaint : Text) : State := (s.complain complaint).finish 1

/-- Complain that a tool has been given no words. -/
def State.missing (s : State) (tool : String) (what : String) : State :=
  ((s.complain (tool.toList ++ ": missing ".toList ++ what.toList)).complain
    ("Try '".toList ++ tool.toList ++ " --help' for more information.".toList)).finish 1

/-- What `ls` shows for the names in a directory. -/
def listing (g : Given) (files : FileTree) (directory : List Text) : List Text :=
  let names := files.namesIn directory
  let names :=
    if g.has 'a' then ['.'] :: ['.', '.'] :: names
    else if g.has 'A' then names
    else names.filter fun name => name.head? != some '.'
  let marked := names.map fun name =>
    if (g.has 'F' || g.has 'p') && files.find? (directory ++ [name]) == some .directory then name ++ ['/']
    else name
  if g.has 'r' then marked.reverse else marked

/-- Show the names in directories. -/
def ls : Tool := fun words s =>
  let usage : Usage := { tool := "ls", flags := "1aAdFpr", misuse := 2, long := [("all", 'a'),
    ("almost-all", 'A'), ("directory", 'd'), ("reverse", 'r')] }
  usage.apply words s fun g =>
    let operands := if g.operands = [] then [['.']] else g.operands
    let operands := operands.mergeSort fun a b => !Text.before b a
    let s := operands.foldl (fun s name =>
      match s.files.at? name with
      | .ok _ => s
      | .error fault => (s.complain (couldNot "ls" "access" name fault)).finish 2) (s.finish 0)
    let found := operands.filter s.files.has
    let isListed (name : Text) : Bool := !g.has 'd' && s.files.isDirectory name
    let plain := found.filter fun name => !isListed name
    let directories := found.filter isListed
    let shown := directories.map fun name =>
      let names := listing g s.files ((s.files.namesOf name).toOption.getD [])
      (if 1 < operands.length then name ++ [':', '\n'] else []) ++ ofBodies names
    let parts := (if plain = [] then [] else [ofBodies plain]) ++ shown
    s.emit (Text.join ['\n'] parts)

/-- Make directories. -/
def mkdir : Tool := fun words s =>
  ({ tool := "mkdir", flags := "pv", valued := "m", long := [("parents", 'p')] } : Usage).apply words s fun g =>
    if g.operands = [] then s.missing "mkdir" "operand"
    else
      g.operands.foldl (fun s name =>
        let refuse (cause : Text) : State :=
          s.fail ("mkdir: cannot create directory ".toList ++ quoted name ++ ": ".toList ++ cause)
        if g.has 'p' then
          match s.files.makeDirectories name with
          | (.ok _, files) => { s with files }
          | (.error fault, files) =>
            { refuse (if fault = .notADirectory && s.files.has name then "File exists" else fault.cause) with files }
        else
          match s.files.namesOf (Text.dropEndWhile (· = '/') name) with
          | .error fault => refuse fault.cause
          | .ok names =>
            if (s.files.find? names).isSome then refuse "File exists"
            else
              match s.files.find? names.dropLast with
              | some .directory => { s with files := s.files.put names .directory }
              | some (.file _) => refuse "Not a directory"
              | none => refuse "No such file or directory") (s.finish 0)

/-- Take empty directories away. -/
def rmdir : Tool := fun words s =>
  ({ tool := "rmdir", flags := "pv" } : Usage).apply words s fun g =>
    if g.operands = [] then s.missing "rmdir" "operand"
    else
      g.operands.foldl (fun s name =>
        let refuse (cause : Text) : State :=
          s.fail ("rmdir: failed to remove ".toList ++ quoted name ++ ": ".toList ++ cause)
        match s.files.namesOf name with
        | .error fault => refuse fault.cause
        | .ok names =>
          match s.files.find? names with
          | some .directory =>
            if s.files.namesIn names = [] then { s with files := s.files.removeUnder names }
            else refuse "Directory not empty"
          | some (.file _) => refuse "Not a directory"
          | none => refuse "No such file or directory") (s.finish 0)

/-- The files without those under some names, but with the directory that they lie in. -/
def withoutUnder (files : FileTree) (names : List Text) : FileTree :=
  let left := files.removeUnder names
  if (left.find? names.dropLast).isSome then left else left.put names.dropLast .directory

/-- Take files away. -/
def rm : Tool := fun words s =>
  let usage : Usage := { tool := "rm", flags := "rRfdiv", long := [("recursive", 'r'), ("force", 'f')] }
  usage.apply words s fun g =>
    if g.operands = [] && !g.has 'f' then s.missing "rm" "operand"
    else
      g.operands.foldl (fun s name =>
        match s.files.namesOf name with
        | .error fault =>
          if g.has 'f' && fault = .notFound then s else s.fail (couldNot "rm" "remove" name fault)
        | .ok names =>
          match s.files.find? names with
          | none => if g.has 'f' then s else s.fail (couldNot "rm" "remove" name .notFound)
          | some (.file _) => { s with files := withoutUnder s.files names }
          | some .directory =>
            if g.has 'r' || g.has 'R' then { s with files := withoutUnder s.files names }
            else s.fail (couldNot "rm" "remove" name .isADirectory)) (s.finish 0)

/-- Make files that are not there. -/
def touch : Tool := fun words s =>
  ({ tool := "touch", flags := "acm", valued := "dtr" } : Usage).apply words s fun g =>
    if g.operands = [] then s.missing "touch" "file operand"
    else
      g.operands.foldl (fun s name =>
        if s.files.has name || g.has 'c' then s
        else
          match s.store name (.text []) with
          | .ok files => { s with files }
          | .error fault => s.fail (couldNot "touch" "touch" name fault)) (s.finish 0)

/-- The path that a file has after it was put into a place, which may be a directory. -/
def targetPath (files : FileTree) (source target : Text) : Text :=
  if files.isDirectory target then Path.join target ((Path.fileName? source).getD []) else target

/-- What lies under some names, put under others. -/
def copyUnder (files : FileTree) (names target : List Text) : FileTree :=
  (files.entries.filter fun e => names.isPrefixOf e.1).foldl
    (fun files e => files.put (target ++ e.1.drop names.length) e.2) (files.put target .directory)

/-- Copy files, or with `moves` give them other names. -/
def transfer (tool : String) (moves : Bool) : Tool := fun words s =>
  let usage : Usage := { tool := tool.toList, flags := "rRafinpv", long := [("recursive", 'r'), ("force", 'f')] }
  usage.apply words s fun g =>
    match g.operands.reverse with
    | [] => s.missing tool "file operand"
    | [only] =>
      ((s.complain (tool.toList ++ ": missing destination file operand after ".toList ++ quoted only)).complain
        ("Try '".toList ++ tool.toList ++ " --help' for more information.".toList)).finish 1
    | target :: sources =>
      if 1 < sources.length && !s.files.isDirectory target then
        s.fail (tool.toList ++ ": target ".toList ++ quoted target ++ " is not a directory".toList)
      else
        sources.reverse.foldl (fun s source =>
          match s.files.at? source, s.files.namesOf source with
          | .error fault, _ => s.fail (couldNot tool "stat" source fault)
          | _, .error fault => s.fail (couldNot tool "stat" source fault)
          | .ok entry, .ok names =>
            let path := targetPath s.files source target
            match s.files.namesOf path, entry with
            | .error fault, _ =>
              s.fail (couldNot tool (if moves then "move" else "create regular file") path fault)
            | .ok place, .file content =>
              if place = names then
                s.fail (tool.toList ++ ": ".toList ++ quoted source ++ " and '".toList ++ path ++
                  "' are the same file".toList)
              else
                match s.store path content with
                | .error fault => s.fail (couldNot tool "create regular file" path fault)
                | .ok files => { s with files := if moves then withoutUnder files names else files }
            | .ok place, .directory =>
              if moves then { s with files := withoutUnder (copyUnder s.files names place) names }
              else if g.has 'r' || g.has 'R' || g.has 'a' then
                { s with files := copyUnder s.files names place }
              else s.fail (tool.toList ++ ": -r not specified; omitting directory ".toList ++ quoted source))
          (s.finish 0)

/-- Copy files. -/
def cp : Tool := transfer "cp" false

/-- Give files other names. -/
def mv : Tool := transfer "mv" true

/-- Let a file have another name too. -/
def ln : Tool := fun words s =>
  ({ tool := "ln", flags := "sfnv" } : Usage).apply words s fun g =>
    let source := g.operands.headD []
    let path := targetPath s.files source ((g.operands.drop 1).headD ['.'])
    if g.operands = [] then s.missing "ln" "file operand"
    else if s.files.has path && !g.has 'f' then
      s.fail ("ln: failed to create ".toList ++ (if g.has 's' then "symbolic" else "hard").toList ++
        " link ".toList ++ quoted path ++ ": File exists".toList)
    else
      match s.files.at? source with
      | .ok (.file content) =>
        match s.store path content with
        | .ok files => { s with files }.finish 0
        | .error fault => s.fail (couldNot "ln" "create link" path fault)
      | .ok .directory => s.finish 0
      | .error fault =>
        if g.has 's' then s.finish 0
        else s.fail ("ln: failed to access ".toList ++ quoted source ++ ": ".toList ++ fault.cause)

/-- Change what may be done with files, which here is always everything. -/
def chmod : Tool := fun words s =>
  match words.filter (fun w => w ≠ "-R".toList) with
  | [] => s.missing "chmod" "operand"
  | [mode] =>
    ((s.complain ("chmod: missing operand after ".toList ++ quoted mode)).complain
      "Try 'chmod --help' for more information.").finish 1
  | _ :: names =>
    names.foldl (fun s name =>
      match s.files.at? name with
      | .ok _ => s
      | .error fault => s.fail (couldNot "chmod" "access" name fault)) (s.finish 0)

/-- What `find` looks for. -/
structure Wanted where
  name : Option Glob := none
  directories : Option Bool := none
  depth : Option Nat := none

/-- Whether a file of a name is wanted. -/
def Wanted.accepts (w : Wanted) (name : Text) (isDirectory : Bool) : Bool :=
  w.name.all (·.isMatch name) && w.directories.all (· == isDirectory)

/-- The paths of what is wanted at a path and under it. The first argument bounds the depth. -/
def findUnder : Nat → (files : FileTree) → Wanted → (depth : Nat) → (path : Text) → List Text
  | 0, _, _, _, _ => []
  | n + 1, files, w, depth, path =>
    let isDirectory := files.isDirectory path
    let name := (Path.fileName? path).getD path
    let own := if w.accepts name isDirectory then [path] else []
    if isDirectory && w.depth.all (depth < ·) then
      let names := files.namesIn ((files.namesOf path).toOption.getD [])
      let front := if path.getLast? = some '/' then path else path ++ ['/']
      own ++ names.flatMap fun name => findUnder n files w (depth + 1) (front ++ name)
    else own

/-- Show the paths of files. -/
def find : Tool := fun words s =>
  let rec wanted : List Text → Wanted → Except Text Wanted
    | [], w => .ok w
    | option :: rest, w =>
      match String.ofList option, rest with
      | "-print", rest => wanted rest w
      | "-name", t :: rest => wanted rest { w with name := some (Glob.ofMarked (t.map (·, false))) }
      | "-type", t :: rest => wanted rest { w with directories := some (t == ['d']) }
      | "-maxdepth", t :: rest => wanted rest { w with depth := natOf? t }
      | "-name", [] | "-type", [] | "-maxdepth", [] => .error ("missing argument to `" ++ option ++ ['\''])
      | _, _ => .error ("unknown predicate `" ++ option ++ ['\''])
  let places := words.takeWhile fun word => word.head? != some '-'
  match wanted (words.drop places.length) {} with
  | .error complaint => s.fail ("find: ".toList ++ complaint)
  | .ok w =>
    (if places = [] then [['.']] else places).foldl (fun s place =>
      match s.files.at? place with
      | .ok _ => s.emit (ofBodies (findUnder 4096 s.files w 0 place))
      | .error fault => s.fail ("find: ".toList ++ quoted place ++ ": ".toList ++ fault.cause)) (s.finish 0)

/-- Write a line again and again, as often as anyone may want to read it. -/
def yes : Tool := fun words s =>
  let line := (if words = [] then ['y'] else Text.join [' '] words) ++ ['\n']
  (s.emit (List.replicate 20000 line).flatten).finish 0

/-- Show the last name of a path, without an ending. -/
def basename : Tool := fun words s =>
  let usage : Usage := { tool := "basename", flags := "az", valued := "s", long := [("multiple", 'a'), ("suffix", 's')] }
  usage.apply words s fun g =>
    let name (path ending : Text) : Text :=
      let trimmed := Text.dropEndWhile (· = '/') path
      let name := if trimmed = [] && path ≠ [] then ['/'] else (trimmed.reverse.takeWhile (· ≠ '/')).reverse
      match Text.dropEnding? name ending with
      | some [] | none => name
      | some front => front
    if g.operands = [] then s.missing "basename" "operand"
    else if g.has 'a' || g.has 's' then
      (s.emit (ofBodies (g.operands.map fun path => name path ((g.value? 's').getD [])))).finish 0
    else
      match g.operands with
      | _ :: _ :: extra :: _ =>
        ((s.complain ("basename: extra operand ".toList ++ quoted extra)).complain
          "Try 'basename --help' for more information.").finish 1
      | operands => (s.emit (name (operands.headD []) ((operands.drop 1).headD []) ++ ['\n'])).finish 0

/-- Show a path without its last name. -/
def dirname : Tool := fun words s =>
  match words with
  | [] => s.missing "dirname" "operand"
  | paths =>
    let front (path : Text) : Text :=
      let trimmed := Text.dropEndWhile (· = '/') path
      let front := Text.dropEndWhile (· = '/') (Text.dropEndWhile (· ≠ '/') trimmed)
      if front ≠ [] then front else if path.head? == some '/' then ['/'] else ['.']
    (s.emit (ofBodies (paths.map front))).finish 0

/-- The one path of a file that is there, or could be made in a directory that is. -/
def realPath? (files : FileTree) (path : Text) : Except FileFault Text := do
  let names ← files.namesOf path
  match files.find? names.dropLast with
  | some .directory => return Path.ofNames names
  | some (.file _) => throw .notADirectory
  | none => throw .notFound

/-- Show the one path of files. -/
def realpath : Tool := fun words s =>
  ({ tool := "realpath", flags := "ems" } : Usage).apply words s fun g =>
    if g.operands = [] then s.missing "realpath" "operand"
    else
      g.operands.foldl (fun s path =>
        match if g.has 'e' then (s.files.at? path).map fun _ => s.files.canonical path else realPath? s.files path with
        | .ok path => s.emit (path ++ ['\n'])
        | .error fault => s.fail ("realpath: ".toList ++ quotedIfNeeded path ++ ": ".toList ++ fault.cause)) (s.finish 0)

/-- Show what links lead to. There are none, but every file leads to itself. -/
def readlink : Tool := fun words s =>
  ({ tool := "readlink", flags := "femn" } : Usage).apply words s fun g =>
    if g.operands = [] then s.missing "readlink" "operand"
    else
      g.operands.foldl (fun s path =>
        match if g.has 'f' || g.has 'm' then realPath? s.files path
            else if g.has 'e' then (s.files.at? path).map fun _ => s.files.canonical path else .error .notFound with
        | .ok path => s.emit (if g.has 'n' then path else path ++ ['\n'])
        | .error _ => s.finish 1) (s.finish 0)

/-- What a format for a file stands for. -/
def statText (name : Text) (entry : Entry) : Text → Text
  | '%' :: c :: t =>
    (match c, entry with
      | 'n', _ => name
      | 's', .file (.text t) => Text.ofNat t.length
      | 'F', .file (.text []) => "regular empty file".toList
      | 'F', .file _ => "regular file".toList
      | 'F', .directory => "directory".toList
      | 'U', _ | 'G', _ => "root".toList
      | 'u', _ | 'g', _ => ['0']
      | '%', _ => ['%']
      | c, _ => ['%', c]) ++ statText name entry t
  | c :: t => c :: statText name entry t
  | [] => []

/-- Show what is known of files in a format. -/
def stat : Tool := fun words s =>
  ({ tool := "stat", flags := "L", valued := "c", long := [("format", 'c')] } : Usage).apply words s fun g =>
    if g.operands = [] then s.missing "stat" "operand"
    else
      g.operands.foldl (fun s name =>
        match s.files.at? name with
        | .ok entry => s.emit (statText name entry ((g.value? 'c').getD []) ++ ['\n'])
        | .error fault => s.fail (couldNot "stat" "statx" name fault)) (s.finish 0)

/-- Show who runs the shell. -/
def id : Tool := fun words s =>
  ({ tool := "id", flags := "ugGnr" } : Usage).apply words s fun g =>
    let one := g.has 'u' || g.has 'g' || g.has 'G'
    (s.emit ((if !one then "uid=0(root) gid=0(root) groups=0(root)" else if g.has 'n' then "root" else "0" : String).toList
      ++ ['\n'])).finish 0

/-- Show the variables that programs see. -/
def printenv : Tool := fun words s =>
  if words = [] then
    (s.emit (ofBodies (s.environment.map fun (name, value) => name ++ '=' :: value))).finish 0
  else
    let found := words.filterMap fun name => s.environment.lookup name
    (s.emit (ofBodies found)).finish (if found.length = words.length then 0 else 1)

end Shell
end ExEditor
