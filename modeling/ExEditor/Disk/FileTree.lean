import ExEditor.Disk.Path
import ExEditor.Text.Decoding

/-! The files that a session can reach, and the reasons why one cannot be read or written. -/
namespace ExEditor

/-- What a file holds: text, or bytes that are no text. -/
inductive Content
  | text (t : Text)
  | bytes (bs : List UInt8)
  deriving DecidableEq, Repr

namespace Content

/-- Content from its bytes: text if they are UTF-8. -/
def ofBytes (bytes : ByteArray) : Content :=
  match String.fromUTF8? bytes with
  | some t => text t
  | none => Content.bytes bytes.toList

/-- The bytes of content. -/
def toBytes : Content → ByteArray
  | text t => (String.ofList t).toUTF8
  | bytes bs => ⟨bs.toArray⟩

/-- Content with one character for each byte. -/
def spread : Content → Content
  | text t => text t.spread
  | bytes bs => text (bs.map fun byte => Char.ofNat byte.toNat)

/-- The content whose bytes the characters stand for. -/
def gather : Content → Content
  | text t => ofBytes ⟨t.gathered.toArray⟩
  | bytes bs => Content.bytes bs

end Content

/-- What a name in a directory stands for. -/
inductive Entry
  | directory
  | file (content : Content)
  deriving DecidableEq, Repr

/-- The entry with another content in a file. -/
def Entry.map (f : Content → Content) : Entry → Entry
  | directory => directory
  | file content => file (f content)

/-- Why a file could not be used. -/
inductive FileFault
  | notFound
  | notADirectory
  | isADirectory
  | nameTooLong
  | nulInName
  | notText
  deriving DecidableEq, Repr

/-- The reason in words. -/
def FileFault.cause : FileFault → Text
  | notFound => "No such file or directory"
  | notADirectory => "Not a directory"
  | isADirectory => "Is a directory"
  | nameTooLong => "File name too long"
  | nulInName => "file name contained an unexpected NUL byte"
  | notText => "stream did not contain valid UTF-8"

/-- The number that the system has for the reason. -/
def FileFault.number? : FileFault → Option Nat
  | notFound => some 2
  | notADirectory => some 20
  | isADirectory => some 21
  | nameTooLong => some 36
  | nulInName | notText => none

/-- The reason as shown. -/
def FileFault.reason (fault : FileFault) : Text :=
  match fault.number? with
  | some n => fault.cause ++ " (os error ".toList ++ Text.ofNat n ++ [')']
  | none => fault.cause

/-- Directories and files by the names on the way from the root. A directory need not be listed if
something inside it is. -/
structure FileTree where
  /-- Directory that relative paths start from. -/
  workDir : Text := ['/']
  entries : List (List Text × Entry) := []
  deriving DecidableEq, Repr

namespace FileTree

/-- What is found under a list of names. -/
def find? (tree : FileTree) (names : List Text) : Option Entry :=
  match tree.entries.lookup names with
  | some entry => some entry
  | none =>
    if names = [] || tree.entries.any (fun e => names.isPrefixOf e.1) then some .directory else none

/-- Number of bytes in the longest name. -/
def nameLimit : Nat := 255

/-- Number of bytes in the longest path. -/
def pathLimit : Nat := 4095

/-- Follow the pieces of a path from a directory. A piece that is empty or `.` stays where it is. -/
def walk (tree : FileTree) : List Text → List Text → Except FileFault (List Text)
  | here, [] => .ok here
  | here, piece :: rest =>
    match tree.find? here with
    | some .directory =>
      if piece = [] || piece = ['.'] then walk tree here rest
      else if piece = ['.', '.'] then walk tree here.dropLast rest
      else if piece.utf8Size > nameLimit then .error .nameTooLong
      else walk tree (here ++ [piece]) rest
    | some (.file _) => .error .notADirectory
    | none => .error .notFound

/-- What is wrong with a path, whatever there is on the disk. -/
def pathFault? (path : Text) : Option FileFault :=
  if path.contains '\x00' then some .nulInName
  else if path = [] then some .notFound
  else if path.utf8Size > pathLimit then some .nameTooLong
  else none

/-- The names on the way to a path. All but the last one are there and are directories. -/
def namesOf (tree : FileTree) (path : Text) : Except FileFault (List Text) :=
  match pathFault? path with
  | some fault => .error fault
  | none => tree.walk [] (Path.pieces (Path.join tree.workDir path))

/-- What is found at a path. -/
def at? (tree : FileTree) (path : Text) : Except FileFault Entry := do
  match tree.find? (← tree.namesOf path) with
  | some entry => return entry
  | none => throw .notFound

/-- Whether something is found at a path. -/
def has (tree : FileTree) (path : Text) : Bool := (tree.at? path).isOk

/-- Whether a path leads to a directory. -/
def isDirectory (tree : FileTree) (path : Text) : Bool :=
  match tree.at? path with
  | .ok .directory => true
  | _ => false

/-- The one absolute path of what is found at a path, and the path itself where nothing is. -/
def canonical (tree : FileTree) (path : Text) : Text :=
  match tree.namesOf path with
  | .ok names => if (tree.find? names).isSome then Path.ofNames names else path
  | .error _ => path

/-- The names in a directory, in order. -/
def namesIn (tree : FileTree) (directory : List Text) : List Text :=
  let names := tree.entries.filterMap fun (names, _) =>
    if directory.isPrefixOf names then names[directory.length]? else none
  names.eraseDups.mergeSort fun a b => !b.before a

/-- Take away all that lies under some names. -/
def removeUnder (tree : FileTree) (names : List Text) : FileTree :=
  { tree with entries := tree.entries.filter fun e => !names.isPrefixOf e.1 }

/-- The files with names and contents changed. -/
def map (tree : FileTree) (names : Text → Text) (contents : Content → Content) : FileTree :=
  { workDir := names tree.workDir
    entries := tree.entries.map fun (path, entry) => (path.map names, entry.map contents) }

/-- The text of a file. -/
def readText (tree : FileTree) (path : Text) : Except FileFault Text := do
  match ← tree.at? path with
  | .directory => throw .isADirectory
  | .file (.bytes _) => throw .notText
  | .file (.text t) => return t

/-- Put an entry in the place of what was there. -/
def put (tree : FileTree) (names : List Text) (entry : Entry) : FileTree :=
  { tree with entries := tree.entries.filter (·.1 ≠ names) ++ [(names, entry)] }

/-- Put content into a file, which is made if it is not there. Its directory must be. -/
def write (tree : FileTree) (path : Text) (content : Content) : Except FileFault FileTree := do
  let names ← tree.namesOf path
  match tree.find? names.dropLast, tree.find? names with
  | some .directory, some .directory => throw .isADirectory
  | some .directory, _ => return tree.put names (.file content)
  | some (.file _), _ => throw .notADirectory
  | none, _ => throw .notFound

/-- Make the directories on the way along the pieces of a path. Those before one that cannot be made
stay. -/
def makeAlong (tree : FileTree) (here : List Text) : List Text → Except FileFault Unit × FileTree
  | [] => (.ok (), tree)
  | piece :: rest =>
    if piece = [] || piece = ['.'] then makeAlong tree here rest
    else if piece = ['.', '.'] then makeAlong tree here.dropLast rest
    else if piece.utf8Size > nameLimit then (.error .nameTooLong, tree)
    else
      match tree.find? (here ++ [piece]) with
      | some .directory => makeAlong tree (here ++ [piece]) rest
      | some (.file _) => (.error .notADirectory, tree)
      | none => makeAlong (tree.put (here ++ [piece]) .directory) (here ++ [piece]) rest

/-- Make a directory and those it lies in. -/
def makeDirectories (tree : FileTree) (path : Text) : Except FileFault Unit × FileTree :=
  match pathFault? path with
  | some fault => (.error fault, tree)
  | none => makeAlong tree [] (Path.pieces (Path.join tree.workDir path))

/-- Move a file, in place of a file that has the new path. -/
def rename (tree : FileTree) (path newPath : Text) : Except FileFault FileTree := do
  let names ← tree.namesOf path
  match tree.find? names with
  | some (.file content) =>
    let moved := { tree with entries := tree.entries.filter (·.1 ≠ names) }
    moved.write newPath content
  | some .directory => throw .isADirectory
  | none => throw .notFound

end FileTree
end ExEditor
