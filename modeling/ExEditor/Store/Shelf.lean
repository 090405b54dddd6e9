import ExEditor.Disk.FileTree
import ExEditor.Store.Document

/-! A store with the file that it is kept in. Once the file has been loaded every change is written
to it at once; before that it is left alone, so that a file that cannot be read is not lost. -/
namespace ExEditor

/-- Why a store could not be loaded or saved. -/
inductive StoreFault
  | unreadable (path : Text)
  | malformed (path : Text)
  | noDirectory (path : Text)
  | unwritable (path : Text)
  deriving DecidableEq, Repr

/-- The reason as shown. -/
def StoreFault.message : StoreFault → Text
  | unreadable path => "failed to read " ++ path
  | malformed path => "failed to parse " ++ path
  | noDirectory path => "failed to create " ++ path
  | unwritable path => "failed to write " ++ path

/-- A store and the disk that its file is on. A store without a path is kept in memory alone. -/
structure Shelf where
  path : Option Text := none
  loaded : Bool := false
  store : Store := {}
  files : FileTree := {}
  deriving DecidableEq, Repr

namespace Shelf

/-- Add what the file holds to the store. A file that is missing holds nothing. -/
def load (s : Shelf) : Except StoreFault Shelf :=
  match s.path with
  | none => .ok { s with loaded := true }
  | some path =>
    if s.files.has path then
      match s.files.readText path with
      | .error _ => .error (.unreadable path)
      | .ok t =>
        match Store.readNodes? t with
        | none => .error (.malformed path)
        | some nodes => .ok { s with store := nodes.foldl Store.absorb s.store, loaded := true }
    else .ok { s with loaded := true }

/-- Write the document, with the directory it lies in, if the file has been loaded. -/
def save (s : Shelf) : Except StoreFault Unit × Shelf :=
  match s.path with
  | none => (.ok (), s)
  | some path =>
    if !s.loaded then (.ok (), s)
    else
      let parent := (Path.parent? path).getD []
      let (made, files) :=
        if parent = [] then (.ok (), s.files) else s.files.makeDirectories parent
      match made, files.write path (.text s.store.toText) with
      | .error _, _ => (.error (.noDirectory parent), { s with files })
      | .ok _, .error _ => (.error (.unwritable path), { s with files })
      | .ok _, .ok files => (.ok (), { s with files })

/-- Change the store and write it. A change stays in memory if it cannot be written. -/
def update (s : Shelf) (store : Store) : Shelf := { s with store }.save.2

/-- Change the store if there is something to change, and say whether there was. -/
def update? (s : Shelf) : Option Store → Shelf × Bool
  | some store => (s.update store, true)
  | none => (s, false)

/-- Give a macro its commands. -/
def setMacro (s : Shelf) (name : Text) (commands : List Text) : Shelf :=
  s.update (s.store.setMacro name commands)

/-- Add a command to a macro. -/
def appendMacro (s : Shelf) (name command : Text) : Shelf := s.update (s.store.appendMacro name command)

/-- Remove a macro, and say whether it was there. -/
def removeMacro (s : Shelf) (name : Text) : Shelf × Bool := s.update? (s.store.removeMacro? name)

/-- Keep a variable. -/
def setVariable (s : Shelf) (v : Variable) : Shelf := s.update (s.store.setVariable v)

end Shelf
end ExEditor
