import ExEditor.Store.Shelf

/-! Registers: slots of text named by one character. Letters, digits and the dot are kept in the
store, as macros of one character; the clipboard is kept here. -/
namespace ExEditor

/-- A register as named in a command. -/
inductive RegisterName
  /-- `a` to `z`. -/
  | named (letter : Char)
  /-- `A` to `Z`: what is written is added to the register of the small letter. -/
  | append (letter : Char)
  /-- `1` to `9`: what was deleted, latest first. -/
  | numbered (n : Nat)
  /-- `0`: what was yanked last. -/
  | yank
  /-- `.`: what was inserted last. -/
  | lastInsert
  /-- `"` or `*`. -/
  | clipboard
  /-- `_`: always empty. -/
  | blackHole
  deriving DecidableEq, Repr

namespace RegisterName

/-- The register of a name. -/
def ofChar? (c : Char) : Option RegisterName :=
  if 'a' ≤ c ∧ c ≤ 'z' then some (named c)
  else if 'A' ≤ c ∧ c ≤ 'Z' then some (append c.toLower)
  else if c = '0' then some yank
  else if '1' ≤ c ∧ c ≤ '9' then some (numbered (c.toNat - '0'.toNat))
  else if c = '.' then some lastInsert
  else if c = '"' ∨ c = '*' then some clipboard
  else if c = '_' then some blackHole
  else none

/-- Name of the macro that a register is kept in, if it is kept. -/
def slot? : RegisterName → Option Text
  | named c => some [c]
  | append c => some [c]
  | numbered n => some (Text.ofNat n)
  | yank => some ['0']
  | lastInsert => some ['.']
  | clipboard => none
  | blackHole => none

end RegisterName

/-- The registers: the clipboard, and the shelf that keeps the others. -/
structure Registers where
  clipboard : Text := []
  shelf : Shelf := {}

namespace Registers

/-- Text of a register. -/
def get (r : Registers) (name : RegisterName) : Text :=
  match name.slot? with
  | some slot => ((r.shelf.store.commands? slot).getD []).flatten
  | none => if name = .clipboard then r.clipboard else []

/-- Write to a register. -/
def set (r : Registers) (name : RegisterName) (t : Text) : Registers :=
  match name with
  | .clipboard => { r with clipboard := t }
  | .blackHole => r
  | .append c => { r with shelf := r.shelf.appendMacro [c] t }
  | name => { r with shelf := r.shelf.setMacro (name.slot?.getD []) [t] }

/-- Keep yanked text in the register that is given, or else in `0` and the clipboard. -/
def yank (r : Registers) (name : Option RegisterName) (t : Text) : Registers :=
  match name with
  | some name => r.set name t
  | none => { r.set .yank t with clipboard := t }

/-- Move what a numbered register holds to the next one. -/
def shiftFrom (shelf : Shelf) (n : Nat) : Shelf :=
  match shelf.store.commands? (Text.ofNat n) with
  | some fragments => shelf.setMacro (Text.ofNat (n + 1)) fragments
  | none => (shelf.removeMacro (Text.ofNat (n + 1))).1

/-- Keep deleted text in the register that is given, or else in `1` and the clipboard, after the
numbered registers have moved up by one. -/
def delete (r : Registers) (name : Option RegisterName) (t : Text) : Registers :=
  match name with
  | some name => r.set name t
  | none =>
    let shelf := [8, 7, 6, 5, 4, 3, 2, 1].foldl shiftFrom r.shelf
    { Registers.set { r with shelf } (.numbered 1) t with clipboard := t }

/-- Keep inserted text. -/
def inserted (r : Registers) (t : Text) : Registers := r.set .lastInsert t

/-- The registers that are listed, in order. -/
def listed : List Char := "\"0123456789abcdefghijklmnopqrstuvwxyz.".toList

/-- The registers that hold text. -/
def listing (r : Registers) : List (Char × Text) :=
  listed.filterMap fun c => do
    let t := r.get (← RegisterName.ofChar? c)
    if t = [] then none else some (c, t)

end Registers
end ExEditor
