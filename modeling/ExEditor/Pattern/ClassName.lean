import ExEditor.Text.Basic
import ExEditor.Unicode.Age
import ExEditor.Unicode.Segmentation

/-! Names of character classes, as they follow `\p` in a pattern. -/
namespace ExEditor
namespace Pattern

open Unicode (Ranges)

/-- A name without its first two letters, if these are `is` in capitals or not. -/
def dropIs? : Text → Option Text
  | a :: b :: rest => if a.toLower = 'i' ∧ b.toLower = 's' then some rest else none
  | _ => none

/-- The letters of a name that count. -/
def significant (name : Text) : Text :=
  (name.filter fun c => c.toNat < 0x80 && c ≠ ' ' && c ≠ '_' && c ≠ '-').map Char.toLower

/-- A name as it is looked up: case, blanks, hyphens, underscores and an `is` in front do not count. A
name of which only a `c` would be left keeps its `is`. -/
def lookupName (name : Text) : String :=
  match dropIs? name with
  | some rest => if significant rest = ['c'] then "isc" else String.ofList (significant rest)
  | none => String.ofList (significant name)

/-- The characters of a general category, or of a class that is written like one. -/
def categoryClass? (name : String) : Option Ranges :=
  match name with
  | "any" => some [(0, Ranges.top)]
  | "ascii" => some [(0, 0x7F)]
  | "assigned" => (Unicode.category? "cn").map Ranges.compl
  | name => Unicode.category? name

/-- The class of a name that stands alone. Names of properties come first, but `cf`, `sc` and `lc` are
categories. -/
def classNamed? (name : String) : Option Ranges :=
  let property := if ["cf", "sc", "lc"].contains name then none else Unicode.property? name
  property.orElse fun _ => (categoryClass? name).orElse fun _ => Unicode.script? name

/-- The class of the characters for which a property has a value. -/
def classWith? (property value : String) : Option Ranges :=
  match property with
  | "gc" | "generalcategory" => categoryClass? value
  | "sc" | "script" => Unicode.script? value
  | "scx" | "scriptextensions" => Unicode.scriptExtension? value
  | "age" => Unicode.assignedBy? value
  | "gcb" | "graphemeclusterbreak" => Unicode.graphemePart? value
  | "wb" | "wordbreak" => Unicode.wordPart? value
  | "sb" | "sentencebreak" => Unicode.sentencePart? value
  | _ => none

/-- What stands before and after the first `!=`. -/
def splitUnequal? : Text → Option (Text × Text)
  | '!' :: '=' :: t => some ([], t)
  | c :: t => (splitUnequal? t).map fun (l, r) => (c :: l, r)
  | [] => none

/-- The class that is written in braces, and whether it is the complement that is meant: a name, or a
property with one of the signs `!=`, `:` and `=` and a value. -/
def writtenClass? (written : Text) : Option (Bool × Ranges) :=
  let value (key value : Text) := classWith? (lookupName key) (lookupName value)
  match splitUnequal? written with
  | some (key, v) => (value key v).map (true, ·)
  | none =>
    match (Text.splitFirst? (· = ':') written).orElse fun _ => Text.splitFirst? (· = '=') written with
    | some (key, v) => (value key v).map (false, ·)
    | none => (classNamed? (lookupName written)).map (false, ·)

end Pattern
end ExEditor
