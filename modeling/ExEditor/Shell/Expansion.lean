import ExEditor.Shell.Glob
import ExEditor.Shell.State

/-! What becomes of a word once its parameters, commands and expressions have been filled in: it is cut
into fields, and fields that are patterns become the names of the files that they match. -/
namespace ExEditor
namespace Shell

/-- A word that has been filled in, character by character. -/
inductive Mark
  /-- A character that is quoted or not; one that has been filled in may split the word. -/
  | char (c : Char) (isQuoted splits : Bool)
  /-- Quotes, which make a field even if nothing stands between them. -/
  | quotes
  /-- A place where the word is cut whatever stands there. -/
  | cut
  deriving DecidableEq, Repr

/-- Marks of a text as it is written. -/
def Mark.ofLiteral (t : Text) : List Mark := t.map (.char · false false)

/-- Marks of a text in quotes. -/
def Mark.ofQuoted (t : Text) : List Mark := .quotes :: t.map (.char · true false)

/-- Marks of a text that has been filled in. -/
def Mark.ofValue (inQuotes : Bool) (t : Text) : List Mark :=
  if inQuotes then ofQuoted t else t.map (.char · false true)

/-- Marks of parameters that stay apart. -/
def Mark.ofParameters (inQuotes : Bool) : List Text → List Mark
  | [] => []
  | [t] => ofValue inQuotes t
  | t :: rest => ofValue inQuotes t ++ .cut :: ofParameters inQuotes rest

/-- The text of marks that are not cut. -/
def Mark.text (marks : List Mark) : Text :=
  marks.filterMap fun
    | .char c _ _ => some c
    | .quotes => none
    | .cut => some ' '

/-- The characters of marks that are not cut, each with whether it is quoted. -/
def Mark.marked (marks : List Mark) : Marked :=
  marks.filterMap fun
    | .char c isQuoted _ => some (c, isQuoted)
    | _ => none

/-- Whether a separator counts as white space. -/
def isSoft (c : Char) : Bool := c = ' ' || c = '\t' || c = '\n'

/-- The fields of marks. `field` is the present field if one has begun, and `soft` says whether white
space has just ended one. -/
def fieldsFrom (separators : Text) (field : Option Marked) (soft : Bool) : List Mark → List Marked
  | [] => field.toList
  | .quotes :: marks => fieldsFrom separators (some (field.getD [])) false marks
  | .cut :: marks => field.toList ++ fieldsFrom separators none false marks
  | .char c isQuoted splits :: marks =>
    if splits && separators.contains c then
      if isSoft c then field.toList ++ fieldsFrom separators none (soft || field.isSome) marks
      else
        (if soft && field.isNone then [] else [field.getD []]) ++ fieldsFrom separators none false marks
    else fieldsFrom separators (some (field.getD [] ++ [(c, isQuoted)])) false marks

/-- The fields of marks. -/
def fields (separators : Text) (marks : List Mark) : List Marked := fieldsFrom separators none false marks

/-- A pattern of paths cut at its slashes. -/
def steps (m : Marked) : List Marked :=
  match m with
  | [] => [[]]
  | (c, q) :: m =>
    if c = '/' then [] :: steps m
    else
      match steps m with
      | [] => [[(c, q)]]
      | step :: rest => ((c, q) :: step) :: rest

/-- The paths that go on from `before` along the steps of a pattern. A name with a dot in front has to be
named so. -/
def follow (files : FileTree) (before : Text) : List Marked → List Text
  | [] => []
  | step :: rest =>
    let pattern := Glob.ofMarked step
    let place : Text := if before = [] then ['.'] else before
    let found : List Text :=
      if pattern.isOpen then
        match files.namesOf place with
        | .error _ => []
        | .ok names =>
          (['.'] :: ['.', '.'] :: files.namesIn names).filter fun name =>
            pattern.isMatch name && (name.head? != some '.' || pattern.head? == some (.char '.'))
      else [pattern.plain]
    match rest with
    | [] => (found.map (before ++ ·)).filter fun path => path = before || files.has path
    | rest =>
      found.flatMap fun name =>
        let path := before ++ name ++ ['/']
        if files.isDirectory path then follow files path rest else []

/-- What a field stands for: the paths that match it in ascending order, or itself. -/
def paths (files : FileTree) (field : Marked) : List Text :=
  let own := field.map (·.1)
  if (Glob.ofMarked field).isOpen then
    match follow files [] (steps field) with
    | [] => [own]
    | found => found.mergeSort fun a b => !Text.before b a
  else [own]

/-- A text without the shortest or longest beginning that matches a pattern. -/
def dropStart (longest : Bool) (pattern : Glob) (t : Text) : Text :=
  let sizes := List.range (t.length + 1)
  match (if longest then sizes.reverse else sizes).find? fun n => pattern.isMatch (t.take n) with
  | some n => t.drop n
  | none => t

/-- A text without the shortest or longest end that matches a pattern. -/
def dropEnd (longest : Bool) (pattern : Glob) (t : Text) : Text :=
  let sizes := List.range (t.length + 1)
  match (if longest then sizes else sizes.reverse).find? fun n => pattern.isMatch (t.drop n) with
  | some n => t.take n
  | none => t

/-- The separators of fields. -/
def State.separators (s : State) : Text := (s.value? "IFS".toList).getD [' ', '\t', '\n']

/-- A word with the directory of the user in place of a tilde at its front. -/
def State.tilde (s : State) : Word → Word
  | .literal ('~' :: t) :: w =>
    match s.value? "HOME".toList with
    | some home =>
      if (t = [] && w = []) || t.head? == some '/' then .quoted home :: .literal t :: w
      else .literal ('~' :: t) :: w
    | none => .literal ('~' :: t) :: w
  | w => w

end Shell
end ExEditor
