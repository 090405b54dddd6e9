import ExEditor.Shell.Expression.Reader
import ExEditor.Shell.Tool.Options

/-! Looking for regular expressions in the lines of texts. -/
namespace ExEditor
namespace Shell

/-- What is looked for, from an expression as written. -/
def finderOf (form : ExpressionForm) (ignoreCase : Bool) (t : Text) : Except ExpressionFault Finder :=
  (Expression.read form t).map fun expression => { expression, ignoreCase }

/-- How lines that have been found are shown. -/
structure Display where
  /-- The name in front of each line, if there is one. -/
  name : Option Text := none
  numbers : Bool := false
  partsOnly : Bool := false
  /-- How many lines before and behind are shown. -/
  before : Nat := 0
  after : Nat := 0

/-- What stands in front of a line; `sign` follows the name and the number. -/
def Display.label (d : Display) (sign : Char) (index : Nat) : Text :=
  (d.name.elim [] fun name => name ++ [sign]) ++
    if d.numbers then Text.ofNat (index + 1) ++ [sign] else []

/-- Whether a line is near to one that was chosen. -/
def Display.isNear (d : Display) (chosen : List Nat) (index : Nat) : Bool :=
  chosen.any fun i => i ≤ index + d.before && index ≤ i + d.after

/-- Lines with those around them. A line of hyphens stands where some are left out; `last` is the number
of the line shown last. -/
def Display.withContext (d : Display) (m : Finder) (chosen : List Nat) (last : Option Nat) :
    List (Text × Nat) → Text
  | [] => []
  | (line, i) :: rest =>
    if chosen.contains i || d.isNear chosen i then
      let gap : Text := match last with
        | some j => if i = j + 1 then [] else ['-', '-', '\n']
        | none => []
      let body : Text :=
        if !chosen.contains i then if d.partsOnly then [] else d.label '-' i ++ line ++ ['\n']
        else if d.partsOnly then
          ((m.findAll line).filter fun found => found.start < found.stop).flatMap fun found =>
            d.label ':' i ++ found.textIn line ++ ['\n']
        else d.label ':' i ++ line ++ ['\n']
      gap ++ body ++ d.withContext m chosen (some i) rest
    else d.withContext m chosen last rest

/-- Lines that were chosen. -/
def Display.shown (d : Display) (m : Finder) (chosen : List (Text × Nat)) (lines : List (Text × Nat)) : Text :=
  if d.before = 0 && d.after = 0 then
    chosen.flatMap fun (line, i) =>
      if d.partsOnly then
        ((m.findAll line).filter fun found => found.start < found.stop).flatMap fun found =>
          d.label ':' i ++ found.textIn line ++ ['\n']
      else d.label ':' i ++ line ++ ['\n']
  else d.withContext m (chosen.map (·.2)) none lines

/-- The name of a text in a list of names. -/
def listedName (name : Text) : Text := if name = ['-'] then "(standard input)" else name

/-- The files under a path. The first argument bounds the depth. -/
def filesUnder : Nat → FileTree → (path : Text) → List Text
  | 0, _, _ => []
  | n + 1, files, path =>
    if files.isDirectory path then
      let front : Text := if path.getLast? = some '/' then path else path ++ ['/']
      (files.namesIn ((files.namesOf path).toOption.getD [])).flatMap fun name => filesUnder n files (front ++ name)
    else [path]

/-- What `grep` looks for: the lines of each pattern, in one of its forms. -/
def grepFinder (extended literal : Bool) (g : Given) (patterns : List Text) : Except ExpressionFault Finder := do
  let form : ExpressionForm := { extended }
  let read ← (patterns.flatMap fun t => t.splitOn '\n').mapM fun t =>
    if literal then .ok (Expression.literal t) else Expression.read form t
  let whole : Expression := match read with
    | [] => .empty
    | first :: others => others.foldl .either first
  let bordered (a b : Border) : Expression := .sequence (.border a) (.sequence whole (.border b))
  let expression :=
    if g.has 'x' then bordered .textStart .textEnd
    else if g.has 'w' then bordered .afterGap .beforeGap
    else whole
  return { expression, ignoreCase := g.has 'i' || g.has 'y' }

/-- Show the lines in which patterns are found. -/
def grepWith (extended literal : Bool) : Tool := fun words s =>
  let usage : Usage := { tool := "grep", flags := "vincoqlwxhHEFGsLarRyzbU", valued := "emABCf", misuse := 2, long :=
    [("invert-match", 'v'), ("ignore-case", 'i'), ("line-number", 'n'), ("count", 'c'),
      ("only-matching", 'o'), ("quiet", 'q'), ("silent", 'q'), ("files-with-matches", 'l'),
      ("files-without-match", 'L'), ("word-regexp", 'w'), ("line-regexp", 'x'), ("no-filename", 'h'),
      ("with-filename", 'H'), ("extended-regexp", 'E'), ("basic-regexp", 'G'), ("fixed-strings", 'F'),
      ("regexp", 'e'), ("no-messages", 's'), ("max-count", 'm'), ("after-context", 'A'), ("before-context", 'B'),
      ("context", 'C'), ("recursive", 'r'), ("text", 'a'), ("color", 'U'), ("colour", 'U')] }
  let misused (s : State) : State :=
    ((s.complain "Usage: grep [OPTION]... PATTERNS [FILE]...").complain
      "Try 'grep --help' for more information.").finish 2
  match usage.read (words.map spellContext) with
  | .error complaint => misused (s.complain ("grep: ".toList ++ complaint))
  | .ok g =>
    let given := ((g.options.filter (·.1 = 'e')).map (·.2))
    let (patterns, names) := if given = [] then (g.operands.take 1, g.operands.drop 1) else (given, g.operands)
    if patterns = [] then misused s
    else
      match grepFinder (extended || g.has 'E') (literal || g.has 'F') g patterns with
      | .error fault => (s.complain ("grep: ".toList ++ fault.message)).finish 2
      | .ok m =>
        let deep := g.has 'r' || g.has 'R'
        let targets :=
          if names = [] then
            if deep then (filesUnder 4096 s.files ['.']).map fun path => path.drop 2 else [['-']]
          else if deep then names.flatMap fun name => filesUnder 4096 s.files name
          else names
        let targets := if g.has 'q' then upToMatch m (g.has 'v') s targets else targets
        let (found, after) := State.sourcesOf
          (fun file fault => "grep: ".toList ++ file ++ ": ".toList ++ fault.cause) targets
          ((if g.has 's' then s.openStream 2 .nothing else s).finish 0)
        let failed := after.status ≠ 0
        let s := { after with places := s.places }
        let named := g.has 'H' || ((1 < targets.length || deep) && !g.has 'h')
        let number (letter : Char) : Nat :=
          (((g.value? letter).or (g.value? 'C')).bind natOf?).getD 0
        let limit := (g.value? 'm').bind natOf?
        let display : Display := { numbers := g.has 'n', partsOnly := g.has 'o', before := number 'B', after := number 'A' }
        let (shown, any) := found.foldl (fun (shown, any) (file, t) =>
          let lines := (bodiesOf t).zipIdx
          let chosen := lines.filter fun (line, _) => m.isMatch line != g.has 'v'
          let chosen := match limit with
            | some n => chosen.take n
            | none => chosen
          let body : Text :=
            if g.has 'q' then []
            else if g.has 'L' then if chosen = [] then listedName file ++ ['\n'] else []
            else if g.has 'l' then if chosen = [] then [] else listedName file ++ ['\n']
            else if g.has 'c' then
              (if named then listedName file ++ [':'] else []) ++ Text.ofNat chosen.length ++ ['\n']
            else { display with name := if named then some (listedName file) else none }.shown m chosen lines
          let gap : Text :=
            if shown ≠ [] && body ≠ [] && (display.before ≠ 0 || display.after ≠ 0) && !g.has 'c' && !g.has 'l' &&
              !g.has 'L' then ['-', '-', '\n'] else []
          (shown ++ gap ++ body, any || if g.has 'L' then chosen = [] else chosen ≠ [])) (([] : Text), false)
        (s.emit shown).finish (if any && g.has 'q' then 0 else if failed then 2 else if any then 0 else 1)
where
  /-- The texts up to the first in which a line is chosen. -/
  upToMatch (m : Finder) (inverted : Bool) (s : State) : List Text → List Text
    | [] => []
    | name :: names =>
      match s.source name with
      | (.ok t, _) =>
        if (bodiesOf t).any fun line => m.isMatch line != inverted then [name]
        else name :: upToMatch m inverted s names
      | (.error _, _) => name :: upToMatch m inverted s names
  /-- A number as an option of its own in the form of an option with a value. -/
  spellContext (word : Text) : Text :=
    match word with
    | '-' :: c :: t => if Text.isNumeral (c :: t) then '-' :: 'C' :: c :: t else word
    | word => word

/-- Show the lines that match a basic expression. -/
def grep : Tool := grepWith false false

/-- Show the lines that match an extended expression. -/
def egrep : Tool := grepWith true false

/-- Show the lines that hold a text. -/
def fgrep : Tool := grepWith false true

end Shell
end ExEditor
