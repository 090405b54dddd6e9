import ExEditor.Address.Calculator
import ExEditor.Address.Range
import ExEditor.Frame.Find

/-! From the text of addresses to lines. An address is a search, which may start from an address and
be followed by an offset, or an expression for the calculator. -/
namespace ExEditor

/-- A matcher for a search pattern. Its `^` and `$` match at the ends of every line. -/
def searchMatcher (ignoreCase : Bool) (pattern : Text) : Except Failure Matcher :=
  match Matcher.ofText? { ignoreCase, multiLine := true, rows := true } pattern with
  | some m => .ok m
  | none => .error (.malformed (.badPattern pattern))

namespace Address

/-- How searches are carried out. -/
structure SearchRule where
  ignoreCase : Bool := false
  wrapScan : Bool := true
  /-- A search that succeeds becomes the last search. -/
  remember : Bool := true

/-- A result, and the last search after it. -/
abbrev Resolved (α : Type) := Except Failure α × Option Text

/-- One term of an offset: a sign and digits, which may be missing and then mean 1. -/
def offsetTerm (total : Int) : Option (Int × Text) → Except Failure Int
  | none => .ok total
  | some (sign, digits) =>
    if digits = [] then Calculator.fitting (total + sign)
    else
      match word? (Text.numeralValue digits) with
      | some n => Calculator.fitting (total + sign * n)
      | none => .error (.malformed (.numeralTooLarge digits))

/-- The sum of the terms of an offset that has no blanks. The term being read is kept with its sign
and the digits so far. -/
def sumOffset (total : Int) (term : Option (Int × Text)) : Text → Except Failure Int
  | [] => offsetTerm total term
  | c :: t =>
    if c.isDigit then
      match term with
      | some (sign, digits) => sumOffset total (some (sign, digits ++ [c])) t
      | none => sumOffset total (some (1, [c])) t
    else do
      let total ← offsetTerm total term
      if c = '+' then sumOffset total (some (1, [])) t
      else if c = '-' then sumOffset total (some (-1, [])) t
      else throw (.malformed (.badSearchOffset c))

/-- The offset after a search: `+`, `-2`, `+2+1`, or a bare number. -/
def readOffset (t : Text) : Except Failure Int := sumOffset 0 none (t.filter (! Unicode.isBlank ·))

/-- The line of the first match after a line, going on from the top if searches wrap. -/
def searchForward (f : Frame) (wrap : Bool) (m : Matcher) (line : Nat) : Option Nat :=
  let origin := f.lineStart (line + 1)
  let hit := (f.findIn m origin f.length).orElse fun _ => if wrap then f.findIn m 0 origin else none
  hit.map fun span => f.lineAt span.1

/-- The line of the last match before a line, going on from the bottom if searches wrap. -/
def searchBackward (f : Frame) (wrap : Bool) (m : Matcher) (line : Nat) : Option Nat :=
  let origin := f.lineStart line
  let hit := (f.findLastIn m 0 origin).orElse fun _ =>
    if wrap then f.findLastIn m origin f.length else none
  hit.map fun span => f.lineAt span.1

/-- The line, counted from 0, that a search starts from. -/
def searchOrigin (f : Frame) (start : Text) : Except Failure Nat :=
  if start.isBlank then .ok f.cursorLine
  else (Calculator.evaluate f start).map fun line => clampLine f false line - 1

/-- The pattern of a search: the one written, or the last one if it is empty. -/
def searchPattern (lastSearch : Option Text) (written : Text) : Except Failure Text :=
  if written = [] then
    match lastSearch with
    | some pattern => .ok pattern
    | none => .error (.malformed .noPreviousSearch)
  else .ok written

/-- Carry out a search from `start`. `rest` holds the delimiter, the pattern and the offset. -/
def search (f : Frame) (rule : SearchRule) (lastSearch : Option Text) (start : Text)
    (delimiter : Char) (rest : Text) : Resolved Int :=
  let (written, after) := (splitAtDelimiter delimiter rest).getD (rest, [])
  let prepared : Except Failure (Nat × Int × Text × Matcher) := do
    let line ← searchOrigin f start
    let offset ← readOffset after
    let pattern ← searchPattern lastSearch (unescapeDelimiter delimiter written)
    let m ← searchMatcher rule.ignoreCase pattern
    return (line, offset, pattern, m)
  match prepared with
  | .error failure => (.error failure, lastSearch)
  | .ok (line, offset, pattern, m) =>
    let hit :=
      if delimiter = '?' then searchBackward f rule.wrapScan m line
      else searchForward f rule.wrapScan m line
    match hit with
    | none => (.error (.unresolved (.patternNotFound pattern)), lastSearch)
    | some found =>
      (Calculator.fitting (found + 1 + offset), if rule.remember then some pattern else lastSearch)

/-- The line of an address, not yet brought into the frame. -/
def resolveExact (f : Frame) (rule : SearchRule) (lastSearch : Option Text) (expression : Text) :
    Resolved Int :=
  match splitAtSearch true expression with
  | some (start, delimiter :: rest) => search f rule lastSearch start delimiter rest
  | _ => (Calculator.evaluate f expression, lastSearch)

/-- The line of an address. A destination may be line 0. -/
def resolve (f : Frame) (rule : SearchRule) (allowZero : Bool) (lastSearch : Option Text)
    (expression : Text) : Resolved Nat :=
  let expression := expression.trim
  if expression = [] then (.ok (f.cursorLine + 1), lastSearch)
  else
    let (line, lastSearch) := resolveExact f rule lastSearch expression
    (line.map (clampLine f allowZero), lastSearch)

/-- Resolve the parts of a range from left to right. A part that a semicolon follows moves the cursor
to its line before the next one is resolved. -/
def resolveParts (f : Frame) (rule : SearchRule) (lastSearch : Option Text) :
    List (Text × Option Char) → Resolved (List Address) × Frame
  | [] => ((.ok [], lastSearch), f)
  | (part, separator) :: rest =>
    match resolve f rule false lastSearch part with
    | (.error failure, lastSearch) => ((.error failure, lastSearch), f)
    | (.ok line, lastSearch) =>
      let f := if separator = some ';' then f.goToLine (line - 1) else f
      let expression := part.trim
      let address : Address := { expression := if expression = [] then none else some expression, line }
      let ((others, lastSearch), f) := resolveParts f rule lastSearch rest
      ((others.map (address :: ·), lastSearch), f)

/-- The range of the last two addresses, or of the only one. -/
def rangeOf (addresses : List Address) : AddressRange :=
  match addresses.reverse with
  | [] => {}
  | [only] => ⟨only, only⟩
  | last :: first :: _ => ⟨first, last⟩

/-- Resolve a range text: nothing for the current line, `%` for all lines, `*` for those on the
screen, or addresses with separators between them. The frame comes back with its cursor moved. -/
def resolveRange (f : Frame) (rule : SearchRule) (lastSearch : Option Text) (t : Text) :
    Resolved AddressRange × Frame :=
  let t := t.trim
  if t = [] then
    ((.ok (.ofLines f (f.cursorLine + 1) (f.cursorLine + 1)), lastSearch), f)
  else if t = ['%'] then ((.ok (.ofLines f 1 f.lastLine), lastSearch), f)
  else if t = ['*'] then
    let first := f.firstVisible + 1
    ((.ok (.ofLines f first (first + max f.screenLines 1 - 1)), lastSearch), f)
  else
    let ((addresses, lastSearch), f) :=
      resolveParts f rule lastSearch (splitParts .address 0 true t)
    ((addresses.map rangeOf, lastSearch), f)

end Address
end ExEditor
