import ExEditor.Shell.Script.Reader
import ExEditor.Shell.Tool.Options

/-! Editing lines by a script, as `sed` does: what is left in the space at the end of the script is
shown. -/
namespace ExEditor
namespace Shell
namespace Script

/-- What a script works on. -/
structure Space where
  space : Text := []
  held : Text := []
  /-- Whether the line in the space had a line end. -/
  whole : Bool := true
  lines : List Text := []
  number : Nat := 0
  shown : Text := []
  /-- What is shown behind the line, with the line ends that belong to it. -/
  queue : List Text := []
  /-- Steps whose range of lines has begun, with the line where it ends if that is known. -/
  active : List (Nat × Option Nat) := []
  replaced : Bool := false
  /-- What was last looked for. -/
  lastFinder : Option Finder := none
  /-- What files hold that are shown, and what was written to files. -/
  contents : List (Text × Text) := []
  written : List (Text × Text) := []
  status : Nat := 0

/-- What is done after a step. -/
structure Outcome where
  /-- Whether the script ends with this line. -/
  ends : Bool
  /-- Whether the space is still to be shown. -/
  shows : Bool
  space : Space

namespace Space

/-- Show a line. -/
def put (s : Space) (t : Text) (whole : Bool) : Space :=
  let shown := if s.shown = [] || isWholeLine s.shown then s.shown else s.shown ++ ['\n']
  { s with shown := shown ++ t ++ if whole then ['\n'] else [] }

/-- Show what is to be shown behind the line. -/
def flush (s : Space) : Space :=
  { s.queue.foldl (fun s t => if t = [] then s else s.put t false) s with queue := [] }

/-- Write a line to a file. -/
def putInto (s : Space) (path t : Text) : Space :=
  if path = "/dev/stdout".toList then s.put t true
  else
    { s with
      written := s.written.map fun (name, old) => if name = path then (name, old ++ t ++ ['\n']) else (name, old) }

/-- The text of the next line, and what is left. -/
def take? (s : Space) : Option (Text × Space) :=
  match s.lines with
  | [] => none
  | line :: lines =>
    some (lineBody line, { s with lines, number := s.number + 1, whole := isWholeLine line })

/-- What is looked for; if that is nothing of its own, what was last looked for. -/
def look (s : Space) (m : Option Finder) : Option Finder × Space :=
  match m with
  | some m => (some m, { s with lastFinder := some m })
  | none => (s.lastFinder, s)

/-- Whether an address is that of the present line. -/
def isAt (s : Space) : Place → Bool × Space
  | .line n => (s.number = n, s)
  | .last => (s.lines = [], s)
  | .matching m => let (m, s) := s.look m; (m.any fun m => m.isMatch s.space, s)
  | .every first step =>
    (if step = 0 then s.number = first else s.number ≥ first && (s.number - first) % step = 0, s)
  | .behind _ | .multiple _ => (false, s)

/-- Whether a step is for the present line, and whether this is the last line of its range. -/
def selects (s : Space) (i : Nat) (step : Step) : Bool × Bool × Space :=
  let forget (s : Space) : Space := { s with active := s.active.filter (·.1 ≠ i) }
  let (chosen, ends, s) : Bool × Bool × Space :=
    match step.first, step.second with
    | none, _ => (true, true, s)
    | some place, none => let (here, s) := s.isAt place; (here, true, s)
    | some place, some stop =>
      match s.active.lookup i with
      | some (some n) =>
        if s.number ≥ n then (s.number = n, true, forget s) else (true, false, s)
      | some none =>
        let (here, s) := s.isAt stop
        if here then (true, true, forget s) else (true, false, s)
      | none =>
        let (here, s) := s.isAt place
        if here then
          let stay (until' : Option Nat) : Bool × Bool × Space :=
            (true, false, { s with active := (i, until') :: s.active })
          match stop with
          | .line n => if n ≤ s.number then (true, true, s) else stay (some n)
          | .behind n => if n = 0 then (true, true, s) else stay (some (s.number + n))
          | .multiple n =>
            if n = 0 || s.number % n = 0 then (true, true, s) else stay (some (s.number + (n - s.number % n)))
          | .last => if s.lines = [] then (true, true, s) else stay none
          | _ => stay none
        else (false, true, s)
  (chosen != step.negated, ends, s)

/-- How a letter changes the case of what follows it in a replacement. -/
inductive Casing
  | asIs
  | upper
  | lower
  deriving DecidableEq, Repr

/-- A text in a case; `first` is a case for its first character alone. -/
def cased (all : Casing) (first : Option Casing) (t : Text) : Text :=
  let change : Casing → Text → Text
    | .asIs, t => t
    | .upper, t => t.map Char.toUpper
    | .lower, t => t.map Char.toLower
  match first, t with
  | some casing, c :: t => change casing [c] ++ change all t
  | _, t => change all t

/-- What a replacement stands for. The first argument bounds its characters. -/
def replacementText (group : Nat → Text) : Nat → (all : Casing) → (first : Option Casing) → Text → Text
  | 0, _, _, _ => []
  | n + 1, all, first, t =>
    let put (u t : Text) : Text :=
      cased all first u ++ replacementText group n all (if u = [] then first else none) t
    match t with
    | [] => []
    | '\\' :: c :: t =>
      if c.isDigit then put (group (c.toNat - 48)) t
      else
        match c with
        | 'U' => replacementText group n .upper none t
        | 'L' => replacementText group n .lower none t
        | 'E' => replacementText group n .asIs none t
        | 'u' => replacementText group n all (some .upper) t
        | 'l' => replacementText group n all (some .lower) t
        | c =>
          match Expression.controlOf? c, Expression.takeCode (c :: t) with
          | some control, _ => put [control] t
          | none, some (code, t) => put [code] t
          | none, none => put [c] t
    | '&' :: t => put (group 0) t
    | c :: t => put [c] t

/-- Replace matches of a text, of which `found` are left, from an offset on. -/
def replaceFrom (t replacement : Text) (offset : Nat) : List Found → Text
  | [] => t.drop offset
  | m :: found =>
    let group (i : Nat) : Text :=
      match m.group? i with
      | some (a, b) => (t.drop a).take (b - a)
      | none => []
    (t.drop offset).take (m.start - offset) ++
      replacementText group (replacement.length + 1) .asIs none replacement ++
      replaceFrom t replacement m.stop found

/-- Replace what is looked for in the space. The second result says whether it was found. -/
def substitute (s : Space) (x : Exchange) : Space × Bool :=
  let (m, s) := s.look x.finder
  let all := (m.elim [] fun m => m.findAll s.space).drop (x.nth - 1)
  let found := if x.all then all else all.take 1
  if found = [] then (s, false)
  else
    let s := { s with space := replaceFrom s.space x.replacement 0 found, replaced := true }
    let s := if x.shows then s.put s.space true else s
    (match x.target with
      | some path => s.putInto path s.space
      | none => s, true)

/-- A character in a form that shows what it is. -/
def plainForm (c : Char) : Text :=
  match [('\\', '\\'), ('\x07', 'a'), ('\x08', 'b'), ('\x0c', 'f'), ('\n', 'n'), ('\r', 'r'), ('\t', 't'),
      ('\x0b', 'v')].lookup c with
  | some letter => ['\\', letter]
  | none =>
    if ' ' ≤ c && c ≤ '~' then [c]
    else
      let digits := Nat.toDigits 8 c.toNat
      '\\' :: List.replicate (3 - digits.length) '0' ++ digits

/-- Pieces put into lines of a width, all of which but the last end in a backslash. -/
def plainLines (width column : Nat) : List Text → Text
  | [] => ['$']
  | piece :: rest =>
    if 1 < width && width ≤ column + piece.length then
      '\\' :: '\n' :: piece ++ plainLines width piece.length rest
    else piece ++ plainLines width (column + piece.length) rest

/-- Carry out steps from the one of a number on. The first argument bounds their number. -/
def run (steps : Array Step) (quiet : Bool) (width : Nat) : Nat → (i : Nat) → Space → Outcome
  | 0, _, s => ⟨true, false, s⟩
  | n + 1, i, s =>
    match steps[i]? with
    | none => ⟨false, true, s⟩
    | some step =>
      let (chosen, ends, s) := s.selects i step
      if !chosen then run steps quiet width n (i + 1) s
      else
        let go (s : Space) : Outcome := run steps quiet width n (i + 1) s
        match step.action with
        | .substitute x => go (s.substitute x).1
        | .translate pairs => go { s with space := s.space.map fun c => (pairs.lookup c).getD c }
        | .delete => ⟨false, false, s⟩
        | .deleteFirst =>
          match Text.splitFirst? (· = '\n') s.space with
          | none => ⟨false, false, s⟩
          | some (_, rest) => run steps quiet width n 0 { s.flush with space := rest }
        | .shows => go (s.put s.space true)
        | .showFirst => go (s.put (s.space.takeWhile (· ≠ '\n')) true)
        | .showPlainly own => go (s.put (plainLines (own.getD width) 0 (s.space.map plainForm)) true)
        | .number => go (s.put (Text.ofNat s.number) true)
        | .quit shows status => ⟨true, shows, { s with status }⟩
        | .next =>
          match s.take? with
          | none => ⟨true, true, s⟩
          | some (line, taken) =>
            let s := (if quiet then s else s.put s.space true).flush
            go { taken with shown := s.shown, queue := s.queue, space := line }
        | .append =>
          match s.take? with
          | none => ⟨true, true, s⟩
          | some (line, taken) =>
            let s := s.flush
            go { taken with shown := s.shown, queue := s.queue, space := s.space ++ '\n' :: line }
        | .hold adds => go { s with held := if adds then s.held ++ '\n' :: s.space else s.space }
        | .recall adds => go { s with space := if adds then s.space ++ '\n' :: s.held else s.held }
        | .exchange => go { s with space := s.held, held := s.space }
        | .empty => go { s with space := [] }
        | .after t => go { s with queue := s.queue ++ [t] }
        | .before t => go (if t = [] then s else s.put t false)
        | .change t => ⟨false, false, if (ends || step.negated) && t ≠ [] then s.put t false else s⟩
        | .insertFile path => go { s with queue := s.queue ++ ((s.contents.lookup path).toList) }
        | .writeTo path firstOnly =>
          go (s.putInto path (if firstOnly then s.space.takeWhile (· ≠ '\n') else s.space))
        | .skipTo target => run steps quiet width n target s
        | .label _ => go s
        | .jump ifReplaced name =>
          if ifReplaced.any (· ≠ s.replaced) then go { s with replaced := false }
          else
            let s := if ifReplaced.isSome then { s with replaced := false } else s
            if name = [] then ⟨false, true, s⟩
            else
              match steps.toList.findIdx? fun step => step.action == .label name with
              | some target => run steps quiet width n (target + 1) s
              | none => ⟨false, true, s⟩

/-- Carry out a script on one line after another. The result says whether it has ended them all. The first
argument bounds the lines. -/
def runAll (steps : Array Step) (quiet : Bool) (width : Nat) : Nat → Space → Bool × Space
  | 0, s => (false, s)
  | n + 1, s =>
    match s.take? with
    | none => (false, s)
    | some (line, s) =>
      let o := run steps quiet width 1000000 0 { s with space := line, replaced := false }
      let s := (if o.shows && !quiet then o.space.put o.space.space o.space.whole else o.space).flush
      if o.ends then (true, s) else runAll steps quiet width n s

end Space

/-- A label that a step wants to go on behind and that is nowhere. -/
def missingLabel? (steps : List Step) : Option Text :=
  let labels := steps.filterMap fun step =>
    match step.action with
    | .label name => some name
    | _ => none
  steps.findSome? fun step =>
    match step.action with
    | .jump _ name => if name = [] || labels.contains name then none else some name
    | _ => none

/-- Whether the first step that looks for something looks for what was last looked for. -/
def looksForNothing (steps : List Step) : Bool :=
  let finders := steps.flatMap fun step =>
    let ofPlace : Option Place → List (Option Finder) := fun
      | some (.matching m) => [m]
      | _ => []
    ofPlace step.first ++ ofPlace step.second ++
      match step.action with
      | .substitute x => [x.finder]
      | _ => []
  finders.head? = some none

/-- The steps that are under way from the beginning, since their range starts in front of all lines. -/
def underWay (steps : List Step) : List (Nat × Option Nat) :=
  steps.zipIdx.filterMap fun (step, i) => if step.first = some (.line 0) then some (i, none) else none

/-- Where in some texts, which are read one after the other with line ends between them, a number of
characters ends: the number of the text and that of the character in it. -/
def positionIn (index count : Nat) : List Text → Nat × Nat
  | [] | [_] => (index, count)
  | t :: rest =>
    if count ≤ t.length then (index, count) else positionIn (index + 1) (count - t.length - 1) rest

/-- Go through texts one after the other. Each has its own line numbers and its own output. -/
def editEach (steps : List Step) (quiet : Bool) (width : Nat) : List (Text × Text) → Space →
    List (Text × Text) × Space
  | [], s => ([], s)
  | (name, t) :: rest, s =>
    let (ended, s) := Space.runAll steps.toArray quiet width (t.length + 1)
      { s with lines := linesOf t, number := 0, shown := [], active := underWay steps }
    let kept := s.shown ++ s.lines.flatten
    if ended then ([(name, kept)], s)
    else
      let (others, s) := editEach steps quiet width rest s
      ((name, kept) :: others, s)

end Script

/-- Words of `sed` with the option to change files written in its long form. -/
def spellInPlace (word : Text) : Text :=
  match word with
  | '-' :: 'i' :: ending => "--in-place=".toList ++ ending
  | word => word

/-- Edit lines by a script. -/
def sed : Tool := fun words s =>
  let usage : Usage := { tool := "sed", flags := "nErsuz", valued := "efl", long :=
    [("quiet", 'n'), ("silent", 'n'), ("regexp-extended", 'E'), ("expression", 'e'), ("file", 'f'),
      ("in-place", 'i'), ("separate", 's'), ("unbuffered", 'u'), ("line-length", 'l'), ("posix", 'p'),
      ("null-data", 'z')] }
  usage.apply (words.map spellInPlace) s fun g =>
    let given := g.options.filter fun (c, _) => c = 'e' || c = 'f'
    let (given, names) :=
      if given = [] then ((g.operands.take 1).map ('e', ·), g.operands.drop 1) else (given, g.operands)
    let scripts : Except Text (List Text) := given.mapM fun (c, t) =>
      if c = 'e' then .ok t
      else
        match s.textOf t with
        | .ok script => .ok ((Text.dropEnding? script ['\n']).getD script)
        | .error fault => .error ("couldn't open file ".toList ++ t ++ ": ".toList ++ fault.cause)
    match scripts with
    | .error complaint => (s.complain ("sed: ".toList ++ complaint)).finish 1
    | .ok [] =>
      (s.complain "Usage: sed [OPTION]... \x7bscript-only-if-no-other-script\x7d [input-file]...").finish 1
    | .ok scripts =>
      let script := Text.join ['\n'] scripts
      let expression (message : Text) (index char : Nat) : State :=
        (s.complain ("sed: -e expression #".toList ++ Text.ofNat index ++ ", char ".toList ++ Text.ofNat char ++
          ": ".toList ++ message)).finish 1
      match Script.read { extended := g.has 'E' || g.has 'r' } script with
      | .error ⟨message, none⟩ => expression message 1 0
      | .error ⟨message, some left⟩ =>
        if message = ExpressionFault.bareClass.message then (s.complain ("sed: ".toList ++ message)).finish 1
        else
          let (index, char) := Script.positionIn 1 (script.length - left) scripts
          expression message index char
      | .ok steps =>
        match Script.missingLabel? steps with
        | some name => (s.complain ("sed: can't find label for jump to `".toList ++ name ++ ['\''])).finish 1
        | none =>
          if Script.looksForNothing steps then expression "no previous regular expression" 1 0
          else if g.has 'i' && names = [] then (s.complain "sed: no input files").finish 1
          else
            let inPlace := g.has 'i'
            let cannot (name : Text) (fault : FileFault) : Text :=
              match fault with
              | .isADirectory =>
                if inPlace then "sed: couldn't edit ".toList ++ name ++ ": not a regular file".toList
                else "sed: read error on ".toList ++ name ++ ": Is a directory".toList
              | fault => "sed: can't read ".toList ++ name ++ ": ".toList ++ fault.cause
            let contents := (steps.flatMap Script.Step.sources).eraseDups.filterMap fun path =>
              (s.textOf path).toOption.map (path, ·)
            let written := (steps.flatMap Script.Step.targets).eraseDups.map (·, ([] : Text))
            let (found, s) :=
              State.sourcesOf cannot (if names = [] then [['-']] else names) (s.finish 0)
            let s := if s.status = 0 then s else s.finish 2
            let width := ((g.value? 'l').bind natOf?).getD 70
            let start : Script.Space := { contents, written, active := Script.underWay steps }
            let finish (s : State) (left : Script.Space) : State :=
              let s := (left.written.filter (·.1 ≠ "/dev/stdout".toList)).foldl (fun s (path, t) => s.writeFile path t) s
              if left.status = 0 then s else s.finish left.status
            if inPlace then
              let (edited, left) := Script.editEach steps (g.has 'n') width found start
              let ending := (g.value? 'i').getD []
              let s := edited.foldl (fun s (name, t) =>
                let s := if ending = [] then s else s.writeFile (name ++ ending) ((s.textOf name).toOption.getD [])
                s.writeFile name t) s
              finish s left
            else if g.has 's' then
              let (edited, left) := Script.editEach steps (g.has 'n') width found start
              finish (s.emit (edited.flatMap (·.2))) left
            else
              let lines := found.flatMap fun (_, t) => linesOf t
              let (_, left) := Script.Space.runAll steps.toArray (g.has 'n') width (lines.length + 1)
                { start with lines }
              finish (s.emit left.shown) left

end Shell
end ExEditor
