import ExEditor.Frame.LineSpan
import ExEditor.Host
import ExEditor.Substitution.Basic

/-! Carrying out a substitution on lines of a frame. The lines still to come lie between two marks,
so that a replacement that adds or removes lines does not move the end of the work. -/
namespace ExEditor
namespace Substitution

/-- One line being worked on: how many matches were replaced, and whether the work is to stop. -/
structure LineDraft where
  frame : Frame
  host : Host
  applied : Nat := 0
  stopped : Bool := false

/-- The answer to a replacement: yes, unless the substitution asks. The match is selected while the
question is open. -/
def answer (s : Substitution) (w : LineDraft) (lineStart : Nat) (m : Match) (replacement : Text) :
    Confirm × LineDraft :=
  if s.flags.confirm then
    let frame := w.frame.select ⟨lineStart + m.start, lineStart + m.stop, .stream⟩
    let (answer, host) :=
      (w.host.display frame.text).confirm ("Replace with " ++ replacement ++ ['?']) frame.selection
    (answer, { w with frame, host })
  else (.yes, w)

/-- Go through the matches of a line. `rest` is what stands from `offset` on, and the result what
becomes of it. A cancelled answer ends the work, and so does the cancel flag, which is looked at before
each match. -/
def takeMatches (s : Substitution) (lineStart : Nat) :
    List Match → (offset : Nat) → (rest : Text) → LineDraft → Text × LineDraft
  | [], _, rest, w => (rest, w)
  | m :: others, offset, rest, w =>
    let (cancelled, host) := w.host.look
    let w := { w with host }
    if cancelled then (rest, { w with stopped := true })
    else
      let matched := rest.drop (m.start - offset)
      let replacement := expandReplacement (m.groupText matched) .asIs s.replacement
      let (given, w) := s.answer w lineStart m replacement
      match given with
      | .cancel => (rest, { w with stopped := true })
      | .no => takeMatches s lineStart others offset rest w
      | .yes =>
        let (later, w) := takeMatches s lineStart others m.stop (matched.drop (m.stop - m.start))
          { w with applied := w.applied + 1 }
        (rest.take (m.start - offset) ++ (replacement ++ later), w)

/-- The matches of a line that are considered: all of them, or only the first one. -/
def consideredMatches (s : Substitution) (m : Matcher) (text : Text) : List Match :=
  if s.flags.global then m.findAll text else (m.find? text).toList

/-- A substitution under way. -/
structure Progress where
  frame : Frame
  host : Host
  count : Nat := 0
  lastChanged : Option Nat := none

/-- Work on lines from `line` up to the end mark. A line that was replaced by several is passed over
as a whole. The first argument bounds the number of lines. -/
def workOnLines (s : Substitution) (m : Matcher) : Nat → (line : Nat) → Progress → Progress
  | 0, _, p => p
  | n + 1, line, p =>
    match p.frame.mark? .rangeEnd with
    | none => p
    | some stop =>
      if p.frame.lineAt stop < line then p
      else
        let text := p.frame.line line
        let start := p.frame.lineStart line
        let (rebuilt, w) := s.takeMatches start (s.consideredMatches m text) 0 text
          { frame := p.frame, host := p.host }
        let p : Progress :=
          if w.applied = 0 then { p with frame := w.frame, host := w.host }
          else
            { frame := w.frame.replace start (start + text.length) rebuilt
              host := w.host
              count := p.count + w.applied
              lastChanged := some line }
        if w.stopped then p
        else workOnLines s m n (line + 1 + if w.applied = 0 then 0 else rebuilt.count '\n') p

/-- Most lines that are worked on: more than the frame has. Only carriage returns in a replacement make
lines that are worked on again; a replacement that feeds on these for ever is cut off here. -/
def lineBound (f : Frame) : Nat := Text.wordCount + 2 * f.length

/-- Mark the ends of the lines that are to be worked on. -/
def markLines (f : Frame) (first last : Nat) : Frame :=
  (f.setMark .rangeBegin (f.lineStart first)).setMark .rangeEnd (f.lineEnd last)

/-- Close the group of edits, take the marks away and go to the last line that was changed. -/
def Progress.finish (p : Progress) : Progress :=
  let f := (p.frame.closeGroup.unsetMark .rangeBegin).unsetMark .rangeEnd
  let f := match p.lastChanged with
    | some line => f.goToLine line
    | none => f
  { p with frame := f.select (.caret f.cursor) }

/-- Substitute in the lines from `first` up to `last`, in a group of edits, and go to the last line that
was changed. -/
def run (s : Substitution) (m : Matcher) (first last : Nat) (f : Frame) (h : Host) : Progress :=
  (s.workOnLines m (lineBound f) first { frame := (markLines f first last).openGroup, host := h }).finish

end Substitution
end ExEditor
