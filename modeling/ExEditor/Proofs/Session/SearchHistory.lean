import ExEditor.Proofs.Address.Search
import ExEditor.Proofs.Session.Captured
import ExEditor.Proofs.Session.FrameVerbs
import ExEditor.Proofs.Session.Steps

/-! The last search. It is changed where addresses are resolved, where a substitution goes through and where a global
command begins, at any depth below a command line, and nowhere else. In a jump to a tag none of these changes it. -/
namespace ExEditor

namespace Address

/-- Whether an address is a search that comes to a line. Its pattern is the one that it writes, or the last search if
it writes none. -/
def Finds (f : Frame) (rule : SearchRule) (lastSearch : Option Text) (expression pattern : Text) : Prop :=
  ∃ delimiter line m after offset found,
    IsSearch f rule lastSearch expression delimiter line pattern m after offset ∧
      searched f rule.wrapScan m delimiter line = some found

section search
variable {f : Frame} {rule : SearchRule} {lastSearch : Option Text} {expression pattern : Text}

/-- A search that comes to a line is remembered, whatever the offset behind it. -/
theorem Finds.remembered (h : Finds f rule lastSearch expression pattern) (allowZero : Bool) :
    (resolve f rule allowZero lastSearch expression).2 = if rule.remember then some pattern else lastSearch := by
  obtain ⟨delimiter, line, m, after, offset, found, hsearch, hfound⟩ := h
  rw [hsearch.resolve_eq, hfound]
  rfl

/-- Other addresses leave the last search alone. -/
theorem finds_or_left (f : Frame) (rule : SearchRule) (allowZero : Bool) (lastSearch : Option Text)
    (expression : Text) :
    (∃ pattern, Finds f rule lastSearch expression pattern) ∨
      (resolve f rule allowZero lastSearch expression).2 = lastSearch := by
  unfold resolve resolveExact
  dsimp only
  split
  · exact .inr rfl
  split
  · next start delimiter rest hsplit =>
    unfold search
    generalize hwritten : (splitAtDelimiter delimiter rest).getD (rest, []) = parts
    obtain ⟨written, after⟩ := parts
    dsimp only
    cases hline : searchOrigin f start with
    | error failure => exact .inr rfl
    | ok line =>
      cases hoffset : readOffset after with
      | error failure => exact .inr rfl
      | ok offset =>
        cases hpattern : searchPattern lastSearch (unescapeDelimiter delimiter written) with
        | error failure => exact .inr rfl
        | ok pattern =>
          cases hm : searchMatcher rule.ignoreCase pattern with
          | error failure => exact .inr (by simp only [hm, bind, Except.bind])
          | ok m =>
            cases hfound : searched f rule.wrapScan m delimiter line with
            | none =>
              rw [searched] at hfound
              exact .inr (by simp only [hm, bind, Except.bind, pure, Except.pure, hfound])
            | some found =>
              exact .inl ⟨pattern, delimiter, line, m, after, offset, found,
                ⟨⟨start, rest, written, hsplit, hwritten, hline, hpattern⟩, hoffset, hm⟩, hfound⟩
  · exact .inr rfl

end search
end Address

namespace Editor

/-- Whether a jump to a tag is under way, and the last search. -/
def searches (ed : Editor) : Bool × Option Text := (ed.session.tagJump, ed.context.lastSearch)

/-- Both lie neither in the frame nor in the host. -/
theorem apart_searches : Apart searches := ⟨fun _ _ => rfl, fun _ _ => rfl⟩

end Editor

/-- What may change the last search, with the editor in which it happens. -/
inductive SearchEvent
  /-- An address is resolved. -/
  | address (ed : Editor) (allowZero : Bool) (expression : Text)
  /-- A substitution for a pattern has gone through, or a global command with one begins. -/
  | remembered (ed : Editor) (pattern : Text)

namespace SearchEvent

def editor : SearchEvent → Editor
  | address ed _ _ => ed
  | remembered ed _ => ed

/-- The last search that an event leaves. -/
def left : SearchEvent → Option Text
  | address ed allowZero expression =>
    (Address.resolve ed.frame ed.searchRule allowZero ed.context.lastSearch expression).2
  | remembered ed pattern => (ed.rememberSearch pattern).context.lastSearch

def before (e : SearchEvent) : Bool × Option Text := e.editor.searches

def after (e : SearchEvent) : Bool × Option Text := (e.editor.session.tagJump, e.left)

/-- Whether an event has a pattern to remember. An address has one if it is a search that comes to a line. -/
def Uses : SearchEvent → Text → Prop
  | address ed _ expression, pattern => Address.Finds ed.frame ed.searchRule ed.context.lastSearch expression pattern
  | remembered _ used, pattern => used = pattern

end SearchEvent

namespace Editor

/-- The parts of a range are resolved in turn, up to the first that fails. -/
def partEvents : List (Text × Option Char) → Editor → List SearchEvent
  | [], _ => []
  | (part, separator) :: rest, ed =>
    .address ed false part ::
      match Address.resolve ed.frame ed.searchRule false ed.context.lastSearch part with
      | (.error _, _) => []
      | (.ok line, lastSearch) =>
        partEvents rest
          ((ed.mapFrame fun f => if separator = some ';' then f.goToLine (line - 1) else f).setLastSearch lastSearch)

def rangeEvents (t default : Text) (ed : Editor) : List SearchEvent :=
  let t := Text.trim (if t.isBlank then default else t)
  if t = [] ∨ t = ['%'] ∨ t = ['*'] then [] else ed.partEvents (Address.splitParts .address 0 true t)

def destinationEvents (t : Text) (ed : Editor) : List SearchEvent :=
  if t.isBlank then [] else [.address ed true t]

/-- A substitution that has gone through is the last one. -/
def substitutionEvents (change : Change) (ed : Editor) : List SearchEvent :=
  match change with
  | .ok (after, _) => after.context.lastSubstitution.toList.map fun s => .remembered ed s.pattern
  | .error _ => []

def globalEvents (running : Running) (r : AddressRange) (t : Text) (ed : Editor) : List SearchEvent :=
  match prepareGlobal running r t ed with
  | .ok (g, _) => [.remembered ed g.pattern]
  | .error _ => []

/-- What follows when the range of a command is resolved. -/
def actionEvents (running : Running) (c : Command) (r : AddressRange) (ed : Editor) : List SearchEvent :=
  match c.verb with
  | .copy | .move => ed.destinationEvents c.text
  | .substitute => ed.substitutionEvents (ed.substitute r c.text)
  | .repeatSubstitute keepFlags => ed.substitutionEvents (ed.repeatSubstitution r c.text keepFlags)
  | .repeatWithSearch => ed.substitutionEvents (ed.repeatWithSearch r c.text)
  | .global _ => ed.globalEvents running r c.text
  | _ => []

/-- What a command does itself, before it starts lines. -/
def commandEvents (running : Running) (c : Command) (ed : Editor) : List SearchEvent :=
  if c.resolvesRange then
    ed.rangeEvents c.range c.verb.defaultRange ++
      match ed.resolveRange c.range c.verb.defaultRange with
      | (.error _, _) => []
      | (.ok r, ed) => ed.actionEvents running c r
  else []

end Editor

/-- What a line does itself, before it starts others. -/
def Call.searchEvents (c : Call) : List SearchEvent :=
  match Command.parse c.line with
  | .ok (some command) =>
    if !command.verb.takesRange && command.range ≠ [] then []
    else ((c.editor.mapFrame Frame.openGroup).log command).commandEvents c.inner command
  | _ => []

namespace Editor

/-- Whether time passes, after which another session may be in place. -/
def Step.isAside : Step → Bool
  | aside _ _ _ => true
  | _ => false

/-- What happens in a step, in order: in the lines that run in it, each before those that it starts. -/
def stepEvents (ed : Editor) : Step → List SearchEvent
  | .execute line => (ed.callsOf line).flatMap Call.searchEvents
  | .playMacro name count =>
    (playCalls (runLine ed.nestingBound) {} name count ed).flatMap fun c =>
      (c.trace ed.nestingBound).flatMap Call.searchEvents
  | _ => []

/-- What happens in steps. -/
def searchEvents : List Step → Editor → List SearchEvent
  | [], _ => []
  | step :: rest, ed => ed.stepEvents step ++ searchEvents rest (ed.step step)

open SearchEvent Change

/-- A part of a run in which the events change the last search, and nothing else does. -/
def Remembers (ed : Editor) (events : List SearchEvent) (after : Editor) : Prop :=
  Carried before SearchEvent.after ed.searches events after.searches

section addresses
variable {ed : Editor}

theorem remembers_nil {after : Editor} (h : after.searches = ed.searches) : ed.Remembers [] after := h.symm

theorem Remembers.append {after last : Editor} {events events' : List SearchEvent} (h : ed.Remembers events after)
    (h' : after.Remembers events' last) : ed.Remembers (events ++ events') last :=
  Carried.append h h'

theorem Remembers.congr {after last : Editor} {events : List SearchEvent} (h : ed.Remembers events after)
    (hlast : last.searches = after.searches) : ed.Remembers events last := by
  rw [Remembers, hlast]
  exact h

theorem partEvents_remembers (parts : List (Text × Option Char)) (ed : Editor) :
    ed.Remembers (ed.partEvents parts)
      (ed.setLastSearch (Address.resolveParts ed.frame ed.searchRule ed.context.lastSearch parts).1.2) := by
  induction parts generalizing ed with
  | nil => rfl
  | cons first rest ih =>
    obtain ⟨part, separator⟩ := first
    have hafter : (SearchEvent.address ed false part).after = (ed.session.tagJump,
        (Address.resolve ed.frame ed.searchRule false ed.context.lastSearch part).2) := rfl
    refine ⟨rfl, ?_⟩
    rw [hafter]
    unfold Address.resolveParts
    rcases Address.resolve ed.frame ed.searchRule false ed.context.lastSearch part with ⟨failure | line, lastSearch⟩
    · rfl
    · exact ih
        ((ed.mapFrame fun f => if separator = some ';' then f.goToLine (line - 1) else f).setLastSearch lastSearch)

theorem rangeEvents_remembers (t default : Text) (ed : Editor) :
    ed.Remembers (ed.rangeEvents t default) (ed.resolveRange t default).2 := by
  unfold rangeEvents resolveRange Address.resolveRange
  dsimp only
  generalize Text.trim (if t.isBlank then default else t) = t
  by_cases hshort : t = [] ∨ t = ['%'] ∨ t = ['*']
  · rw [if_pos hshort]
    refine remembers_nil ?_
    rcases hshort with rfl | rfl | rfl <;> rfl
  · have hlong := not_or.mp hshort
    have hother := not_or.mp hlong.2
    rw [if_neg hshort, if_neg hlong.1, if_neg hother.1, if_neg hother.2]
    exact partEvents_remembers _ ed

theorem destinationEvents_remembers (t : Text) (ed : Editor) :
    ed.Remembers (ed.destinationEvents t) (ed.resolveDestination t).2 := by
  unfold destinationEvents resolveDestination
  split
  · exact remembers_nil rfl
  · exact ⟨rfl, rfl⟩

end addresses

section verbs
variable (ed : Editor) (r : AddressRange)

/-! Changes that work on the frame, on registers or on what is kept leave the last search alone. -/

theorem searches_of_reframes {change : Change} (h : change.Keeps ed.Reframes) :
    change.Keeps (·.searches = ed.searches) :=
  h.imp fun _ => apart_searches.reframes

theorem delete_searches (t : Text) : (ed.delete r t).Keeps (·.searches = ed.searches) :=
  keeps_bind fun _ _ => keeps_bind fun _ _ => keeps_ok _ rfl

theorem yank_searches (t : Text) : (ed.yank r t).Keeps (·.searches = ed.searches) :=
  keeps_bind fun _ _ => keeps_bind fun _ _ => keeps_ok _ rfl

theorem enterText_searches (placement : Placement) (t : Text) :
    (ed.enterText r placement t).Keeps (·.searches = ed.searches) :=
  keeps_bind fun _ _ => keeps_ok _ rfl

theorem runShell_searches (command : Text) (file : Option Text) :
    (ed.runShell command file).2.searches = ed.searches := by
  obtain ⟨host, files, hrun, -⟩ := ed.runShell_beside command file
  rw [hrun]
  rfl

theorem shell_searches (command : Text) : (ed.shell command).1.searches = ed.searches := by
  have hrun := ed.runShell_searches command.trim none
  unfold shell
  dsimp only
  split
  · rfl
  · rcases hr : ed.runShell command.trim none with ⟨failure | output, ed'⟩ <;> rw [hr] at hrun <;> exact hrun

theorem filter_searches (command : Text) : (ed.filter r command).1.searches = ed.searches := by
  unfold filter
  dsimp only
  split
  · rfl
  · next first last hchecked =>
    generalize ed.frame.linesSpan first last = span
    have hrun := ed.runShell_searches command.trim (some (ed.frame.slice span.1 span.2))
    rcases hr : ed.runShell command.trim (some (ed.frame.slice span.1 span.2)) with ⟨failure | output, ed'⟩ <;>
      rw [hr] at hrun <;> exact hrun

theorem changeDirectory_searches (t : Text) : (ed.changeDirectory t).Keeps (·.searches = ed.searches) :=
  (ed.changeDirectory_moves t).imp fun _ ⟨_, hafter⟩ => hafter ▸ rfl

theorem switchHighlight_searches (t : Text) : (ed.switchHighlight t).Keeps (·.searches = ed.searches) :=
  (ed.switchHighlight_switches t).imp fun _ ⟨_, hafter⟩ => hafter ▸ rfl

theorem setOptions_searches (t : Text) : (ed.setOptions t).1.searches = ed.searches := by
  unfold setOptions
  dsimp only
  split <;> rfl

theorem abbreviate_searches (t : Text) : (ed.abbreviate t).Keeps (·.searches = ed.searches) := by
  unfold abbreviate
  dsimp only
  split
  · exact keeps_ok _ rfl
  · exact keeps_error _
  · exact keeps_ok _ rfl

theorem unabbreviate_searches (t : Text) : (ed.unabbreviate t).Keeps (·.searches = ed.searches) := by
  unfold unabbreviate
  split
  · exact keeps_ok _ rfl
  · exact keeps_error _

theorem mapKeys_searches (t : Text) : (ed.mapKeys t).Keeps (·.searches = ed.searches) := by
  unfold mapKeys
  dsimp only
  split
  · exact keeps_ok _ rfl
  · exact keeps_error _
  · exact keeps_ok _ rfl

theorem unmapKeys_searches (t : Text) : (ed.unmapKeys t).Keeps (·.searches = ed.searches) := by
  unfold unmapKeys
  split
  · exact keeps_ok _ rfl
  · exact keeps_error _

theorem startRecording_searches (t : Text) : (ed.startRecording t).Keeps (·.searches = ed.searches) :=
  keeps_bind fun _ _ => keeps_ok _ rfl

theorem stopRecording_searches : ed.stopRecording.Keeps (·.searches = ed.searches) := by
  unfold stopRecording
  split
  · exact keeps_error _
  · exact keeps_ok _ rfl

theorem settle_searches {ed : Editor} {change : Change} (h : change.Keeps (·.searches = ed.searches)) :
    (ed.settle change).1.searches = ed.searches := by
  cases change with
  | error failure => rfl
  | ok result => exact h result.1 result.2 rfl

end verbs

section remembering
variable (ed : Editor) (r : AddressRange)

theorem rememberSearch_searches (pattern : Text) : (ed.rememberSearch pattern).searches =
    (ed.session.tagJump, if ed.session.tagJump then ed.context.lastSearch else some pattern) := by
  unfold rememberSearch
  split <;> simp_all [searches, setLastSearch]

theorem left_remembered (pattern : Text) : (SearchEvent.remembered ed pattern).left =
    if ed.session.tagJump then ed.context.lastSearch else some pattern :=
  congrArg Prod.snd (ed.rememberSearch_searches pattern)

theorem remembers_pattern {ed after : Editor} {pattern : Text}
    (h : after.searches = (ed.rememberSearch pattern).searches) : ed.Remembers [.remembered ed pattern] after := by
  rw [ed.rememberSearch_searches] at h
  exact ⟨rfl, (congrArg (ed.session.tagJump, ·) (ed.left_remembered pattern)).trans h.symm⟩

/-- An editor in which a substitution has become the last one, and its pattern has been remembered. -/
def Substituted (after : Editor) : Prop :=
  ∃ s, after.context.lastSubstitution = some s ∧ after.searches = (ed.rememberSearch s.pattern).searches

theorem runSubstitution_substituted (s : Substitution) : (ed.runSubstitution r s).Keeps ed.Substituted := by
  refine keeps_bind fun _ _ => keeps_bind fun _ _ => keeps_ok _ ⟨s, rfl, ?_⟩
  rw [ed.rememberSearch_searches]
  exact rememberSearch_searches _ s.pattern

theorem repeatSubstitution_substituted (flags : Text) (keepFlags : Bool) :
    (ed.repeatSubstitution r flags keepFlags).Keeps ed.Substituted := by
  unfold repeatSubstitution
  split
  · exact keeps_error _
  · exact keeps_ite (keeps_bind fun _ _ => runSubstitution_substituted ed r _)
      (keeps_bind fun _ _ => runSubstitution_substituted ed r _)

theorem repeatWithSearch_substituted (flags : Text) : (ed.repeatWithSearch r flags).Keeps ed.Substituted := by
  unfold repeatWithSearch
  split
  · exact keeps_error _
  · exact keeps_error _
  · exact keeps_bind fun _ _ => runSubstitution_substituted ed r _

theorem substitute_substituted (t : Text) : (ed.substitute r t).Keeps ed.Substituted :=
  keeps_ite (ed.repeatSubstitution_substituted r [] false) <|
    keeps_bind fun _ _ => runSubstitution_substituted ed r _

variable {ed}

theorem substitutionEvents_remembers {change : Change} (h : change.Keeps ed.Substituted) :
    ed.Remembers (ed.substitutionEvents change) (ed.settle change).1 := by
  cases change with
  | error failure => exact remembers_nil rfl
  | ok result =>
    obtain ⟨s, hlast, hsearches⟩ := h result.1 result.2 rfl
    have hevents : ed.substitutionEvents (.ok result) = [.remembered ed s.pattern] := by
      simp [substitutionEvents, hlast]
    rw [hevents]
    exact remembers_pattern hsearches

theorem globalEvents_remembers (running : Running) (t : Text) (invert : Bool) :
    ed.Remembers (ed.globalEvents running r t) (ed.begunGlobal running r t invert) := by
  unfold globalEvents begunGlobal beginGlobal
  rcases prepareGlobal running r t ed with failure | ⟨g, m, first, last⟩
  · exact remembers_nil rfl
  · dsimp only
    split
    · next h =>
      split at h <;> cases h
      exact remembers_pattern rfl
    · next h =>
      split at h <;> cases h
      exact remembers_pattern rfl

end remembering

section commands
variable (running : Running) {c : Command}

theorem commandEvents_of_not (h : c.resolvesRange = false) (ed : Editor) : ed.commandEvents running c = [] := by
  simp [commandEvents, h]

theorem onRange_remembers (hr : c.resolvesRange) {action : Editor → AddressRange → Result}
    (h : ∀ (ed : Editor) r, ed.Remembers (ed.actionEvents running c r) (action ed r).1) (ed : Editor) :
    ed.Remembers (ed.commandEvents running c) (ed.onRange c c.verb.defaultRange action).1 := by
  have hrange := rangeEvents_remembers c.range c.verb.defaultRange ed
  unfold commandEvents onRange
  rw [if_pos hr]
  generalize ed.resolveRange c.range c.verb.defaultRange = resolved at hrange ⊢
  rcases resolved with ⟨failure | r, ed'⟩
  · exact hrange.append (remembers_nil rfl)
  · exact hrange.append (h ed' r)

/-- A command on a range that does nothing to the last search after its range is resolved. -/
theorem onRange_quiet (hr : c.resolvesRange) (hc : ∀ r (ed : Editor), ed.actionEvents running c r = [])
    {action : Editor → AddressRange → Result} (h : ∀ (ed : Editor) r, (action ed r).1.searches = ed.searches)
    (ed : Editor) : ed.Remembers (ed.commandEvents running c) (ed.onRange c c.verb.defaultRange action).1 :=
  onRange_remembers running hr (fun ed r => hc r ed ▸ remembers_nil (h ed r)) ed

theorem changeRange_quiet (hr : c.resolvesRange) (hc : ∀ r (ed : Editor), ed.actionEvents running c r = [])
    {change : Editor → AddressRange → Change} (h : ∀ ed r, (change ed r).Keeps (·.searches = ed.searches))
    (ed : Editor) : ed.Remembers (ed.commandEvents running c) (ed.changeRange c c.verb.defaultRange change).1 :=
  onRange_quiet running hr hc (fun ed r => settle_searches (h ed r)) ed

theorem reframes_quiet (hr : c.resolvesRange) (hc : ∀ r (ed : Editor), ed.actionEvents running c r = [])
    {change : Editor → AddressRange → Change} (h : ∀ ed r, (change ed r).Keeps ed.Reframes) (ed : Editor) :
    ed.Remembers (ed.commandEvents running c) (ed.changeRange c c.verb.defaultRange change).1 :=
  changeRange_quiet running hr hc (fun ed r => ed.searches_of_reframes (h ed r)) ed

theorem changeRange_substitutes (hr : c.resolvesRange) {change : Editor → AddressRange → Change}
    (hc : ∀ r (ed : Editor), ed.actionEvents running c r = ed.substitutionEvents (change ed r))
    (h : ∀ ed r, (change ed r).Keeps ed.Substituted) (ed : Editor) :
    ed.Remembers (ed.commandEvents running c) (ed.changeRange c c.verb.defaultRange change).1 :=
  onRange_remembers running hr (fun ed r => hc r ed ▸ substitutionEvents_remembers (h ed r)) ed

theorem changeTo_remembers (hr : c.resolvesRange) (hd : c.verb.defaultRange = ['.'])
    (hc : ∀ r (ed : Editor), ed.actionEvents running c r = ed.destinationEvents c.text)
    {change : Editor → AddressRange → Nat → Change}
    (h : ∀ ed r destination, (change ed r destination).Keeps ed.Reframes) (ed : Editor) :
    ed.Remembers (ed.commandEvents running c) (ed.changeTo c change).1 := by
  unfold changeTo
  rw [← hd]
  refine onRange_remembers running hr (fun ed r => ?_) ed
  have hdestination := destinationEvents_remembers c.text ed
  rw [hc]
  generalize ed.resolveDestination c.text = resolved at hdestination ⊢
  rcases resolved with ⟨failure | destination, ed'⟩
  · exact hdestination
  · exact hdestination.congr (settle_searches (ed'.searches_of_reframes (h ed' r destination)))

theorem quiet_of_not (h : c.resolvesRange = false) {ed after : Editor} (hafter : after.searches = ed.searches) :
    ed.Remembers (ed.commandEvents running c) after :=
  commandEvents_of_not running h ed ▸ remembers_nil hafter

theorem enter_quiet {placement : Placement}
    (hv : c.verb = match placement with | .append => .append | .insert => .insert | .change => .change)
    (ed : Editor) : ed.Remembers (ed.commandEvents running c) (ed.enter c placement).1 := by
  unfold enter
  cases hb : isBeforeFirst c && placement != .change with
  | true =>
    have hr : c.resolvesRange = false := by
      cases placement <;> simp_all [Command.resolvesRange]
    exact quiet_of_not running hr (settle_searches (ed.enterText_searches _ _ _))
  | false =>
    have hr : c.resolvesRange := by
      cases placement <;> simp_all [Command.resolvesRange, Verb.takesRange]
    have hd : c.verb.defaultRange = ['.'] := by
      cases placement <;> simp [Verb.defaultRange, hv]
    have hc : ∀ r (ed : Editor), ed.actionEvents running c r = [] := by
      cases placement <;> simp [actionEvents, hv]
    rw [← hd]
    exact changeRange_quiet running hr hc (fun ed r => ed.enterText_searches r placement c.text) ed

theorem putAt_quiet (hv : c.verb = .put) (ed : Editor) :
    ed.Remembers (ed.commandEvents running c) (ed.putAt c).1 := by
  unfold putAt
  cases hb : isBeforeFirst c with
  | true =>
    have hr : c.resolvesRange = false := by simp [Command.resolvesRange, hv, hb]
    exact quiet_of_not running hr (settle_searches (ed.searches_of_reframes (ed.put_reframes _ _)))
  | false =>
    have hr : c.resolvesRange := by simp [Command.resolvesRange, hv, hb]
    have hd : c.verb.defaultRange = ['.'] := by rw [hv]; rfl
    have hc : ∀ r (ed : Editor), ed.actionEvents running c r = [] := by simp [actionEvents, hv]
    rw [← hd]
    exact reframes_quiet running hr hc (fun ed r => keeps_bind fun _ _ => ed.put_reframes _ c.text) ed

theorem bang_quiet (hv : c.verb = .bang) (ed : Editor) :
    ed.Remembers (ed.commandEvents running c)
      (if c.range = [] then ed.shell c.text else ed.onRange c ['.'] fun ed r => ed.filter r c.text).1 := by
  split
  · next hrange =>
    have hr : c.resolvesRange = false := by simp [Command.resolvesRange, hv, hrange]
    exact quiet_of_not running hr (ed.shell_searches c.text)
  · next hrange =>
    have hr : c.resolvesRange := by simp [Command.resolvesRange, hv, hrange]
    have hd : c.verb.defaultRange = ['.'] := by rw [hv]; rfl
    have hc : ∀ r (ed : Editor), ed.actionEvents running c r = [] := by simp [actionEvents, hv]
    rw [← hd]
    exact onRange_quiet running hr hc (fun ed r => ed.filter_searches r c.text) ed

theorem global_remembers (invert : Bool) (hv : c.verb = .global invert) (run : Runner) (ed : Editor) :
    ed.Remembers (ed.commandEvents running c) (ed.worked run running c) := by
  have hr : c.resolvesRange := by rw [Command.resolvesRange, hv]; rfl
  have hd : c.verb.defaultRange = ['%'] := by rw [hv]; rfl
  have hbegins : ∀ (ed : Editor) r, ed.Remembers (ed.actionEvents running c r)
      (ed.begunGlobal running r c.text invert) := fun ed r => by
    have hevents : ed.actionEvents running c r = ed.globalEvents running r c.text := by rw [actionEvents, hv]
    exact hevents ▸ globalEvents_remembers r running c.text invert
  have hrange : ed.Remembers (ed.commandEvents running c)
      (ed.onRange c c.verb.defaultRange fun ed r => (ed.begunGlobal running r c.text invert, .success)).1 :=
    onRange_remembers running hr hbegins ed
  rw [hd] at hrange
  refine hrange.congr ?_
  unfold worked onRange
  rw [hv]
  dsimp only
  rcases ed.resolveRange c.range ['%'] with ⟨failure | r, ed'⟩ <;> rfl

/-- What a command does itself changes the last search where its addresses are resolved, and where it remembers its
pattern. -/
theorem worked_remembers (run : Runner) (c : Command) (ed : Editor) :
    ed.Remembers (ed.commandEvents running c) (ed.worked run running c) := by
  obtain ⟨range, verb, t, bang⟩ := c
  cases verb with
  | goto => exact reframes_quiet running rfl (fun _ _ => rfl) goto_reframes ed
  | append => exact enter_quiet running rfl ed
  | insert => exact enter_quiet running rfl ed
  | change => exact enter_quiet running rfl ed
  | delete => exact changeRange_quiet running rfl (fun _ _ => rfl) (fun ed r => ed.delete_searches r t) ed
  | yank => exact changeRange_quiet running rfl (fun _ _ => rfl) (fun ed r => ed.yank_searches r t) ed
  | put => exact putAt_quiet running rfl ed
  | copy => exact changeTo_remembers running rfl rfl (fun _ _ => rfl) copy_reframes ed
  | move => exact changeTo_remembers running rfl rfl (fun _ _ => rfl) move_reframes ed
  | join => exact reframes_quiet running rfl (fun _ _ => rfl) (fun ed r => ed.join_reframes r bang) ed
  | print => exact reframes_quiet running rfl (fun _ _ => rfl) (fun ed r => ed.print_reframes r false) ed
  | number => exact reframes_quiet running rfl (fun _ _ => rfl) (fun ed r => ed.print_reframes r true) ed
  | lineNumber => exact reframes_quiet running rfl (fun _ _ => rfl) showLineNumber_reframes ed
  | mark => exact reframes_quiet running rfl (fun _ _ => rfl) (fun ed r => ed.setMark_reframes r t) ed
  | shift forward count =>
    exact reframes_quiet running rfl (fun _ _ => rfl) (fun ed r => ed.shift_reframes r forward count) ed
  | sort => exact reframes_quiet running rfl (fun _ _ => rfl) (fun ed r => ed.sort_reframes r t) ed
  | bang => exact bang_quiet running rfl ed
  | substitute =>
    exact changeRange_substitutes running rfl (fun _ _ => rfl) (fun ed r => ed.substitute_substituted r t) ed
  | repeatSubstitute keepFlags =>
    exact changeRange_substitutes running rfl (fun _ _ => rfl)
      (fun ed r => ed.repeatSubstitution_substituted r t keepFlags) ed
  | repeatWithSearch =>
    exact changeRange_substitutes running rfl (fun _ _ => rfl) (fun ed r => ed.repeatWithSearch_substituted r t) ed
  | global invert => exact global_remembers running invert rfl run ed
  | play => exact quiet_of_not running rfl rfl
  | cd => exact quiet_of_not running rfl (settle_searches (ed.changeDirectory_searches t))
  | pwd => exact quiet_of_not running rfl rfl
  | source => exact quiet_of_not running rfl rfl
  | syntaxState => exact quiet_of_not running rfl (settle_searches (ed.switchHighlight_searches t))
  | registers => exact quiet_of_not running rfl rfl
  | marks => exact quiet_of_not running rfl rfl
  | set => exact quiet_of_not running rfl (ed.setOptions_searches t)
  | abbreviate => exact quiet_of_not running rfl (settle_searches (ed.abbreviate_searches t))
  | unabbreviate => exact quiet_of_not running rfl (settle_searches (ed.unabbreviate_searches t))
  | map => exact quiet_of_not running rfl (settle_searches (ed.mapKeys_searches t))
  | unmap => exact quiet_of_not running rfl (settle_searches (ed.unmapKeys_searches t))
  | undo => exact quiet_of_not running rfl rfl
  | noHighlight => exact quiet_of_not running rfl rfl
  | record => exact quiet_of_not running rfl (settle_searches (ed.startRecording_searches t))
  | stop => exact quiet_of_not running rfl (settle_searches ed.stopRecording_searches)

end commands

end Editor

namespace Call
open Editor

theorem searchEvents_remembers (n : Nat) (c : Call) : c.editor.Remembers c.searchEvents (c.worked n) := by
  unfold searchEvents worked workedLine
  rcases Command.parse c.line with failure | _ | command
  · exact remembers_nil rfl
  · exact remembers_nil rfl
  · dsimp only
    split
    · exact remembers_nil rfl
    · exact worked_remembers c.inner (runLine n) command ((c.editor.mapFrame Frame.openGroup).log command)

theorem trace_remembers (n : Nat) (c : Call) :
    c.editor.Remembers ((c.trace n).flatMap searchEvents) (c.result n).1 :=
  trace_carried apart_searches searchEvents_remembers n c

end Call

namespace Editor
open SearchEvent

theorem execute_searches (ed : Editor) (line : Text) :
    (ed.execute line).1.searches = (runLine ed.nestingBound {} line ed.resume).1.searches := by
  have hreport : ∀ (ed : Editor) (outcome : Outcome), (ed.report outcome).searches = ed.searches :=
    fun ed outcome => by
      unfold report
      cases outcome.shown <;> rfl
  unfold execute
  dsimp only
  rw [hreport]
  split <;> rfl

theorem handleMode_searches (ed : Editor) (event : ModeEvent) : (ed.handleMode event).1.searches = ed.searches := by
  unfold handleMode
  dsimp only
  split
  · rfl
  · dsimp only
    split <;> rfl

theorem typeText_searches {ed after : Editor} {t : Text} (h : ed.typeText t = .ok after) :
    after.searches = ed.searches := by
  unfold typeText at h
  split at h
  · cases h
  · dsimp only at h
    split at h <;> cases h
    rfl

theorem insertVariable_searches (ed : Editor) (name : Text) : (ed.insertVariable name).1.searches = ed.searches := by
  have hexpanded : (ed.expandVariable name).2.searches = ed.searches := rfl
  unfold insertVariable
  split
  · rfl
  · generalize ed.expandVariable name = expanded at hexpanded ⊢
    rcases expanded with ⟨failure | t, ed'⟩ <;> exact hexpanded

theorem step_remembers (ed : Editor) {step : Step} (h : step.isAside = false) :
    ed.Remembers (ed.stepEvents step) (ed.step step) := by
  cases step with
  | execute line =>
    exact Remembers.congr (Call.trace_remembers ed.nestingBound ⟨{}, line, ed.resume⟩) (ed.execute_searches line)
  | playMacro name count =>
    exact (apart_searches.play (runLine ed.nestingBound) {} name count ed).flatMap fun c _ =>
      c.trace_remembers ed.nestingBound
  | handleMode event => exact remembers_nil (ed.handleMode_searches event)
  | typeText t =>
    refine remembers_nil ?_
    dsimp only [Editor.step]
    rcases htyped : ed.typeText t with fault | after
    · rfl
    · exact typeText_searches htyped
  | insertVariable name => exact remembers_nil (ed.insertVariable_searches name)
  | undo | setCursor offset | select s | setMark name offset | unsetMark name => exact remembers_nil rfl
  | aside session context host => cases h

theorem steps_remember (ed : Editor) {list : List Step} (h : ∀ step ∈ list, step.isAside = false) :
    ed.Remembers (ed.searchEvents list) (ed.steps list) := by
  induction list generalizing ed with
  | nil => rfl
  | cons step rest ih =>
    obtain ⟨hstep, hrest⟩ := List.forall_mem_cons.mp h
    exact (ed.step_remembers hstep).append (ih (ed.step step) hrest)

end Editor

namespace SearchEvent
variable {e : SearchEvent}

/-- In a jump to a tag no event changes the last search. -/
theorem left_of_tagJump (h : e.editor.session.tagJump) : e.left = e.editor.context.lastSearch := by
  cases e with
  | address ed allowZero expression =>
    have hforgets : ed.searchRule.remember = false := by
      have htagJump : ed.session.tagJump = true := h
      rw [Editor.searchRule, htagJump]
      rfl
    rcases Address.finds_or_left ed.frame ed.searchRule allowZero ed.context.lastSearch expression with
      ⟨pattern, hfinds⟩ | hleft
    · exact (hfinds.remembered allowZero).trans (if_neg (by simp [hforgets]))
    · exact hleft
  | remembered ed pattern => exact (ed.left_remembered pattern).trans (if_pos h)

/-- Otherwise an event with a pattern makes it the last search. -/
theorem left_of_uses (h : e.editor.session.tagJump = false) {pattern : Text} (hu : e.Uses pattern) :
    e.left = some pattern := by
  cases e with
  | address ed allowZero expression =>
    have hremembers : ed.searchRule.remember := by
      have htagJump : ed.session.tagJump = false := h
      rw [Editor.searchRule, htagJump]
      rfl
    exact (Address.Finds.remembered hu allowZero).trans (if_pos hremembers)
  | remembered ed used =>
    obtain rfl : used = pattern := hu
    have hclear : ¬ ed.session.tagJump := by simpa [editor] using h
    exact (ed.left_remembered used).trans (if_neg hclear)

/-- An address that is no search, or one that comes to no line, changes nothing. -/
theorem left_of_not_uses (h : ∀ pattern, ¬ e.Uses pattern) : e.left = e.editor.context.lastSearch := by
  cases e with
  | address ed allowZero expression =>
    exact (Address.finds_or_left _ _ allowZero _ _).resolve_left fun ⟨pattern, hfinds⟩ => h pattern hfinds
  | remembered ed pattern => exact absurd rfl (h pattern)

end SearchEvent

namespace Editor

/-- The last search over any lines that are typed and macros that are played, whatever they run and whether they
succeed or fail. It goes from one event to the next, and nothing else changes it. In a jump to a tag each event leaves
it as it was in the beginning, and so does the whole run. Otherwise each search of an address that comes to a line
makes its pattern the last search, also one that it has taken from there, and an address that is no search or comes to
no line changes nothing. -/
theorem tagJump_keeps_lastSearch (ed : Editor) {list : List Step} (h : ∀ step ∈ list, step.isAside = false) :
    ed.Remembers (ed.searchEvents list) (ed.steps list) ∧
      (ed.session.tagJump →
        (ed.steps list).context.lastSearch = ed.context.lastSearch ∧
          ∀ e ∈ ed.searchEvents list, e.left = ed.context.lastSearch) ∧
      (ed.session.tagJump = false →
        ∀ e ∈ ed.searchEvents list, (∀ pattern, e.Uses pattern → e.left = some pattern) ∧
          ((∀ pattern, ¬ e.Uses pattern) → e.left = e.editor.context.lastSearch)) := by
  have hrun := ed.steps_remember h
  have hflag : ∀ e ∈ ed.searchEvents list, e.editor.session.tagJump = ed.session.tagJump :=
    (Carried.keeps (p := Prod.fst) hrun fun _ _ => rfl).1
  refine ⟨hrun, fun hjump => ?_, fun hclear e he => ?_⟩
  · have hleft : ∀ e ∈ ed.searchEvents list, e.left = e.editor.context.lastSearch := fun e he =>
      SearchEvent.left_of_tagJump ((hflag e he).trans hjump)
    obtain ⟨hfound, hlast⟩ := Carried.keeps (p := Prod.snd) hrun hleft
    exact ⟨hlast, fun e he => (hleft e he).trans (hfound e he)⟩
  · exact ⟨fun pattern => SearchEvent.left_of_uses ((hflag e he).trans hclear), SearchEvent.left_of_not_uses⟩

/-- An editor with a last search, in a jump to a tag or not. -/
def searching (tagJump : Bool) : Editor where
  session := { frame := .ofText "a\nb\nc\n".toList, tagJump }
  context := { lastSearch := some ['y'] }

/-- Two searches in a range, one of them again for the pattern of the other, then a global command whose line
substitutes, then searches in the range and the destination of a command that fails. -/
theorem tagJump_keeps_lastSearch_nested :
    let list := [Step.execute "/b/;//p".toList, .execute "g/a/+1s/b/x/".toList, .execute "1,?c?m/c/".toList]
    ((searching true).steps list).context.lastSearch = some ['y'] ∧
      ((searching false).searchEvents list).map (·.left) =
        [some ['b'], some ['b'], some ['a'], some ['a'], some ['b'], some ['b'], some ['c'], some ['c']] ∧
      ((searching false).steps list).context.lastSearch = some ['c'] ∧
      ∀ e ∈ (searching false).searchEvents list, ∀ pattern, e.Uses pattern → e.left = some pattern := by
  intro list
  have hlist : ∀ step ∈ list, step.isAside = false := by simp [list, Step.isAside]
  have hjump := ((searching true).tagJump_keeps_lastSearch hlist).2.1 rfl
  have hclear := ((searching false).tagJump_keeps_lastSearch hlist).2.2 rfl
  exact ⟨hjump.1, by decide +kernel, by decide +kernel, fun e he => (hclear e he).1⟩

end Editor
end ExEditor
