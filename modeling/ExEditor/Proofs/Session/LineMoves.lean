import ExEditor.Proofs.Address.Bounds
import ExEditor.Proofs.Frame.WholeLines
import ExEditor.Proofs.Session.Change
import ExEditor.Proofs.Substitution.Moves
import ExEditor.Session.Execute

/-! Where the verbs that edit lines take the lines of the text, and that the marks of lines go with them. -/
namespace ExEditor

theorem bind_ok {ε α β : Type} {x : Except ε α} {f : α → Except ε β} {b : β} (h : (x >>= f) = .ok b) :
    ∃ a, x = .ok a ∧ f a = .ok b := by
  cases x with
  | error e => cases h
  | ok a => exact ⟨a, rfl, h⟩

/-- Whether a verb puts, takes out or replaces whole lines. -/
def Verb.editsWholeLines : Verb → Bool
  | append | insert | change | delete | copy => true
  | _ => false

/-- Whether a verb edits lines and leaves it at that. -/
def Verb.editsLines : Verb → Bool
  | join | substitute | shift _ _ => true
  | verb => verb.editsWholeLines

/-- Where the mark of a line is to be for a verb to take it along. -/
def Verb.stands (verb : Verb) : Text → Nat → Nat → Prop :=
  if verb.editsWholeLines then Text.AtStart else Text.On

theorem AddressRange.editable_checked {r : AddressRange} {f : Frame} {lines : Nat × Nat}
    (h : r.editable f = .ok lines) : r.checked = .ok lines := by
  obtain ⟨lines', hr, h⟩ := bind_ok h
  split at h <;> cases h
  exact hr

theorem isPlain_indentUnit (settings : Settings) : settings.indentUnit.IsPlain := by
  intro c hc
  unfold Settings.indentUnit at hc
  split at hc
  · rw [List.eq_of_mem_replicate hc]
    rfl
  · rw [List.mem_singleton.mp hc]
    rfl

namespace Editor

/-- Number of lines that a text makes when it is entered. -/
def enteredCount (ed : Editor) (t : Text) : Nat :=
  (expandAbbreviations ed.shelf.store.abbreviations t ++ ed.frame.eol).count '\n'

/-- The substitution that a text writes, or the last one without its flags if the text is blank. -/
def writtenSubstitution (ed : Editor) (t : Text) : Except Failure Substitution :=
  if t.isBlank then
    match ed.context.lastSubstitution with
    | none => .error (.malformed .noPreviousSubstitution)
    | some s => .ok { s with flags := {} }
  else Substitution.parse t (ed.context.lastSubstitution.map (·.replacement))

/-- The substitution that a text writes, its matcher, and the lines of its range. -/
def substituting (ed : Editor) (r : AddressRange) (t : Text) :
    Except Failure (Substitution × Matcher × Nat × Nat) := do
  let s ← ed.writtenSubstitution t
  let (first, last) ← r.checked
  let m ← s.matcher ed.context.settings.ignoreCase
  return (s, m, first, last)

/-- Where entering text at the lines of a range takes lines. -/
def enterMove (ed : Editor) (first last : Nat) (t : Text) : Placement → LineMove
  | .append => .splice (last + 1) 0 (ed.enteredCount t)
  | .insert => .splice first 0 (ed.enteredCount t)
  | .change => (ed.frame.cutMove first last).andThen (.splice first 0 (ed.enteredCount t))

/-- Where a command takes lines that edits the lines of a range. -/
def rangeMove (ed : Editor) (c : Command) (r : AddressRange) : Except Failure LineMove :=
  match c.verb with
  | .append => r.checked.map fun (first, last) => ed.enterMove first last c.text .append
  | .insert => r.checked.map fun (first, last) => ed.enterMove first last c.text .insert
  | .change => r.checked.map fun (first, last) => ed.enterMove first last c.text .change
  | .delete => do
    let (_, count) ← readRegisterAndCount c.text
    let (first, last) ← (r.counted ed.frame count).checked
    return ed.frame.cutMove first last
  | .copy => do
    let (first, last) ← r.checked
    let destination ← (ed.resolveDestination c.text).1
    return .splice destination 0 (last + 1 - first)
  | .join => do
    let (first, last) ← r.checked
    let last := if first = last then last + 1 else last
    return .splice (first + 1) (last - first) 0
  | .substitute => do
    let (s, m, first, last) ← ed.substituting r c.text
    let verdict := s.judged m ed.frame.text first last ed.host
    return fun line => some (s.newLine ed.frame.text verdict.accepted line)
  | _ => .ok some

/-- Where a command that edits lines takes each line of the text, as told by the editor in which the command
is carried out. Lines that are deleted, changed or joined to another are removed. -/
def lineMove (ed : Editor) (c : Command) : LineMove :=
  if isBeforeFirst c && (c.verb = .append || c.verb = .insert) then .splice 0 0 (ed.enteredCount c.text)
  else
    match ed.resolveRange c.range ['.'] with
    | (.error _, _) => some
    | (.ok r, ed) => (ed.rangeMove c r).toOption.getD some

/-- Whether a command puts no carriage return into the text by substituting. -/
def SubstitutesPlainly (ed : Editor) (c : Command) : Prop :=
  c.verb = .substitute → ∀ r ed', ed.resolveRange c.range ['.'] = (.ok r, ed') → ∀ s m first last,
    ed'.substituting r c.text = .ok (s, m, first, last) →
      ∀ site ∈ s.sites m ed.frame.text first last, '\r' ∉ s.expansion (ed.frame.text.line site.line) site.found

/-- A command that takes the marks of lines where it takes the lines. The mark of a line that is joined to
another is left out. -/
structure Follows (c : Command) (f g : Frame) (move : LineMove) : Prop where
  streaming : g.streaming = f.streaming
  tracks : ∀ k line, f.Tracks c.verb.stands k line → (c.verb = .join → ∀ p ∈ line, move p ≠ none) →
    g.Tracks c.verb.stands k (line.bind move)

section verbs
variable {ed ed' : Editor} {c : Command} {r : AddressRange} {outcome : Outcome}

theorem Follows.of_carries {f g : Frame} {move : LineMove} (h : Frame.Carries c.verb.stands f g move) :
    Follows c f g move :=
  ⟨h.streaming, fun k line hk _ => h.tracks k line hk⟩

theorem enterText_carries (hp : ed.frame.text.returnsPaired) {placement : Placement} {t : Text}
    (h : ed.enterText r placement t = .ok (ed', outcome)) :
    ∃ first last, r.checked = .ok (first, last) ∧
      Frame.Carries Text.AtStart ed.frame ed'.frame (ed.enterMove first last t placement) := by
  obtain ⟨⟨first, last⟩, hr, h⟩ := bind_ok h
  have hr := AddressRange.editable_checked hr
  cases h
  refine ⟨first, last, hr, ?_⟩
  cases placement with
  | append => exact Frame.carries_insertLine hp _ _
  | insert => exact Frame.carries_insertLine hp _ _
  | change => exact Frame.carries_changeLines hp (AddressRange.checked_le hr).1 _

/-- A command that takes the marks of lines where its range takes the lines. -/
def FollowsRange (ed : Editor) (c : Command) (r : AddressRange) (g : Frame) : Prop :=
  ∃ move, ed.rangeMove c r = .ok move ∧ Follows c ed.frame g move

theorem FollowsRange.of_carries {move : LineMove} {stands : Text → Nat → Nat → Prop}
    (hm : ed.rangeMove c r = .ok move) (hv : c.verb.stands = stands)
    (h : Frame.Carries stands ed.frame ed'.frame move) : FollowsRange ed c r ed'.frame :=
  ⟨move, hm, .of_carries (hv ▸ h)⟩

theorem delete_follows (hp : ed.frame.text.returnsPaired) (hv : c.verb = .delete)
    (h : ed.delete r c.text = .ok (ed', outcome)) : FollowsRange ed c r ed'.frame := by
  obtain ⟨⟨register, count⟩, hread, h⟩ := bind_ok h
  obtain ⟨⟨first, last⟩, hr, h⟩ := bind_ok h
  have hr := AddressRange.editable_checked hr
  have hcarries := Frame.carries_deleteLines hp (AddressRange.checked_le hr).1
  have hmove : ed.rangeMove c r = .ok (ed.frame.cutMove first last) := by
    unfold rangeMove
    rw [hv]
    simp only [hread, hr, bind, Except.bind]
    rfl
  have hstands : c.verb.stands = Text.AtStart := by rw [hv]; rfl
  cases h
  exact .of_carries hmove hstands hcarries

theorem resolveDestination_frame {t : Text} {line : Except Failure Nat} {ed₁ : Editor}
    (h : ed.resolveDestination t = (line, ed₁)) : ed₁.frame = ed.frame := by
  unfold resolveDestination at h
  split at h <;> cases h <;> rfl

theorem copy_follows (hp : ed.frame.text.returnsPaired) (hv : c.verb = .copy)
    (hl : r.last.line ≤ ed.frame.text.lineCount) {destination : Nat} {ed₁ : Editor}
    (hd : ed.resolveDestination c.text = (.ok destination, ed₁))
    (h : ed₁.copy r destination = .ok (ed', outcome)) : FollowsRange ed c r ed'.frame := by
  have hf : ed₁.frame = ed.frame := resolveDestination_frame hd
  obtain ⟨⟨first, last⟩, hr, h⟩ := bind_ok h
  have hr := AddressRange.editable_checked hr
  obtain ⟨hle, -, hlast⟩ := AddressRange.checked_le hr
  have hcarries := Frame.carries_copyLines hp hle (show last < ed.frame.text.lineCount by omega) destination
  have hmove : ed.rangeMove c r = .ok (.splice destination 0 (last + 1 - first)) := by
    unfold rangeMove
    rw [hv]
    simp only [hr, hd, bind, Except.bind]
    rfl
  have hstands : c.verb.stands = Text.AtStart := by rw [hv]; rfl
  cases h
  refine .of_carries hmove hstands ?_
  change Frame.Carries _ _ (ed₁.frame.copyLines first last destination) _
  rwa [hf]

theorem shift_follows (hp : ed.frame.text.returnsPaired) {forward : Bool} {count : Nat}
    (hv : c.verb = .shift forward count) (hl : r.last.line ≤ ed.frame.text.segments.length)
    (h : ed.shift r forward count = .ok (ed', outcome)) : FollowsRange ed c r ed'.frame := by
  obtain ⟨⟨first, last⟩, hr, h⟩ := bind_ok h
  obtain ⟨-, -, hlast⟩ := AddressRange.checked_le (AddressRange.editable_checked hr)
  have hcount := Text.segments_length_paired hp
  have hindent : Text.IsPlain (List.replicate count ed.context.settings.indentUnit).flatten := by
    intro c hc
    obtain ⟨unit, hunit, hc⟩ := List.mem_flatten.mp hc
    rw [List.eq_of_mem_replicate hunit] at hc
    exact isPlain_indentUnit _ c hc
  have hmove : ed.rangeMove c r = .ok some := by
    unfold rangeMove
    rw [hv]
  have hstands : c.verb.stands = Text.On := by rw [hv]; rfl
  cases h
  refine .of_carries hmove hstands (Frame.carries_eachLine hp (fun g n hg hn => ?_) (by omega))
  split
  · exact Frame.reworded_indentLine hg hn hindent
  · exact Frame.reworded_outdentLine hg hn _ _

/-- Lines that stay apart are taken where they are by joining others. -/
theorem fuse_eq_splice {first joined line : Nat} (h : LineMove.splice (first + 1) joined 0 line ≠ none) :
    LineMove.fuse first joined 0 line = LineMove.splice (first + 1) joined 0 line := by
  unfold LineMove.splice at h ⊢
  unfold LineMove.fuse
  rcases Nat.lt_or_ge line (first + 1) with hlt | hge
  · rw [if_pos hlt]
    split
    · rfl
    · rw [if_pos (by omega)]
      exact congrArg some (by omega)
  · rw [if_neg (Nat.not_lt.mpr hge)] at h ⊢
    split at h
    · exact absurd rfl h
    · next hout => rw [if_neg hout, if_neg (by omega), if_neg (by omega)]

theorem join_follows (hp : ed.frame.text.returnsPaired) (hs : ed.frame.streaming = false) (hv : c.verb = .join)
    {asIs : Bool} (h : ed.join r asIs = .ok (ed', outcome)) : FollowsRange ed c r ed'.frame := by
  obtain ⟨⟨first, last⟩, hr, h⟩ := bind_ok h
  have hr := AddressRange.editable_checked hr
  obtain ⟨hf, -, -⟩ := AddressRange.checked_le hr
  have hcount : ed.frame.lineCount?.getD (last + 1) = ed.frame.text.lineCount := by
    rw [Frame.lineCount?_eq hs, Option.getD_some]
  have hsegments := ed.frame.text.lineCount_le_segments
  rw [Text.segments_length_paired hp] at hsegments
  dsimp only at h
  rw [hcount] at h
  generalize hlast : (if first = last then last + 1 else last) = last' at h
  have hf' : first ≤ last' := by split at hlast <;> omega
  have hmove : ed.rangeMove c r = .ok (.splice (first + 1) (last' - first) 0) := by
    unfold rangeMove
    rw [hv]
    simp only [hr, bind, Except.bind, hlast]
    rfl
  refine ⟨_, hmove, ?_⟩
  split at h
  · cases h
  · next hin =>
    have hcarries := Frame.carries_joinLines hp hf' (by omega) asIs
    cases h
    refine ⟨hcarries.streaming, fun k line hk hstays => ?_⟩
    have hstands : c.verb.stands = Text.On := by rw [hv]; rfl
    rw [hstands] at hk ⊢
    have hmoved := hcarries.tracks k line hk
    cases line with
    | none => exact hmoved
    | some line =>
      rwa [Option.bind_some, fuse_eq_splice (hstays hv line rfl)] at hmoved

theorem substitute_eq (ed : Editor) (r : AddressRange) (t : Text) :
    ed.substitute r t = ed.writtenSubstitution t >>= ed.runSubstitution r := by
  unfold substitute writtenSubstitution repeatSubstitution
  split
  · cases ed.context.lastSubstitution <;> rfl
  · rfl

theorem substitute_follows (hp : ed.frame.text.returnsPaired) (hv : c.verb = .substitute)
    (hl : r.last.line ≤ ed.frame.text.segments.length)
    (hx : ∀ s m first last, ed.substituting r c.text = .ok (s, m, first, last) →
      ∀ site ∈ s.sites m ed.frame.text first last, '\r' ∉ s.expansion (ed.frame.text.line site.line) site.found)
    (h : ed.substitute r c.text = .ok (ed', outcome)) : FollowsRange ed c r ed'.frame := by
  rw [substitute_eq] at h
  obtain ⟨s, hs, h⟩ := bind_ok h
  obtain ⟨⟨first, last⟩, hr, h⟩ := bind_ok h
  obtain ⟨m, hm, h⟩ := bind_ok h
  have hr := AddressRange.editable_checked hr
  obtain ⟨hf, -, hlast⟩ := AddressRange.checked_le hr
  have hsubstituting : ed.substituting r c.text = .ok (s, m, first, last) := by
    simp only [substituting, hs, hr, hm, bind, Except.bind]
    rfl
  have hcarries := s.run_carries m hp hf (show last < ed.frame.text.segments.length by omega) ed.host
    (hx s m first last hsubstituting)
  have hmove : ed.rangeMove c r = .ok fun line =>
      some (s.newLine ed.frame.text (s.judged m ed.frame.text first last ed.host).accepted line) := by
    unfold rangeMove
    rw [hv]
    simp only [hsubstituting, bind, Except.bind]
    rfl
  have hstands : c.verb.stands = Text.On := by rw [hv]; rfl
  cases h
  refine .of_carries hmove hstands ?_
  change Frame.Carries _ _ (Editor.rememberSearch _ _).frame _
  rw [rememberSearch_frame]
  exact hcarries

theorem settle_ok {change : Change} (h : ed.settle change = (ed', outcome)) (hok : outcome.isFailure = false) :
    change = .ok (ed', outcome) := by
  rcases change with failure | result
  · cases h
    cases hok
  · exact congrArg Except.ok h

theorem onRange_ok {default : Text} {action : Editor → AddressRange → Result}
    (h : ed.onRange c default action = (ed', outcome)) (hok : outcome.isFailure = false) :
    ∃ r ed₁, ed.resolveRange c.range default = (.ok r, ed₁) ∧ action ed₁ r = (ed', outcome) := by
  unfold onRange at h
  rcases hr : ed.resolveRange c.range default with ⟨failure | r, ed₁⟩ <;> rw [hr] at h
  · cases h
    cases hok
  · exact ⟨r, ed₁, rfl, h⟩

theorem changeRange_ok {default : Text} {change : Editor → AddressRange → Change}
    (h : ed.changeRange c default change = (ed', outcome)) (hok : outcome.isFailure = false) :
    ∃ r ed₁, ed.resolveRange c.range default = (.ok r, ed₁) ∧ change ed₁ r = .ok (ed', outcome) := by
  obtain ⟨r, ed₁, hr, h⟩ := onRange_ok h hok
  exact ⟨r, ed₁, hr, settle_ok h hok⟩

/-- A range that is resolved: the editor has at most moved its cursor, and the range ends at a line of the text,
or behind the last one where the cursor was there. -/
structure Resolved (ed : Editor) (r : AddressRange) (ed₁ : Editor) : Prop where
  frame : ∃ cursor, ed₁.frame = { ed.frame with cursor }
  text : ed₁.frame.text = ed.frame.text
  streaming : ed₁.frame.streaming = ed.frame.streaming
  segments : r.last.line ≤ ed.frame.text.segments.length
  lines : ed.frame.cursorLine < ed.frame.text.lineCount → r.last.line ≤ ed.frame.text.lineCount

theorem resolveRange_ok (hs : ed.frame.streaming = false) {t default : Text} {ed₁ : Editor}
    (h : ed.resolveRange t default = (.ok r, ed₁)) : Resolved ed r ed₁ := by
  have hcount := Frame.lineCount?_eq hs
  obtain ⟨cursor, hf⟩ := Address.resolveRange_frame ed.frame ed.searchRule ed.context.lastSearch
    (if t.isBlank then default else t)
  have hframe : ed₁.frame = { ed.frame with cursor } := (congrArg (·.2.frame) h).symm.trans hf
  have hlands := (Address.resolveRange_lands hcount (congrArg Prod.fst h)).2
  have hsegments := ed.frame.text.lineCount_le_segments
  refine ⟨⟨cursor, hframe⟩, by rw [hframe], by rw [hframe], ?_, fun hlt => ?_⟩
  · rcases hlands with ⟨-, hin⟩ | ⟨hcursor, hbehind⟩
    · exact Nat.le_trans hin hsegments
    · have hle : ed.frame.cursorLine ≤ ed.frame.text.breakCount := ed.frame.text.lineAt_le _
      rw [hbehind, ed.frame.text.segments_length]
      exact Nat.succ_le_succ (hcursor ▸ hle)
  · rcases hlands with ⟨-, hin⟩ | ⟨hcursor, -⟩
    · exact hin
    · exact absurd hcursor (Nat.ne_of_lt hlt)

/-- Resolving a range leaves text and line marks alone. -/
theorem Follows.of_cursor {f f₁ g : Frame} {move : LineMove} (hf : ∃ cursor, f₁ = { f with cursor })
    (h : Follows c f₁ g move) : Follows c f g move := by
  obtain ⟨cursor, rfl⟩ := hf
  exact ⟨h.streaming, fun k line hk => h.tracks k line hk⟩

theorem lineMove_of_range {ed₁ : Editor} {move : LineMove} (hr : ed.resolveRange c.range ['.'] = (.ok r, ed₁))
    (hb : isBeforeFirst c = false ∨ c.verb ≠ .append ∧ c.verb ≠ .insert) (hm : ed₁.rangeMove c r = .ok move) :
    ed.lineMove c = move := by
  have hbefore : ¬ (isBeforeFirst c && (c.verb = .append || c.verb = .insert)) := by
    rcases hb with hb | ⟨ha, hi⟩
    · simp [hb]
    · simp [ha, hi]
  unfold lineMove
  rw [if_neg hbefore, hr]
  dsimp only
  rw [hm]
  rfl

/-- What a command does to a range that has been resolved it does to the lines that the range is written for. -/
theorem FollowsRange.resolved {ed₁ : Editor} {g : Frame} (h : FollowsRange ed₁ c r g)
    (hs : ed.frame.streaming = false) (hr : ed.resolveRange c.range ['.'] = (.ok r, ed₁))
    (hb : isBeforeFirst c = false ∨ c.verb ≠ .append ∧ c.verb ≠ .insert) :
    Follows c ed.frame g (ed.lineMove c) := by
  obtain ⟨move, hm, hf⟩ := h
  rw [lineMove_of_range hr hb hm]
  exact hf.of_cursor (resolveRange_ok hs hr).frame

/-- The verb that enters text where a placement says. -/
def Placement.verb : Placement → Verb
  | .append => .append
  | .insert => .insert
  | .change => .change

theorem Placement.verb_stands (placement : Placement) : placement.verb.stands = Text.AtStart := by
  cases placement <;> rfl

theorem rangeMove_of_placement {placement : Placement} (hv : c.verb = placement.verb) {first last : Nat}
    (hr : r.checked = .ok (first, last)) : ed.rangeMove c r = .ok (ed.enterMove first last c.text placement) := by
  unfold rangeMove
  rw [hv]
  cases placement <;> simp [Placement.verb, hr, Except.map]

/-- Entering text takes the marks of lines along. -/
theorem enter_follows (hp : ed.frame.text.returnsPaired) (hs : ed.frame.streaming = false) {placement : Placement}
    (hv : c.verb = placement.verb) (h : ed.enter c placement = (ed', outcome))
    (hok : outcome.isFailure = false) : Follows c ed.frame ed'.frame (ed.lineMove c) := by
  have hstands : c.verb.stands = Text.AtStart := hv ▸ placement.verb_stands
  unfold enter at h
  split at h
  · next hb =>
    rw [Bool.and_eq_true] at hb
    obtain ⟨first, last, hr, hcarries⟩ := enterText_carries hp (settle_ok h hok)
    have hfirst : first = 0 := by
      obtain ⟨-, hline, -⟩ := AddressRange.checked_le hr
      have hone : (AddressRange.ofLines ed.frame 1 1).first.line = 1 := by
        have hcount := Frame.lineCount?_eq hs
        simp only [AddressRange.ofLines, Address.ofLine, Address.clampLine, hcount, maxWord,
          Bool.false_eq_true, ↓reduceIte]
        omega
      omega
    have hmove : ed.lineMove c = .splice 0 0 (ed.enteredCount c.text) := by
      unfold lineMove
      rw [hv]
      cases placement with
      | change => cases hb.2
      | _ => simp [hb.1, Placement.verb]
    rw [hmove]
    rw [hfirst] at hcarries
    exact .of_carries (by rw [hstands]; exact hcarries)
  · next hb =>
    obtain ⟨r, ed₁, hr, h⟩ := changeRange_ok h hok
    have hresolved := resolveRange_ok hs hr
    obtain ⟨first, last, hchecked, hcarries⟩ := enterText_carries (hresolved.text ▸ hp) h
    have hbefore : isBeforeFirst c = false ∨ c.verb ≠ .append ∧ c.verb ≠ .insert := by
      rw [hv]
      cases placement with
      | change => exact .inr ⟨by simp [Placement.verb], by simp [Placement.verb]⟩
      | _ => exact .inl (by simpa using hb)
    have hfollows : FollowsRange ed₁ c r ed'.frame :=
      .of_carries (rangeMove_of_placement hv hchecked) hstands hcarries
    exact hfollows.resolved hs hr hbefore

/-- A command that edits lines takes the marks of lines where it takes the lines. -/
theorem dispatch_follows (run : Runner) (running : Running) (hv : c.verb.editsLines)
    (hp : ed.frame.text.returnsPaired) (hs : ed.frame.streaming = false)
    (hcursor : c.verb = .copy → ed.frame.cursorLine < ed.frame.text.lineCount) (hx : ed.SubstitutesPlainly c)
    (h : dispatch run running c ed = (ed', outcome)) (hok : outcome.isFailure = false) :
    Follows c ed.frame ed'.frame (ed.lineMove c) := by
  unfold dispatch at h
  cases hverb : c.verb with
  | append => rw [hverb] at h; exact enter_follows hp hs (show c.verb = Placement.verb .append from hverb) h hok
  | insert => rw [hverb] at h; exact enter_follows hp hs (show c.verb = Placement.verb .insert from hverb) h hok
  | change => rw [hverb] at h; exact enter_follows hp hs (show c.verb = Placement.verb .change from hverb) h hok
  | delete =>
    rw [hverb] at h
    obtain ⟨r, ed₁, hr, h⟩ := changeRange_ok h hok
    have hresolved := resolveRange_ok hs hr
    exact (delete_follows (hresolved.text ▸ hp) hverb h).resolved hs hr (.inr (by simp [hverb]))
  | copy =>
    rw [hverb] at h
    obtain ⟨r, ed₁, hr, h⟩ := onRange_ok h hok
    have hresolved := resolveRange_ok hs hr
    have hlines : r.last.line ≤ ed₁.frame.text.lineCount := hresolved.text ▸ hresolved.lines (hcursor hverb)
    rcases hd : ed₁.resolveDestination c.text with ⟨failure | destination, ed₂⟩ <;> rw [hd] at h
    · cases h
      cases hok
    · exact (copy_follows (hresolved.text ▸ hp) hverb hlines hd (settle_ok h hok)).resolved hs hr
        (.inr (by simp [hverb]))
  | join =>
    rw [hverb] at h
    obtain ⟨r, ed₁, hr, h⟩ := changeRange_ok h hok
    have hresolved := resolveRange_ok hs hr
    exact (join_follows (hresolved.text ▸ hp) (hresolved.streaming.trans hs) hverb h).resolved hs hr
      (.inr (by simp [hverb]))
  | shift forward count =>
    rw [hverb] at h
    obtain ⟨r, ed₁, hr, h⟩ := changeRange_ok h hok
    have hresolved := resolveRange_ok hs hr
    exact (shift_follows (hresolved.text ▸ hp) hverb (hresolved.text ▸ hresolved.segments) h).resolved hs hr
      (.inr (by simp [hverb]))
  | substitute =>
    rw [hverb] at h
    obtain ⟨r, ed₁, hr, h⟩ := changeRange_ok h hok
    have hresolved := resolveRange_ok hs hr
    exact (substitute_follows (hresolved.text ▸ hp) hverb (hresolved.text ▸ hresolved.segments)
      (fun s m first last hs => hresolved.text ▸ hx hverb r ed₁ hr s m first last hs) h).resolved hs hr
        (.inr (by simp [hverb]))
  | _ =>
    rw [hverb] at hv
    cases hv

end verbs

end Editor
end ExEditor
