import ExEditor.Proofs.Session.Calls
import ExEditor.Proofs.Session.LineMoves
import ExEditor.Proofs.Session.Stepwise

/-! The lines that a global command visits. Its marks go with the lines, so a command that edits lines is run on
each line that was marked and is still there, in the order of the lines. -/
namespace ExEditor

theorem ok_of_isOk {ε α : Type} {x : Except ε α} (h : x.isOk) (default : α) :
    x = .ok (x.toOption.getD default) := by
  cases x with
  | error e => cases h
  | ok a => rfl

theorem Verb.isSingle_of_editsLines {verb : Verb} (h : verb.editsLines) :
    verb.isSingle ∧ verb.takesRange ∧ verb ≠ .undo := by
  cases verb <;> simp_all [editsLines, editsWholeLines, isSingle, takesRange]

/-- Where the mark of a line is to be for a verb to work on that line. -/
structure Verb.Meets (verb : Verb) (t : Text) (offset line : Nat) : Prop extends Text.On t offset line where
  shown : verb.editsWholeLines → t.returnsPaired → line < t.lineCount

theorem Verb.Meets.of_stands {verb : Verb} {t : Text} {offset line : Nat} (h : verb.stands t offset line) :
    verb.Meets t offset line := by
  unfold Verb.stands at h
  split at h
  · exact ⟨h.toOn, fun _ hp => h.lt_lineCount hp⟩
  · next hv => exact ⟨h, fun hw => absurd hw hv⟩

theorem Frame.lineStart_on {f : Frame} (hp : f.text.returnsPaired) {k : Nat} (hk : k < f.text.lineCount) :
    f.text.On (f.lineStart k) k := by
  have hsegments := f.text.lineCount_le_segments
  rw [Text.segments_length_paired hp] at hsegments
  exact ⟨f.lineStart_le k, Text.count_take_lineStart hp (by omega)⟩

namespace Editor

section marked
variable (f : Frame)

/-- The lines that are marked, told by their texts. -/
theorem matchedLines_eq (m : Matcher) (invert : Bool) (first last : Nat) :
    matchedLines f m invert first last =
      (Frame.lineRange first last).filter fun n => m.isMatch (f.line n) != invert := by
  unfold matchedLines Frame.lineTexts Frame.lineRange
  generalize last + 1 - first = count
  induction count generalizing first with
  | zero => rfl
  | succ count ih =>
    have hline : f.line first = Text.lineBody (f.text.segments.getD first []) := f.text.line_eq first
    rw [List.range'_succ, List.map_cons, List.zipIdx_cons, List.filter_cons, List.filter_cons, hline]
    dsimp only
    split
    · rw [List.map_cons, ih]
    · exact ih (first + 1)

theorem matchedLines_ascending (m : Matcher) (invert : Bool) (first last : Nat) :
    (matchedLines f m invert first last).Pairwise (· < ·) := by
  rw [matchedLines_eq]
  exact (List.pairwise_lt_range' 1).filter _

theorem mem_matchedLines {m : Matcher} {invert : Bool} {first last k : Nat} :
    k ∈ matchedLines f m invert first last ↔
      (first ≤ k ∧ k ≤ last) ∧ m.isMatch (f.line k) ≠ invert := by
  rw [matchedLines_eq, List.mem_filter, Frame.lineRange, List.mem_range'_1, bne_iff_ne]
  refine and_congr_left fun _ => ?_
  omega

/-- Each marked line has one mark, where it starts. -/
theorem offsets_markLines {lines : List Nat} {k : Nat}
    (h : k ∈ lines ∨ f.offsets (.line k) = [f.lineStart k]) :
    (markLines f lines).offsets (.line k) = [f.lineStart k] := by
  induction lines generalizing f with
  | nil => exact h.resolve_left List.not_mem_nil
  | cons line lines ih =>
    refine ih (f.setMark (.line line) (f.lineStart line)) ?_
    rcases eq_or_ne k line with rfl | hne
    · right
      rw [f.offsets_setMark_self]
      exact congrArg (fun offset => [offset]) (Nat.min_eq_left (f.lineStart_le k))
    · rw [f.offsets_setMark_ne (by simpa using hne)]
      exact h.imp_left fun hk => (List.mem_cons.mp hk).resolve_left hne

end marked

section lines
variable {n : Nat} {running : Running} {line : Text} {ed ed' : Editor} {c : Command} {outcome : Outcome}

/-- The editor in which a command is carried out when its line is run. -/
def begun (ed : Editor) (c : Command) : Editor := (ed.mapFrame Frame.openGroup).log c

theorem runLine_of_parse (hc : Command.parse line = .ok (some c)) (hv : c.verb.takesRange) :
    runLine (n + 1) running line ed =
      let (after, outcome) := dispatch (runLine n) { running with invoking := running.invoking ++ [line] } c
        (ed.begun c)
      (after.mapFrame Frame.closeGroup, outcome) := by
  unfold runLine runParsed
  simp only [hc, hv, Bool.not_true, Bool.false_and, Bool.false_eq_true, ↓reduceIte]
  rfl

/-- A line that edits lines takes the marks of lines where it takes the lines. -/
theorem runLine_follows (hc : Command.parse line = .ok (some c)) (hv : c.verb.editsLines)
    (hp : ed.frame.text.returnsPaired) (hs : ed.frame.streaming = false)
    (hcursor : c.verb = .copy → ed.frame.cursorLine < ed.frame.text.lineCount)
    (hx : (ed.begun c).SubstitutesPlainly c) (h : runLine (n + 1) running line ed = (ed', outcome))
    (hok : outcome.isFailure = false) : Follows c ed.frame ed'.frame ((ed.begun c).lineMove c) := by
  have htext : (ed.begun c).frame.text = ed.frame.text := ed.frame.openGroup_text
  have hcount : (ed.begun c).frame.cursorLine = ed.frame.cursorLine := ed.frame.openGroup_cursorLine
  have hstream : (ed.begun c).frame.streaming = ed.frame.streaming := ed.frame.openGroup_streaming
  rw [runLine_of_parse hc (Verb.isSingle_of_editsLines hv).2.1] at h
  cases h
  have hfollows := dispatch_follows (runLine n) { running with invoking := running.invoking ++ [line] } hv
    (show (ed.begun c).frame.text.returnsPaired from htext ▸ hp) (hstream ▸ hs) (by rwa [htext, hcount]) hx rfl hok
  refine ⟨hfollows.streaming.trans hstream, fun k place hk hstays => ?_⟩
  have htracks := hk.of_eq htext (ed.frame.offsets_openGroup (.line k))
  exact (hfollows.tracks k place htracks hstays).of_eq rfl rfl

/-- A line that edits lines is one command. -/
theorem runLine_log (hc : Command.parse line = .ok (some c)) (hv : c.verb.editsLines) (ed : Editor) :
    (runLine (n + 1) running line ed).1.host.log = c :: ed.host.log := by
  obtain ⟨hsingle, hrange, hundo⟩ := Verb.isSingle_of_editsLines hv
  have hworked := (dispatch_settled (runLine n) { running with invoking := running.invoking ++ [line] } hsingle hundo
    (ed.begun c)).worked
  rw [runLine_of_parse hc hrange]
  exact hworked.log.trans ((ed.begun c).worked_addressed c).log

end lines

/-- Where a place in the text has come to after visits of lines by a command, none if it has been removed. -/
def afterVisits (c : Command) (before : List (Nat × Editor)) (place : Option Nat) : Option Nat :=
  before.foldl (fun place visit => place.bind ((visit.2.begun c).lineMove c)) place

/-- The visits of lines in front of a line. -/
def visitsBefore (visits : List (Nat × Editor)) (line : Nat) : List (Nat × Editor) :=
  visits.takeWhile (·.1 < line)

/-- Where a line is when it is its turn to be visited, none if it has been removed by then. -/
def turn (c : Command) (visits : List (Nat × Editor)) (line : Nat) (place : Option Nat) : Option Nat :=
  afterVisits c (visitsBefore visits line) place

section turn
variable {c : Command} {here : Editor} {line k : Nat} {place : Option Nat} {others : List (Nat × Editor)}

@[simp] theorem turn_none (visits : List (Nat × Editor)) : turn c visits k none = none := by
  unfold turn afterVisits
  induction visitsBefore visits k with
  | nil => rfl
  | cons visit before ih => exact ih

theorem turn_self : turn c ((line, here) :: others) line place = place := by
  simp [turn, visitsBefore, afterVisits]

/-- Lines further down have been taken along by the visit. -/
theorem turn_cons (h : line < k) :
    turn c ((line, here) :: others) k place = turn c others k (place.bind ((here.begun c).lineMove c)) := by
  simp [turn, visitsBefore, afterVisits, h]

end turn

section visits
variable {run : Editor → Result} {c : Command}

/-- Visits are of lines that are to be visited. -/
theorem mem_of_mem_visits {lines : List Nat} {ed : Editor} {visit : Nat × Editor}
    (h : visit ∈ visits run lines ed) : visit.1 ∈ lines := by
  induction lines generalizing ed with
  | nil => cases h
  | cons line rest ih =>
    unfold visits at h
    split at h
    · cases h
    dsimp only at h
    split at h
    · exact List.mem_cons_of_mem _ (ih h)
    rcases List.mem_cons.mp h with rfl | h
    · exact List.mem_cons_self
    · split at h
      · exact List.mem_cons_of_mem _ (ih h)
      · exact List.mem_cons_of_mem _ (ih h)
      · cases h

/-- A run that takes the marks of lines along wherever it finds a text with paired carriage returns. -/
def RunFollows (c : Command) (run : Editor → Result) : Prop :=
  ∀ here after outcome, here.frame.text.returnsPaired → here.frame.streaming = false →
    (c.verb = .copy → here.frame.cursorLine < here.frame.text.lineCount) → (here.begun c).SubstitutesPlainly c →
    run here = (after, outcome) → outcome.isFailure = false →
      Follows c here.frame after.frame ((here.begun c).lineMove c)

/-- Visits that find texts with paired carriage returns and substitute none, and that join no line away that is
still to be visited. -/
structure PlainVisits (c : Command) (lines : List Nat) (visits : List (Nat × Editor)) (place : Nat → Option Nat) :
    Prop where
  paired : ∀ visit ∈ visits, visit.2.frame.text.returnsPaired
  substitutes : ∀ visit ∈ visits, (visit.2.begun c).SubstitutesPlainly c
  joins : c.verb = .join → ∀ visit ∈ visits, ∀ k ∈ lines, visit.1 < k →
    ∀ p ∈ turn c visits visit.1 (place k), (visit.2.begun c).lineMove c p ≠ none

/-- Lines that are to be visited in their order, with their marks where they have come to. -/
structure Ready (c : Command) (lines : List Nat) (ed : Editor) (place : Nat → Option Nat) : Prop where
  streaming : ed.frame.streaming = false
  ascending : lines.Pairwise (· < ·)
  head : ∀ k ∈ lines.head?, ed.frame.Tracks c.verb.Meets k (place k)
  tail : ∀ k ∈ lines.tail, ed.frame.Tracks c.verb.stands k (place k)

/-- The lines that are there when it is their turn. -/
def survivors (c : Command) (lines : List Nat) (visits : List (Nat × Editor)) (place : Nat → Option Nat) : List Nat :=
  lines.filter fun k => (turn c visits k (place k)).isSome

/-- Visits of lines where they have come to: of all those that are there when it is their turn, unless one fails
or they are cancelled, and then of the first ones. -/
structure Visited (c : Command) (lines : List Nat) (visits : List (Nat × Editor)) (place : Nat → Option Nat)
    (outcome : Outcome) : Prop where
  here : ∀ visit ∈ visits, turn c visits visit.1 (place visit.1) = some visit.2.frame.cursorLine
  first : visits.map (·.1) <+: survivors c lines visits place
  all : outcome.isFailure = false → visits.map (·.1) = survivors c lines visits place

section steps
variable {rest : List Nat} {line : Nat} {ed here : Editor} {place : Nat → Option Nat} {outcome : Outcome}
  {others : List (Nat × Editor)}

theorem Ready.of_stands {lines : List Nat} (hs : ed.frame.streaming = false) (ha : lines.Pairwise (· < ·))
    (h : ∀ k ∈ lines, ed.frame.Tracks c.verb.stands k (place k)) : Ready c lines ed place where
  streaming := hs
  ascending := ha
  head k hk := (h k (List.mem_of_mem_head? hk)).mono fun _ _ => Verb.Meets.of_stands
  tail k hk := h k (List.mem_of_mem_tail hk)

theorem Ready.of_frame {lines : List Nat} (h : Ready c lines ed place) (hf : here.frame = ed.frame) :
    Ready c lines here place where
  streaming := hf ▸ h.streaming
  ascending := h.ascending
  head := hf ▸ h.head
  tail := hf ▸ h.tail

theorem Ready.congr {lines : List Nat} {place' : Nat → Option Nat} (h : Ready c lines ed place)
    (hp : ∀ k ∈ lines, place k = place' k) : Ready c lines ed place' where
  streaming := h.streaming
  ascending := h.ascending
  head k hk := hp k (List.mem_of_mem_head? hk) ▸ h.head k hk
  tail k hk := hp k (List.mem_of_mem_tail hk) ▸ h.tail k hk

/-- A line that is passed over leaves the others to be visited. -/
theorem Ready.pass (h : Ready c (line :: rest) ed place) : Ready c rest ed place :=
  .of_stands h.streaming (List.pairwise_cons.mp h.ascending).2 h.tail

/-- The editor with the cursor at a mark, which is taken away. -/
def atMark (ed : Editor) (line offset : Nat) : Editor :=
  ed.mapFrame fun f => (f.unsetMark (.line line)).setCursor offset

theorem atMark_cursorLine (line : Nat) {offset p : Nat} (hp : ed.frame.text.returnsPaired)
    (h : ed.frame.text.On offset p) : (ed.atMark line offset).frame.cursorLine = p := by
  have hle : offset ≤ ed.frame.length := h.le
  have hclamp : (ed.atMark line offset).frame.cursorLine =
      ed.frame.text.lineAt (min (min offset ed.frame.length) ed.frame.length) := rfl
  rw [hclamp, Nat.min_eq_left hle, Nat.min_eq_left hle, h.lineAt_eq hp]

/-- A visit that succeeds is followed by those of the other lines. -/
theorem visitLines_cons_of_success {after : Editor} {offset : Nat} (hlook : ed.look = (false, ed))
    (hmark : ed.frame.mark? (.line line) = some offset) (hrun : run (ed.atMark line offset) = (after, .success)) :
    visitLines run (line :: rest) ed = visitLines run rest after := by
  change run (ed.mapFrame fun f => (f.unsetMark (.line line)).setCursor offset) = _ at hrun
  rw [visitLines, hlook]
  dsimp only
  rw [hmark]
  dsimp only
  rw [hrun]

/-- A visit takes the marks of the lines along that are still to be visited. -/
theorem Ready.visit (h : Ready c (line :: rest) ed place) (hrun : RunFollows c run) {offset p : Nat}
    (hp : ed.frame.text.returnsPaired) (hm : c.verb.Meets ed.frame.text offset p)
    (hx : ((ed.atMark line offset).begun c).SubstitutesPlainly c)
    (hj : c.verb = .join → ∀ k ∈ rest, ∀ q ∈ place k, ((ed.atMark line offset).begun c).lineMove c q ≠ none)
    {after : Editor} (hr : run (ed.atMark line offset) = (after, outcome)) (hok : outcome.isFailure = false) :
    Ready c rest after fun k => (place k).bind (((ed.atMark line offset).begun c).lineMove c) := by
  have hline := atMark_cursorLine line hp hm.toOn
  have hfollows := hrun (ed.atMark line offset) after outcome hp h.streaming
    (fun hv => by rw [hline]; exact hm.shown (by rw [hv]; rfl) hp) hx hr hok
  refine .of_stands (hfollows.streaming.trans h.streaming) (List.pairwise_cons.mp h.ascending).2 fun k hk => ?_
  have hlt := (List.pairwise_cons.mp h.ascending).1 k hk
  have hhere : (ed.atMark line offset).frame.Tracks c.verb.stands k (place k) :=
    (h.tail k hk).of_eq rfl (ed.frame.offsets_unsetMark_ne (by simpa using Nat.ne_of_gt hlt))
  exact hfollows.tracks k (place k) hhere fun hv q hq => hj hv k hk q hq

theorem PlainVisits.tail (h : PlainVisits c (line :: rest) ((line, here) :: others) place)
    (ho : ∀ visit ∈ others, line < visit.1) :
    PlainVisits c rest others fun k => (place k).bind ((here.begun c).lineMove c) where
  paired visit hv := h.paired visit (List.mem_cons_of_mem _ hv)
  substitutes visit hv := h.substitutes visit (List.mem_cons_of_mem _ hv)
  joins hverb visit hv k hk hlt p hp := by
    rw [← turn_cons (ho visit hv)] at hp
    exact h.joins hverb visit (List.mem_cons_of_mem _ hv) k (List.mem_cons_of_mem _ hk) hlt p hp

/-- A line that is gone is not visited. -/
theorem Visited.pass (h : Visited c rest others place outcome) (hline : place line = none) :
    Visited c (line :: rest) others place outcome := by
  have hsame : survivors c (line :: rest) others place = survivors c rest others place := by
    rw [survivors, List.filter_cons, hline, turn_none, if_neg (by simp), survivors]
  exact ⟨h.here, hsame ▸ h.first, hsame ▸ h.all⟩

/-- A line that is there is visited first. -/
theorem Visited.cons (hline : place line = some here.frame.cursorLine) (hr : ∀ k ∈ rest, line < k)
    (ho : ∀ visit ∈ others, line < visit.1)
    (h : Visited c rest others (fun k => (place k).bind ((here.begun c).lineMove c)) outcome) :
    Visited c (line :: rest) ((line, here) :: others) place outcome := by
  have hsame : survivors c (line :: rest) ((line, here) :: others) place =
      line :: survivors c rest others fun k => (place k).bind ((here.begun c).lineMove c) := by
    rw [survivors, List.filter_cons, turn_self, hline, Option.isSome_some, if_pos rfl, survivors]
    congr 1
    exact List.filter_congr fun k hk => by rw [turn_cons (hr k hk)]
  refine ⟨?_, ?_, fun hok => ?_⟩
  · rintro visit hv
    rcases List.mem_cons.mp hv with rfl | hv
    · rw [turn_self, hline]
    · rw [turn_cons (ho visit hv)]
      exact h.here visit hv
  · rw [hsame, List.map_cons]
    exact List.cons_prefix_cons.mpr ⟨rfl, h.first⟩
  · rw [hsame, List.map_cons, h.all hok]

end steps

/-- A run over marked lines visits those that are still there. -/
theorem visits_survivors (hrun : RunFollows c run) {lines : List Nat} {ed : Editor} {place : Nat → Option Nat}
    (h : Ready c lines ed place) (hplain : PlainVisits c lines (visits run lines ed) place) :
    Visited c lines (visits run lines ed) place (visitLines run lines ed).2 := by
  -- The places go with the lines that are left: a visit takes each to where its command takes it.
  induction lines generalizing ed place with
  | nil => exact ⟨by simp [visits], by simp [visits, survivors], by simp [visits, survivors]⟩
  | cons line rest ih =>
    have hrest := (List.pairwise_cons.mp h.ascending).1
    unfold visits at hplain ⊢
    unfold visitLines
    rcases hlook : ed.look with ⟨_ | _, ed₁⟩
    · have hframe : ed₁.frame = ed.frame := (congrArg (·.2.frame) hlook).symm
      have hready : Ready c (line :: rest) ed₁ place := h.of_frame hframe
      have hmark := (hready.head line rfl).mark?
      rw [hlook] at hplain
      dsimp only at hplain ⊢
      generalize hpl : place line = there at hmark
      rcases hm : ed₁.frame.mark? (.line line) with _ | offset
      · rw [hm] at hplain hmark
        cases hmark
        exact (ih hready.pass ⟨hplain.paired, hplain.substitutes, fun hv visit hvisit k hk =>
          hplain.joins hv visit hvisit k (List.mem_cons_of_mem _ hk)⟩).pass hpl
      · rw [hm] at hplain hmark
        cases hmark with
        | some hmeets =>
        next p =>
        dsimp only at hplain ⊢
        have hp : ed₁.frame.text.returnsPaired := hplain.paired _ List.mem_cons_self
        have hcursor := atMark_cursorLine line hp hmeets.toOn
        have hthere : place line = some (ed₁.atMark line offset).frame.cursorLine := by rw [hpl, hcursor]
        have hlater : ∀ ed, ∀ visit ∈ visits run rest ed, line < visit.1 := fun ed visit hv =>
          hrest visit.1 (mem_of_mem_visits hv)
        have hjoin : c.verb = .join → ∀ k ∈ rest, ∀ q ∈ place k,
            ((ed₁.atMark line offset).begun c).lineMove c q ≠ none := fun hv k hk q hq =>
          hplain.joins hv _ List.mem_cons_self k (List.mem_cons_of_mem _ hk) (hrest k hk) q (by rwa [turn_self])
        have hplainly : ((ed₁.atMark line offset).begun c).SubstitutesPlainly c :=
          hplain.substitutes (line, ed₁.atMark line offset) List.mem_cons_self
        rcases hr : run (ed₁.mapFrame fun f => (f.unsetMark (.line line)).setCursor offset) with ⟨after, outcome⟩
        have hready := hready.visit hrun hp hmeets hplainly hjoin hr
        rw [hr] at hplain
        cases outcome with
        | success => exact .cons hthere hrest (hlater _) (ih (hready rfl) (hplain.tail (hlater _)))
        | message t =>
          exact .cons hthere hrest (hlater _)
            (ih ((hready rfl).of_frame rfl) (hplain.tail (hlater _)))
        | failure failure =>
          exact .cons hthere hrest (by simp) ⟨by simp, List.nil_prefix, fun hok => by cases hok⟩
    · exact ⟨by simp, List.nil_prefix, fun hok => by cases hok⟩

/-- Each visit logs one command. -/
theorem visitLines_log (hlog : ∀ ed, (run ed).1.host.log = c :: ed.host.log) (lines : List Nat) (ed : Editor) :
    (visitLines run lines ed).1.host.log = List.replicate (visits run lines ed).length c ++ ed.host.log := by
  induction lines generalizing ed with
  | nil => rfl
  | cons line rest ih =>
    have hlook : ed.look.2.host.log = ed.host.log := ed.host.look_log
    unfold visits visitLines
    rcases hl : ed.look with ⟨_ | _, ed₁⟩
    · rw [hl] at hlook
      dsimp only at hlook ⊢
      rcases ed₁.frame.mark? (.line line) with _ | offset
      · exact (ih ed₁).trans (by rw [hlook])
      · have hhere := hlog (ed₁.mapFrame fun f => (f.unsetMark (.line line)).setCursor offset)
        dsimp only
        rcases hr : run (ed₁.mapFrame fun f => (f.unsetMark (.line line)).setCursor offset) with ⟨after, outcome⟩
        rw [hr] at hhere
        have hnext : after.host.log = c :: ed.host.log := hhere.trans (congrArg (c :: ·) hlook)
        cases outcome with
        | success =>
          rw [ih, hnext, List.length_cons, List.replicate_succ', List.append_assoc]
          rfl
        | message t =>
          rw [ih, List.length_cons, List.replicate_succ', List.append_assoc]
          exact congrArg _ hnext
        | failure failure => exact hnext
    · rw [hl] at hlook
      exact hlook

end visits

section global
variable {running : Running} {r : AddressRange} {t : Text} {invert : Bool} {ed : Editor} {v : Visiting}

/-- The lines that a global command has marked are ready to be visited, each where it is. -/
theorem beginGlobal_ready (c : Command) (h : beginGlobal running r t invert ed = .ok v)
    (hs : ed.frame.streaming = false) (hp : ed.frame.text.returnsPaired)
    (hr : r.last.line ≤ ed.frame.text.lineCount) : Ready c v.lines v.editor some := by
  obtain ⟨g, m, first, last, hprepared, -, hlines, heditor⟩ := beginGlobal_ok h
  obtain ⟨-, hchecked, -, -⟩ := prepareGlobal_ok hprepared
  obtain ⟨-, -, hlast⟩ := AddressRange.checked_le hchecked
  have hascending := matchedLines_ascending ed.frame m invert first last
  rw [← hlines] at hascending
  have hin : ∀ k ∈ v.lines, k < ed.frame.text.lineCount := by
    intro k hk
    rw [hlines, mem_matchedLines] at hk
    omega
  obtain ⟨marks, hmarks⟩ := markLines_eq ed.frame v.lines
  have hframe : v.editor.frame = (markLines ed.frame v.lines).openGroup := by
    rw [heditor]
    change (markLines (ed.rememberSearch g.pattern).frame v.lines).openGroup = _
    rw [rememberSearch_frame]
  have htext : v.editor.frame.text = ed.frame.text := by
    rw [hframe, Frame.openGroup_text, hmarks]
  have hstream : v.editor.frame.streaming = ed.frame.streaming := by
    rw [hframe]
    exact (Frame.remember_streaming _).trans (by rw [hmarks])
  have htracks : ∀ {stands : Text → Nat → Nat → Prop}, ∀ k ∈ v.lines, stands ed.frame.text (ed.frame.lineStart k) k →
      v.editor.frame.Tracks stands k (some k) := by
    intro stands k hk hst
    refine ⟨some (ed.frame.lineStart k), ?_, htext ▸ .some hst⟩
    rw [hframe, Frame.offsets_openGroup, offsets_markLines _ (.inl hk)]
    rfl
  refine ⟨hstream.trans hs, hascending, fun k hk => ?_, fun k hk => ?_⟩
  · have hk := List.mem_of_mem_head? hk
    exact htracks k hk ⟨Frame.lineStart_on hp (hin k hk), fun _ _ => hin k hk⟩
  · have hmem := List.mem_of_mem_tail hk
    refine htracks k hmem ?_
    unfold Verb.stands
    split
    · -- A line comes before this one, so the text is not empty.
      refine Text.atStart_lineStart hp ?_ (hin k hmem)
      rintro hempty
      obtain ⟨first', rest, hcons⟩ := List.exists_cons_of_ne_nil (List.ne_nil_of_mem hmem)
      rw [hcons] at hascending hk
      have hpos := (List.pairwise_cons.mp hascending).1 k hk
      have hzero := hin k hmem
      rw [hempty] at hzero
      change k < 1 at hzero
      omega
    · exact Frame.lineStart_on hp (hin k hmem)

/-- A global command with a command that edits lines runs it once on each line that it has marked and that no
earlier run has removed, in the order of the lines and where each has come to, up to the first run that fails;
provided that no run joins a line away that is still to be visited. -/
theorem global_visits_survivors (n : Nat) {c : Command} (hb : beginGlobal running r t invert ed = .ok v)
    (hc : Command.parse v.command = .ok (some c)) (hv : c.verb.editsLines) (hs : ed.frame.streaming = false)
    (hp : ed.frame.text.returnsPaired) (hr : r.last.line ≤ ed.frame.text.lineCount)
    (hplain : PlainVisits c v.lines (visits (runLine (n + 1) running.visiting v.command) v.lines v.editor) some) :
    let visited := visits (runLine (n + 1) running.visiting v.command) v.lines v.editor
    let result := global (runLine (n + 1)) running r t invert ed
    (∃ g m first last, prepareGlobal running r t ed = .ok (g, m, first, last) ∧ v.command = g.command ∧
      ∀ k, k ∈ v.lines ↔ (first ≤ k ∧ k ≤ last) ∧ m.isMatch (ed.frame.line k) ≠ invert) ∧
    v.lines.Pairwise (· < ·) ∧ Visited c v.lines visited some result.2 ∧
    result.1.host.log = List.replicate visited.length c ++ ed.host.log := by
  obtain ⟨g, m, first, last, hprepared, hcommand, hlines, heditor⟩ := beginGlobal_ok hb
  have hready := beginGlobal_ready c hb hs hp hr
  have hrun : RunFollows c (runLine (n + 1) running.visiting v.command) :=
    fun here after outcome hp hs hcursor hx h hok => runLine_follows hc hv hp hs hcursor hx h hok
  have hvisited := visits_survivors hrun hready hplain
  have hone : ∀ ed, (runLine (n + 1) running.visiting v.command ed).1.host.log = c :: ed.host.log :=
    runLine_log hc hv
  have hlog := visitLines_log hone v.lines v.editor
  have hstart : v.editor.host.log = ed.host.log := by
    rw [heditor]
    exact congrArg Host.log (ed.rememberSearch_host g.pattern)
  rw [hstart] at hlog
  intro visited result
  have hresult : result = ((visitLines (runLine (n + 1) running.visiting v.command) v.lines v.editor).1.mapFrame
      fun f => (unmarkLines f v.lines).closeGroup,
        (visitLines (runLine (n + 1) running.visiting v.command) v.lines v.editor).2) := by
    change global _ _ _ _ _ _ = _
    rw [global_eq, hb]
  rw [hresult]
  refine ⟨⟨g, m, first, last, hprepared, hcommand, fun k => ?_⟩, hready.ascending, hvisited, hlog⟩
  rw [hlines]
  exact mem_matchedLines ed.frame

/-- Each run deletes a line and the next one, which is marked as well. -/
theorem global_visits_survivors_pairs :
    let ed := Editor.ofText "a1\na2\nb\na3\na4\n".toList
    let r := AddressRange.ofLines ed.frame 1 5
    let c : Command := ⟨".,+1".toList, .delete, [], false⟩
    let v := (beginGlobal {} r "/a/.,+1d".toList false ed).toOption.getD ⟨[], [], ed⟩
    let visited := visits (runLine 1 (Running.visiting {}) v.command) v.lines v.editor
    let result := global (runLine 1) {} r "/a/.,+1d".toList false ed
    v.lines = [0, 1, 3, 4] ∧ survivors c v.lines visited some = [0, 3] ∧ visited.map (·.1) = [0, 3] ∧
      visited.map (·.2.frame.cursorLine) = [0, 1] ∧ Visited c v.lines visited some result.2 ∧
      result.2.isFailure = false ∧ result.1.frame.text = "b\n".toList ∧ result.1.host.log = [c, c] := by
  intro ed r c v visited result
  have hb : beginGlobal {} r "/a/.,+1d".toList false ed = .ok v := ok_of_isOk (by decide +kernel) _
  have hplain : PlainVisits c v.lines visited some := ⟨by decide +kernel, fun _ _ => nofun, nofun⟩
  have hparse : Command.parse v.command = .ok (some c) := by decide +kernel
  have hrange : r.last.line ≤ ed.frame.text.lineCount := by decide +kernel
  have hpaired : ed.frame.text.returnsPaired := by decide +kernel
  obtain ⟨-, -, hvisited, -⟩ := global_visits_survivors 0 hb hparse rfl rfl hpaired hrange hplain
  exact ⟨by decide +kernel, by decide +kernel, by decide +kernel, by decide +kernel, hvisited, by decide +kernel,
    by decide +kernel, by decide +kernel⟩

/-- A line that is joined to the one before it is visited there all the same. -/
theorem global_join_visits_gone :
    let ed := Editor.ofText "a\na\nb\n".toList
    let r := AddressRange.ofLines ed.frame 1 3
    let c : Command := ⟨[], .join, [], false⟩
    let v := (beginGlobal {} r "/a/j".toList false ed).toOption.getD ⟨[], [], ed⟩
    let visited := visits (runLine 1 (Running.visiting {}) v.command) v.lines v.editor
    v.lines = [0, 1] ∧ survivors c v.lines visited some = [0] ∧ visited.map (·.1) = [0, 1] ∧
      visited.map (·.2.frame.cursorLine) = [0, 0] ∧
      (global (runLine 1) {} r "/a/j".toList false ed).2 = .success ∧
      (ed.execute "g/a/j".toList).1.frame.text = "a a b\n".toList := by
  decide +kernel

end global
end Editor
end ExEditor
