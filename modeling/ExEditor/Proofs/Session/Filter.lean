import ExEditor.Proofs.Session.Failure
import ExEditor.Proofs.Session.LineVerbs
import ExEditor.Proofs.Session.Visits

/-! A global command that deletes lines filters the lines of its range. Each deletion takes the marks of the lines
along that are still to be visited, so the next visit finds its line where the lines in front of it that are left
put it. -/
namespace ExEditor
open LineList

namespace Editor

/-- The deletion of the current line. -/
def deletion : Command := ⟨[], .delete, [], false⟩

theorem parse_deletion : Command.parse ['d'] = .ok (some deletion) := by decide +kernel

/-- Without a range a command is for the line with the cursor. -/
theorem resolveRange_current {ed : Editor} (hs : ed.frame.streaming = false)
    (hline : ed.frame.cursorLine < ed.frame.text.lineCount) :
    ∃ here : Address, here.line = ed.frame.cursorLine + 1 ∧
      ed.resolveRange [] ['.'] = (.ok ⟨here, here⟩, ed) := by
  have hcount := Frame.lineCount?_eq hs
  refine ⟨⟨some ['.'], Address.clampLine ed.frame false (ed.frame.cursorLine + 1)⟩, ?_, rfl⟩
  simp only [Address.clampLine, hcount, Bool.false_eq_true, ↓reduceIte]
  omega

/-- An editor of rows that may be deleted, with nothing to stop. -/
structure Deletable (rows : List Text) (ed : Editor) : Prop where
  text : ed.frame.text = rows.flatten
  rows : ∀ s ∈ rows, s.IsRow
  editable : ed.frame.isEditable
  streaming : ed.frame.streaming = false
  cancelsAfter : ed.host.cancelsAfter = none
  cancelled : ed.host.cancelled = false

namespace Deletable
variable {rows : List Text} {ed : Editor}

theorem look_eq (h : ed.Deletable rows) : ed.look = (false, ed) := by
  simp [look, Host.look, h.cancelsAfter, h.cancelled]

theorem paired (h : ed.Deletable rows) : ed.frame.text.returnsPaired :=
  h.text ▸ Text.returnsPaired_flatten h.rows

theorem lt_lineCount (h : ed.Deletable rows) {n : Nat} (hn : n < rows.length) : n < ed.frame.text.lineCount :=
  Nat.lt_of_lt_of_le (Frame.breakCount_of_rows h.text h.rows ▸ hn) ed.frame.text.breakCount_le_lineCount

theorem of_eq {ed' : Editor} (h : ed.Deletable rows) (ht : ed'.frame.text = ed.frame.text)
    (he : ed'.frame.isEditable = ed.frame.isEditable) (hs : ed'.frame.streaming = ed.frame.streaming)
    (ha : ed'.host.cancelsAfter = ed.host.cancelsAfter) (hc : ed'.host.cancelled = ed.host.cancelled) :
    ed'.Deletable rows where
  text := ht.trans h.text
  rows := h.rows
  editable := he.trans h.editable
  streaming := hs.trans h.streaming
  cancelsAfter := ha.trans h.cancelsAfter
  cancelled := hc.trans h.cancelled

theorem begun (h : ed.Deletable rows) (c : Command) : (ed.begun c).Deletable rows :=
  h.of_eq ed.frame.openGroup_text ed.frame.openGroup_isEditable ed.frame.openGroup_streaming rfl rfl

theorem atMark (h : ed.Deletable rows) (line offset : Nat) : (ed.atMark line offset).Deletable rows :=
  h.of_eq rfl rfl rfl rfl rfl

theorem resolved {t default : Text} {r : AddressRange} {ed' : Editor} (h : ed.Deletable rows)
    (hr : ed.resolveRange t default = (.ok r, ed')) : ed'.Deletable rows := by
  obtain ⟨cursor, hframe⟩ := (resolveRange_ok h.streaming hr).frame
  have hhost : ed'.host = ed.host := (congrArg (·.2.host) hr).symm
  exact h.of_eq (by rw [hframe]) (by rw [hframe]; rfl) (by rw [hframe]) (by rw [hhost]) (by rw [hhost])

theorem marked (h : ed.Deletable rows) (pattern : Text) (lines : List Nat) :
    ((ed.rememberSearch pattern).mapFrame fun f => (markLines f lines).openGroup).Deletable rows := by
  let start := (ed.rememberSearch pattern).mapFrame fun f => (markLines f lines).openGroup
  change start.Deletable rows
  obtain ⟨marks, hmarks⟩ := markLines_eq ed.frame lines
  have hframe : start.frame = ({ ed.frame with marks } : Frame).openGroup := by
    change (markLines (ed.rememberSearch pattern).frame lines).openGroup = _
    rw [rememberSearch_frame, hmarks]
  have hhost : start.host = ed.host := ed.rememberSearch_host pattern
  refine h.of_eq ?_ ?_ ?_ (by rw [hhost]) (by rw [hhost]) <;> rw [hframe]
  · exact Frame.openGroup_text _
  · exact Frame.openGroup_isEditable _
  · exact Frame.openGroup_streaming _

theorem unmarked (h : ed.Deletable rows) (lines : List Nat) :
    (ed.mapFrame fun f => (unmarkLines f lines).closeGroup).Deletable rows := by
  obtain ⟨marks, hmarks⟩ := unmarkLines_eq ed.frame lines
  have hframe : (ed.mapFrame fun f => (unmarkLines f lines).closeGroup).frame =
      ({ ed.frame with marks } : Frame).closeGroup := congrArg Frame.closeGroup hmarks
  exact h.of_eq (by rw [hframe]; rfl) (by rw [hframe]; rfl) (by rw [hframe]; rfl) rfl rfl

section current
variable {p : Nat} (h : ed.Deletable rows) (hcursor : ed.frame.cursorLine = p) (hp : p < rows.length)
include h hcursor hp

/-- The range of a deletion of the current line. -/
theorem resolve_current : ∃ r : AddressRange, r.checked = .ok (p, p) ∧
    ed.resolveRange deletion.range ['.'] = (.ok r, ed) := by
  obtain ⟨here, hline, hr⟩ := resolveRange_current h.streaming (hcursor ▸ h.lt_lineCount hp)
  refine ⟨⟨here, here⟩, ?_, hr⟩
  simp [AddressRange.checked, AddressRange.isValid, hline, hcursor]

/-- Deleting the current line takes its row out. -/
theorem dispatch_deletion (run : Runner) (running : Running) :
    ∃ after, dispatch run running deletion ed = (after, .success) ∧ after.Deletable (without rows p p) := by
  obtain ⟨r, hr, hresolve⟩ := h.resolve_current hcursor hp
  let after := (ed.mapRegisters (·.delete none (ed.frame.linesText p p))).mapFrame (·.deleteLines p p)
  have hdelete : ed.delete r [] = .ok (after, .success) := by
    have hread : readRegisterAndCount [] = .ok (none, none) := rfl
    rw [delete_eq h.editable hread hr, Nat.sub_self]
    rfl
  refine ⟨after, ?_, ?_⟩
  · change ed.changeRange deletion ['.'] (fun ed r => ed.delete r []) = _
    rw [changeRange, onRange, hresolve]
    dsimp only
    rw [hdelete]
    rfl
  · have hframe : after.frame = ed.frame.deleteLines p p := rfl
    refine ⟨?_, Frame.isRow_without h.rows p p, ?_, ?_, h.cancelsAfter, h.cancelled⟩ <;> rw [hframe]
    · exact Frame.deleteLines_of_rows h.text h.rows (le_refl p) hp
    · exact (ed.frame.edited_deleteLines p p).isEditable.trans h.editable
    · exact (Frame.carries_deleteLines h.paired (le_refl p)).streaming.trans h.streaming

theorem runLine_deletion (n : Nat) (running : Running) :
    ∃ after, runLine (n + 1) running ['d'] ed = (after, .success) ∧ after.Deletable (without rows p p) := by
  have hhere : (ed.begun deletion).frame.cursorLine = p := ed.frame.openGroup_cursorLine.trans hcursor
  obtain ⟨after, hdispatch, hafter⟩ := (h.begun deletion).dispatch_deletion hhere hp (runLine n)
    { running with invoking := running.invoking ++ [['d']] }
  refine ⟨after.mapFrame Frame.closeGroup, ?_, ?_⟩
  · rw [runLine_of_parse parse_deletion rfl, hdispatch]
  · exact hafter.of_eq rfl rfl rfl rfl rfl

/-- The lines behind the current one move up when it is deleted. -/
theorem lineMove_deletion : ed.lineMove deletion = .splice p 1 0 := by
  obtain ⟨r, hr, hresolve⟩ := h.resolve_current hcursor hp
  have hends : ed.frame.text.endsInBreak := Frame.endsInBreak_of_rows h.text h.rows (by rintro rfl; simp at hp)
  have hcut : ed.frame.cutMove p p = .splice p 1 0 := by
    have hfrom : ed.frame.cutFrom p p = p := by simp [Frame.cutFrom, hends]
    rw [Frame.cutMove, hfrom, Nat.add_sub_cancel_left]
  refine lineMove_of_range hresolve (.inr ⟨nofun, nofun⟩) ?_
  have hread : readRegisterAndCount [] = .ok (none, none) := rfl
  have hchecked : (r.counted ed.frame none).checked = .ok (p, p) := hr
  unfold rangeMove
  simp only [deletion, hread, hchecked, bind, Except.bind]
  exact congrArg Except.ok hcut

end current

/-- Deletions of marked lines take just these out. -/
theorem visitLines_deletion (n : Nat) (running : Running) {done todo : List Text} {i : Nat} {lines : List Nat}
    (h : ed.Deletable (done ++ todo)) (hready : Ready deletion lines ed fun k => some (done.length + (k - i)))
    (hin : ∀ k ∈ lines, i ≤ k ∧ k < i + todo.length) :
    ∃ after, visitLines (runLine (n + 1) running ['d']) lines ed = (after, .success) ∧
      after.Deletable (done ++ omitting todo i lines) := by
  -- The visits have gone past the rows in `done`; those in `todo` are as they were, the first of them being line `i`.
  induction lines generalizing ed done todo i with
  | nil => exact ⟨ed, rfl, by rwa [omitting_of_not_mem fun _ _ => List.not_mem_nil]⟩
  | cons line rest ih =>
    obtain ⟨hfrom, hto⟩ := hin line List.mem_cons_self
    obtain ⟨front, row, back, rfl, hfront⟩ := exists_between (show line - i < todo.length by omega)
    have hlater := (List.pairwise_cons.mp hready.ascending).1
    have hp : done.length + (line - i) < (done ++ (front ++ row :: back)).length := by simp [hfront]
    obtain ⟨offset, hoffset, hmeets⟩ := (hready.head line rfl).exists_mark
    have hhere := h.atMark line offset
    have hcursor := atMark_cursorLine line h.paired hmeets.toOn
    obtain ⟨after, hrun, hafter⟩ := hhere.runLine_deletion hcursor hp n running
    have hmove := (hhere.begun deletion).lineMove_deletion (Frame.openGroup_cursorLine _ |>.trans hcursor) hp
    have hfollows : RunFollows deletion (runLine (n + 1) running ['d']) :=
      fun here after outcome hp hs hcursor hx hr hok => runLine_follows parse_deletion rfl hp hs hcursor hx hr hok
    have hnext : Ready deletion rest after fun k => some ((done ++ front).length + (k - (line + 1))) := by
      refine (hready.visit hfollows h.paired hmeets nofun nofun hrun rfl).congr fun k hk => ?_
      have hlt := hlater k hk
      rw [hmove, Option.bind_some, LineMove.splice, if_neg (by omega), if_neg (by omega), List.length_append, hfront]
      exact congrArg some (by omega)
    have hwithout : without (done ++ (front ++ row :: back)) (done.length + (line - i)) (done.length + (line - i)) =
        (done ++ front) ++ back := by
      rw [← hfront, ← List.length_append, ← List.append_assoc, without_between]
    have homitting : omitting (front ++ row :: back) i (line :: rest) = front ++ omitting back (line + 1) rest :=
      omitting_between (by omega) hlater
    have hrest : ∀ k ∈ rest, line + 1 ≤ k ∧ k < line + 1 + back.length := fun k hk => by
      have hlt := hlater k hk
      have hk := hin k (List.mem_cons_of_mem _ hk)
      simp only [List.length_append, List.length_cons] at hk
      omega
    obtain ⟨final, hvisits, hfinal⟩ := ih (hwithout ▸ hafter) hnext hrest
    refine ⟨final, ?_, by rwa [homitting, ← List.append_assoc]⟩
    rw [visitLines_cons_of_success h.look_eq hoffset hrun, hvisits]

/-- The lines of rows that a global command marks are those of its range that are not to be kept. -/
theorem omitting_matchedLines (h : ed.Deletable rows) (m : Matcher) (invert : Bool) {first last : Nat}
    (hf : first ≤ last) (hl : last < rows.length) :
    omitting rows 0 (matchedLines ed.frame m invert first last) =
      filterRange (fun row => m.isMatch (Text.lineBody row) == invert) rows first last := by
  refine omitting_eq_filterRange _ hf hl fun k hk => ?_
  have hline : ed.frame.line k = Text.lineBody rows[k] := by
    rw [Frame.line, Text.line_eq, Frame.segments_of_rows h.text h.rows, List.getD_eq_getElem?_getD,
      List.getElem?_append_left hk, List.getElem?_eq_getElem hk, Option.getD_some]
  rw [mem_matchedLines, hline, beq_eq_false_iff_ne]

section global
variable {running : Running} {r : AddressRange} {t pattern : Text} {invert : Bool} {m : Matcher} {first last : Nat}

/-- A global command that deletes lines filters its range. -/
theorem global_deletion (n : Nat) (h : ed.Deletable rows) (hg : running.inGlobal = false)
    (hr : r.checked = .ok (first, last)) (hl : last < rows.length) (hread : readGlobal ed t = .ok ⟨pattern, ['d']⟩)
    (hm : searchMatcher ed.context.settings.ignoreCase pattern = .ok m)
    (hmatch : ∃ k, (first ≤ k ∧ k ≤ last) ∧ m.isMatch (ed.frame.line k) ≠ invert) :
    ∃ after, global (runLine (n + 1)) running r t invert ed = (after, .success) ∧
      after.Deletable (filterRange (fun row => m.isMatch (Text.lineBody row) == invert) rows first last) := by
  obtain ⟨hf, -, hlast⟩ := AddressRange.checked_le hr
  have hmarked : matchedLines ed.frame m invert first last ≠ [] := by
    obtain ⟨k, hk⟩ := hmatch
    exact List.ne_nil_of_mem ((mem_matchedLines ed.frame).mpr hk)
  have hbegin := beginGlobal_of hg hr hread hm hmarked
  have hkept := h.omitting_matchedLines m invert hf hl
  have hin : ∀ k ∈ matchedLines ed.frame m invert first last, 0 ≤ k ∧ k < 0 + rows.length := fun k hk => by
    have hmem := (mem_matchedLines ed.frame).mp hk
    omega
  generalize matchedLines ed.frame m invert first last = lines at hbegin hkept hin
  have hcount := h.lt_lineCount hl
  have hready := beginGlobal_ready deletion hbegin h.streaming h.paired (by omega)
  have hstart : Deletable ([] ++ rows) _ := h.marked pattern lines
  obtain ⟨after, hvisits, hafter⟩ :=
    hstart.visitLines_deletion n running.visiting (hready.congr fun k _ => by simp) hin
  refine ⟨after.mapFrame fun f => (unmarkLines f lines).closeGroup, ?_, hkept ▸ hafter.unmarked lines⟩
  rw [global_eq, hbegin]
  dsimp only
  rw [hvisits]

end global
end Deletable

section line
variable {ed ed' : Editor} {c : Command} {line : Text} {invert : Bool} {r : AddressRange}

/-- A range comes out as it does before a line has begun. -/
theorem resolveRange_begun {t default : Text} (c : Command) (hr : ed.resolveRange t default = (.ok r, ed')) :
    ∃ ed₁, (ed.resume.begun c).resolveRange t default = (.ok r, ed₁) ∧ ed₁.Alike ed' ∧
      ed₁.context.settings = ed.context.settings := by
  have halike : (ed.resume.begun c).Alike ed := ⟨.openGroup ed.frame, rfl, rfl⟩
  obtain ⟨hresult, hafter⟩ := halike.resolveRange t default
  rw [hr] at hresult hafter
  exact ⟨((ed.resume.begun c).resolveRange t default).2, Prod.ext hresult rfl, hafter, rfl⟩

/-- A line with a global command carries it out on its range, all lines unless it says otherwise. -/
theorem runLine_global (n : Nat) (running : Running) (hc : Command.parse line = .ok (some c))
    (hv : c.verb = .global invert) (hr : (ed.begun c).resolveRange c.range ['%'] = (.ok r, ed')) :
    runLine (n + 1) running line ed =
      let (after, outcome) :=
        global (runLine n) { running with invoking := running.invoking ++ [line] } r c.text invert ed'
      (after.mapFrame Frame.closeGroup, outcome) := by
  rw [runLine_of_parse hc (by rw [hv]; rfl)]
  unfold dispatch
  simp only [hv, onRange, hr]

/-- What a line that succeeds without a message leaves in the frame stays when it has been executed. -/
theorem execute_of_runLine {after : Editor} (h : runLine ed.nestingBound {} line ed.resume = (after, .success)) :
    ∃ executed, ed.execute line = (executed, .success) ∧ executed.frame = after.frame := by
  refine ⟨_, by rw [execute, h], ?_⟩
  dsimp only [report, Outcome.shown, Option.elim]
  split <;> rfl

end line

/-- A global command that deletes the lines that match, or those that do not, filters the lines of its range. -/
theorem global_filters (ed : Editor) (line : Text) {c : Command} {invert : Bool} {r : AddressRange} {ed' : Editor}
    {first last : Nat} {pattern : Text} {m : Matcher} (he : ed.frame.isEditable) (hs : ed.frame.streaming = false)
    (hb : ed.frame.text.endsInBreak) (hp : ed.frame.text.returnsPaired) (hcalm : ed.host.cancelsAfter = none)
    (hparse : Command.parse line = .ok (some c)) (hv : c.verb = .global invert)
    (hrange : ed.resolveRange c.range ['%'] = (.ok r, ed')) (hr : r.checked = .ok (first, last))
    (hl : last < ed.frame.text.lineCount) (hread : readGlobal ed' c.text = .ok ⟨pattern, ['d']⟩)
    (hm : searchMatcher ed.context.settings.ignoreCase pattern = .ok m)
    (hmatch : ∃ k, (first ≤ k ∧ k ≤ last) ∧ m.isMatch (ed.frame.line k) ≠ invert) :
    ∃ after, ed.execute line = (after, .success) ∧
      after.frame.text =
        (filterRange (fun row => m.isMatch (Text.lineBody row) == invert) ed.frame.text.segments first last).flatten ∧
      after.frame.text.lines =
        shown (filterRange (fun l => m.isMatch l == invert) ed.frame.text.lines first last) := by
  obtain ⟨rows, ht, hrows, hne⟩ := Text.exists_rows_of_endsInBreak hp hb
  obtain ⟨hf, -, -⟩ := AddressRange.checked_le hr
  rw [Text.lineCount, if_pos hb, Frame.breakCount_of_rows ht hrows] at hl
  have hstart : ed.resume.Deletable rows := ⟨ht, hrows, he, hs, hcalm, rfl⟩
  obtain ⟨ed₁, hresolve, halike, hsettings⟩ := resolveRange_begun c hrange
  have hed := (hstart.begun c).resolved hresolve
  have hread₁ : readGlobal ed₁ c.text = .ok ⟨pattern, ['d']⟩ := by
    rw [← hread]
    unfold readGlobal
    rw [halike.lastSearch]
  have hsame : ed₁.frame.text = ed.frame.text := hed.text.trans ht.symm
  have hmatch₁ : ∃ k, (first ≤ k ∧ k ≤ last) ∧ m.isMatch (ed₁.frame.line k) ≠ invert := by
    simpa only [Frame.line, hsame] using hmatch
  obtain ⟨n, hn⟩ : ∃ n, ed.nestingBound = n + 2 := ⟨ed.nestingBound - 2, by unfold nestingBound; omega⟩
  obtain ⟨after, hglobal, hafter⟩ : ∃ after,
      global (runLine (n + 1)) { invoking := [line] } r c.text invert ed₁ = (after, .success) ∧
        after.Deletable (filterRange (fun row => m.isMatch (Text.lineBody row) == invert) rows first last) :=
    hed.global_deletion n rfl hr hl hread₁ (hsettings ▸ hm) hmatch₁
  have hrun : runLine ed.nestingBound {} line ed.resume = (after.mapFrame Frame.closeGroup, .success) := by
    rw [hn, runLine_global (n + 1) {} hparse hv hresolve]
    simp only [List.nil_append, hglobal]
  obtain ⟨executed, hexecute, hframe⟩ := execute_of_runLine hrun
  have htext : executed.frame.text = after.frame.text := (congrArg Frame.text hframe).trans rfl
  refine ⟨executed, hexecute, ?_, ?_⟩ <;> rw [htext]
  · rw [Frame.segments_of_rows ht hrows, filterRange_append _ _ hf hl, List.flatten_append, List.flatten_singleton,
      List.append_nil]
    exact hafter.text
  · have hkept := map_filterRange Text.lineBody (fun l => m.isMatch l == invert) rows first last
    rw [Frame.lines_of_rows ht hrows hne, ← hkept]
    exact Frame.lines_of_rows_shown hafter.text hafter.rows

/-- Two adjacent lines of a range go, and the one behind it that matches stays. Where all lines go an empty one is
left. -/
theorem global_filters_adjacent :
    (∃ after, (ofText "a\r\na\nb\na\n".toList).execute "1,3g/a/d".toList = (after, .success) ∧
      after.frame.text = "b\na\n".toList ∧ after.frame.text.lines = [['b'], ['a']]) ∧
    ∃ after, (ofText "a\n\n".toList).execute "v/b/d".toList = (after, .success) ∧
      after.frame.text = [] ∧ after.frame.text.lines = [[]] := by
  constructor
  · obtain ⟨m, hm, hmatch, htext, hlines⟩ : ∃ m, searchMatcher false ['a'] = .ok m ∧ m.isMatch ['a'] ≠ false ∧
        (filterRange (fun row => m.isMatch (Text.lineBody row) == false)
          (Text.segments "a\r\na\nb\na\n".toList) 0 2).flatten = "b\na\n".toList ∧
        shown (filterRange (fun l => m.isMatch l == false) (Text.lines "a\r\na\nb\na\n".toList) 0 2) =
          [['b'], ['a']] :=
      ⟨_, rfl, by decide +kernel, by decide +kernel, by decide +kernel⟩
    have hparse : Command.parse "1,3g/a/d".toList =
        .ok (some ⟨"1,3".toList, .global false, "/a/d".toList, false⟩) := by decide +kernel
    obtain ⟨after, h⟩ := global_filters (ofText "a\r\na\nb\na\n".toList) "1,3g/a/d".toList
      (by decide) rfl (by decide) (by decide) rfl hparse rfl rfl rfl (by decide) rfl hm ⟨0, by decide, hmatch⟩
    exact ⟨after, h.1, h.2.1.trans htext, h.2.2.trans hlines⟩
  · obtain ⟨m, hm, hmatch, htext, hlines⟩ : ∃ m, searchMatcher false ['b'] = .ok m ∧ m.isMatch ['a'] ≠ true ∧
        (filterRange (fun row => m.isMatch (Text.lineBody row) == true)
          (Text.segments "a\n\n".toList) 0 1).flatten = [] ∧
        shown (filterRange (fun l => m.isMatch l == true) (Text.lines "a\n\n".toList) 0 1) = [[]] :=
      ⟨_, rfl, by decide +kernel, by decide +kernel, by decide +kernel⟩
    have hparse : Command.parse "v/b/d".toList = .ok (some ⟨[], .global true, "/b/d".toList, false⟩) := by
      decide +kernel
    obtain ⟨after, h⟩ := global_filters (ofText "a\n\n".toList) "v/b/d".toList
      (by decide) rfl (by decide) (by decide) rfl hparse rfl rfl rfl (by decide) rfl hm ⟨0, by decide, hmatch⟩
    exact ⟨after, h.1, h.2.1.trans htext, h.2.2.trans hlines⟩

end Editor
end ExEditor
