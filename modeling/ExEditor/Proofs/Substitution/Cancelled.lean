import ExEditor.Proofs.Substitution.Run

/-! A substitution that is cancelled while it asks. Nothing more is asked after that, and what is replaced is what
would be if nothing were cancelled and each later match were declined. -/
namespace ExEditor

/-- Frames that differ in what is selected alone. -/
def Frame.Reselected (f g : Frame) : Prop := ∃ selection, g = { f with selection }

namespace Frame.Reselected
variable {f g k : Frame}

theorem refl (f : Frame) : Reselected f f := ⟨f.selection, rfl⟩

theorem trans (h : Reselected f g) (h' : Reselected g k) : Reselected f k := by
  obtain ⟨selection, rfl⟩ := h
  obtain ⟨selection', rfl⟩ := h'
  exact ⟨selection', rfl⟩

theorem select (h : Reselected f g) (s : Selection) : f.select s = g.select s := by
  obtain ⟨selection, rfl⟩ := h
  rfl

theorem replace (h : Reselected f g) (first last : Nat) (t : Text) :
    Reselected (f.replace first last t) (g.replace first last t) := by
  obtain ⟨selection, rfl⟩ := h
  have hinsert : ∀ f g : Frame, Reselected f g → Reselected (f.insert first t) (g.insert first t) := by
    rintro f _ ⟨selection, rfl⟩
    unfold insert remember
    split
    · exact ⟨selection, rfl⟩
    · by_cases hd : f.depth = 0 <;> simp only [hd, ↓reduceIte] <;> exact ⟨selection, rfl⟩
  refine hinsert _ _ ?_
  unfold delete remember
  dsimp only [clamp, length]
  split
  · exact ⟨selection, rfl⟩
  · by_cases hd : f.depth = 0 <;> simp only [hd, ↓reduceIte] <;> exact ⟨_, rfl⟩

end Frame.Reselected

namespace Host

/-- Surroundings in which the questions are answered as they would be up to one answer, which cancels nothing, and
everything after it is declined. -/
def sparing (h : Host) (before : List (Reply Confirm)) (reply : Reply Confirm) : Host :=
  { h with confirms := before ++ [{ reply with cancels := false }], unanswered := .no }

/-- Surroundings that decline whatever is asked, and in which nothing cancels. -/
structure Declines (h : Host) : Prop where
  confirms : h.confirms = []
  unanswered : h.unanswered = .no
  cancelled : h.cancelled = false
  cancelsAfter : h.cancelsAfter = none

/-- Surroundings in which a reply is going to cancel, after some that do not, and others in which it is not. -/
structure Awaits (before : List (Reply Confirm)) (reply : Reply Confirm) (after : List (Reply Confirm))
    (asked : Nat) (h h' : Host) : Prop where
  confirms : h.confirms = before ++ reply :: after
  spared : h'.confirms = before ++ [{ reply with cancels := false }]
  harmless : ∀ earlier ∈ before, earlier.cancels = false
  cancels : reply.cancels
  unanswered : h'.unanswered = .no
  cancelled : h.cancelled = false ∧ h'.cancelled = false
  cancelsAfter : h.cancelsAfter = none ∧ h'.cancelsAfter = none
  asked : h.questions.length + before.length = asked

/-- Surroundings in which that reply has cancelled, beside those in which it has not. -/
structure Behind (after : List (Reply Confirm)) (asked : Nat) (h h' : Host) : Prop where
  confirms : h.confirms = after
  cancelled : h.cancelled
  cancelsAfter : h.cancelsAfter = none
  asked : h.questions.length = asked + 1
  declines : h'.Declines

variable {h h' : Host} {before after : List (Reply Confirm)} {reply : Reply Confirm} {asked : Nat}

theorem look_of_none (hc : h.cancelsAfter = none) : h.look = (h.cancelled, h) := by simp [look, hc]

theorem questions_confirm (h : Host) (question : Text) (selection : Selection) :
    (h.confirm question selection).2.questions.length = h.questions.length + 1 := by
  have hnoted : (h.note (.question question selection)).questions.length = h.questions.length + 1 := by
    simp [questions, note]
  unfold confirm
  dsimp only
  split <;> exact hnoted

/-- What is asked of surroundings that decline is declined. -/
theorem Declines.confirm (hd : h.Declines) (question : Text) (selection : Selection) :
    (h.confirm question selection).1 = .no ∧ (h.confirm question selection).2.Declines := by
  have hconfirm : h.confirm question selection = (h.unanswered, h.note (.question question selection)) := by
    simp [Host.confirm, note, hd.confirms]
  rw [hconfirm]
  exact ⟨hd.unanswered, hd.confirms, hd.unanswered, hd.cancelled, hd.cancelsAfter⟩

theorem Declines.display (hd : h.Declines) (t : Text) : (h.display t).Declines :=
  ⟨hd.confirms, hd.unanswered, hd.cancelled, hd.cancelsAfter⟩

theorem Awaits.display (ha : Awaits before reply after asked h h') (t t' : Text) :
    Awaits before reply after asked (h.display t) (h'.display t') :=
  ⟨ha.confirms, ha.spared, ha.harmless, ha.cancels, ha.unanswered, ha.cancelled, ha.cancelsAfter, ha.asked⟩

/-- A question is answered the same, by one of the replies before or by the one that cancels. -/
theorem Awaits.confirm (ha : Awaits before reply after asked h h') (question : Text) (selection : Selection) :
    (h.confirm question selection).1 = (h'.confirm question selection).1 ∧
      ((∃ before, Awaits before reply after asked (h.confirm question selection).2
          (h'.confirm question selection).2) ∨
        Behind after asked (h.confirm question selection).2 (h'.confirm question selection).2) := by
  have hasked := h.questions_confirm question selection
  have hcount := ha.asked
  cases before with
  | nil =>
    have hconfirm : h.confirm question selection = (reply.answer,
        { h.note (.question question selection) with
          confirms := after
          cancelled := h.cancelled || reply.cancels }) := by
      simp [Host.confirm, note, ha.confirms]
    have hconfirm' : h'.confirm question selection = (reply.answer,
        { h'.note (.question question selection) with confirms := [], cancelled := h'.cancelled }) := by
      simp [Host.confirm, note, ha.spared]
    rw [List.length_nil, Nat.add_zero] at hcount
    rw [hconfirm] at hasked ⊢
    rw [hconfirm']
    exact ⟨rfl, .inr ⟨rfl, by simp [ha.cancels], ha.cancelsAfter.1, by rw [hasked, hcount],
      rfl, ha.unanswered, ha.cancelled.2, ha.cancelsAfter.2⟩⟩
  | cons earlier before =>
    have hearlier := ha.harmless earlier List.mem_cons_self
    have hconfirm : h.confirm question selection = (earlier.answer,
        { h.note (.question question selection) with
          confirms := before ++ reply :: after
          cancelled := h.cancelled || earlier.cancels }) := by
      simp [Host.confirm, note, ha.confirms]
    have hconfirm' : h'.confirm question selection = (earlier.answer,
        { h'.note (.question question selection) with
          confirms := before ++ [{ reply with cancels := false }]
          cancelled := h'.cancelled || earlier.cancels }) := by
      simp [Host.confirm, note, ha.spared]
    rw [List.length_cons] at hcount
    rw [hconfirm] at hasked ⊢
    rw [hconfirm']
    refine ⟨rfl, .inl ⟨before, rfl, rfl, fun b hb => ha.harmless b (List.mem_cons_of_mem _ hb), ha.cancels,
      ha.unanswered, ?_, ha.cancelsAfter, by omega⟩⟩
    simp [ha.cancelled, hearlier]

end Host

namespace Substitution
variable {s : Substitution} {before after : List (Reply Confirm)} {reply : Reply Confirm} {asked : Nat}

/-- A line being worked on, and the same line where the reply does not cancel. -/
structure LineDraft.Alongside (s : Substitution) (reply : Reply Confirm) (after : List (Reply Confirm)) (asked : Nat)
    (w w' : LineDraft) : Prop where
  frame : w.frame.Reselected w'.frame
  applied : w.applied = w'.applied
  host : (∃ before, w.host.Awaits before reply after asked w'.host) ∧ w.stopped = w'.stopped ∨
    w.host.Behind after asked w'.host ∧ s.flags.confirm ∧ (w'.stopped → w.stopped)

/-- Where everything is declined nothing happens to a line. -/
theorem takeMatches_declined (hs : s.flags.confirm) (start : Nat) (ms : List Match) (offset : Nat) (rest : Text)
    {w : LineDraft} (hd : w.host.Declines) :
    ∃ selection host, host.Declines ∧ s.takeMatches start ms offset rest w =
      (rest, { w with frame := { w.frame with selection }, host }) := by
  induction ms generalizing w with
  | nil => exact ⟨w.frame.selection, w.host, hd, rfl⟩
  | cons m others ih =>
    simp only [takeMatches, Host.look_of_none hd.cancelsAfter, hd.cancelled, Bool.false_eq_true, ↓reduceIte]
    generalize expandReplacement (m.groupText (rest.drop (m.start - offset))) .asIs s.replacement = replacement
    unfold answer
    rw [if_pos hs]
    dsimp only
    have hdisplayed := hd.display (w.frame.select ⟨start + m.start, start + m.stop, .stream⟩).text
    have hanswer := hdisplayed.confirm ("Replace with " ++ replacement ++ ['?'])
      (w.frame.select ⟨start + m.start, start + m.stop, .stream⟩).selection
    generalize (w.host.display _).confirm _ _ = r at hanswer ⊢
    obtain ⟨given, host⟩ := r
    obtain ⟨rfl, hhost⟩ := hanswer
    obtain ⟨selection, host', hhost', htake⟩ :=
      ih (w := { w with frame := w.frame.select ⟨start + m.start, start + m.stop, .stream⟩, host }) hhost
    exact ⟨selection, host', hhost', htake⟩

/-- The matches of a line are replaced the same. -/
theorem takeMatches_alongside (start : Nat) (ms : List Match) (offset : Nat) (rest : Text) {w w' : LineDraft}
    (h : LineDraft.Alongside s reply after asked w w') :
    (s.takeMatches start ms offset rest w).1 = (s.takeMatches start ms offset rest w').1 ∧
      LineDraft.Alongside s reply after asked (s.takeMatches start ms offset rest w).2
        (s.takeMatches start ms offset rest w').2 := by
  induction ms generalizing offset rest w w' with
  | nil => exact ⟨rfl, h⟩
  | cons m others ih =>
    rcases h.host with ⟨⟨before, ha⟩, hstopped⟩ | ⟨hb, hs, -⟩
    · simp only [takeMatches, Host.look_of_none ha.cancelsAfter.1, Host.look_of_none ha.cancelsAfter.2, ha.cancelled,
        Bool.false_eq_true, ↓reduceIte]
      generalize expandReplacement (m.groupText (rest.drop (m.start - offset))) .asIs s.replacement = replacement
      have hanswer : (s.answer w start m replacement).1 = (s.answer w' start m replacement).1 ∧
          LineDraft.Alongside s reply after asked (s.answer w start m replacement).2
            (s.answer w' start m replacement).2 := by
        unfold answer
        split
        · next hs =>
          dsimp only
          rw [← h.frame.select]
          generalize w.frame.select ⟨start + m.start, start + m.stop, .stream⟩ = f
          obtain ⟨hgiven, hhost⟩ := (ha.display f.text f.text).confirm ("Replace with " ++ replacement ++ ['?'])
            f.selection
          exact ⟨hgiven, .refl f, h.applied,
            hhost.imp (fun hawaits => ⟨hawaits, hstopped⟩) fun hbehind => ⟨hbehind, hs, fun hw => hstopped ▸ hw⟩⟩
        · exact ⟨rfl, h⟩
      generalize s.answer w start m replacement = r at hanswer ⊢
      generalize s.answer w' start m replacement = r' at hanswer ⊢
      obtain ⟨given, w₁⟩ := r
      obtain ⟨given', w₁'⟩ := r'
      obtain ⟨rfl, hdraft⟩ : given = given' ∧ _ := hanswer
      cases given with
      | cancel =>
        exact ⟨rfl, hdraft.frame, hdraft.applied,
          hdraft.host.imp (fun h => ⟨h.1, rfl⟩) fun h => ⟨h.1, h.2.1, fun _ => rfl⟩⟩
      | no => exact ih offset rest hdraft
      | yes =>
        have happlied : LineDraft.Alongside s reply after asked { w₁ with applied := w₁.applied + 1 }
            { w₁' with applied := w₁'.applied + 1 } :=
          ⟨hdraft.frame, congrArg (· + 1) hdraft.applied, hdraft.host⟩
        obtain ⟨htext, hdone⟩ := ih m.stop ((rest.drop (m.start - offset)).drop (m.stop - m.start)) happlied
        exact ⟨by dsimp only; rw [htext], hdone⟩
    · -- The flag is up, so that nothing more is looked at; in the other surroundings all is declined.
      obtain ⟨selection, host, hhost, htake⟩ := takeMatches_declined hs start (m :: others) offset rest hb.declines
      have hstop : s.takeMatches start (m :: others) offset rest w = (rest, { w with stopped := true }) := by
        simp only [takeMatches, Host.look_of_none hb.cancelsAfter, hb.cancelled, ↓reduceIte]
      rw [htake, hstop]
      exact ⟨rfl, h.frame.trans ⟨selection, rfl⟩, h.applied,
        .inr ⟨⟨hb.confirms, hb.cancelled, hb.cancelsAfter, hb.asked, hhost⟩, hs, fun _ => rfl⟩⟩

/-- A substitution under way, and the same one where the reply does not cancel. -/
structure Progress.Alongside (s : Substitution) (reply : Reply Confirm) (after : List (Reply Confirm)) (asked : Nat)
    (p p' : Progress) : Prop where
  frame : p.frame.Reselected p'.frame
  count : p.count = p'.count
  lastChanged : p.lastChanged = p'.lastChanged
  host : (∃ before, p.host.Awaits before reply after asked p'.host) ∨
    p.host.Behind after asked p'.host ∧ s.flags.confirm

/-- Where everything is declined nothing happens to any line. -/
theorem workOnLines_declined (hs : s.flags.confirm) (m : Matcher) (n line : Nat) {p : Progress}
    (hd : p.host.Declines) :
    ∃ selection host, host.Declines ∧
      s.workOnLines m n line p = { p with frame := { p.frame with selection }, host } := by
  induction n generalizing line p with
  | zero => exact ⟨p.frame.selection, p.host, hd, rfl⟩
  | succ n ih =>
    unfold workOnLines
    split
    · exact ⟨p.frame.selection, p.host, hd, rfl⟩
    · split
      · exact ⟨p.frame.selection, p.host, hd, rfl⟩
      · obtain ⟨selection, host, hhost, htake⟩ := takeMatches_declined hs (p.frame.lineStart line)
          (s.consideredMatches m (p.frame.line line)) 0 (p.frame.line line)
          (w := { frame := p.frame, host := p.host }) hd
        simp only [htake, ↓reduceIte, Bool.false_eq_true]
        obtain ⟨selection', host', hhost', hloop⟩ := ih (line + 1 + 0)
          (p := { p with frame := { p.frame with selection }, host }) hhost
        exact ⟨selection', host', hhost', hloop⟩

/-- How far a substitution has come when the text of a line is put together again. -/
def Progress.withLine (p : Progress) (w : LineDraft) (line start stop : Nat) (rebuilt : Text) : Progress :=
  if w.applied = 0 then { p with frame := w.frame, host := w.host }
  else ⟨w.frame.replace start stop rebuilt, w.host, p.count + w.applied, some line⟩

theorem Progress.withLine_host (p : Progress) (w : LineDraft) (line start stop : Nat) (rebuilt : Text) :
    (p.withLine w line start stop rebuilt).host = w.host := by
  unfold withLine
  split <;> rfl

theorem Progress.Alongside.withLine {p p' : Progress} {w w' : LineDraft} (h : Alongside s reply after asked p p')
    (hw : LineDraft.Alongside s reply after asked w w') (line start stop : Nat) (rebuilt : Text) :
    Alongside s reply after asked (p.withLine w line start stop rebuilt) (p'.withLine w' line start stop rebuilt) := by
  have hhost := hw.host.imp And.left fun h => And.intro h.1 h.2.1
  unfold Progress.withLine
  rw [← hw.applied]
  by_cases happlied : w.applied = 0
  · rw [if_pos happlied, if_pos happlied]
    exact ⟨hw.frame, h.count, h.lastChanged, hhost⟩
  · rw [if_neg happlied, if_neg happlied]
    exact ⟨hw.frame.replace _ _ _, congrArg (· + w.applied) h.count, rfl, hhost⟩

/-- The lines are worked on the same. -/
theorem workOnLines_alongside (m : Matcher) (n line : Nat) {p p' : Progress}
    (h : Progress.Alongside s reply after asked p p') :
    Progress.Alongside s reply after asked (s.workOnLines m n line p) (s.workOnLines m n line p') := by
  induction n generalizing line p p' with
  | zero => exact h
  | succ n ih =>
    obtain ⟨selection, hframe⟩ := h.frame
    have hmark : p'.frame.mark? .rangeEnd = p.frame.mark? .rangeEnd := by rw [hframe]; rfl
    unfold workOnLines
    rw [hmark]
    split
    · exact h
    next stop _ =>
    have hat : p'.frame.lineAt stop = p.frame.lineAt stop := by rw [hframe]; rfl
    have hline : p'.frame.line line = p.frame.line line := by rw [hframe]; rfl
    have hstart : p'.frame.lineStart line = p.frame.lineStart line := by rw [hframe]; rfl
    rw [hat, hline, hstart]
    split
    · exact h
    dsimp only
    generalize p.frame.line line = text
    generalize p.frame.lineStart line = start
    have hdraft : LineDraft.Alongside s reply after asked { frame := p.frame, host := p.host }
        { frame := p'.frame, host := p'.host } :=
      ⟨h.frame, rfl, h.host.imp (fun h => ⟨h, rfl⟩) fun h => ⟨h.1, h.2, id⟩⟩
    obtain ⟨hrebuilt, hw⟩ := takeMatches_alongside start (s.consideredMatches m text) 0 text hdraft
    generalize s.takeMatches start (s.consideredMatches m text) 0 text
      { frame := p.frame, host := p.host } = r at hrebuilt hw ⊢
    generalize s.takeMatches start (s.consideredMatches m text) 0 text
      { frame := p'.frame, host := p'.host } = r' at hrebuilt hw ⊢
    obtain ⟨rebuilt, w⟩ := r
    obtain ⟨rebuilt', w'⟩ := r'
    obtain rfl : rebuilt = rebuilt' := hrebuilt
    have hworked := h.withLine hw line start (start + text.length) rebuilt
    have hhost := p.withLine_host w line start (start + text.length) rebuilt
    have hhost' := p'.withLine_host w' line start (start + text.length) rebuilt
    simp only [Progress.withLine] at hworked hhost hhost'
    dsimp only at hw ⊢
    rw [← hw.applied] at hworked hhost' ⊢
    generalize (if w.applied = 0 then _ else _ : Progress) = p₁ at hworked hhost ⊢
    generalize (if w.applied = 0 then _ else _ : Progress) = p₁' at hworked hhost' ⊢
    generalize line + 1 + (if w.applied = 0 then 0 else rebuilt.count '\n') = next
    have hafter := ih next hworked
    rcases hw.host with ⟨-, hstopped⟩ | ⟨hbehind, hs, hstopped⟩
    · rw [hstopped]
      split
      · exact hworked
      · exact hafter
    · cases hend : w.stopped with
      | false =>
        have hend' : w'.stopped = false := by
          cases hopen : w'.stopped with
          | false => rfl
          | true => exact absurd (hstopped hopen) (by simp [hend])
        simp only [hend', Bool.false_eq_true, ↓reduceIte]
        exact hafter
      | true =>
        simp only [↓reduceIte]
        split
        · exact hworked
        · -- The work has stopped; in the other surroundings it goes on, with nothing but refusals.
          obtain ⟨selection, host, hdeclines, hloop⟩ :=
            workOnLines_declined hs m n next (p := p₁') (hhost' ▸ hbehind.declines)
          rw [hloop]
          exact ⟨hworked.frame.trans ⟨selection, rfl⟩, hworked.count, hworked.lastChanged,
            .inr ⟨⟨hhost ▸ hbehind.confirms, hhost ▸ hbehind.cancelled, hhost ▸ hbehind.cancelsAfter,
              hhost ▸ hbehind.asked, hdeclines⟩, hs⟩⟩

/-- What a substitution leaves, beside what it leaves where the reply does not cancel. -/
theorem run_alongside (m : Matcher) (first last : Nat) (f : Frame) {h h' : Host}
    (ha : h.Awaits before reply after asked h') :
    (s.run m first last f h).frame = (s.run m first last f h').frame ∧
      (s.run m first last f h).count = (s.run m first last f h').count ∧
      ((s.run m first last f h).host.cancelled →
        (s.run m first last f h).host.Behind after asked (s.run m first last f h').host) := by
  have hstart : Progress.Alongside s reply after asked { frame := (markLines f first last).openGroup, host := h }
      { frame := (markLines f first last).openGroup, host := h' } := ⟨.refl _, rfl, rfl, .inl ⟨before, ha⟩⟩
  have hloop := workOnLines_alongside m (lineBound f) first hstart
  unfold run
  generalize s.workOnLines m (lineBound f) first { frame := (markLines f first last).openGroup, host := h } = p
    at hloop ⊢
  generalize s.workOnLines m (lineBound f) first { frame := (markLines f first last).openGroup, host := h' } = p'
    at hloop ⊢
  refine ⟨?_, hloop.count, fun hflag => ?_⟩
  · obtain ⟨selection, hframe⟩ := hloop.frame
    unfold Progress.finish
    dsimp only
    rw [← hloop.lastChanged, hframe]
    cases p.lastChanged <;> rfl
  · rcases hloop.host with ⟨_, hawaits⟩ | ⟨hbehind, -⟩
    · exact absurd hflag (by rw [finish_host, hawaits.cancelled.1]; exact Bool.false_ne_true)
    · exact hbehind

end Substitution

end ExEditor
