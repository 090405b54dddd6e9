import ExEditor.Proofs.Substitution.Cancelled
import ExEditor.Proofs.Text.Offsets

/-! How often the loop of a substitution goes round. It counts line feeds where the frame counts breaks. If these are
the same in each line that it puts in place of another, it goes round at most once for each line of the range. -/
namespace ExEditor

/-! ### Surroundings that agree -/

namespace Host
variable {h : Host}

/-- Surroundings that answer each question with yes. -/
structure Agrees (h : Host) : Prop where
  confirms : ∀ reply ∈ h.confirms, reply.answer = .yes
  unanswered : h.unanswered = .yes

/-- Surroundings in which questions cancel nothing, and nothing else does. -/
structure Calm (h : Host) : Prop where
  confirms : ∀ reply ∈ h.confirms, reply.cancels = false
  cancelled : h.cancelled = false
  cancelsAfter : h.cancelsAfter = none

theorem Agrees.look (ha : h.Agrees) : h.look.2.Agrees := by
  unfold Host.look
  split <;> exact ⟨ha.confirms, ha.unanswered⟩

theorem Calm.look (hc : h.Calm) : h.look = (false, h) := by
  rw [look_of_none hc.cancelsAfter, hc.cancelled]

theorem Agrees.confirm (ha : h.Agrees) (question : Text) (selection : Selection) :
    (h.confirm question selection).1 = .yes ∧ (h.confirm question selection).2.Agrees := by
  unfold Host.confirm
  cases hconfirms : h.confirms with
  | nil =>
    simp only [note, hconfirms]
    exact ⟨ha.unanswered, fun _ hr => absurd hr List.not_mem_nil, ha.unanswered⟩
  | cons reply rest =>
    have hreplies := hconfirms ▸ ha.confirms
    simp only [note, hconfirms]
    exact ⟨hreplies reply List.mem_cons_self, fun r hr => hreplies r (List.mem_cons_of_mem _ hr), ha.unanswered⟩

theorem Calm.confirm (hc : h.Calm) (question : Text) (selection : Selection) :
    (h.confirm question selection).2.Calm := by
  unfold Host.confirm
  cases hconfirms : h.confirms with
  | nil =>
    simp only [note, hconfirms]
    exact ⟨fun _ hr => absurd hr List.not_mem_nil, hc.cancelled, hc.cancelsAfter⟩
  | cons reply rest =>
    have hreplies := hconfirms ▸ hc.confirms
    simp only [note, hconfirms]
    exact ⟨fun r hr => hreplies r (List.mem_cons_of_mem _ hr),
      by simp [hc.cancelled, hreplies reply List.mem_cons_self], hc.cancelsAfter⟩

end Host

namespace Substitution
variable {s : Substitution}

/-- What is answered about a site: yes if nothing is asked. -/
def answered (s : Substitution) (t : Text) (accepted : List Site) (site : Site) (h : Host) : Confirm × Host :=
  if s.flags.confirm then s.ask t accepted site h else (.yes, h)

section judged
variable {t : Text} {accepted : List Site} {site : Site} {h : Host}

theorem answered_agrees (t : Text) (accepted : List Site) (site : Site) (ha : s.flags.confirm → h.Agrees) :
    (s.answered t accepted site h).1 = .yes ∧ (s.flags.confirm → (s.answered t accepted site h).2.Agrees) := by
  unfold answered
  split
  · next hconfirm =>
    have hagrees := ha hconfirm
    have hdisplayed : (h.display (s.draft t accepted site.line)).Agrees := ⟨hagrees.confirms, hagrees.unanswered⟩
    obtain ⟨hyes, hstill⟩ := hdisplayed.confirm _ _
    exact ⟨hyes, fun _ => hstill⟩
  · exact ⟨rfl, ha⟩

theorem answered_calm (hc : h.Calm) : (s.answered t accepted site h).2.Calm := by
  unfold answered
  split
  · have hdisplayed : (h.display (s.draft t accepted site.line)).Calm := ⟨hc.confirms, hc.cancelled, hc.cancelsAfter⟩
    exact hdisplayed.confirm _ _
  · exact hc

/-- Where nothing is declined, a site is accepted or everything stops. -/
theorem judge_cons_agrees (ha : s.flags.confirm → h.Agrees) (others : List Site) :
    s.judge t (site :: others) accepted h =
      if h.look.1 then { accepted, host := h.look.2, stopped := true }
      else s.judge t others (accepted ++ [site]) (s.answered t accepted site h.look.2).2 := by
  have hyes := (answered_agrees t accepted site fun hc => (ha hc).look).1
  rw [answered] at hyes
  rw [judge, answered]
  generalize h.look = seen at hyes
  obtain ⟨cancelled, host⟩ := seen
  cases cancelled with
  | true => rfl
  | false =>
    revert hyes
    dsimp only
    generalize (if s.flags.confirm then s.ask t accepted site host else (.yes, host)) = given
    obtain ⟨answer, host⟩ := given
    rintro rfl
    rfl

/-- If all questions are answered with yes, all sites are accepted unless everything is to stop. -/
theorem judge_agrees (t : Text) (accepted sites : List Site) (ha : s.flags.confirm → h.Agrees) :
    (s.flags.confirm → (s.judge t sites accepted h).host.Agrees) ∧
      ((s.judge t sites accepted h).stopped = false →
        (s.judge t sites accepted h).accepted = accepted ++ sites) := by
  induction sites generalizing accepted h with
  | nil => exact ⟨ha, fun _ => (List.append_nil accepted).symm⟩
  | cons site others ih =>
    have hlooked : s.flags.confirm → h.look.2.Agrees := fun hc => (ha hc).look
    rw [judge_cons_agrees ha]
    split
    · exact ⟨hlooked, nofun⟩
    · obtain ⟨hagrees, haccepted⟩ := ih (accepted ++ [site]) (answered_agrees t accepted site hlooked).2
      exact ⟨hagrees, fun hgoes => by rw [haccepted hgoes, List.append_assoc, List.singleton_append]⟩

theorem judge_calm (sites : List Site) (ha : s.flags.confirm → h.Agrees) (hc : h.Calm) :
    (s.judge t sites accepted h).host.Calm ∧ (s.judge t sites accepted h).stopped = false := by
  induction sites generalizing accepted h with
  | nil => exact ⟨hc, rfl⟩
  | cons site others ih =>
    rw [judge_cons_agrees ha, hc.look]
    exact ih (answered_agrees t accepted site ha).2 (answered_calm hc)

end judged

/-! ### Going round the loop -/

/-- What the loop does with a line: the line it goes on with, and whether it is to stop. -/
structure Pass where
  next : Nat
  stopped : Bool
  after : Progress

/-- Once round the loop. -/
def pass (s : Substitution) (m : Matcher) (line : Nat) (p : Progress) : Pass :=
  let text := p.frame.line line
  let start := p.frame.lineStart line
  let (rebuilt, w) := s.takeMatches start (s.consideredMatches m text) 0 text { frame := p.frame, host := p.host }
  { next := line + 1 + if w.applied = 0 then 0 else rebuilt.count '\n'
    stopped := w.stopped
    after := p.withLine w line start (start + text.length) rebuilt }

/-- Whether the end of the range is behind, so that the loop ends. -/
def Past (line : Nat) (p : Progress) : Prop := ∀ stop ∈ p.frame.mark? .rangeEnd, p.frame.lineAt stop < line

/-- The loop goes round from a line on until it ends, and this is what stands in the lines it works on and how it
ends. -/
inductive Passes (s : Substitution) (m : Matcher) : Nat → Progress → List Text → Progress → Prop
  | done {line p} (h : Past line p) : Passes s m line p [] p
  | stopped {line p} (h : ¬ Past line p) (hstop : (s.pass m line p).stopped) :
      Passes s m line p [p.frame.line line] (s.pass m line p).after
  | next {line p worked q} (h : ¬ Past line p) (hstop : (s.pass m line p).stopped = false)
      (hlater : Passes s m (s.pass m line p).next (s.pass m line p).after worked q) :
      Passes s m line p (p.frame.line line :: worked) q

variable {m : Matcher} {line : Nat} {p q : Progress} {worked : List Text}

theorem workOnLines_past (fuel : Nat) (h : Past line p) : s.workOnLines m fuel line p = p := by
  cases hmark : p.frame.mark? .rangeEnd with
  | none => cases fuel <;> simp [workOnLines, hmark]
  | some stop => exact workOnLines_done m fuel hmark (h stop hmark)

theorem workOnLines_pass (fuel : Nat) (h : ¬ Past line p) :
    s.workOnLines m (fuel + 1) line p = if (s.pass m line p).stopped then (s.pass m line p).after
      else s.workOnLines m fuel (s.pass m line p).next (s.pass m line p).after := by
  simp only [Past, not_forall] at h
  obtain ⟨stop, hmark, hle⟩ := h
  rw [workOnLines, Option.mem_def.mp hmark]
  simp only [hle, ↓reduceIte]
  rfl

/-- A bound that the loop does not reach does not matter. -/
theorem Passes.workOnLines_eq (h : s.Passes m line p worked q) {fuel : Nat} (hfuel : worked.length ≤ fuel) :
    s.workOnLines m fuel line p = q := by
  induction h generalizing fuel with
  | done h => exact workOnLines_past fuel h
  | stopped h hstop =>
    obtain ⟨fuel, rfl⟩ := Nat.exists_eq_add_of_le' hfuel
    rw [List.length_singleton, workOnLines_pass fuel h, if_pos hstop]
  | next h hstop _ ih =>
    rw [List.length_cons] at hfuel
    obtain ⟨fuel, rfl⟩ := Nat.exists_eq_add_of_le' (Nat.le_trans (Nat.le_add_left 1 _) hfuel)
    rw [workOnLines_pass fuel h, if_neg (by simp [hstop])]
    exact ih (by omega)

/-- The loop goes round in one way. -/
theorem Passes.unique (h : s.Passes m line p worked q) {worked' : List Text} {q' : Progress}
    (h' : s.Passes m line p worked' q') : worked = worked' ∧ q = q' := by
  induction h generalizing worked' q' with
  | done h =>
    cases h' with
    | done => exact ⟨rfl, rfl⟩
    | stopped hnot => exact absurd h hnot
    | next hnot => exact absurd h hnot
  | stopped h hstop =>
    cases h' with
    | done hpast => exact absurd hpast h
    | stopped => exact ⟨rfl, rfl⟩
    | next _ hgoes => simp [hstop] at hgoes
  | next h hstop _ ih =>
    cases h' with
    | done hpast => exact absurd hpast h
    | stopped _ hstops => simp [hstop] at hstops
    | next _ _ hlater =>
      obtain ⟨rfl, rfl⟩ := ih hlater
      exact ⟨rfl, rfl⟩

/-! ### One pass -/

/-- What takes the place of a line if nothing is declined. -/
def replacing (s : Substitution) (m : Matcher) (t : Text) (n : Nat) : Text :=
  s.spliced (t.line n) 0 (s.consideredMatches m (t.line n))

theorem draft_nil (s : Substitution) (t : Text) (n : Nat) : s.draft t [] n = t := by
  rw [draft, front_nil, Text.take_lineStart, Text.fromLine_eq, Text.segments_take_drop]

/-- A pass puts the line in place with the matches replaced that are accepted of those that are considered. -/
theorem pass_judged (s : Substitution) (m : Matcher) (line : Nat) (p : Progress) :
    ∃ picked selection,
      let verdict := s.judge p.frame.text (s.lineSites m p.frame.text line) [] p.host
      let rebuilt := s.spliced (p.frame.line line) 0 picked
      verdict.accepted = Site.ofLine line picked ∧
      s.pass m line p =
        { next := line + 1 + if picked.length = 0 then 0 else rebuilt.count '\n'
          stopped := verdict.stopped
          after := p.withLine ⟨{ p.frame with selection }, verdict.host, picked.length, verdict.stopped⟩ line
            (p.frame.lineStart line) (p.frame.lineEnd line) rebuilt } := by
  have htext : ({ frame := p.frame, host := p.host } : LineDraft).frame.text = s.draft p.frame.text [] line :=
    (draft_nil s p.frame.text line).symm
  obtain ⟨picked, selection, -, hacc, htake⟩ := takeMatches_eq
    (s.consideredMatches_inOrder m (p.frame.text.line line)) htext rfl
  have hstart : (s.front p.frame.text [] line).length = p.frame.lineStart line := by
    rw [front_nil, List.length_take_of_le (p.frame.text.lineStart_le line)]
    rfl
  rw [List.drop_zero, hstart] at htake
  refine ⟨picked, selection, hacc, ?_⟩
  simp only [pass, Frame.line, htake, Nat.zero_add]
  rfl

/-- A pass leaves surroundings as they are asked for, and stops in none that are calm. -/
theorem pass_host (m : Matcher) (line : Nat) (ha : s.flags.confirm → p.host.Agrees) :
    (s.flags.confirm → (s.pass m line p).after.host.Agrees) ∧
      (p.host.Calm → (s.pass m line p).after.host.Calm ∧ (s.pass m line p).stopped = false) := by
  obtain ⟨picked, selection, -, hpass⟩ := s.pass_judged m line p
  rw [hpass]
  simp only [Progress.withLine_host]
  exact ⟨(judge_agrees _ _ _ ha).1, judge_calm _ ha⟩

/-- If all questions are answered with yes, a pass that does not stop replaces all matches that are considered, and
the mark moves with what follows the line. -/
theorem pass_eq {stop : Nat} (ha : s.flags.confirm → p.host.Agrees)
    (hmark : p.frame.mark? .rangeEnd = some stop) (hstop : p.frame.text.lineEnd line ≤ stop)
    (hgoes : (s.pass m line p).stopped = false) :
    (s.pass m line p).after.frame.text = p.frame.text.take (p.frame.text.lineStart line) ++
        (s.replacing m p.frame.text line ++ p.frame.text.drop (p.frame.text.lineEnd line)) ∧
      (s.pass m line p).after.frame.mark? .rangeEnd =
        some (stop - (p.frame.text.line line).length + (s.replacing m p.frame.text line).length) ∧
      (s.pass m line p).next = line + 1 + (s.replacing m p.frame.text line).count '\n' := by
  obtain ⟨picked, selection, hacc, hpass⟩ := s.pass_judged m line p
  rw [hpass] at hgoes ⊢
  have hall := (judge_agrees p.frame.text [] (s.lineSites m p.frame.text line) ha).2 hgoes
  have hpicked : picked = s.consideredMatches m (p.frame.text.line line) := by
    have heq := congrArg (Site.onLine · line) (hacc.symm.trans hall)
    simpa only [List.nil_append, lineSites, Site.onLine_ofLine] using heq
  have hrebuilt : s.replacing m p.frame.text line = s.spliced (p.frame.line line) 0 picked := by
    rw [replacing, hpicked]
    rfl
  rw [hrebuilt]
  have hlength : p.frame.lineEnd line - p.frame.lineStart line = (p.frame.text.line line).length :=
    Nat.add_sub_cancel_left _ _
  have hstart : p.frame.lineStart line ≤ p.frame.lineEnd line := Nat.le_add_right _ _
  have hle : p.frame.lineEnd line ≤ p.frame.length := p.frame.text.lineEnd_le line
  by_cases hnone : picked = []
  · subst hnone
    have hcount : (p.frame.text.line line).count '\n' = 0 := Text.count_feed_plain (Text.isPlain_lineBody _)
    simp only [Progress.withLine, List.length_nil, ↓reduceIte, spliced, List.drop_zero, Frame.line, hcount]
    refine ⟨?_, ?_, trivial⟩
    · rw [← List.append_assoc, ← Text.take_lineEnd, List.take_append_drop]
    · rw [Nat.sub_add_cancel (by rw [Text.lineEnd] at hstop; omega)]
      exact hmark
  · have happlied : picked.length ≠ 0 := by simpa using hnone
    simp only [Progress.withLine, happlied, ↓reduceIte]
    refine ⟨?_, ?_, trivial⟩
    · exact Frame.replace_text { p.frame with selection } hstart hle _
    · have hmoved := Frame.mark?_replace (f := { p.frame with selection }) hmark hstart hstop hle
        (s.spliced (p.frame.line line) 0 picked)
      rw [hlength] at hmoved
      exact hmoved

/-! ### Where the loop stands -/

/-- The loop stands at a line of the text it began with: something else stands in front, as many lines as the loop
counts, and the mark is where the last line of the range will end. -/
structure Standing (t : Text) (last n : Nat) (front : Text) (p : Progress) : Prop where
  le_last : n ≤ last
  text_eq : p.frame.text = front ++ t.fromLine n
  whole : front.IsWhole
  getLast?_eq : front.getLast? = (t.take (t.lineStart n)).getLast?
  mark_eq : p.frame.mark? .rangeEnd = some (front.length + (t.lineEnd last - t.lineStart n))

namespace Standing
variable {t : Text} {last n : Nat} {front : Text} (hl : last < t.segments.length)
  (h : Standing t last n front p)
include hl h

theorem not_meets : ¬ Text.Meets front (t.fromLine n) := by
  have hn := Nat.lt_of_le_of_lt h.le_last hl
  have hmeets := Text.not_meets_lineStart hn
  rwa [Text.Meets, ← h.getLast?_eq, Text.drop_lineStart_eq] at hmeets

theorem fromLine_eq : p.frame.text.fromLine front.breakCount = t.fromLine n := by
  rw [h.text_eq, Text.fromLine_append h.whole, if_neg (h.not_meets hl)]

theorem lineStart_eq : p.frame.text.lineStart front.breakCount = front.length := by
  rw [h.text_eq, Text.lineStart_append h.whole, if_neg (h.not_meets hl)]

theorem line_eq : p.frame.text.line front.breakCount = t.line n := by
  rw [Text.line, h.fromLine_eq hl, Text.line]

theorem lineEnd_eq : p.frame.text.lineEnd front.breakCount = front.length + (t.line n).length := by
  rw [Text.lineEnd, h.lineStart_eq hl, h.line_eq hl]

/-- The loop has as many lines in front of it as there are left in the range. -/
theorem lineAt_eq : ∀ stop ∈ p.frame.mark? .rangeEnd, p.frame.lineAt stop = front.breakCount + (last - n) := by
  intro stop hmark
  obtain rfl : _ = stop := Option.some.inj (h.mark_eq.symm.trans hmark)
  have hn := Nat.lt_of_le_of_lt h.le_last hl
  have hend := Nat.le_trans (Nat.le_add_right (t.lineStart n) _) (t.lineEnd_mono h.le_last)
  have hclamp : p.frame.clamp (front.length + (t.lineEnd last - t.lineStart n)) =
      front.length + (t.lineEnd last - t.lineStart n) := by
    have hle := t.lineEnd_le last
    rw [Frame.clamp, Frame.length, h.text_eq, List.length_append, Text.length_fromLine]
    omega
  have hbehind : p.frame.text.drop (front.length + (t.lineEnd last - t.lineStart n)) = t.drop (t.lineEnd last) := by
    rw [h.text_eq, List.drop_length_add_append, ← Text.drop_lineStart_eq, List.drop_drop,
      Nat.add_sub_cancel' hend]
  have hall := Text.breakCount_append front (t.fromLine n)
  rw [if_neg (h.not_meets hl), ← h.text_eq] at hall
  have hfrom := t.lineAt_add_breakCount (t.lineStart n)
  rw [Text.lineAt_lineStart hn, Text.drop_lineStart_eq] at hfrom
  have hto := t.lineAt_add_breakCount (t.lineEnd last)
  rw [Text.segments_length] at hl
  rw [Text.lineAt_lineEnd (by omega)] at hto
  have hat := p.frame.text.lineAt_add_breakCount (front.length + (t.lineEnd last - t.lineStart n))
  rw [hbehind] at hat
  have hle := h.le_last
  rw [Frame.lineAt, hclamp]
  omega

theorem not_past : ¬ Past front.breakCount p := fun hpast => by
  have hat := h.lineAt_eq hl _ h.mark_eq
  have hlt := hpast _ h.mark_eq
  omega

/-- Passing over a line that stays as it is. -/
theorem skip (hlt : n < last) :
    Standing t last (n + 1) (front ++ t.segments[n]) p ∧
      Text.breakCount (front ++ t.segments[n]) = front.breakCount + 1 := by
  have hn := Nat.lt_of_le_of_lt h.le_last hl
  obtain ⟨hone, hends⟩ := Text.segment_whole hn (by omega)
  have hne : t.segments[n] ≠ [] := fun hnil => by
    rw [hnil] at hone
    cases hone
  have hmeets : ¬ Text.Meets front t.segments[n] := fun hmeets => by
    refine h.not_meets hl ?_
    rw [Text.fromLine_succ t hn]
    exact hmeets.append_right _
  refine ⟨⟨hlt, ?_, .inr ?_, ?_, ?_⟩, ?_⟩
  · rw [h.text_eq, Text.fromLine_succ t hn, List.append_assoc]
  · rwa [Text.endsInBreak_append hne]
  · rw [Text.take_lineStart_succ hn, List.getLast?_append_of_ne_nil _ hne, List.getLast?_append_of_ne_nil _ hne]
  · have hstart := t.lineStart_succ hn
    have hnext : t.lineStart (n + 1) ≤ t.lineStart last := t.lineStart_mono hlt
    rw [h.mark_eq, List.length_append, Option.some.injEq, Text.lineEnd]
    omega
  · have happend := Text.breakCount_append front t.segments[n]
    rw [if_neg hmeets, hone] at happend
    exact happend

end Standing

/-! ### From line to line -/

/-- The break of a line, nothing for a line that has none. -/
def lineBreakOf (t : Text) (n : Nat) : Text := (t.segments.getD n []).drop (t.line n).length

/-- In what takes the place of a line, the loop counts all breaks: each return is of a break that a feed ends, or of
the break that the line had. -/
def Counted (s : Substitution) (m : Matcher) (t : Text) (n : Nat) : Prop :=
  Text.breakCount (s.replacing m t n ++ lineBreakOf t n) ≤
    (s.replacing m t n).count '\n' + (lineBreakOf t n).breakCount

/-- What takes the place of a line completes the break in front of it: a feed comes to stand behind a return. -/
def Completes (s : Substitution) (m : Matcher) (t : Text) (n : Nat) : Prop :=
  Text.Meets (t.take (t.lineStart n)) (s.replacing m t n ++ lineBreakOf t n)

instance (m : Matcher) (t : Text) (n : Nat) : Decidable (s.Counted m t n) := inferInstanceAs (Decidable (_ ≤ _))

instance (m : Matcher) (t : Text) (n : Nat) : Decidable (s.Completes m t n) :=
  inferInstanceAs (Decidable (Text.Meets _ _))

section lineBreakOf
variable {t : Text} {n : Nat} (hn : n < t.segments.length)
include hn

theorem lineBreakOf_eq : lineBreakOf t n = t.segments[n].drop (Text.lineBody t.segments[n]).length := by
  rw [lineBreakOf, Text.line_getElem t hn, List.getD_eq_getElem?_getD, List.getElem?_eq_getElem hn, Option.getD_some]

theorem line_append_lineBreakOf : t.line n ++ lineBreakOf t n = t.segments[n] := by
  rw [lineBreakOf_eq hn, Text.line_getElem t hn, Text.lineBody_append]

theorem breakCount_lineBreakOf : (lineBreakOf t n).breakCount = t.segments[n].breakCount := by
  rw [lineBreakOf_eq hn, Text.breakCount_drop_lineBody]

theorem drop_lineEnd : (t.fromLine n).drop (t.line n).length = lineBreakOf t n ++ t.fromLine (n + 1) := by
  rw [Text.fromLine_succ t hn, ← line_append_lineBreakOf hn, List.append_assoc, List.drop_left]

omit hn in
theorem lineBreakOf_ne_nil (hnext : n + 1 < t.segments.length) : lineBreakOf t n ≠ [] := fun hnil => by
  have hone := breakCount_lineBreakOf (Nat.lt_of_succ_lt hnext)
  rw [hnil, (Text.segment_whole (Nat.lt_of_succ_lt hnext) hnext).1] at hone
  cases hone

theorem not_meets_lineBreakOf : ¬ Text.Meets (lineBreakOf t n) (t.fromLine (n + 1)) := fun hmeets => by
  by_cases hnext : n + 1 < t.segments.length
  · refine Text.not_meets_lineStart hnext ?_
    have hlast : (t.take (t.lineStart (n + 1))).getLast? = (lineBreakOf t n).getLast? := by
      rw [Text.take_lineStart_succ hn, ← line_append_lineBreakOf hn, ← List.append_assoc,
        List.getLast?_append_of_ne_nil _ (lineBreakOf_ne_nil hnext)]
    rwa [Text.Meets, hlast, Text.drop_lineStart_eq]
  · rw [Text.segments_length] at hnext
    rw [Text.fromLine_eq_nil (by omega)] at hmeets
    cases hmeets.2

end lineBreakOf

namespace Standing
variable {t : Text} {last n : Nat} {front : Text} (hl : last < t.segments.length) (h : Standing t last n front p)
  (ha : s.flags.confirm → p.host.Agrees) (hgoes : (s.pass m front.breakCount p).stopped = false)
include hl h ha hgoes

/-- What a pass makes of the text, where it moves the mark and where it goes on. -/
theorem pass_replacing :
    (s.pass m front.breakCount p).after.frame.text =
        front ++ (s.replacing m t n ++ lineBreakOf t n) ++ t.fromLine (n + 1) ∧
      (s.pass m front.breakCount p).after.frame.mark? .rangeEnd = some (front.length +
        (s.replacing m t n).length + (t.lineEnd last - t.lineEnd n)) ∧
      (s.pass m front.breakCount p).next = front.breakCount + 1 + (s.replacing m t n).count '\n' := by
  have hn := Nat.lt_of_le_of_lt h.le_last hl
  have hend : t.lineStart n + (t.line n).length ≤ t.lineEnd last := t.lineEnd_mono h.le_last
  have hreplacing : s.replacing m p.frame.text front.breakCount = s.replacing m t n := by
    rw [replacing, h.line_eq hl, replacing]
  have hstop : p.frame.text.lineEnd front.breakCount ≤ front.length + (t.lineEnd last - t.lineStart n) := by
    rw [h.lineEnd_eq hl]
    omega
  obtain ⟨htext, hmark, hnext⟩ := pass_eq ha h.mark_eq hstop hgoes
  rw [h.lineStart_eq hl, h.lineEnd_eq hl, h.text_eq, List.take_left, List.drop_length_add_append,
    drop_lineEnd hn, ← h.text_eq, hreplacing] at htext
  rw [h.line_eq hl, hreplacing] at hmark
  refine ⟨by simpa only [List.append_assoc] using htext, ?_, hreplacing ▸ hnext⟩
  have hlineEnd : t.lineEnd n = t.lineStart n + (t.line n).length := rfl
  rw [hmark, Option.some.injEq]
  omega

/-- Behind the last line of the range the loop ends. -/
theorem past_last (hlast : n = last) (hcounted : s.Counted m t n) :
    Past (s.pass m front.breakCount p).next (s.pass m front.breakCount p).after := by
  obtain ⟨htext, hmark, hnext⟩ := h.pass_replacing (m := m) hl ha hgoes
  subst hlast
  intro stop hstop
  obtain rfl : front.length + (s.replacing m t n).length = stop := by
    simpa using hmark.symm.trans hstop
  generalize (s.pass m front.breakCount p).after.frame = f at htext hmark hstop ⊢
  have hbehind : f.text.drop (front.length + (s.replacing m t n).length) = lineBreakOf t n ++ t.fromLine (n + 1) := by
    rw [htext]
    simp
  have hclamp : f.clamp (front.length + (s.replacing m t n).length) = front.length + (s.replacing m t n).length := by
    rw [Frame.clamp, Frame.length, htext]
    simp
  have hat := f.text.lineAt_add_breakCount (front.length + (s.replacing m t n).length)
  have hbreak := Text.breakCount_append (lineBreakOf t n) (t.fromLine (n + 1))
  have hfront := Text.breakCount_append front (s.replacing m t n ++ lineBreakOf t n)
  have hall := Text.breakCount_append (front ++ (s.replacing m t n ++ lineBreakOf t n)) (t.fromLine (n + 1))
  rw [if_neg (not_meets_lineBreakOf hl)] at hbreak
  rw [hbehind] at hat
  rw [← htext] at hall
  rw [Counted] at hcounted
  rw [Frame.lineAt, hclamp, hnext]
  omega

/-- In front of the end of the range the loop stands at the next line, if what it has put in place of the line is
taken for as many lines as it counts. -/
theorem pass_next (hlt : n < last) (hcounted : s.Counted m t n) :
    Standing t last (n + 1) (front ++ (s.replacing m t n ++ lineBreakOf t n)) (s.pass m front.breakCount p).after ∧
      (s.pass m front.breakCount p).next =
        Text.breakCount (front ++ (s.replacing m t n ++ lineBreakOf t n)) + if s.Completes m t n then 1 else 0 := by
  obtain ⟨htext, hmark, hnext⟩ := h.pass_replacing (m := m) hl ha hgoes
  have hn := Nat.lt_of_le_of_lt h.le_last hl
  have hmore : n + 1 < t.segments.length := Nat.lt_of_le_of_lt hlt hl
  have hne := lineBreakOf_ne_nil hmore
  have hrow := line_append_lineBreakOf hn
  obtain ⟨hone, hends⟩ := Text.segment_whole hn hmore
  refine ⟨⟨hlt, htext, .inr ?_, ?_, ?_⟩, ?_⟩
  · rw [← hrow, Text.endsInBreak_append hne] at hends
    rwa [← List.append_assoc, Text.endsInBreak_append hne]
  · rw [Text.take_lineStart_succ hn, ← hrow, ← List.append_assoc, ← List.append_assoc,
      List.getLast?_append_of_ne_nil _ hne, List.getLast?_append_of_ne_nil _ hne]
  · have hstart := t.lineStart_succ hn
    have hlater : t.lineStart (n + 1) ≤ t.lineStart last := t.lineStart_mono hlt
    have hlastEnd : t.lineStart last ≤ t.lineEnd last := Nat.le_add_right _ _
    have hlineEnd : t.lineEnd n = t.lineStart n + (t.line n).length := rfl
    have hlength := congrArg List.length hrow
    rw [List.length_append] at hlength
    rw [hmark, Option.some.injEq, List.length_append, List.length_append]
    omega
  · have hfront := Text.breakCount_append front (s.replacing m t n ++ lineBreakOf t n)
    have hleast := Text.count_feed_add_breakCount_le (s.replacing m t n) (lineBreakOf t n)
    have hcompletes : Text.Meets front (s.replacing m t n ++ lineBreakOf t n) ↔ s.Completes m t n := by
      rw [Completes, Text.Meets, Text.Meets, h.getLast?_eq]
    rw [Counted, breakCount_lineBreakOf hn] at hcounted
    rw [breakCount_lineBreakOf hn] at hleast
    simp only [hcompletes] at hfront
    omega

end Standing

/-! ### The whole loop -/

namespace Standing
variable {t : Text} {last n : Nat} {front : Text}

/-- A pass takes the loop to a later line of the text it began with, or past the end of the range. It leaves out a
line only where it has completed a break. -/
theorem pass (hl : last < t.segments.length) (h : Standing t last n front p)
    (ha : s.flags.confirm → p.host.Agrees) (hcounted : s.Counted m t n)
    (hgoes : (s.pass m front.breakCount p).stopped = false) :
    (Past (s.pass m front.breakCount p).next (s.pass m front.breakCount p).after ∧
        (¬ s.Completes m t n → n = last)) ∨
      ∃ n' front', n < n' ∧ (¬ s.Completes m t n → n' = n + 1) ∧
        Standing t last n' front' (s.pass m front.breakCount p).after ∧
        (s.pass m front.breakCount p).next = front'.breakCount := by
  rcases Nat.lt_or_eq_of_le h.le_last with hlt | hlast
  · obtain ⟨hnext, hline⟩ := h.pass_next hl ha hgoes hlt hcounted
    by_cases hcompletes : s.Completes m t n
    · rw [if_pos hcompletes] at hline
      by_cases hmore : n + 1 < last
      · obtain ⟨hskip, hcount⟩ := hnext.skip hl hmore
        exact .inr ⟨n + 2, _, by omega, fun hnot => absurd hcompletes hnot, hskip, hline.trans hcount.symm⟩
      · refine .inl ⟨fun stop hmark => ?_, fun hnot => absurd hcompletes hnot⟩
        have hat := hnext.lineAt_eq hl stop hmark
        omega
    · rw [if_neg hcompletes, Nat.add_zero] at hline
      exact .inr ⟨n + 1, _, Nat.lt_succ_self n, fun _ => rfl, hnext, hline⟩
  · exact .inl ⟨h.past_last hl ha hgoes hlast hcounted, fun _ => hlast⟩

theorem lineRange_cons (h : n ≤ last) : Frame.lineRange n last = n :: Frame.lineRange (n + 1) last := by
  rw [Frame.lineRange, Nat.succ_sub h, List.range'_succ, Frame.lineRange, Nat.add_sub_add_right]

theorem lineRange_sublist {n' : Nat} (h : n ≤ n') (hlast : n' ≤ last) :
    (Frame.lineRange n' last).Sublist (Frame.lineRange n last) := by
  have hsplit : Frame.lineRange n last = List.range' n (n' - n) ++ List.range' (n + (n' - n)) (last + 1 - n') := by
    rw [List.range'_append_1, Frame.lineRange]
    congr 1
    omega
  rw [hsplit, Nat.add_sub_cancel' h]
  exact List.sublist_append_right _ _

/-- From where it stands the loop goes on until it ends. It works on lines of the text it began with, on each at most
once, and on all in order if no break is completed and nothing stops it. -/
theorem passes (hl : last < t.segments.length) (h : Standing t last n front p)
    (ha : s.flags.confirm → p.host.Agrees) (hcounted : ∀ k, n ≤ k → k ≤ last → s.Counted m t k) :
    ∃ worked q, s.Passes m front.breakCount p worked q ∧
      worked.Sublist ((Frame.lineRange n last).map t.line) ∧
      ((∀ k, n ≤ k → k ≤ last → ¬ s.Completes m t k) →
        worked <+: (Frame.lineRange n last).map t.line ∧
        (p.host.Calm → worked = (Frame.lineRange n last).map t.line)) := by
  induction hleft : last - n using Nat.strong_induction_on generalizing n front p with
  | h left ih =>
  have hpast := h.not_past hl
  have hline : p.frame.line front.breakCount = t.line n := h.line_eq hl
  obtain ⟨hagrees, hcalm⟩ := pass_host m front.breakCount ha
  rw [lineRange_cons h.le_last, List.map_cons]
  cases hgoes : (s.pass m front.breakCount p).stopped with
  | true =>
    refine ⟨_, _, .stopped hpast hgoes, ?_, fun _ => ⟨?_, fun hc => ?_⟩⟩
    · rw [hline]
      exact (List.nil_sublist _).cons_cons _
    · rw [hline]
      exact ⟨_, rfl⟩
    · rw [(hcalm hc).2] at hgoes
      cases hgoes
  | false =>
    rcases h.pass hl ha (hcounted n (Nat.le_refl n) h.le_last) hgoes with
      ⟨hends, hlast⟩ | ⟨n', front', hlt, honly, hnext, hfront⟩
    · refine ⟨_, _, .next hpast hgoes (.done hends), ?_, fun hnone => ?_⟩
      · rw [hline]
        exact (List.nil_sublist _).cons_cons _
      · obtain rfl := hlast (hnone n (Nat.le_refl n) h.le_last)
        have hempty : Frame.lineRange (n + 1) n = [] := by simp [Frame.lineRange]
        rw [hline, hempty]
        exact ⟨List.prefix_rfl, fun _ => rfl⟩
    · obtain ⟨worked, q, hpasses, hsub, hall⟩ := ih (last - n') (by have := hnext.le_last; omega) hnext hagrees
        (fun k hk => hcounted k (by omega)) rfl
      refine ⟨_, q, .next hpast hgoes (hfront ▸ hpasses), ?_, fun hnone => ?_⟩
      · rw [hline]
        exact (hsub.trans ((lineRange_sublist hlt hnext.le_last).map _)).cons_cons _
      · obtain rfl := honly (hnone n (Nat.le_refl n) h.le_last)
        obtain ⟨hfront, hwhole⟩ := hall fun k hk => hnone k (by omega)
        rw [hline]
        exact ⟨List.prefix_cons_inj _ |>.mpr hfront, fun hc => congrArg _ (hwhole (hcalm hc).1)⟩

end Standing

/-- The loop counts the breaks of a text whose returns are all followed by feeds. -/
theorem Counted.of_returnsPaired {t : Text} {n : Nat} (h : (s.replacing m t n).returnsPaired) : s.Counted m t n := by
  have happend := Text.breakCount_append (s.replacing m t n) (lineBreakOf t n)
  have hcount := Text.segments_length_paired h
  rw [Text.segments_length] at hcount
  rw [Counted]
  omega

/-- In a text whose returns are all followed by feeds there is no break to complete. -/
theorem not_completes_of_returnsPaired {t : Text} (ht : t.returnsPaired) (n : Nat) : ¬ s.Completes m t n := by
  rintro ⟨hreturn, -⟩
  obtain ⟨front, hfront⟩ := List.getLast?_eq_some_iff.mp hreturn
  exact Text.not_returnsPaired_concat front (hfront ▸ Text.returnsPaired_take_lineStart ht n)

/-- Where a substitution begins: the ends of the range are marked and a group of edits is open. -/
def started (f : Frame) (first last : Nat) (h : Host) : Progress :=
  { frame := (markLines f first last).openGroup, host := h }

theorem standing_started {f : Frame} {first last : Nat} (hf : first ≤ last) (hl : last < f.text.segments.length)
    (h : Host) :
    Standing f.text last first (f.text.take (f.text.lineStart first)) (started f first last h) := by
  have hwhole := (Text.take_lineStart_whole (Nat.lt_of_le_of_lt hf hl)).2
  have htext : (started f first last h).frame.text = f.text := Frame.openGroup_text _
  have hmark : (started f first last h).frame.mark? .rangeEnd = some (f.text.lineEnd last) := by
    rw [started, Frame.openGroup_mark?, markLines, Frame.mark?, Frame.setMark, Marks.get?_set_self]
    exact congrArg some (Nat.min_eq_left (f.text.lineEnd_le last))
  have hend : f.text.lineStart first ≤ f.text.lineEnd last :=
    Nat.le_trans (Nat.le_add_right _ _) (f.text.lineEnd_mono hf)
  refine ⟨hf, ?_, hwhole, rfl, ?_⟩
  · rw [htext, ← Text.drop_lineStart_eq, List.take_append_drop]
  · rw [hmark, List.length_take_of_le (f.text.lineStart_le first), Nat.add_sub_cancel' hend]

/-- A substitution ends by itself. If all questions are answered with yes and the loop counts the breaks of what it
puts in place of each line, it goes round at most once for each line of the range: it works on lines of the range as
they were at the start, none of them twice and all in order. If moreover no feed comes to stand behind a return in
front of it, it leaves none of them out, unless it is cancelled. -/
theorem run_works_on_lines (s : Substitution) (m : Matcher) {f : Frame} {first last : Nat} (hf : first ≤ last)
    (hl : last < f.text.lineCount) {h : Host} (ha : s.flags.confirm → h.Agrees)
    (hcounted : ∀ n, first ≤ n → n ≤ last → s.Counted m f.text n) :
    ∃ worked q, s.Passes m first (started f first last h) worked q ∧ s.run m first last f h = q.finish ∧
      worked.length ≤ last - first + 1 ∧ worked.Sublist (f.lineTexts first last) ∧
      ((∀ n, first ≤ n → n ≤ last → ¬ s.Completes m f.text n) →
        worked <+: f.lineTexts first last ∧ (h.Calm → worked = f.lineTexts first last)) := by
  have hin : last < f.text.segments.length := Nat.lt_of_lt_of_le hl f.text.lineCount_le_segments
  have hstanding := standing_started hf hin h
  have htexts : f.lineTexts first last = (Frame.lineRange first last).map f.text.line := by
    rw [Frame.lineTexts]
    exact List.map_congr_left fun n _ => (f.text.line_eq n).symm
  obtain ⟨worked, q, hpasses, hsub, hall⟩ := hstanding.passes hin ha hcounted
  rw [(Text.take_lineStart_whole (Nat.lt_of_le_of_lt hf hin)).1] at hpasses
  rw [← htexts] at hsub hall
  have hlength : worked.length ≤ last - first + 1 := by
    have hle := hsub.length_le
    rw [htexts, List.length_map, Frame.lineRange, List.length_range'] at hle
    omega
  have hbound := segments_le_lineBound f
  refine ⟨worked, q, hpasses, ?_, hlength, hsub, hall⟩
  rw [run]
  exact congrArg _ (hpasses.workOnLines_eq (by omega))

/-- Returns in the text and in the replacement: one is a break, one is of a pair, and one completes the break of its
line. Two questions are answered. -/
theorem run_works_on_lines_returns :
    let s : Substitution := { pattern := ['a'], replacement := "\r\n&\n\r".toList, flags := { confirm := true } }
    let m : Matcher := ⟨#[.take [(97, 97)]]⟩
    let f := Frame.ofText "b\ra\n\na\n".toList
    let h : Host := { confirms := [⟨.yes, false⟩], unanswered := .yes }
    3 < f.text.lineCount ∧ h.Agrees ∧ h.Calm ∧ (∀ n, 0 ≤ n → n ≤ 3 → s.Counted m f.text n) ∧
      (∀ n, 0 ≤ n → n ≤ 3 → ¬ s.Completes m f.text n) ∧
      ∃ q, s.Passes m 0 (started f 0 3 h) ["b".toList, "a".toList, [], "a".toList] q ∧ s.run m 0 3 f h = q.finish := by
  intro s m f h
  have hl : 3 < f.text.lineCount := by decide
  have hagrees : h.Agrees := ⟨by simp [h], rfl⟩
  have hcalm : h.Calm := ⟨by simp [h], rfl, rfl⟩
  have hcounted : ∀ n, 0 ≤ n → n ≤ 3 → s.Counted m f.text n := fun n _ hn =>
    (show ∀ n < 4, s.Counted m f.text n by decide +kernel) n (by omega)
  have hapart : ∀ n, 0 ≤ n → n ≤ 3 → ¬ s.Completes m f.text n := fun n _ hn =>
    (show ∀ n < 4, ¬ s.Completes m f.text n by decide +kernel) n (by omega)
  obtain ⟨worked, q, hpasses, hrun, -, -, hall⟩ :=
    run_works_on_lines s m (by omega : 0 ≤ 3) hl (h := h) (fun _ => hagrees) hcounted
  obtain rfl := (hall hapart).2 hcalm
  exact ⟨hl, hagrees, hcalm, hcounted, hapart, q, hpasses, hrun⟩

/-- Where a return is left alone, the loop goes on in what it has put in place: of a single line it works on three, and
replaces in two of them. -/
theorem run_works_on_line_again :
    let s : Substitution := { pattern := "aa".toList, replacement := "\ra".toList, flags := {} }
    let f := Frame.ofText "aaa\n".toList
    ∃ m, s.matcher false = .ok m ∧ 0 < f.text.lineCount ∧ f.lineTexts 0 0 = ["aaa".toList] ∧
      (∀ worked q, s.Passes m 0 (started f 0 0 {}) worked q → 1 < worked.length) ∧
      (s.run m 0 0 f {}).frame.text = "\r\ra\n".toList := by
  refine ⟨_, rfl, by decide, by decide, fun worked q hpasses => ?_, by decide +kernel⟩
  by_contra hlength
  have hone := hpasses.workOnLines_eq (show worked.length ≤ 1 by omega)
  have htwo := hpasses.workOnLines_eq (show worked.length ≤ 2 by omega)
  have htexts := congrArg (·.frame.text) (hone.trans htwo.symm)
  revert htexts
  decide +kernel

end Substitution
end ExEditor
