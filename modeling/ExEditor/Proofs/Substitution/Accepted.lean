import ExEditor.Frame.Edit
import ExEditor.Proofs.Pattern.Matches
import ExEditor.Proofs.Text.Rows
import ExEditor.Substitution.Run

/-! What a substitution is to do, told without its loop: which matches of the text it starts from are
accepted, and what that text is with these replaced. -/
namespace ExEditor

/-- A match and the line it is found in. -/
structure Site where
  line : Nat
  found : Match
  deriving DecidableEq, Repr

namespace Site

/-- The matches of a line as sites. -/
def ofLine (line : Nat) (ms : List Match) : List Site := ms.map fun found => ⟨line, found⟩

/-- The matches of sites that are on a line. -/
def onLine (sites : List Site) (line : Nat) : List Match :=
  (sites.filter (·.line = line)).map (·.found)

@[simp] theorem onLine_append (a b : List Site) (n : Nat) : onLine (a ++ b) n = onLine a n ++ onLine b n := by
  simp [onLine]

theorem onLine_ofLine (n : Nat) (ms : List Match) : onLine (ofLine n ms) n = ms := by
  induction ms with
  | nil => rfl
  | cons m ms ih => simpa [onLine, ofLine] using ih

theorem onLine_eq_nil {sites : List Site} {n : Nat} (h : ∀ site ∈ sites, site.line ≠ n) :
    onLine sites n = [] := by
  simpa [onLine, List.filter_eq_nil_iff] using h

theorem line_of_mem_ofLine {n : Nat} {ms : List Match} {site : Site} (h : site ∈ ofLine n ms) :
    site.line = n := by
  obtain ⟨m, -, rfl⟩ := List.mem_map.mp h
  rfl

end Site

namespace Substitution

/-- The text of a group of a match, empty if the group took no part in it. -/
def captured (body : Text) (m : Match) (index : Nat) : Text :=
  match m.group? index with
  | some (first, last) => body.slice first last
  | none => []

/-- What takes the place of a match in a text. -/
def expansion (s : Substitution) (body : Text) (m : Match) : Text :=
  expandReplacement (captured body m) .asIs s.replacement

/-- A text from an offset on, with matches replaced. -/
def spliced (s : Substitution) (body : Text) : (offset : Nat) → List Match → Text
  | offset, [] => body.drop offset
  | offset, m :: others =>
    body.slice offset m.start ++ (s.expansion body m ++ spliced s body m.stop others)

/-- A line with its break, the matches in the line replaced. -/
def splicedRow (s : Substitution) (row : Text) (ms : List Match) : Text :=
  s.spliced (Text.lineBody row) 0 ms ++ row.drop (Text.lineBody row).length

/-- The lines of a text with their breaks, accepted matches replaced. -/
def rewrittenRows (s : Substitution) (t : Text) (accepted : List Site) : List Text :=
  t.segments.mapIdx fun n row => s.splicedRow row (Site.onLine accepted n)

/-- A text with accepted matches replaced. -/
def rewritten (s : Substitution) (t : Text) (accepted : List Site) : Text :=
  (s.rewrittenRows t accepted).flatten

/-- What stands in front of a line when the matches accepted there are replaced. -/
def front (s : Substitution) (t : Text) (accepted : List Site) (line : Nat) : Text :=
  ((s.rewrittenRows t accepted).take line).flatten

/-- The text while a line is worked on: what stands in front is rewritten and the rest is as it was. -/
def draft (s : Substitution) (t : Text) (accepted : List Site) (line : Nat) : Text :=
  s.front t accepted line ++ t.fromLine line

/-- Where a site is found in the text while its line is worked on. -/
def selected (s : Substitution) (t : Text) (accepted : List Site) (site : Site) : Selection :=
  let start := (s.front t accepted site.line).length
  ⟨start + site.found.start, start + site.found.stop, .stream⟩

/-- The matches that are considered, line by line. -/
def sites (s : Substitution) (m : Matcher) (t : Text) (first last : Nat) : List Site :=
  (Frame.lineRange first last).flatMap fun n => Site.ofLine n (s.consideredMatches m (t.line n))

/-- What became of sites: those that were accepted, and whether some were not reached. -/
structure Verdict where
  accepted : List Site
  host : Host
  stopped : Bool := false

/-- Ask about a site in the text as it stands when its line is worked on. -/
def ask (s : Substitution) (t : Text) (accepted : List Site) (site : Site) (h : Host) : Confirm × Host :=
  (h.display (s.draft t accepted site.line)).confirm
    ("Replace with " ++ s.expansion (t.line site.line) site.found ++ ['?']) (s.selected t accepted site)

/-- Go through sites in order. The first one at which everything is to stop, or whose answer is to
cancel, ends it; of those before it are accepted the ones that are answered with yes, or all if nothing
is asked. -/
def judge (s : Substitution) (t : Text) : List Site → (accepted : List Site) → Host → Verdict
  | [], accepted, host => { accepted, host }
  | site :: others, accepted, host =>
    match host.look with
    | (true, host) => { accepted, host, stopped := true }
    | (false, host) =>
      match if s.flags.confirm then s.ask t accepted site host else (.yes, host) with
      | (.cancel, host) => { accepted, host, stopped := true }
      | (.no, host) => judge s t others accepted host
      | (.yes, host) => judge s t others (accepted ++ [site]) host

/-- What becomes of the matches that are considered in some lines of a text. -/
def judged (s : Substitution) (m : Matcher) (t : Text) (first last : Nat) (h : Host) : Verdict :=
  s.judge t (s.sites m t first last) [] h

section rows
variable (s : Substitution) (t : Text)

theorem splicedRow_nil (row : Text) : s.splicedRow row [] = row := by
  rw [splicedRow, spliced, List.drop_zero, Text.lineBody_append]

theorem rewrittenRows_length (accepted : List Site) :
    (s.rewrittenRows t accepted).length = t.segments.length := by
  simp [rewrittenRows]

/-- Sites further down do not change what stands in front of a line. -/
theorem front_append {accepted later : List Site} {n : Nat} (h : ∀ site ∈ later, n ≤ site.line) :
    s.front t (accepted ++ later) n = s.front t accepted n := by
  have hrows : (s.rewrittenRows t (accepted ++ later)).take n = (s.rewrittenRows t accepted).take n := by
    refine List.ext_getElem (by simp [rewrittenRows_length]) fun k hk _ => ?_
    have hlater : Site.onLine later k = [] := Site.onLine_eq_nil fun site hs hk' => by
      have hn := h site hs
      simp only [List.length_take] at hk
      omega
    simp [rewrittenRows, hlater]
  rw [front, front, hrows]

theorem front_succ (accepted : List Site) {n : Nat} (h : n < t.segments.length) :
    s.front t accepted (n + 1) =
      s.front t accepted n ++ s.splicedRow t.segments[n] (Site.onLine accepted n) := by
  have hn : n < (s.rewrittenRows t accepted).length := by rwa [rewrittenRows_length]
  rw [front, front, List.take_add_one, List.flatten_append, List.getElem?_eq_getElem hn]
  simp [rewrittenRows]

/-- While a line is worked on, the text is the one with the matches in front replaced. -/
theorem rewritten_eq_draft {accepted : List Site} {n : Nat} (h : ∀ site ∈ accepted, site.line < n) :
    s.rewritten t accepted = s.draft t accepted n := by
  have hrows : (s.rewrittenRows t accepted).drop n = t.segments.drop n := by
    refine List.ext_getElem (by simp [rewrittenRows_length]) fun k _ _ => ?_
    have hnone : Site.onLine accepted (n + k) = [] := Site.onLine_eq_nil fun site hs => by
      have hn := h site hs
      omega
    simp [rewrittenRows, hnone, splicedRow_nil]
  rw [draft, front, Text.fromLine_eq, ← hrows, ← List.flatten_append, List.take_append_drop, rewritten]

theorem front_nil (n : Nat) : s.front t [] n = t.take (t.lineStart n) := by
  have hrows : s.rewrittenRows t [] = t.segments := by
    refine List.ext_getElem (by simp [rewrittenRows_length]) fun k _ _ => ?_
    simp [rewrittenRows, Site.onLine, splicedRow_nil]
  rw [front, hrows, Text.take_lineStart]

theorem draft_append {accepted later : List Site} {n : Nat} (h : ∀ site ∈ later, n ≤ site.line) :
    s.draft t (accepted ++ later) n = s.draft t accepted n := by
  rw [draft, draft, s.front_append t h]

end rows

/-- Sites behind others are judged unless these end it. -/
theorem judge_append (s : Substitution) (t : Text) (a b accepted : List Site) (h : Host) :
    s.judge t (a ++ b) accepted h =
      if (s.judge t a accepted h).stopped then s.judge t a accepted h
      else s.judge t b (s.judge t a accepted h).accepted (s.judge t a accepted h).host := by
  fun_induction judge s t a accepted h with
  | case1 => rfl
  | case2 => simp_all [judge]
  | case3 => simp_all [judge]
  | case4 => simp_all [judge]
  | case5 => simp_all [judge]

/-- What a site covers while its line is worked on is its match. -/
theorem draft_selected (s : Substitution) (t : Text) (accepted : List Site) {site : Site}
    (h : site.found.Within 0 (t.line site.line).length) :
    (s.draft t accepted site.line).slice (s.selected t accepted site).start
      (s.selected t accepted site).stop = (t.line site.line).slice site.found.start site.found.stop := by
  have hle := h.start_le
  have hstart : (s.selected t accepted site).start =
      (s.front t accepted site.line).length + site.found.start := by
    simp only [selected, Selection.start]
    omega
  have hstop : (s.selected t accepted site).stop =
      (s.front t accepted site.line).length + site.found.stop := by
    simp only [selected, Selection.stop]
    omega
  rw [hstart, hstop, draft, Text.slice_append]
  exact Text.slice_lineBody _ h.stop_le

end Substitution
end ExEditor
