import ExEditor.Proofs.Frame.Shift
import ExEditor.Session.Typing

/-! Typing over a text. What is typed takes the place of what its line has at the cursor, up to the end of the line
and no further, so that the line keeps its break and all others stay what they are. It is refused between a return
and a feed, and nowhere else. -/
namespace ExEditor

namespace Text
variable {t u : Text} {front back : List Text} {s : Text} {column offset : Nat}

/-- A line with a text over what stands from a column on. The line gets longer if it has less, and keeps its break. -/
def overtyped (column : Nat) (u s : Text) : Text :=
  (lineBody s).take column ++ u ++ ((lineBody s).drop (column + u.length) ++ s.drop (lineBody s).length)

/-- An offset lies behind the end of its line exactly inside a break. -/
theorem le_lineEnd_lineAt_iff (h : offset ≤ t.length) :
    offset ≤ t.lineEnd (t.lineAt offset) ↔ ¬ Meets (t.take offset) (t.drop offset) := by
  have hbefore := charBefore_eq_getLast? h
  constructor
  · intro hin hmeets
    have hstart := t.lineStart_lineAt_le offset
    have hpair := not_inside_pair (t.lineAt_le offset) (t := t) (k := offset - t.lineStart (t.lineAt offset))
      (by rw [lineEnd] at hin; omega)
    rw [Nat.add_sub_cancel' hstart, hbefore, ← List.head?_drop] at hpair
    exact hpair hmeets
  · intro hmeets
    refine (le_lineEnd_or_inside h).resolve_right fun hinside => hmeets ?_
    obtain ⟨hpair, hoffset⟩ := hinside
    simp only [endsInPair, Bool.and_eq_true, beq_iff_eq, ← hoffset] at hpair
    refine ⟨?_, by rw [List.head?_drop]; exact hpair.2⟩
    rw [← hbefore, charBefore, if_neg (by omega), hoffset, Nat.add_sub_cancel]
    exact hpair.1

/-- The part of a line that a text goes over, and what is left behind it. -/
theorem overtyped_parts (column : Nat) (u s : Text) :
    s = (lineBody s).take (column + u.length) ++
      ((lineBody s).drop (column + u.length) ++ s.drop (lineBody s).length) := by
  rw [← List.append_assoc, List.take_append_drop, lineBody_append]

/-- A text without breaks over a line changes that line alone. -/
theorem segments_overtyped (h : t.segments = front ++ s :: back) (column : Nat) (hu : IsPlain u) :
    segments (front.flatten ++ (overtyped column u s ++ back.flatten)) = front ++ overtyped column u s :: back := by
  have hbody (n : Nat) : IsPlain ((lineBody s).take n) := fun c hc => isPlain_lineBody s c (List.mem_of_mem_take hc)
  have hfront : IsPlain ((lineBody s).take column ++ u) := (hbody column).append hu
  have hparts := overtyped_parts column u s
  have hmeets : ¬ Meets front.flatten (overtyped column u s ++ back.flatten) := by
    by_cases hnone : u = []
    · -- Nothing is typed, so that the line begins as it did.
      subst hnone
      have hsame : overtyped column [] s = s := by rw [overtyped, List.append_nil]; exact hparts.symm
      rw [hsame]
      exact not_meets_between h
    · rw [overtyped, List.append_assoc]
      refine Frame.not_meets_of_lineBody ?_ _ _
      rw [lineBody_plain hfront]
      simp [hnone]
  exact segments_reword (by rw [← hparts, h]) (hbody _) hfront hmeets

section parts
variable (h : t.segments = front ++ s :: back) (hcolumn : column ≤ (lineBody s).length)
include h hcolumn

theorem take_column : t.take (t.lineStart front.length + column) = front.flatten ++ (lineBody s).take column := by
  rw [List.take_add, take_between h, drop_between h, ← lineBody_append s, List.append_assoc,
    List.take_append_of_le_length hcolumn, lineBody_append]

theorem drop_column : t.drop (t.lineStart front.length + column) =
    (lineBody s).drop column ++ s.drop (lineBody s).length ++ back.flatten := by
  rw [← List.drop_drop, drop_between h, ← List.drop_append_of_le_length hcolumn, lineBody_append,
    List.drop_append_of_le_length (hcolumn.trans (List.takeWhile_prefix _).length_le)]

/-- A text with another over it, from an offset in a line on. -/
theorem take_overtyped_drop (u : Text) : t.take (t.lineStart front.length + column) ++ (u ++
    t.drop (t.lineStart front.length + column + min u.length ((lineBody s).length - column))) =
      front.flatten ++ (overtyped column u s ++ back.flatten) := by
  have hrest : (lineBody s).drop (column + min u.length ((lineBody s).length - column)) =
      (lineBody s).drop (column + u.length) := by
    rcases Nat.le_total u.length ((lineBody s).length - column) with hle | hle
    · rw [Nat.min_eq_left hle]
    · rw [Nat.min_eq_right hle, List.drop_eq_nil_of_le (by omega), List.drop_eq_nil_of_le (by omega)]
  rw [take_column h hcolumn, Nat.add_assoc, drop_column h (by omega), hrest, overtyped]
  simp only [List.append_assoc]

end parts

end Text

namespace Frame
variable {f : Frame} {t : Text}

/-- How many characters of its line stand at the cursor or behind it. -/
def room (f : Frame) : Nat := f.lineEnd f.cursorLine - f.cursor

/-- Whether the cursor stands between a return and a feed. -/
def InsideBreak (f : Frame) : Prop := Text.Meets (f.text.take f.cursor) (f.text.drop f.cursor)

instance (f : Frame) : Decidable f.InsideBreak := inferInstanceAs (Decidable (Text.Meets _ _))

theorem cursor_le_lineEnd_iff (hcursor : f.cursor ≤ f.length) :
    f.cursor ≤ f.lineEnd f.cursorLine ↔ ¬ f.InsideBreak := by
  rw [cursorLine, lineAt_eq hcursor]
  exact Text.le_lineEnd_lineAt_iff hcursor

theorem cursor_add_room_le (hcursor : f.cursor ≤ f.length) : f.cursor + f.room ≤ f.length := by
  have hend : f.lineEnd f.cursorLine ≤ f.length := f.text.lineEnd_le _
  rw [room]
  omega

/-- Typed over a text, what is typed changes the line of the cursor alone. -/
theorem segments_overtype (hcursor : f.cursor ≤ f.length) (hinside : ¬ f.InsideBreak) (ht : t.IsPlain) :
    Text.segments (f.text.take f.cursor ++ (t ++ f.text.drop (f.cursor + min t.length f.room))) =
      f.text.segments.modify f.cursorLine (Text.overtyped (f.cursor - f.lineStart f.cursorLine) t) := by
  have hline : f.cursorLine < f.text.segments.length := by
    rw [Text.segments_length]
    exact Nat.lt_succ_of_le (f.text.lineAt_le _)
  obtain ⟨front, s, back, hsegments, hlength⟩ := LineList.exists_between hline
  have hend := (cursor_le_lineEnd_iff hcursor).mpr hinside
  have hstart : f.lineStart f.cursorLine ≤ f.cursor := by
    rw [cursorLine, lineAt_eq hcursor]
    exact f.text.lineStart_lineAt_le _
  have hbody : f.line f.cursorLine = Text.lineBody s := hlength ▸ line_between hsegments
  have hstop : f.lineEnd f.cursorLine = f.lineStart f.cursorLine + (Text.lineBody s).length := by
    rw [← hbody]
    rfl
  have hroom : f.room = (Text.lineBody s).length - (f.cursor - f.lineStart f.cursorLine) := by
    rw [room]
    omega
  have hcut : f.text.lineStart front.length + (f.cursor - f.lineStart f.cursorLine) = f.cursor := by
    rw [hlength]
    exact Nat.add_sub_cancel' hstart
  have hcolumn : f.cursor - f.lineStart f.cursorLine ≤ (Text.lineBody s).length := by omega
  have hparts := Text.take_overtyped_drop hsegments hcolumn t
  rw [hcut, ← hroom] at hparts
  rw [hparts, Text.segments_overtyped hsegments _ ht, hsegments, ← hlength]
  simp [List.modify_eq_set_getElem?]

end Frame

namespace Editor

theorem room?_eq {f : Frame} (hcursor : f.cursor ≤ f.length) :
    room? f = if f.InsideBreak then none else some f.room := by
  have hin := Frame.cursor_le_lineEnd_iff hcursor
  by_cases hinside : f.InsideBreak
  · rw [room?, if_pos hinside, if_neg fun hle => hin.mp hle hinside]
  · rw [room?, if_neg hinside, if_pos (hin.mpr hinside), Frame.room]

theorem overtype_eq {f : Frame} (hcursor : f.cursor ≤ f.length) {t : Text} (ht : t.IsPlain) :
    overtype f t =
      if f.InsideBreak then none else some (f.replace f.cursor (f.cursor + min t.length f.room) t) := by
  have hplain : t.takeWhile (· ≠ '\n') = t :=
    List.takeWhile_eq_self_iff.mpr fun c hc => by simpa using ht.no_feed c hc
  rw [overtype, room?_eq hcursor, hplain]
  split <;> rfl

/-- Typing plain text over a text is refused between a return and a feed. Anywhere else it takes away as many
characters as were typed, but none behind the end of the line, and puts the typed ones there. The cursor comes behind
them, and of all lines with their breaks only that of the cursor has changed, and only in front of its break. -/
theorem typeText_overtypes {ed : Editor} (hmode : ed.session.modes.isOvertype)
    (hcursor : ed.frame.cursor ≤ ed.frame.length) {t : Text} (ht : t.IsPlain) :
    if ed.frame.InsideBreak then ed.typeText t = .error .insideBreak
    else
      ∃ frame : Frame,
        ed.typeText t =
          .ok { ed with session := { ed.session with frame, inserted := ed.session.inserted ++ t } } ∧
        frame.text = ed.frame.text.take ed.frame.cursor ++
          (t ++ ed.frame.text.drop (ed.frame.cursor + min t.length ed.frame.room)) ∧
        frame.cursor = ed.frame.cursor + t.length ∧
        frame.text.segments = ed.frame.text.segments.modify ed.frame.cursorLine
          (Text.overtyped (ed.frame.cursor - ed.frame.lineStart ed.frame.cursorLine) t) := by
  have hinsert : ed.session.modes.mode.isInsert := (Bool.and_eq_true_iff.mp hmode).2
  have htyped := overtype_eq hcursor ht
  by_cases hinside : ed.frame.InsideBreak
  · rw [if_pos hinside, typeText, hinsert, hmode, htyped, if_pos hinside]
    rfl
  rw [if_neg hinside] at htyped ⊢
  refine ⟨_, by rw [typeText, hinsert, hmode, htyped]; rfl, ?_⟩
  have hroom := Frame.cursor_add_room_le hcursor
  have htext := ed.frame.replace_text (b := ed.frame.cursor + min t.length ed.frame.room) (Nat.le_add_right _ _)
    (by omega) t
  refine ⟨htext, ?_, ?_⟩
  · have hlength := congrArg List.length htext
    rw [List.length_append, List.length_append, List.length_take_of_le hcursor] at hlength
    refine Nat.min_eq_left ?_
    rw [Frame.length, hlength]
    omega
  · rw [← Frame.segments_overtype hcursor hinside ht, ← htext]
    rfl

/-- Of four characters typed before the last of a line one goes over it and the others in front of the pair. -/
theorem typeText_overtypes_pairs :
    let t : Text := ['w', 'x', 'y', 'z']
    let ed := (((ofText ['a', 'b', '\r', '\n', 'c']).mapFrame (·.setCursor 1)).handleMode (.insert .overtype)).1
    ed.session.modes.isOvertype ∧ ed.frame.cursor ≤ ed.frame.length ∧ t.IsPlain ∧
      ∃ frame : Frame,
        ed.typeText t = .ok { ed with session := { ed.session with frame, inserted := t } } ∧
        frame.text = 'a' :: t ++ ['\r', '\n', 'c'] ∧ frame.cursor = 5 ∧
        frame.text.segments = ['a' :: t ++ ['\r', '\n'], ['c']] := by
  intro t ed
  have hmode : ed.session.modes.isOvertype := by decide
  have hcursor : ed.frame.cursor ≤ ed.frame.length := by decide
  have hplain : t.IsPlain := by simp [t, Text.IsPlain, Text.isBreak]
  have htyped := typeText_overtypes hmode hcursor hplain
  rw [if_neg (by decide)] at htyped
  exact ⟨hmode, hcursor, hplain, htyped⟩

/-- Between a return and a feed the cursor is behind the end of its line, and nothing is typed. -/
theorem typeText_inside_break :
    let ed := (((ofText ['a', '\r', '\n']).mapFrame (·.setCursor 2)).handleMode (.insert .overtype)).1
    ed.session.modes.isOvertype ∧ ed.frame.cursor = 2 ∧ ed.frame.room = 0 ∧
      ed.typeText ['x'] = .error .insideBreak ∧ ed.typeText [] = .error .insideBreak := by
  intro ed
  exact ⟨by decide, by decide, by decide, rfl, rfl⟩

end Editor
end ExEditor
