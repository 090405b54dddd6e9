import ExEditor.Text.Basic

/-! The lines of a text. A line ends in a line feed, in a carriage return, or in both in this
order; nothing else breaks a line. `segments` is the view by which the other functions are told:
`segments_flatten`, `segments_length`, `fromLine_eq` and `line_eq` say what they do to it. -/
namespace ExEditor
namespace Text

/-- The characters that line breaks are made of. -/
def isBreak (c : Char) : Bool := c = '\n' || c = '\r'

/-- The text cut after each line break. The last segment is what follows the last break, and is
empty if nothing does. -/
def segments : Text → List Text
  | [] => [[]]
  | '\r' :: '\n' :: t => ['\r', '\n'] :: segments t
  | c :: t =>
    if isBreak c then [c] :: segments t
    else
      match segments t with
      | [] => [[c]]
      | s :: rest => (c :: s) :: rest

/-- A segment without its line break. -/
def lineBody (s : Text) : Text := s.takeWhile (! isBreak ·)

/-- Number of line breaks. -/
def breakCount : Text → Nat
  | [] => 0
  | '\r' :: '\n' :: t => breakCount t + 1
  | c :: t => if isBreak c then breakCount t + 1 else breakCount t

/-- Whether the last character is a line break. -/
def endsInBreak (t : Text) : Bool := t.getLast?.any isBreak

/-- Number of lines. What follows the last break counts if it is not empty, and the empty text has
one line. -/
def lineCount (t : Text) : Nat := t.breakCount + if t.endsInBreak then 0 else 1

/-- What is left of a text from a line on, nothing for a line past the end. -/
def fromLine : Text → Nat → Text
  | t, 0 => t
  | [], _ + 1 => []
  | '\r' :: '\n' :: t, n + 1 => fromLine t n
  | c :: t, n + 1 => if isBreak c then fromLine t n else fromLine t (n + 1)

/-- Offset of the first character of a line, and the length of the text for a line past the end. -/
def lineStart (t : Text) (line : Nat) : Nat := t.length - (t.fromLine line).length

/-- Line that holds an offset. An offset between the two halves of a break lies on the line that the
break ends, and one past the end on the last line. -/
def lineAt : Text → Nat → Nat
  | _, 0 => 0
  | [], _ + 1 => 0
  | '\r' :: '\n' :: _, 1 => 0
  | '\r' :: '\n' :: t, n + 2 => lineAt t n + 1
  | c :: t, n + 1 => if isBreak c then lineAt t n + 1 else lineAt t n

/-- The text of a line without its break, empty past the end. -/
def line (t : Text) (n : Nat) : Text := lineBody (t.fromLine n)

/-- Offset of the end of a line, before its break. -/
def lineEnd (t : Text) (n : Nat) : Nat := t.lineStart n + (t.line n).length

/-- The part from one offset up to another. -/
def slice (t : Text) (first last : Nat) : Text := (t.take last).drop first

/-- The lines of a text, without their breaks. -/
def lines (t : Text) : List Text := (t.segments.take t.lineCount).map lineBody

theorem segments_ne_nil (t : Text) : t.segments ≠ [] := by
  fun_induction segments t <;> simp_all

/-- Each line break ends a segment, and one more segment follows the last of them. -/
theorem segments_length (t : Text) : t.segments.length = t.breakCount + 1 := by
  fun_induction segments t with
  | case1 => rfl
  | case2 t ih => simp [breakCount, ih]
  | case3 c t hp hc ih => rw [breakCount.eq_3 c t (by simpa using hp)]; simp [hc, ih]
  | case4 c t _ _ h _ => exact absurd h (segments_ne_nil t)
  | case5 c t hp hc s rest h ih =>
    rw [breakCount.eq_3 c t (by simpa using hp)]
    simpa [hc, h] using ih

/-- Nothing of a text is lost in its segments. -/
theorem segments_flatten (t : Text) : t.segments.flatten = t := by
  fun_induction segments t with
  | case4 c t _ _ h ih => exact absurd h (segments_ne_nil t)
  | case5 c t _ _ s rest h ih => simp_all
  | _ => simp_all

theorem segments_pair (t : Text) : segments ('\r' :: '\n' :: t) = ['\r', '\n'] :: t.segments := by
  rw [segments]

/-- A text from a line on is what its segments from there on make. -/
theorem fromLine_eq (t : Text) (n : Nat) : t.fromLine n = (t.segments.drop n).flatten := by
  fun_induction fromLine t n with
  | case1 t => simp [segments_flatten]
  | case2 n => simp [segments]
  | case3 t n ih => simp [segments_pair, ih]
  | case4 c t n hp hc ih =>
    rw [segments.eq_3 c t (by simpa using hp)]
    simp [hc, ih]
  | case5 c t n hp hc ih =>
    rw [ih, segments.eq_3 c t (by simpa using hp)]
    cases h : segments t with
    | nil => exact absurd h (segments_ne_nil t)
    | cons s rest => simp [hc]

/-- The first line of a text is the body of its first segment. -/
theorem lineBody_eq (t : Text) : lineBody t = lineBody (t.segments.headD []) := by
  fun_induction segments t with
  | case1 => rfl
  | case2 t _ => simp [lineBody, isBreak]
  | case3 c t _ hc _ => simp [lineBody, hc]
  | case4 c t _ _ h _ => exact absurd h (segments_ne_nil t)
  | case5 c t _ hc s rest h ih => simpa [lineBody, hc, h] using ih

/-- A line is the body of its segment. -/
theorem line_eq (t : Text) (n : Nat) : t.line n = lineBody (t.segments.getD n []) := by
  unfold line
  fun_induction fromLine t n with
  | case1 t => rw [lineBody_eq]; cases segments t <;> rfl
  | case2 n => simp [segments]
  | case3 t n ih => simpa [segments_pair] using ih
  | case4 c t n hp hc ih =>
    rw [segments.eq_3 c t (by simpa using hp)]
    simpa [hc] using ih
  | case5 c t n hp hc ih =>
    rw [ih, segments.eq_3 c t (by simpa using hp)]
    cases h : segments t with
    | nil => exact absurd h (segments_ne_nil t)
    | cons s rest => simp [hc]

end Text
end ExEditor
