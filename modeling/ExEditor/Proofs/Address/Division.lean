import ExEditor.Proofs.Address.Bounds
import ExEditor.Proofs.Address.Calculator
import ExEditor.Proofs.Command.Written

/-! Slashes that divide. The scans of addresses tell a division from a search by the one character behind the slash,
before the calculator sees the text. In an expression that can be computed they are right unless a blank follows the
slash. -/
namespace ExEditor

/-- No slash is followed by a blank. -/
def Text.DividesClosely (t : Text) : Prop := ∀ c, Unicode.isBlank c → ¬ ['/', c] <:+: t

theorem Text.DividesClosely.mono {t u : Text} (h : t.DividesClosely) (hu : u <:+: t) : u.DividesClosely :=
  fun c hc hin => h c hc (hin.trans hu)

namespace Address

/-- A text in which no search begins: each slash divides by what begins directly behind it. -/
inductive Divides : Text → Prop
  | nil : Divides []
  | plain {c t} (hc : isRangeChar c ∨ Unicode.isBlank c)
      (hother : c ≠ '/' ∧ c ≠ '?' ∧ c ≠ '\'' ∧ c ≠ ',' ∧ c ≠ ';') (h : Divides t) : Divides (c :: t)
  | mark {name t} (hslash : name ≠ '/') (hquestion : name ≠ '?') (h : Divides t) : Divides ('\'' :: name :: t)
  | division {c t} (hc : isOperandStart c) (h : Divides (c :: t)) : Divides ('/' :: c :: t)

namespace Divides
variable {t u : Text}

theorem append (h : Divides t) (hu : Divides u) : Divides (t ++ u) := by
  induction h with
  | nil => exact hu
  | plain hc hother _ ih => exact .plain hc hother ih
  | mark hslash hquestion _ ih => exact .mark hslash hquestion ih
  | division hc _ ih => exact .division hc ih

theorem blanks (h : t.isBlank) : Divides t := by
  induction t with
  | nil => exact .nil
  | cons c t ih =>
    simp only [Text.isBlank, List.all_cons, Bool.and_eq_true] at h
    refine .plain (.inr h.1) ⟨?_, ?_, ?_, ?_, ?_⟩ (ih h.2)
    all_goals
      rintro rfl
      exact absurd h.1 (by decide)

theorem digits (h : ∀ c ∈ t, c.isDigit) : Divides t := by
  induction t with
  | nil => exact .nil
  | cons c t ih =>
    have hplain : isPlain c := by simp [isPlain, h c List.mem_cons_self]
    obtain ⟨hrange, hcomma, hsemicolon, -, hmark, -, -, hslash, hquestion⟩ := isPlain_keeps hplain
    exact .plain (.inl hrange) ⟨hslash, hquestion, hmark, hcomma, hsemicolon⟩
      (ih fun d hd => h d (List.mem_cons_of_mem _ hd))

/-- No address in front of a search is found. -/
theorem splitAtSearch (h : Divides t) {atStart : Bool} (hhead : atStart = true → t.head? ≠ some '/') :
    splitAtSearch atStart t = none := by
  have hstep : ∀ {atStart c u}, startsSearch atStart (c :: u) = false → Address.splitAtSearch false u = none →
      Address.splitAtSearch atStart (c :: u) = none := fun hstart hu => by
    simp [Address.splitAtSearch, hstart, hu]
  induction h generalizing atStart with
  | nil => rfl
  | plain _ hother _ ih => exact hstep (startsSearch_of_ne _ hother.1 hother.2.1) (ih nofun)
  | mark hslash hquestion _ ih => exact hstep rfl (hstep (startsSearch_of_ne _ hslash hquestion) (ih nofun))
  | @division c t hc _ ih =>
    cases atStart with
    | true => simp at hhead
    | false => exact hstep (by simp [startsSearch, hc]) (ih nofun)

/-- The scan of a command line takes all of it into the range, if its blanks may stand there. -/
theorem scanRange (h : Divides t) (hblanks : ∀ c ∈ t, Unicode.isBlank c → isRangeChar c) (rest : Text) :
    scanRange .address false (t ++ rest) =
      (t ++ (Address.scanRange .address false rest).1, (Address.scanRange .address false rest).2) := by
  induction h with
  | nil => rfl
  | @plain c t hc hother _ ih =>
    obtain ⟨hslash, hquestion, hmark, hcomma, hsemicolon⟩ := hother
    have hrange : isRangeChar c := hc.elim id (hblanks c List.mem_cons_self)
    have hnext : Inside.next false c (t ++ rest) .address = .address :=
      Inside.next_address hmark (startsSearch_of_ne _ hslash hquestion)
    simp [Address.scanRange, hrange, hcomma, hsemicolon, hnext, ih fun d hd => hblanks d (List.mem_cons_of_mem _ hd)]
  | @mark name t _ _ _ ih =>
    have hbehind := ih fun d hd => hblanks d (List.mem_cons_of_mem _ (List.mem_cons_of_mem _ hd))
    have hrange : isRangeChar '\'' := by decide
    simp [Address.scanRange, hrange, Inside.next, hbehind]
  | @division c t hc _ ih =>
    have hrange : isRangeChar '/' := by decide
    have hnext : Inside.next false '/' (c :: (t ++ rest)) .address = .address :=
      Inside.next_address (by decide) (by simp [startsSearch, hc])
    have hbehind := ih fun d hd => hblanks d (List.mem_cons_of_mem _ hd)
    have hslash : ∀ u, Address.scanRange .address false ('/' :: u) =
        ('/' :: (Address.scanRange (Inside.next false '/' u .address) false u).1,
          (Address.scanRange (Inside.next false '/' u .address) false u).2) := fun u => by
      simp [Address.scanRange, hrange]
    rw [List.cons_append] at hbehind
    rw [List.cons_append, List.cons_append, hslash, hnext, hbehind]
    rfl

end Divides

/-- A range that begins neither with a blank nor with a slash is scanned like what follows an operand. -/
theorem scanRange_start {c : Char} (hblank : ¬ Unicode.isBlank c) (hslash : c ≠ '/') (t : Text) :
    scanRange .address true (c :: t) = scanRange .address false (c :: t) := by
  have hsearch : startsSearch true (c :: t) = startsSearch false (c :: t) := by
    by_cases hquestion : c = '?'
    · subst hquestion
      rfl
    · rw [startsSearch_of_ne t hslash hquestion, startsSearch_of_ne t hslash hquestion]
  simp [scanRange, Inside.next, hsearch, hblank]

end Address

namespace Calculator
open Address
variable {f : Frame} {level : Level} {e : Expression} {t : Text}

theorem divides_mark {name : Char} (h : (markedLine? f name).isSome) : Divides ['\'', name] := by
  have hname : name ∈ MarkId.names := by
    by_contra hnot
    simp [markedLine?, MarkId.named?, hnot] at h
  have hsearch : '/' ∉ MarkId.names ∧ '?' ∉ MarkId.names := by decide
  exact .mark (fun heq => hsearch.1 (heq ▸ hname)) (fun heq => hsearch.2 (heq ▸ hname)) .nil

/-- An operator with the operand behind it, which begins directly behind a slash. -/
theorem divides_operator {level : Level} {o : Operator} {r : Expression} {b : Text} (h : Writes level r b)
    (hclosely : Text.DividesClosely (o.char :: b)) (hb : Divides b) : Divides (o.char :: b) := by
  cases o with
  | slash =>
    obtain ⟨c, b, rfl⟩ := List.exists_cons_of_ne_nil h.ne_nil
    have hblank : ¬ Unicode.isBlank c := fun hc => hclosely c hc ⟨[], b, rfl⟩
    have hhead := h.head []
    rw [List.append_nil, trimStart_cons hblank] at hhead
    exact .division hhead hb
  | star => exact .plain (.inl (by decide)) (by decide) hb
  | plus => exact .plain (.inl (by decide)) (by decide) hb
  | minus => exact .plain (.inl (by decide)) (by decide) hb

theorem divides_binary {o : Operator} {r : Expression} {a b blanks : Text}
    (hclosely : Text.DividesClosely (a ++ (blanks ++ o.char :: b))) (ha : a.DividesClosely → Divides a)
    (hb : blanks.isBlank) (hr : Writes level r b) (hright : b.DividesClosely → Divides b) :
    Divides (a ++ (blanks ++ o.char :: b)) := by
  have hoperator : Text.DividesClosely (o.char :: b) := hclosely.mono ⟨a ++ blanks, [], by simp⟩
  have hoperand := hright (hoperator.mono (List.suffix_cons o.char b).isInfix)
  have hleft := ha (hclosely.mono (List.prefix_append a _).isInfix)
  exact hleft.append ((Divides.blanks hb).append (divides_operator hr hoperator hoperand))

/-- In the text of an expression that can be computed each slash divides. -/
theorem Writes.divides (h : Writes level e t) (hc : e.Computable f) (hclosely : t.DividesClosely) : Divides t := by
  induction h with
  | number h =>
    simp only [Text.isNumeral, Bool.and_eq_true] at h
    exact .digits (List.all_eq_true.mp h.2)
  | here => exact .plain (.inl (by decide)) (by decide) .nil
  | last => exact .plain (.inl (by decide)) (by decide) .nil
  | mark name => exact divides_mark hc
  | @group e t blanks _ hb ih =>
    have hinner : Divides t := ih hc (hclosely.mono ⟨['('], blanks ++ [')'], by simp⟩)
    have hclosing : Divides [')'] := .plain (.inl (by decide)) (by decide) .nil
    exact .plain (.inl (by decide)) (by decide) (hinner.append ((Divides.blanks hb).append hclosing))
  | @blank e c t hblank _ ih =>
    have hrest := ih hc (hclosely.mono (List.suffix_cons c t).isInfix)
    exact (Divides.blanks (t := [c]) (by simpa [Text.isBlank] using hblank)).append hrest
  | product _ ih => exact ih hc hclosely
  | sum _ ih => exact ih hc hclosely
  | factor _ _ hb hr ihl ihr => exact divides_binary hclosely (ihl hc.1) hb hr (ihr hc.2.1)
  | term _ _ hb hr ihl ihr => exact divides_binary hclosely (ihl hc.1) hb hr (ihr hc.2.1)
  | @step o l a blanks ho _ hb ih =>
    have hsign : Divides [o.char] := by
      cases o with
      | star => cases ho
      | slash => cases ho
      | plus => exact .plain (.inl (by decide)) (by decide) .nil
      | minus => exact .plain (.inl (by decide)) (by decide) .nil
    exact (ih hc.1 (hclosely.mono (List.prefix_append a _).isInfix)).append ((Divides.blanks hb).append hsign)

section evaluated
variable {v : Int} (hv : evaluate f t = .ok v)
include hv

theorem trim_ne_nil : t.trim ≠ [] := by
  intro hempty
  simp [evaluate, hempty] at hv

/-- A text that is computed begins with an operand or a sign. -/
theorem exists_head : ∃ c rest, t.trimStart = c :: rest ∧ ¬ Unicode.isBlank c ∧
    (isOperandStart c ∨ c = '+' ∨ c = '-') := by
  obtain ⟨e, hwrites, -⟩ := evaluate_sound f hv
  obtain ⟨c, u, ht⟩ := List.exists_cons_of_ne_nil (trim_ne_nil hv)
  have hc : c ∈ t.trimStart.head? := Text.head?_dropEndWhile _ _ c (List.head?_eq_some_iff.mpr ⟨u, ht⟩)
  obtain ⟨rest, hrest⟩ := List.head?_eq_some_iff.mp hc
  have hblank := t.head?_trimStart c hc
  refine ⟨c, rest, hrest, hblank, ?_⟩
  have hhead := hwrites.head []
  rw [List.append_nil, ht, withStart] at hhead
  by_cases hsign : c = '+' ∨ c = '-'
  · exact .inr hsign
  · rw [if_neg (by simpa using hsign), trimStart_cons hblank] at hhead
    exact .inl hhead

/-- It is no search as a whole. -/
theorem head?_trim_ne : t.trim.head? ≠ some '/' := by
  intro hslash
  obtain ⟨c, rest, hstart, -, hc⟩ := exists_head hv
  have hhead := Text.head?_dropEndWhile Unicode.isBlank t.trimStart '/' hslash
  obtain rfl : c = '/' := by simpa [hstart] using hhead
  exact absurd hc (by decide)

theorem divides_trim (hclosely : t.DividesClosely) : Divides t.trim := by
  obtain ⟨e, hwrites, hc, -⟩ := evaluate_sound f hv
  have hin : t.trim.DividesClosely := hclosely.mono t.trim_isInfix
  unfold withStart at hwrites
  split at hwrites
  · have hstarted : Text.DividesClosely ('.' :: t.trim) := fun c hc hslash => by
      rcases List.infix_cons_iff.mp hslash with hprefix | hinside
      · simp at hprefix
      · exact hin c hc hinside
    cases hwrites.divides hc hstarted with
    | plain _ _ h => exact h
  · exact hwrites.divides hc hin

end evaluated
end Calculator

namespace Address
variable {f : Frame} {t : Text} {v : Int} (hv : Calculator.evaluate f t = .ok v) (hclosely : t.DividesClosely)
include hv hclosely

/-- The resolver leaves such a text to the calculator. -/
theorem resolve_of_evaluate (rule : SearchRule) (allowZero : Bool) (lastSearch : Option Text) :
    resolve f rule allowZero lastSearch t = (.ok (clampLine f allowZero v), lastSearch) := by
  have hne := Calculator.trim_ne_nil hv
  have hnone : splitAtSearch true t.trim = none :=
    (Calculator.divides_trim hv hclosely).splitAtSearch fun _ =>
      Calculator.head?_trim_ne hv
  have hsame : Calculator.evaluate f t.trim = .ok v := by
    rw [← hv, Calculator.evaluate, Calculator.evaluate, Text.trim_trim]
  simp only [resolve, resolveExact, hne, ↓reduceIte, hnone, hsame]
  rfl

/-- The scan of a command line stops exactly behind it. -/
theorem scanRange_of_evaluate (hblanks : ∀ c ∈ t.trimStart, Unicode.isBlank c → c = ' ' ∨ c = '\t') {rest : Text}
    (hrest : ∀ c ∈ rest.head?, isRangeChar c = false) :
    scanRange .address true (t.trimStart ++ rest) = (t.trimStart, rest) := by
  obtain ⟨blanks, htrim, hb⟩ := Text.exists_dropEndWhile Unicode.isBlank t.trimStart
  have hdivides : Divides t.trimStart := by
    rw [htrim]
    exact (Calculator.divides_trim hv hclosely).append (.blanks (List.all_eq_true.mpr hb))
  have hrange : ∀ c ∈ t.trimStart, Unicode.isBlank c → isRangeChar c := fun c hc hblank => by
    rcases hblanks c hc hblank with rfl | rfl <;> decide
  have hstop : scanRange .address false rest = ([], rest) := by
    cases rest with
    | nil => rfl
    | cons c t => simp [scanRange, hrest c (by simp)]
  have hscan := hdivides.scanRange hrange rest
  rw [hstop, List.append_nil] at hscan
  obtain ⟨c, u, hstart, hblank, hc⟩ := Calculator.exists_head hv
  have hslash : c ≠ '/' := by
    rintro rfl
    exact absurd hc (by decide)
  rw [← hscan, hstart]
  exact scanRange_start hblank hslash _

omit hclosely in
/-- Blanks are dropped in front of it, and line breaks behind what follows. -/
theorem bareLine_of_evaluate (w : Command.WrittenVerb) (arg : Text) :
    Command.bareLine (t ++ w.text ++ arg) =
      t.trimStart ++ (w.text ++ Text.dropEndWhile (fun c => c = '\n' || c = '\r') arg) := by
  obtain ⟨c, u, hstart, hblank, hc⟩ := Calculator.exists_head hv
  have hcolon : c ≠ ':' := by
    rintro rfl
    exact absurd hc (by decide)
  have hfront : Text.trimStart (t ++ w.text ++ arg) = t.trimStart ++ w.text ++ arg := by
    have hdropped : t.dropWhile Unicode.isBlank = c :: u := hstart
    rw [List.append_assoc, Text.trimStart, List.dropWhile_append, hdropped, hstart, List.append_assoc]
    rfl
  have hhead : ∀ d ∈ (t.trimStart ++ w.text ++ arg).head?, ¬ Unicode.isBlank d ∧ d ≠ ':' := by
    intro d hd
    obtain rfl : c = d := by simpa [hstart] using hd
    exact ⟨hblank, hcolon⟩
  have hlast : ∀ c ∈ (t.trimStart ++ w.text).getLast?, ¬ (c = '\n' || c = '\r') := by
    intro c hc hbreak
    rw [List.getLast?_append_of_ne_nil _ w.text_ne_nil] at hc
    exact (w.text_char c (List.mem_of_mem_getLast? hc)).2.1 (Command.isBlank_of_break c hbreak)
  calc Command.bareLine (t ++ w.text ++ arg)
    _ = Command.bareLine (Text.trimStart (t ++ w.text ++ arg)) := by
      rw [Command.bareLine, Command.bareLine, Text.trimStart_trimStart]
    _ = Text.dropEndWhile (fun c => c = '\n' || c = '\r') (t.trimStart ++ w.text ++ arg) := by
      rw [hfront, Command.bareLine_of_head hhead]
    _ = _ := by rw [Text.dropEndWhile_append hlast, List.append_assoc]

/-- A command line that begins with it is parsed into it and what follows. -/
theorem parse_of_evaluate (hblanks : ∀ c ∈ t.trimStart, Unicode.isBlank c → c = ' ' ∨ c = '\t')
    (w : Command.WrittenVerb) {arg : Text} (harg : ∀ c ∈ arg.head?, w.continues c = false) :
    Command.parse (t ++ w.text ++ arg) = .ok (some ⟨t.trim, w.verb,
      Text.trimStart (Text.dropEndWhile (fun c => c = '\n' || c = '\r') arg), w.hasBang⟩) := by
  obtain ⟨first, word, htext⟩ := List.exists_cons_of_ne_nil w.text_ne_nil
  have hfirst := w.text_char first (by simp [htext])
  generalize hkept : Text.dropEndWhile (fun c => c = '\n' || c = '\r') arg = kept
  have hbare : Command.bareLine (t ++ w.text ++ arg) = t.trimStart ++ (w.text ++ kept) :=
    hkept ▸ bareLine_of_evaluate hv w arg
  have hscan : scanRange .address true (t.trimStart ++ (w.text ++ kept)) = (t.trimStart, w.text ++ kept) :=
    scanRange_of_evaluate hv hclosely hblanks (by simp [htext, hfirst.1])
  have hread : Command.readVerb? (w.text ++ kept) = some (w.named, w.hasBang, kept) :=
    w.readVerb?_text fun c hc => harg c (Text.head?_dropEndWhile _ _ c (hkept ▸ hc))
  have hshown : Text.isBlank (t.trimStart ++ (w.text ++ kept)) = false := by
    simp [Text.isBlank, htext, hfirst.2.1]
  have hne : w.text ++ kept ≠ [] := by simp [w.text_ne_nil]
  rw [Command.parse, hbare]
  simp only [hshown, hscan, hread, hne, Bool.false_eq_true, ↓reduceIte, Text.trim_trimStart]
  rfl

end Address

namespace Calculator
open Address

/-- An expression that can be computed and has no blank behind a slash is an address: its line is the value, brought
into the frame, no search takes place, and in front of a verb it is the range of the command line. Blanks in it are
spaces and tabs there. -/
theorem computed_address {f : Frame} {count : Nat} {t : Text} {v : Int} (hcount : f.lineCount? = some count)
    (hv : evaluate f t = .ok v) (hclosely : t.DividesClosely) :
    (∀ rule allowZero lastSearch, ∃ line : Nat,
      resolve f rule allowZero lastSearch t = (.ok line, lastSearch) ∧
      (line : Int) = max (if allowZero then 0 else 1) (min v count)) ∧
    ((∀ c ∈ t.trimStart, Unicode.isBlank c → c = ' ' ∨ c = '\t') →
      ∀ (w : Command.WrittenVerb) (arg : Text), (∀ c ∈ arg.head?, w.continues c = false) →
        Command.parse (t ++ w.text ++ arg) = .ok (some ⟨t.trim, w.verb,
          Text.trimStart (Text.dropEndWhile (fun c => c = '\n' || c = '\r') arg), w.hasBang⟩)) := by
  refine ⟨fun rule allowZero lastSearch => ?_, fun hblanks w arg harg => ?_⟩
  · refine ⟨clampLine f allowZero v, resolve_of_evaluate hv hclosely rule allowZero lastSearch, ?_⟩
    have hpos := Frame.count_pos hcount
    simp only [clampLine, hcount]
    cases allowZero <;> simp only [Bool.false_eq_true, ↓reduceIte] <;> omega
  · exact parse_of_evaluate hv hclosely hblanks w harg

/-- Blanks, signs, a mark and two divisions, one of them in front of a parenthesis. -/
theorem computed_address_divisions :
    let f : Frame := { Frame.ofText "a\nb\nc\nd\ne\nf\n".toList with cursor := 4, marks := [(.named 'a', 8)] }
    let t : Text := " -\t'a /2+ 18 /(1+ 1)".toList
    f.lineCount? = some 6 ∧ evaluate f t = .ok 10 ∧ t.DividesClosely ∧
      (∃ line : Nat, resolve f {} true none t = (.ok line, none) ∧ (line : Int) = max 0 (min 10 6)) ∧
      Command.parse (t ++ "d".toList ++ " x\n".toList) =
        .ok (some ⟨"-\t'a /2+ 18 /(1+ 1)".toList, .delete, "x".toList, false⟩) := by
  intro f t
  have hcount : f.lineCount? = some 6 := by decide
  have hv : evaluate f t = .ok 10 := by decide +kernel
  have hclosely : t.DividesClosely := fun c hc hin => by
    have hall : t.all fun c => ! Unicode.isBlank c || ¬ ['/', c] <:+: t := by decide +kernel
    simpa [hc, hin] using List.all_eq_true.mp hall c (hin.subset (by simp))
  have hblanks : ∀ c ∈ t.trimStart, Unicode.isBlank c → c = ' ' ∨ c = '\t' := fun c hin hc => by
    have hall : t.trimStart.all fun c => ! Unicode.isBlank c || c = ' ' || c = '\t' := by decide +kernel
    simpa [hc] using List.all_eq_true.mp hall c hin
  obtain ⟨hresolve, hparse⟩ := computed_address hcount hv hclosely
  refine ⟨hcount, hv, hclosely, hresolve {} true none, ?_⟩
  exact hparse hblanks (.word "d".toList .delete (Verb.ofWord?_eq_some_iff.mp (by decide)) false) " x\n".toList
    fun c hc => by cases hc; decide

/-- Where a blank follows the slash, the calculator divides and the resolver searches: six divided by two is no line
then, and the letter of a verb is of the pattern. A no-break space, which the calculator skips, ends the range of a
command line, and no verb is found there. -/
theorem blank_behind_slash_searches :
    let f := Frame.ofText "a\nb\nc\nd\ne\nf\n".toList
    f.lineCount? = some 6 ∧
      (evaluate f "6/ 2".toList = .ok 3 ∧
        resolve f {} false none "6/ 2".toList = (.error (.unresolved (.patternNotFound " 2".toList)), none) ∧
        Command.parse "6/ 2p".toList = .ok (some ⟨"6/ 2p".toList, .goto, [], false⟩)) ∧
      evaluate f "1+\u00a02".toList = .ok 3 ∧
      Command.parse "1+\u00a02p".toList = .error (.malformed (.unknownCommand "1+\u00a02p".toList)) :=
  ⟨by decide, ⟨by decide +kernel, by decide +kernel, by decide⟩, by decide +kernel, by decide +kernel⟩

end Calculator
end ExEditor
