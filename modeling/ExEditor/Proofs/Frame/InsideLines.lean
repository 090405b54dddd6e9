import ExEditor.Proofs.Frame.Tracks

/-! Edits inside lines, and joining lines, take the marks of lines along, wherever on their lines these stand. -/
namespace ExEditor

/-- Where each line comes to when some line feeds behind the start of a line are taken away and others are put
there: the lines that meet are one. -/
def LineMove.fuse (first removed added : Nat) : LineMove := fun line =>
  some (if line < first then line else if line ≤ first + removed then first + added
    else line - removed + added)

/-- Where none are taken away the line itself and those behind it move down. -/
theorem LineMove.fuse_added (first added : Nat) :
    fuse first 0 added = fun line => some (if line < first then line else line + added) := by
  funext line
  unfold fuse
  congr 1
  split
  · rfl
  · split <;> omega

theorem LineMove.fuse_zero (n : Nat) : fuse n 0 0 = some := by
  rw [fuse_added]
  funext line
  simp

/-- An offset through a replacement: what stands in what is replaced comes to stand behind it. -/
theorem Text.On.replaced {t : Text} {offset line : Nat} (h : t.On offset line) {a b : Nat} (hab : a ≤ b)
    (hb : b ≤ t.length) (u : Text) :
    Text.On (t.take a ++ (u ++ t.drop b)) (Marks.afterInsert a u.length (Marks.afterDelete a b offset))
      (if offset < a then line
        else if offset ≤ b then (t.take a).count '\n' + u.count '\n'
        else line - (t.slice a b).count '\n' + u.count '\n') := by
  have hlength : (t.take a).length = a := by
    rw [List.length_take]
    exact Nat.min_eq_left (Nat.le_trans hab hb)
  have hall : (t.take a ++ (u ++ t.drop b)).length = a + (u.length + (t.length - b)) := by
    rw [List.length_append, List.length_append, List.length_drop, hlength]
  have hle := h.le
  rcases Nat.lt_or_ge offset a with hlt | hge
  · have hstay : Marks.afterInsert a u.length (Marks.afterDelete a b offset) = offset := by
      rw [Marks.afterDelete, if_pos (Nat.le_of_lt hlt), Marks.afterInsert, if_neg (by omega)]
    rw [hstay, if_pos hlt]
    refine ⟨by omega, ?_⟩
    rw [List.take_append_of_le_length (by omega), List.take_take, Nat.min_eq_left (by omega), h.count]
  rw [if_neg (by omega)]
  by_cases hin : offset ≤ b
  · have hmeet : Marks.afterInsert a u.length (Marks.afterDelete a b offset) = a + u.length := by
      have hdelete : Marks.afterDelete a b offset = a := by
        simp only [Marks.afterDelete]
        split
        · omega
        · split <;> omega
      rw [hdelete, Marks.afterInsert, if_pos (Nat.le_refl a)]
    rw [hmeet, if_pos hin]
    refine ⟨by omega, ?_⟩
    rw [← List.append_assoc, List.take_left' (by rw [List.length_append, hlength]), List.count_append]
  · have hmoved : Marks.afterInsert a u.length (Marks.afterDelete a b offset) =
        a + u.length + (offset - b) := by
      have hdelete : Marks.afterDelete a b offset = offset - (b - a) := by
        rw [Marks.afterDelete, if_neg (by omega), if_neg (by omega)]
      rw [hdelete, Marks.afterInsert, if_pos (by omega)]
      omega
    rw [hmoved, if_neg hin]
    refine ⟨by omega, ?_⟩
    have hcount := congrArg (List.count '\n') (List.take_add (l := t) (i := b) (j := offset - b))
    rw [Nat.add_sub_cancel' (by omega), h.count, List.count_append, t.count_slice hab] at hcount
    rw [← List.append_assoc, List.take_add, List.take_left' (by rw [List.length_append, hlength]),
      List.drop_left' (by rw [List.length_append, hlength]), List.count_append, List.count_append]
    omega

namespace Frame
variable {f g : Frame}

/-- A replacement that begins at the start of a line. -/
theorem carries_replace (hp : f.text.returnsPaired) {n b : Nat} (hn : n ≤ f.text.count '\n')
    (hab : f.lineStart n ≤ b) (hb : b ≤ f.length) (u : Text) :
    Carries Text.On f (f.replace (f.lineStart n) b u)
      (LineMove.fuse n ((f.text.slice (f.lineStart n) b).count '\n') (u.count '\n')) := by
  refine .of_offsets (fun offset => some (Marks.afterInsert (f.lineStart n) u.length
    (Marks.afterDelete (f.lineStart n) b offset))) ?stream ?offsets fun offset line h => .some ?on
  case stream => rw [Frame.replace, insert_streaming, delete_streaming]
  case offsets =>
    intro k
    rw [offsets_replace _ _ hab hb]
    simp
  case on =>
    have hlt := h.lt_iff hp hn
    have hslice := f.text.count_slice hab
    have hmoved := h.replaced hab hb u
    rw [show (f.text.take (f.lineStart n)).count '\n' = n from Text.count_take_lineStart hp hn] at hslice hmoved
    rw [f.replace_text hab hb u]
    refine hmoved.of_eq ?_
    rcases Nat.lt_or_ge offset (f.lineStart n) with hbefore | hbehind
    · rw [if_pos hbefore, if_pos (hlt.mp hbefore)]
    · have hle : n ≤ line := Nat.le_of_not_lt fun h => Nat.not_lt.mpr hbehind (hlt.mpr h)
      rw [if_neg (Nat.not_lt.mpr hbehind), if_neg (Nat.not_lt.mpr hle)]
      by_cases hin : offset ≤ b
      · have hmono := f.text.count_take_mono hin
        rw [h.count, hslice] at hmono
        rw [if_pos hin, if_pos hmono]
      · have hmono := f.text.count_take_mono (Nat.le_of_not_le hin)
        rw [h.count, hslice] at hmono
        rw [if_neg hin]
        split <;> omega

section join
variable {asIs : Bool} {joined : Text} {texts : List Text}

theorem isPlain_joinTexts (hj : joined.IsPlain) (ht : ∀ t ∈ texts, t.IsPlain) :
    (joinTexts asIs joined texts).IsPlain := by
  induction texts generalizing joined with
  | nil => exact hj
  | cons t rest ih =>
    simp only [List.mem_cons, forall_eq_or_imp] at ht
    have htrim : t.trimStart.IsPlain := fun c hc => ht.1 c ((List.dropWhile_suffix _).subset hc)
    unfold joinTexts
    split
    · exact ih (hj.append ht.1) ht.2
    dsimp only
    split
    · exact ih hj ht.2
    · refine ih (Text.IsPlain.append (hj.append ?_) htrim) ht.2
      split
      · exact Text.isPlain_nil
      · simp [Text.IsPlain, Text.isBreak]

theorem isPlain_lineTexts (f : Frame) (first last : Nat) : ∀ t ∈ f.lineTexts first last, t.IsPlain := by
  intro t ht
  obtain ⟨n, -, rfl⟩ := List.mem_map.mp ht
  exact Text.isPlain_lineBody _

/-- The lines that are joined become one. -/
theorem carries_joinLines (hp : f.text.returnsPaired) {first last : Nat} (hf : first ≤ last)
    (hl : last ≤ f.text.count '\n') (asIs : Bool) :
    Carries Text.On f (f.joinLines first last asIs) (LineMove.fuse first (last - first) 0) := by
  have hstart : f.lineStart first ≤ f.lineEnd last :=
    Nat.le_trans (f.lineStart_mono hf) (Nat.le_add_right _ _)
  have hslice := f.text.count_slice hstart
  have hplain : (joinTexts asIs (f.line first) (f.lineTexts (first + 1) last)).IsPlain :=
    isPlain_joinTexts (Text.isPlain_lineBody _) (f.isPlain_lineTexts _ _)
  have hcarries := carries_replace hp (Nat.le_trans hf hl) hstart (f.text.lineEnd_le last)
    (joinTexts asIs (f.line first) (f.lineTexts (first + 1) last))
  rw [show (f.text.take (f.lineStart first)).count '\n' = first from
      Text.count_take_lineStart hp (Nat.le_trans hf hl),
    show (f.text.take (f.lineEnd last)).count '\n' = last from Text.count_take_lineEnd hp hl] at hslice
  rw [Text.count_feed_plain hplain,
    show (f.text.slice (f.lineStart first) (f.lineEnd last)).count '\n' = last - first by omega] at hcarries
  exact hcarries.goToLine _

end join

section inside

/-- An edit inside lines: all of them stay, and their marks on them. -/
structure Reworded (f g : Frame) : Prop where
  paired : g.text.returnsPaired
  count : g.text.count '\n' = f.text.count '\n'
  carries : Carries Text.On f g some

theorem Reworded.trans {h : Frame} (h₁ : Reworded f g) (h₂ : Reworded g h) : Reworded f h where
  paired := h₂.paired
  count := h₂.count.trans h₁.count
  carries := h₁.carries.trans h₂.carries

/-- A part of a line is replaced by a text without breaks. -/
theorem reworded_replace (hp : f.text.returnsPaired) {n k : Nat} (hn : n ≤ f.text.count '\n')
    (hk : k ≤ (f.line n).length) {u : Text} (hu : u.IsPlain) :
    Reworded f (f.replace (f.lineStart n) (f.lineStart n + k) u) := by
  have hab : f.lineStart n ≤ f.lineStart n + k := Nat.le_add_right _ _
  have hb : f.lineStart n + k ≤ f.length := Nat.le_trans (Nat.add_le_add_left hk _) (f.text.lineEnd_le n)
  have hslice : (f.text.slice (f.lineStart n) (f.lineStart n + k)).count '\n' = 0 := by
    rw [show f.text.slice (f.lineStart n) (f.lineStart n + k) = (f.line n).take k from f.text.slice_line n hk]
    exact Text.count_feed_plain fun c hc => Text.isPlain_lineBody _ c (List.mem_of_mem_take hc)
  have hcount := f.text.count_slice hab
  have hcarries := carries_replace hp hn hab hb u
  rw [hslice, Text.count_feed_plain hu, LineMove.fuse_zero] at hcarries
  refine ⟨?_, ?_, hcarries⟩
  · rw [f.replace_text hab hb]
    exact Text.returnsPaired_append (Text.returnsPaired_take_lineStart hp n)
      (hu.returnsPaired_append.trans (Text.returnsPaired_drop_inside hp n hk))
  · have hsplit := congrArg (List.count '\n') (List.take_append_drop (f.lineStart n + k) f.text)
    rw [List.count_append] at hsplit
    rw [f.replace_text hab hb, List.count_append, List.count_append, Text.count_feed_plain hu]
    omega

theorem replace_self (f : Frame) (a : Nat) (t : Text) : f.replace a a t = f.insert a t := by
  have hc : f.clamp (min a a) = f.clamp (max a a) := by simp
  rw [replace, delete, if_pos hc]

theorem reworded_indentLine (hp : f.text.returnsPaired) {n : Nat} (hn : n ≤ f.text.count '\n') {indent : Text}
    (hi : indent.IsPlain) : Reworded f (indentLine indent f n) := by
  unfold indentLine
  split
  · exact ⟨hp, rfl, .refl _ f⟩
  · have h := reworded_replace hp hn (Nat.zero_le _) hi
    rwa [Nat.add_zero, f.replace_self] at h

theorem outdentLength_le (columns tabWidth used : Nat) (t : Text) :
    outdentLength columns tabWidth used t ≤ t.length := by
  induction t generalizing used with
  | nil => exact Nat.le_refl 0
  | cons c t ih =>
    unfold outdentLength
    extract_lets used'
    split
    · split
      · exact Nat.zero_le _
      split
      · exact Nat.succ_pos _
      · exact Nat.succ_le_succ (ih _)
    · exact Nat.zero_le _

theorem reworded_outdentLine (hp : f.text.returnsPaired) {n : Nat} (hn : n ≤ f.text.count '\n')
    (columns tabWidth : Nat) : Reworded f (outdentLine columns tabWidth f n) :=
  reworded_replace hp hn (outdentLength_le columns tabWidth 0 (f.line n)) Text.isPlain_nil

/-- Lines that are changed one after the other, each inside. -/
theorem carries_eachLine (hp : f.text.returnsPaired) {change : Frame → Nat → Frame}
    (h : ∀ (g : Frame) n, g.text.returnsPaired → n ≤ g.text.count '\n' → Reworded g (change g n))
    {first last : Nat} (hl : last ≤ f.text.count '\n') :
    Carries Text.On f (f.eachLine change first last) some := by
  have hlines : ∀ n ∈ lineRange first last, n ≤ f.text.count '\n' := by
    intro n hn
    rw [lineRange, List.mem_range'_1] at hn
    omega
  have hopen : Reworded f f.openGroup := by
    refine ⟨by rw [openGroup_text]; exact hp, by rw [openGroup_text], ?_⟩
    exact (Carries.refl _ f).congr f.openGroup_text (fun _ => f.offsets_openGroup _) f.remember_streaming
  have hall : Reworded f ((lineRange first last).foldl change f.openGroup) := by
    refine List.foldlRecOn (motive := Reworded f) _ change hopen fun g hg n hn => ?_
    exact hg.trans (h g n hg.paired (hg.count ▸ hlines n hn))
  exact hall.carries.congr rfl (fun _ => rfl) rfl

end inside

end Frame
end ExEditor
