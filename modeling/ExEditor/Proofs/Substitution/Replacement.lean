import ExEditor.Substitution.Basic
import Mathlib.Data.List.Basic

/-! Replacements as tokens. However tokens follow each other, a text that writes them expands to what they stand for,
one after the other, each in the case of the last switch in front of it; and every text writes some tokens, but for a
backslash that may be left at its end. -/
namespace ExEditor

namespace CaseMode

/-- What a character becomes. -/
def mapping : CaseMode → Char → Text
  | asIs, c => [c]
  | upper, c => Unicode.toUpper c
  | lower, c => Unicode.toLower c

theorem apply_eq_flatMap (mode : CaseMode) (t : Text) : mode.apply t = t.flatMap mode.mapping := by
  cases mode with
  | asIs => exact (List.flatMap_singleton' t).symm
  | upper => rfl
  | lower => rfl

end CaseMode

/-- The text that a group of a match has taken, if it took part in the match. -/
def Match.capture? (m : Match) (matched : Text) (index : Nat) : Option Text :=
  (m.group? index).map fun (first, last) => (matched.drop (first - m.start)).take (last - first)

theorem Match.groupText_eq (m : Match) (matched : Text) (index : Nat) :
    m.groupText matched index = (m.capture? matched index).getD [] := by
  unfold groupText capture?
  split
  · next h => rw [h]; rfl
  · next h => rw [h]; rfl

namespace Replacement

/-- A token of a replacement. -/
inductive Token
  | literal (c : Char)
  /-- The whole match. -/
  | whole
  | group (n : Fin 10)
  /-- All that follows is put into a case. -/
  | switch (mode : CaseMode)
  deriving DecidableEq, Repr

namespace Token

/-- Whether a token may be written as a text. A character may be escaped unless that makes it something else, and has
to be if it is something else by itself. -/
inductive Writes : Token → Text → Prop
  | plain {c : Char} (h : c ≠ '&' ∧ c ≠ '\\') : Writes (literal c) [c]
  | escaped {c : Char} (h : ¬ (c.isDigit ∨ c ∈ ['U', 'L', 'E', 'e'])) : Writes (literal c) ['\\', c]
  | ampersand : Writes whole ['&']
  | zero : Writes whole ['\\', '0']
  | digit (n : Fin 10) : Writes (group n) ['\\', Nat.digitChar n]
  | upper : Writes (switch .upper) ['\\', 'U']
  | lower : Writes (switch .lower) ['\\', 'L']
  | back {c : Char} (h : c = 'E' ∨ c = 'e') : Writes (switch .asIs) ['\\', c]

/-- The text that a token puts in. A group that took no part in the match has none. -/
def text (captures : Nat → Option Text) : Token → Text
  | literal c => [c]
  | whole => (captures 0).getD []
  | group n => (captures n).getD []
  | switch _ => []

/-- The case that a token switches to. -/
def mode? : Token → Option CaseMode
  | switch mode => some mode
  | _ => none

end Token

/-- Whether tokens, one after the other, may be written as a text. -/
inductive Writes : List Token → Text → Prop
  | nil : Writes [] []
  | cons {token : Token} {tokens : List Token} {t rest : Text} (h : token.Writes t) (hrest : Writes tokens rest) :
    Writes (token :: tokens) (t ++ rest)

/-- The case behind tokens: that of the last switch among them. -/
def lastMode (tokens : List Token) : CaseMode := (tokens.filterMap Token.mode?).getLast?.getD .asIs

/-- What tokens stand for, one after the other, each character in the case of the last switch in front of it. -/
def decoded (captures : Nat → Option Text) (tokens : List Token) : Text :=
  (tokens.mapIdx fun i token => (token.text captures).flatMap (lastMode (tokens.take i)).mapping).flatten

/-- A text with its special characters escaped. -/
def escaped (t : Text) : Text := t.flatMap fun c => if c = '&' ∨ c = '\\' then ['\\', c] else [c]

section decoding
variable {captures : Nat → Option Text} {group : Nat → Text} {token : Token} {tokens : List Token} {t : Text}

/-- A switch counts for what is behind it. -/
theorem lastMode_concat (before : List Token) (token : Token) :
    lastMode (before ++ [token]) = token.mode?.getD (lastMode before) := by
  rw [lastMode, List.filterMap_append]
  cases token with
  | switch mode => simp [Token.mode?]
  | _ => simp [Token.mode?, lastMode]

theorem expandReplacement_char {c : Char} (h : c ≠ '\\') (mode : CaseMode) (rest : Text) :
    expandReplacement group mode (c :: rest) =
      (if c = '&' then mode.apply (group 0) else mode.apply [c]) ++ expandReplacement group mode rest :=
  expandReplacement.eq_4 group mode c rest (fun hc _ => h hc) fun _ _ hc _ => h hc

theorem expandReplacement_digit (mode : CaseMode) (n : Fin 10) (rest : Text) :
    expandReplacement group mode ('\\' :: Nat.digitChar n :: rest) =
      mode.apply (group n) ++ expandReplacement group mode rest := by
  have hdigit : ∀ n : Fin 10, (Nat.digitChar n).isDigit ∧ (Nat.digitChar n).toNat - '0'.toNat = n := by decide
  rw [expandReplacement.eq_3, if_pos (hdigit n).1, (hdigit n).2]

/-- One token is read off the front of a replacement. -/
theorem expandReplacement_token (h : token.Writes t) (mode : CaseMode) (rest : Text) :
    expandReplacement (fun n => (captures n).getD []) mode (t ++ rest) =
      (token.text captures).flatMap mode.mapping ++
        expandReplacement (fun n => (captures n).getD []) (token.mode?.getD mode) rest := by
  rw [← CaseMode.apply_eq_flatMap]
  cases h with
  | plain h => exact (expandReplacement_char h.2 mode rest).trans (by rw [if_neg h.1]; rfl)
  | escaped h =>
    simp only [List.mem_cons, List.not_mem_nil, or_false, not_or] at h
    obtain ⟨hdigit, hupper, hlower, hback⟩ := h
    rw [List.cons_append, List.singleton_append, expandReplacement.eq_3, if_neg hdigit, if_neg hupper, if_neg hlower,
      if_neg (not_or.mpr hback)]
    rfl
  | ampersand => exact expandReplacement_char (by decide) mode rest
  | zero => exact expandReplacement_digit mode 0 rest
  | digit n => exact expandReplacement_digit mode n rest
  | upper => cases mode <;> rfl
  | lower => cases mode <;> rfl
  | back h =>
    rcases h with rfl | rfl
    · cases mode <;> rfl
    · cases mode <;> rfl

/-- Tokens are read off one after the other, behind others whose switches still count. -/
theorem expandReplacement_writes (h : Writes tokens t) (before : List Token) (rest : Text) :
    expandReplacement (fun n => (captures n).getD []) (lastMode before) (t ++ rest) =
      (tokens.mapIdx fun i token =>
        (token.text captures).flatMap (lastMode (before ++ tokens.take i)).mapping).flatten ++
        expandReplacement (fun n => (captures n).getD []) (lastMode (before ++ tokens)) rest := by
  induction h generalizing before with
  | nil => rw [List.append_nil]; rfl
  | @cons token tokens t others htoken hothers ih =>
    have hfront (i : Nat) : before ++ (token :: tokens).take (i + 1) = before ++ [token] ++ tokens.take i := by
      rw [List.take_succ_cons, List.append_cons]
    rw [List.append_assoc, expandReplacement_token htoken, ← lastMode_concat, ih, ← List.append_cons, List.mapIdx_cons,
      List.flatten_cons, List.append_assoc, List.take_zero, List.append_nil]
    simp only [hfront]

theorem expandReplacement_written (captures : Nat → Option Text) (h : Writes tokens t) (rest : Text) :
    expandReplacement (fun n => (captures n).getD []) .asIs (t ++ rest) =
      decoded captures tokens ++ expandReplacement (fun n => (captures n).getD []) (lastMode tokens) rest :=
  expandReplacement_writes h [] rest

/-- Escaping makes every character a literal. -/
theorem writes_escaped (t : Text) : Writes (t.map .literal) (escaped t) := by
  induction t with
  | nil => exact .nil
  | cons c t ih =>
    rw [escaped, List.flatMap_cons, List.map_cons]
    refine .cons ?_ ih
    split
    · next h => exact .escaped (by rcases h with rfl | rfl <;> decide)
    · next h => exact .plain (not_or.mp h)

theorem decoded_literals (t : Text) : decoded captures (t.map .literal) = t := by
  have hnone (n : Nat) : lastMode ((t.map Token.literal).take n) = .asIs := by
    rw [lastMode, ← List.map_take, List.filterMap_map]
    simp [Function.comp_def, Token.mode?]
  simp only [decoded, hnone]
  clear hnone
  induction t with
  | nil => rfl
  | cons c t ih =>
    rw [List.map_cons, List.mapIdx_cons, List.flatten_cons, ih]
    rfl

/-- Whether a replacement is tokens, to its end or to a backslash that is left there. -/
def HasTokens (t : Text) : Prop :=
  ∃ tokens front rest, t = front ++ rest ∧ Writes tokens front ∧ (rest = [] ∨ rest = ['\\'])

theorem HasTokens.cons {rest : Text} (h : HasTokens rest) (htoken : token.Writes t) : HasTokens (t ++ rest) := by
  obtain ⟨tokens, front, rest, rfl, hwrites, hrest⟩ := h
  exact ⟨token :: tokens, t ++ front, rest, (List.append_assoc ..).symm, .cons htoken hwrites, hrest⟩

theorem exists_digitChar {c : Char} (h : c.isDigit) : ∃ n : Fin 10, c = Nat.digitChar n := by
  obtain ⟨hlow, hhigh⟩ : 48 ≤ c.toNat ∧ c.toNat ≤ 57 := Char.isDigit_iff_toNat.mp h
  refine ⟨⟨c.toNat - 48, by omega⟩, Char.toNat_inj.mp ?_⟩
  rw [Nat.toNat_digitChar_of_lt_ten (by omega)]
  exact (Nat.add_sub_cancel' hlow).symm

/-- Every replacement is tokens. The cases are those of the expansion. -/
theorem hasTokens (t : Text) : HasTokens t := by
  fun_induction expandReplacement (fun _ => []) .asIs t with
  | case1 => exact ⟨[], [], [], rfl, .nil, .inl rfl⟩
  | case2 => exact ⟨[], [], ['\\'], rfl, .nil, .inr rfl⟩
  | case3 mode c t hdigit ih =>
    obtain ⟨n, rfl⟩ := exists_digitChar hdigit
    exact ih.cons (.digit n)
  | case4 mode t hdigit ih => exact ih.cons .upper
  | case5 mode t hdigit hupper ih => exact ih.cons .lower
  | case6 mode c t hdigit hupper hlower hback ih => exact ih.cons (.back hback)
  | case7 mode c t hdigit hupper hlower hback ih =>
    exact ih.cons (.escaped (by simpa [hdigit, hupper, hlower] using hback))
  | case8 mode c t hlone hescape ih =>
    have hc : c ≠ '\\' := by
      rintro rfl
      cases t with
      | nil => exact hlone rfl rfl
      | cons d t => exact hescape d t rfl rfl
    by_cases hwhole : c = '&'
    · subst hwhole
      exact ih.cons .ampersand
    · exact ih.cons (.plain ⟨hwhole, hc⟩)

end decoding

/-- A replacement decodes token by token. Whatever tokens are written, with whatever escapes, the text expands to what
they stand for one after the other, each character in the case of the last switch in front of it and groups that took
no part in the match empty. A text whose special characters are escaped expands to itself. And every text is tokens,
but for a backslash that is left at its end and stands for itself. -/
theorem expandReplacement_decodes (m : Match) (matched : Text) :
    (∀ tokens t, Writes tokens t →
      expandReplacement (m.groupText matched) .asIs t = decoded (m.capture? matched) tokens) ∧
    (∀ t, expandReplacement (m.groupText matched) .asIs (escaped t) = t) ∧
    ∀ t, ∃ tokens, Writes tokens t ∨
      ∃ front, t = front ++ ['\\'] ∧ Writes tokens front ∧
        expandReplacement (m.groupText matched) .asIs t = decoded (m.capture? matched) tokens ++ ['\\'] := by
  have hgroups : m.groupText matched = fun n => (m.capture? matched n).getD [] := funext (m.groupText_eq matched)
  have hwritten {tokens : List Token} {t : Text} (h : Writes tokens t) :
      expandReplacement (m.groupText matched) .asIs t = decoded (m.capture? matched) tokens := by
    have hexpand := expandReplacement_written (m.capture? matched) h []
    rwa [expandReplacement.eq_1, List.append_nil, List.append_nil, ← hgroups] at hexpand
  refine ⟨fun tokens t h => hwritten h, fun t => ?_, fun t => ?_⟩
  · rw [hwritten (writes_escaped t), decoded_literals]
  · obtain ⟨tokens, front, rest, rfl, hfront, rfl | rfl⟩ := hasTokens t
    · exact ⟨tokens, .inl (by rwa [List.append_nil])⟩
    · have hexpand := expandReplacement_written (m.capture? matched) hfront ['\\']
      rw [expandReplacement.eq_2, ← hgroups] at hexpand
      exact ⟨tokens, .inr ⟨front, rfl, hfront, hexpand⟩⟩

/-- A switch to upper case over a letter that has none of its own, an escaped `&` and the match, one to lower case over
a group, and behind the switch back a backslash, the digit that it does not escape and a group that is absent. -/
theorem expandReplacement_decodes_cases :
    let m : Match := { start := 2, stop := 5, saves := [(4, 4), (5, 5)] }
    let tokens : List Token :=
      [.switch .upper, .literal 'ß', .literal '&', .whole, .switch .lower, .group 2, .switch .asIs, .literal '\\',
        .literal '1', .group 1]
    let t : Text := "\\Uß\\&&\\L\\2\\E\\\\1\\1"
    Writes tokens t ∧ expandReplacement (m.groupText "abC".toList) .asIs t = "SS&ABCc\\1".toList := by
  intro m tokens t
  have hwrites : Writes tokens t :=
    .cons .upper <| .cons (.plain (by decide)) <| .cons (.escaped (by decide)) <| .cons .ampersand <| .cons .lower <|
      .cons (.digit 2) <| .cons (.back (.inl rfl)) <| .cons (.escaped (by decide)) <| .cons (.plain (by decide)) <|
        .cons (.digit 1) .nil
  refine ⟨hwrites, ((expandReplacement_decodes m "abC".toList).1 tokens t hwrites).trans ?_⟩
  decide +kernel

end Replacement
end ExEditor
