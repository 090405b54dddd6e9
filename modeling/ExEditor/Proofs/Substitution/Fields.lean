import ExEditor.Proofs.Address.Written
import ExEditor.Session.Nested
import ExEditor.Substitution.Basic

/-! The fields of a substitution. The escaped delimiters are hidden first, and the text is then cut at those that are
left. A scan that lets a backslash take the next character with it, as searches and global commands do, finds the same
fields unless one of them ends in a backslash or holds the character that the escaped delimiters are hidden by. -/
namespace ExEditor

namespace Text
variable {a b new : Char}

theorem replacePair_pair (a b new : Char) (t : Text) :
    replacePair a b new (a :: b :: t) = new :: replacePair a b new t := by
  simp [replacePair]

theorem replacePair_cons {c : Char} {t : Text} (h : c = a → t.head? ≠ some b) :
    replacePair a b new (c :: t) = c :: replacePair a b new t := by
  cases t with
  | nil => simp [replacePair]
  | cons d t =>
    have hpair : ¬ (c = a ∧ d = b) := fun ⟨hc, hd⟩ => h hc (congrArg some hd)
    rw [replacePair, if_neg hpair]

/-- Two texts are rewritten apart unless a pair stands across the place where they meet. -/
theorem replacePair_append {t u : Text} (h : t.getLast? = some a → u.head? ≠ some b) :
    replacePair a b new (t ++ u) = replacePair a b new t ++ replacePair a b new u := by
  induction t using replacePair.induct a b with
  | case1 c d t hpair ih =>
    obtain ⟨rfl, rfl⟩ := hpair
    rw [List.cons_append, List.cons_append, replacePair_pair, replacePair_pair, List.cons_append]
    refine congrArg _ (ih fun hlast => h ?_)
    have hne : t ≠ [] := by rintro rfl; cases hlast
    rw [List.getLast?_cons_of_ne_nil (by simp), List.getLast?_cons_of_ne_nil hne, hlast]
  | case2 c d t hpair ih =>
    have hcons : ∀ v : Text, replacePair a b new (c :: d :: v) = c :: replacePair a b new (d :: v) :=
      fun v => replacePair_cons fun hc hd => hpair ⟨hc, Option.some.inj hd⟩
    rw [List.cons_append, List.cons_append, hcons, hcons, List.cons_append]
    refine congrArg _ (ih fun hlast => h ?_)
    rw [List.getLast?_cons_of_ne_nil (by simp), hlast]
  | case3 t hshort =>
    match t with
    | [] => rfl
    | [c] => exact replacePair_cons fun hc => h (congrArg some hc)
    | c :: d :: t => exact absurd rfl (hshort c d t)

/-- A character that no pair begins with is left, or put in place of the pair that it ends. -/
theorem mem_replacePair {c : Char} {t : Text} (hc : c ≠ a) (h : c ∈ t) : c ∈ replacePair a b b t := by
  induction t using replacePair.induct a b with
  | case1 d e t hpair ih =>
    obtain ⟨rfl, rfl⟩ := hpair
    rw [replacePair_pair]
    rcases List.mem_cons.mp h with rfl | h
    · exact absurd rfl hc
    rcases List.mem_cons.mp h with rfl | h
    · exact List.mem_cons_self
    · exact List.mem_cons_of_mem _ (ih h)
  | case2 d e t hpair ih =>
    rw [replacePair_cons fun hd he => hpair ⟨hd, by simpa using he⟩]
    rcases List.mem_cons.mp h with rfl | h
    · exact List.mem_cons_self
    · exact List.mem_cons_of_mem _ (ih h)
  | case3 t hshort =>
    match t with
    | [] | [_] => exact h
    | c :: d :: t => exact absurd rfl (hshort c d t)

theorem mem_of_mem_replacePair {c : Char} {t : Text} (h : c ∈ replacePair a b new t) : c ∈ t ∨ c = new ∧ b ∈ t := by
  induction t using replacePair.induct a b with
  | case1 d e t hpair ih =>
    obtain ⟨rfl, rfl⟩ := hpair
    rw [replacePair_pair] at h
    rcases List.mem_cons.mp h with rfl | h
    · exact .inr ⟨rfl, by simp⟩
    · exact (ih h).imp (by simp_all) (by simp_all)
  | case2 d e t hpair ih =>
    rw [replacePair_cons fun hd he => hpair ⟨hd, by simpa using he⟩] at h
    rcases List.mem_cons.mp h with rfl | h
    · exact .inl List.mem_cons_self
    · exact (ih h).imp (List.mem_cons_of_mem _) fun ⟨hc, hb⟩ => ⟨hc, List.mem_cons_of_mem _ hb⟩
  | case3 t hshort =>
    match t with
    | [] | [_] => exact .inl h
    | c :: d :: t => exact absurd rfl (hshort c d t)

theorem splitFirst?_append {p : Char → Bool} {front : Text} (hf : ∀ c ∈ front, p c = false) {c : Char} (hc : p c)
    (t : Text) : splitFirst? p (front ++ c :: t) = some (front, t) := by
  induction front with
  | nil => simp [splitFirst?, hc]
  | cons d front ih =>
    simp only [List.mem_cons, forall_eq_or_imp] at hf
    simp [splitFirst?, hf.1, ih hf.2]

theorem splitFirst?_eq_none_iff {p : Char → Bool} {t : Text} : splitFirst? p t = none ↔ ∀ c ∈ t, p c = false := by
  induction t with
  | nil => simp [splitFirst?]
  | cons c t ih =>
    by_cases hc : p c
    · simp [splitFirst?, hc]
    · simp [splitFirst?, hc, ih]

/-- In front of the first character that is looked for there is none. -/
theorem splitFirst?_front {p : Char → Bool} {t : Text} :
    ∀ c ∈ ((splitFirst? p t).getD (t, [])).1, p c = false := by
  induction t with
  | nil => simp [splitFirst?]
  | cons c t ih =>
    by_cases hc : p c
    · simp [splitFirst?, hc]
    · cases hs : splitFirst? p t with
      | none => simpa [splitFirst?, hc, hs] using splitFirst?_eq_none_iff.mp hs
      | some parts => simpa [splitFirst?, hc, hs] using ih

theorem splitFirst?_front_append {p : Char → Bool} {front : Text} (hf : ∀ c ∈ front, p c = false) (t : Text) :
    ((splitFirst? p (front ++ t)).getD (front ++ t, [])).1 = front ++ ((splitFirst? p t).getD (t, [])).1 := by
  induction front with
  | nil => rfl
  | cons c front ih =>
    simp only [List.mem_cons, forall_eq_or_imp] at hf
    have ih := ih hf.2
    cases hs : splitFirst? p (front ++ t) with
    | none => simpa [splitFirst?, hf.1, hs] using ih
    | some parts => simpa [splitFirst?, hf.1, hs] using ih

end Text

namespace Address
variable {d : Char}

theorem Enclosed.head_ne (hd : d ≠ '\\') {t : Text} (h : Enclosed d t) : t.head? ≠ some d := by
  cases h with
  | done => simp
  | escape c => simpa using hd.symm
  | plain hc hne => simpa using hne

/-- The scan cuts behind what may stand between delimiters. -/
theorem splitAtDelimiter_eq_some_iff (hd : d ≠ '\\') {body p rest : Text} :
    splitAtDelimiter d body = some (p, rest) ↔ body = p ++ d :: rest ∧ Enclosed d p := by
  constructor
  · intro h
    induction body using splitAtDelimiter.induct d generalizing p rest with
    | case1 => cases h
    | case2 => cases h
    | case3 c t ih =>
      simp only [splitAtDelimiter, Option.map_eq_some_iff, Prod.exists, Prod.mk.injEq] at h
      obtain ⟨q, rest, hsplit, rfl, rfl⟩ := h
      obtain ⟨rfl, henclosed⟩ := ih hsplit
      exact ⟨rfl, .escape c henclosed⟩
    | case4 t hdangling hescape =>
      rw [splitAtDelimiter.eq_4 d d t hdangling hescape, if_pos rfl] at h
      cases h
      exact ⟨rfl, .done⟩
    | case5 c t hdangling hescape hne ih =>
      rw [splitAtDelimiter.eq_4 d c t hdangling hescape, if_neg hne] at h
      simp only [Option.map_eq_some_iff, Prod.exists, Prod.mk.injEq] at h
      obtain ⟨q, rest, hsplit, rfl, rfl⟩ := h
      obtain ⟨rfl, henclosed⟩ := ih hsplit
      refine ⟨rfl, .plain ?_ hne henclosed⟩
      rintro rfl
      cases hq : q ++ d :: rest with
      | nil => simp at hq
      | cons e t => exact hescape e t rfl hq
  · rintro ⟨rfl, h⟩
    induction h with
    | done =>
      rw [List.nil_append, splitAtDelimiter.eq_4 d d rest (fun h => absurd h hd) (fun _ _ h => absurd h hd), if_pos rfl]
    | escape c h ih => simp [splitAtDelimiter, ih]
    | plain hc hne h ih =>
      rw [List.cons_append, splitAtDelimiter.eq_4 d _ _ (fun h => absurd h hc) (fun _ _ h => absurd h hc), if_neg hne,
        ih]
      rfl

/-- Where the scan finds no delimiter, what stands there might stand between delimiters, but for a backslash that may
be left at its end. -/
theorem enclosed_of_splitAtDelimiter_eq_none {body : Text} (h : splitAtDelimiter d body = none) :
    ∃ p, Enclosed d p ∧ (body = p ∨ body = p ++ ['\\']) := by
  induction body using splitAtDelimiter.induct d with
  | case1 => exact ⟨[], .done, .inl rfl⟩
  | case2 => exact ⟨[], .done, .inr rfl⟩
  | case3 c t ih =>
    simp only [splitAtDelimiter, Option.map_eq_none_iff] at h
    obtain ⟨p, hp, rfl | rfl⟩ := ih h
    · exact ⟨_, .escape c hp, .inl rfl⟩
    · exact ⟨_, .escape c hp, .inr rfl⟩
  | case4 t hdangling hescape =>
    rw [splitAtDelimiter.eq_4 d d t hdangling hescape, if_pos rfl] at h
    cases h
  | case5 c t hdangling hescape hne ih =>
    rw [splitAtDelimiter.eq_4 d c t hdangling hescape, if_neg hne, Option.map_eq_none_iff] at h
    have hc : c ≠ '\\' := by
      rintro rfl
      cases t with
      | nil => exact hdangling rfl rfl
      | cons e t => exact hescape e t rfl rfl
    obtain ⟨p, hp, rfl | rfl⟩ := ih h
    · exact ⟨_, .plain hc hne hp, .inl rfl⟩
    · exact ⟨_, .plain hc hne hp, .inr rfl⟩

end Address

namespace Substitution
open Address Text

/-- A text with its escaped delimiters hidden. -/
def hidden (d : Char) (t : Text) : Text := t.replacePair '\\' d standIn

/-- A field with the delimiters that were hidden in it. -/
def restored (d : Char) (field : Text) : Text := field.map fun c => if c = standIn then d else c

/-- Pattern, replacement and flags as the command reads them, none if there is no delimiter behind the pattern. -/
def readFields (d : Char) (body : Text) : Option (Text × Text × Text) :=
  match fields d (hidden d body) with
  | (_, none) => none
  | (pattern, some (replacement, flags)) => some (restored d pattern, restored d replacement, flags)

/-- Pattern and replacement as a scan finds them that lets a backslash take the next character with it, and the flags,
in which a delimiter, which is not a flag, may be hidden. -/
def scannedFields (d : Char) (body : Text) : Option (Text × Text × Text) :=
  (splitAtDelimiter d body).map fun (pattern, rest) =>
    (unescapeDelimiter d pattern,
      ((splitAtDelimiter d rest).getD (rest, [])).map (unescapeDelimiter d) (hidden d))

/-- The substitution with given fields, where a replacement `~` stands for the previous one. -/
def ofFields (d : Char) (previous : Option Text) : Option (Text × Text × Text) → Except Failure Substitution
  | none => .error (.malformed (.missingDelimiter d))
  | some (pattern, replacement, flags) => do
    let flags ← SubstituteFlags.read flags
    if pattern = [] then throw (.malformed .emptyPattern)
    if replacement = ['~'] then
      match previous with
      | some replacement => return { pattern, replacement, flags }
      | none => throw (.malformed .noPreviousSubstitution)
    else return { pattern, replacement, flags }

/-- A field as it is written that is cut out and restored right: it does not hold the character that hides
delimiters, and no escaped backslash stands in front of the delimiter behind it. -/
def KeepsField (t : Text) : Prop := standIn ∉ t ∧ t.getLast? ≠ some '\\'

/-- What stands behind the pattern, read right. A replacement without a delimiter behind it goes up to the end. -/
def KeepsBehind (d : Char) (rest : Text) : Prop :=
  match splitAtDelimiter d rest with
  | none => standIn ∉ rest
  | some (replacement, _) => KeepsField replacement

/-- Whether the fields of a text are those that the scan finds. -/
def ScansAlike (d : Char) (body : Text) : Prop :=
  match splitAtDelimiter d body with
  | none => d = standIn → standIn ∉ body
  | some (pattern, rest) => KeepsField pattern ∧ KeepsBehind d rest

theorem parse_eq_ofFields {d : Char} (hd : isDelimiter d) (body : Text) (previous : Option Text) :
    parse (d :: body) previous = ofFields d previous (readFields d body) := by
  unfold parse readFields hidden
  simp only [hd, Bool.not_true, Bool.false_eq_true, ↓reduceIte]
  rcases fields d (replacePair '\\' d standIn body) with ⟨pattern, _ | ⟨replacement, flags⟩⟩
  · rfl
  · cases pattern <;> rfl

section fields
variable {d : Char} (hd : d ≠ '\\')
include hd

theorem hidden_delimiter (t : Text) : hidden d (d :: t) = d :: hidden d t := replacePair_cons fun h => absurd h hd

omit hd in
theorem restored_hidden {t : Text} (h : standIn ∉ t) : restored d (hidden d t) = unescapeDelimiter d t := by
  have hsame : restored d (hidden d t) = restored d (unescapeDelimiter d t) := by
    unfold hidden unescapeDelimiter
    induction t using replacePair.induct '\\' d with
    | case1 c e t hpair ih =>
      obtain ⟨rfl, rfl⟩ := hpair
      simp only [List.mem_cons, not_or] at h
      simpa [replacePair_pair, restored] using ih h.2.2
    | case2 c e t hpair ih =>
      have hcons : c = '\\' → (e :: t).head? ≠ some d := fun hc he => hpair ⟨hc, by simpa using he⟩
      simp only [List.mem_cons, not_or] at h
      rw [replacePair_cons hcons, replacePair_cons hcons]
      exact congrArg (_ :: ·) (ih (by simpa using h.2))
    | case3 t hshort =>
      match t with
      | [] | [_] => rfl
      | c :: e :: t => exact absurd rfl (hshort c e t)
  rw [hsame]
  refine (List.map_congr_left fun c hc => ?_).trans (List.map_id _)
  split
  · next hstand =>
    rcases mem_of_mem_replacePair hc with hmem | ⟨heq, -⟩
    · exact absurd (hstand ▸ hmem) h
    · exact heq.symm
  · rfl

/-- No delimiter shows in a text that may stand between delimiters. -/
theorem not_mem_hidden {p : Text} (hp : Enclosed d p) (h : d = standIn → standIn ∉ p) : d ∉ hidden d p := by
  by_cases hstand : d = standIn
  · intro hmem
    rcases mem_of_mem_replacePair hmem with hmem | ⟨-, hmem⟩ <;> exact h hstand (hstand ▸ hmem)
  · clear h
    induction hp with
    | done => simp [hidden, replacePair]
    | @escape c t ht ih =>
      by_cases hc : c = d
      · subst hc
        simpa [hidden, replacePair_pair] using ⟨hstand, ih⟩
      · have hinner : hidden d (c :: t) = c :: hidden d t := replacePair_cons fun _ => ht.head_ne hd
        have houter : hidden d ('\\' :: c :: t) = '\\' :: hidden d (c :: t) :=
          replacePair_cons fun _ => by simpa using hc
        rw [houter, hinner]
        simpa using ⟨hd, fun h => hc h.symm, ih⟩
    | @plain c t hc hne ht ih =>
      have hcons : hidden d (c :: t) = c :: hidden d t := replacePair_cons fun h => absurd h hc
      rw [hcons]
      simpa using ⟨fun h => hne h.symm, ih⟩

/-- A field that is kept is cut out right. -/
theorem splitFirst?_hidden {p : Text} (hp : Enclosed d p) (h : KeepsField p) (rest : Text) :
    (hidden d (p ++ d :: rest)).splitFirst? (· = d) = some (hidden d p, hidden d rest) := by
  have happend : hidden d (p ++ d :: rest) = hidden d p ++ d :: hidden d rest := by
    rw [← hidden_delimiter hd rest]
    exact replacePair_append fun hlast => absurd hlast h.2
  have hfront : ∀ c ∈ hidden d p, decide (c = d) = false := fun c hc =>
    decide_eq_false fun heq => not_mem_hidden hd hp (fun _ => h.1) (heq ▸ hc)
  rw [happend]
  exact splitFirst?_append hfront (by simp) _

omit hd in
/-- What is restored holds the character that hides delimiters only if that was in it. -/
theorem standIn_not_mem {field t : Text} (hfront : ∀ c ∈ field, decide (c = d) = false)
    (h : restored d field = unescapeDelimiter d t) : standIn ∉ t := by
  intro hmem
  have hstand : standIn ∈ restored d field := h ▸ mem_replacePair (by decide) hmem
  obtain ⟨c, hc, heq⟩ := List.mem_map.mp hstand
  have hne := of_decide_eq_false (hfront c hc)
  split at heq
  · next hs => exact hne (hs.trans heq.symm)
  · next hs => exact hs heq

/-- Only a field that is kept comes out as the scan finds it. -/
theorem keepsField_of_eq {p : Text} (hp : Enclosed d p) (rest : Text)
    (h : restored d (((hidden d (p ++ d :: rest)).splitFirst? (· = d)).getD (hidden d (p ++ d :: rest), [])).1 =
      unescapeDelimiter d p) : KeepsField p := by
  have hstand : standIn ∉ p := standIn_not_mem splitFirst?_front h
  refine ⟨hstand, fun hlast => ?_⟩
  obtain ⟨front, rfl⟩ := List.getLast?_eq_some_iff.mp hlast
  have hfront : standIn ∉ front := fun hmem => hstand (List.mem_append_left _ hmem)
  have hcut : hidden d (front ++ ['\\'] ++ d :: rest) = hidden d front ++ ([standIn] ++ hidden d rest) := by
    have h := @replacePair_append '\\' d standIn front ('\\' :: d :: rest) fun _ => by simpa using hd.symm
    rw [replacePair_pair] at h
    simpa [hidden] using h
  have hback : ∀ new, replacePair '\\' d new (front ++ ['\\']) = replacePair '\\' d new front ++ ['\\'] := fun new =>
    replacePair_append fun _ => by simpa using hd.symm
  have hnone : ∀ c ∈ hidden d front, decide (c = d) = false := fun c hc => by
    refine decide_eq_false fun heq => not_mem_hidden hd hp (fun _ => hstand) ?_
    rw [hidden, hback]
    exact List.mem_append_left _ (heq ▸ hc)
  rw [hcut, splitFirst?_front_append hnone, restored, List.map_append] at h
  change restored d (hidden d front) ++ restored d _ = _ at h
  rw [restored_hidden hfront] at h
  have hrest := List.append_cancel_left (h.trans (hback d))
  by_cases hs : standIn = d
  · simp [splitFirst?, hs, restored] at hrest
  · have hone : ∀ c ∈ [standIn], decide (c = d) = false := by simpa using hs
    rw [splitFirst?_front_append hone] at hrest
    simp only [restored, List.map_append, List.map_cons, ↓reduceIte] at hrest
    exact hd (List.cons.inj hrest).1

/-- Where the scan finds no delimiter there is none to be seen, but for escaped ones that are hidden by
themselves. -/
theorem splitFirst?_hidden_eq_none_iff {t : Text} (ht : splitAtDelimiter d t = none) :
    (hidden d t).splitFirst? (· = d) = none ↔ (d = standIn → standIn ∉ t) := by
  rw [splitFirst?_eq_none_iff]
  constructor
  · rintro h rfl hmem
    exact of_decide_eq_false (h _ (mem_replacePair (by decide) hmem)) rfl
  · intro h c hc
    refine decide_eq_false ?_
    rintro rfl
    obtain ⟨p, hp, rfl | rfl⟩ := enclosed_of_splitAtDelimiter_eq_none ht
    · exact not_mem_hidden hd hp h hc
    · have hback : hidden c (p ++ ['\\']) = hidden c p ++ ['\\'] :=
        replacePair_append fun _ => by simpa using hd.symm
      rw [hback, List.mem_append, List.mem_singleton] at hc
      exact hc.elim (not_mem_hidden hd hp fun hs hmem => h hs (List.mem_append_left _ hmem)) hd

/-- What stands behind the pattern is read as the scan finds it: up to the next delimiter if there is one, all of it
otherwise. -/
theorem behindPattern_eq_iff (rest : Text) :
    (((hidden d rest).splitFirst? (· = d)).getD (hidden d rest, [])).map (restored d) id =
        ((splitAtDelimiter d rest).getD (rest, [])).map (unescapeDelimiter d) (hidden d) ↔
      KeepsBehind d rest := by
  cases hsplit : splitAtDelimiter d rest with
  | none =>
    have hnil : hidden d [] = [] := by simp [hidden, replacePair]
    simp only [KeepsBehind, hsplit, Option.getD_none, Prod.map, hnil, id]
    constructor
    · intro h
      exact standIn_not_mem splitFirst?_front (Prod.mk.inj h).1
    · intro h
      rw [(splitFirst?_hidden_eq_none_iff hd hsplit).mpr fun _ => h]
      exact congrArg (·, []) (restored_hidden h)
  | some parts =>
    obtain ⟨replacement, flags⟩ := parts
    obtain ⟨rfl, henclosed⟩ := (splitAtDelimiter_eq_some_iff hd).mp hsplit
    simp only [KeepsBehind, hsplit, Option.getD_some, Prod.map, id]
    constructor
    · intro h
      exact keepsField_of_eq hd henclosed flags (Prod.mk.inj h).1
    · intro h
      rw [splitFirst?_hidden hd henclosed h]
      exact congrArg (·, hidden d flags) (restored_hidden h.1)

theorem readFields_eq_scannedFields_iff (body : Text) :
    readFields d body = scannedFields d body ↔ ScansAlike d body := by
  cases hsplit : splitAtDelimiter d body with
  | none =>
    simp only [ScansAlike, scannedFields, hsplit, Option.map_none, ← splitFirst?_hidden_eq_none_iff hd hsplit]
    cases hcut : (hidden d body).splitFirst? (· = d) <;> simp [readFields, fields, hcut]
  | some parts =>
    obtain ⟨pattern, rest⟩ := parts
    obtain ⟨rfl, henclosed⟩ := (splitAtDelimiter_eq_some_iff hd).mp hsplit
    simp only [ScansAlike, scannedFields, hsplit, Option.map_some]
    have hread (hkeeps : KeepsField pattern) :
        readFields d (pattern ++ d :: rest) = some (unescapeDelimiter d pattern,
          (((hidden d rest).splitFirst? (· = d)).getD (hidden d rest, [])).map (restored d) id) := by
      simp only [readFields, fields, splitFirst?_hidden hd henclosed hkeeps, restored_hidden hkeeps.1]
      rfl
    constructor
    · intro h
      have hkeeps : KeepsField pattern := by
        refine keepsField_of_eq hd henclosed rest ?_
        cases hcut : (hidden d (pattern ++ d :: rest)).splitFirst? (· = d) with
        | none => simp [readFields, fields, hcut] at h
        | some parts =>
          simp only [readFields, fields, hcut, Option.some.injEq, Prod.mk.injEq] at h
          exact h.1
      rw [hread hkeeps] at h
      exact ⟨hkeeps, (behindPattern_eq_iff hd rest).mp (Prod.mk.inj (Option.some.inj h)).2⟩
    · rintro ⟨hkeeps, hbehind⟩
      rw [hread hkeeps, (behindPattern_eq_iff hd rest).mpr hbehind]

end fields

/-- Flags fail by a letter that is none. -/
theorem exists_of_read_eq_error {t : Text} {failure : Failure} (h : SubstituteFlags.read t = .error failure) :
    ∃ c, failure = .malformed (.unsupportedSubstituteFlag c) := by
  have hadd : ∀ (letters : Text) (flags : SubstituteFlags), flags.add letters = .error failure →
      ∃ c, failure = .malformed (.unsupportedSubstituteFlag c) := by
    intro letters
    induction letters with
    | nil => exact fun _ h => nomatch h
    | cons c letters ih =>
      intro flags h
      rw [SubstituteFlags.add] at h
      split_ifs at h
      · exact ih _ h
      · exact ih _ h
      · exact ih _ h
      · cases h
        exact ⟨c, rfl⟩
  exact hadd _ _ h

/-- Fields that are there are not reported missing, and the pattern is kept as it is, which is not empty. -/
theorem ofFields_some {d : Char} {previous : Option Text} {pattern replacement flags : Text} :
    ofFields d previous (some (pattern, replacement, flags)) ≠ .error (.malformed (.missingDelimiter d)) ∧
      ∀ s, ofFields d previous (some (pattern, replacement, flags)) = .ok s → s.pattern = pattern ∧ pattern ≠ [] := by
  cases hflags : SubstituteFlags.read flags with
  | error failure =>
    obtain ⟨c, rfl⟩ := exists_of_read_eq_error hflags
    constructor
    · simp [ofFields, hflags, bind, Except.bind]
    · simp [ofFields, hflags, bind, Except.bind]
  | ok read =>
    by_cases hempty : pattern = []
    · simp [ofFields, hflags, hempty, bind, Except.bind, throw, throwThe, MonadExceptOf.throw]
    · by_cases htilde : replacement = ['~']
      · cases previous with
        | none => simp [ofFields, hflags, hempty, htilde, bind, Except.bind, throw, throwThe, MonadExceptOf.throw]
        | some text => simp [ofFields, hflags, hempty, htilde, bind, Except.bind, pure, Except.pure]
      · simp [ofFields, hflags, hempty, htilde, bind, Except.bind, pure, Except.pure]

theorem ne_backslash_of_isDelimiter {d : Char} (hd : isDelimiter d) : d ≠ '\\' := by
  rintro rfl
  exact absurd hd (by decide)

section parse
variable {d : Char} (hd : isDelimiter d)
include hd

theorem parse_eq_missingDelimiter_iff (body : Text) (previous : Option Text) :
    parse (d :: body) previous = .error (.malformed (.missingDelimiter d)) ↔ readFields d body = none := by
  rw [parse_eq_ofFields hd]
  cases hread : readFields d body with
  | none => simp [ofFields]
  | some parts =>
    obtain ⟨pattern, replacement, flags⟩ := parts
    simpa using ofFields_some.1

/-- What delimits a substitution also delimits the pattern of a global command, which is that of a search as well. -/
theorem readGlobal_eq_ok (ed : Editor) {p tail : Text} (hp : Enclosed d p) (hne : unescapeDelimiter d p ≠ []) :
    ∃ command, Editor.readGlobal ed (d :: (p ++ d :: tail)) = .ok ⟨unescapeDelimiter d p, command⟩ := by
  have hguard : (Unicode.isAlphanumeric d || decide (d = '\\')) = false := by
    simp only [isDelimiter, Bool.and_eq_true, Bool.not_eq_true', decide_eq_true_eq] at hd
    simp [hd.1.1, hd.2]
  have hsplit : splitAtDelimiter d (p ++ d :: tail) = some (p, tail) :=
    (splitAtDelimiter_eq_some_iff (ne_backslash_of_isDelimiter hd)).mpr ⟨rfl, hp⟩
  simp only [Editor.readGlobal, hguard, hsplit, Option.getD_some, searchPattern, hne, if_false]
  exact ⟨_, rfl⟩

end parse

/-- A search that finds a line looked for the pattern between its delimiters, which is remembered. -/
theorem search_remembers {d : Char} (hd : d ≠ '\\') {p tail : Text} (hp : Enclosed d p)
    (hne : unescapeDelimiter d p ≠ []) {f : Frame} {rule : SearchRule} (hrule : rule.remember)
    {last : Option Text} {start : Text} {line : Int}
    (h : (search f rule last start d (p ++ d :: tail)).1 = .ok line) :
    (search f rule last start d (p ++ d :: tail)).2 = some (unescapeDelimiter d p) := by
  have hsplit : splitAtDelimiter d (p ++ d :: tail) = some (p, tail) := (splitAtDelimiter_eq_some_iff hd).mpr ⟨rfl, hp⟩
  have hpattern : searchPattern last (unescapeDelimiter d p) = .ok (unescapeDelimiter d p) := if_neg hne
  revert h
  simp only [search, hsplit, Option.getD_some, hpattern]
  cases searchOrigin f start with
  | error failure => exact nofun
  | ok origin =>
    cases readOffset tail with
    | error failure => exact nofun
    | ok offset =>
      simp only [bind, Except.bind, pure, Except.pure]
      cases searchMatcher rule.ignoreCase (unescapeDelimiter d p) with
      | error failure => exact nofun
      | ok m =>
        cases hhit : if d = '?' then searchBackward f rule.wrapScan m origin
          else searchForward f rule.wrapScan m origin with
        | none => simp [hhit]
        | some found => simp [hhit, hrule]

/-- A substitution reads its fields as its cuts find them, and reports a missing delimiter if there is none. They are
those of a scan, in which a backslash takes the next character with it, exactly if no field ends in a backslash or
holds the character that hides delimiters. Its pattern is then that of a global command and of a search. -/
theorem parse_scans_fields_iff {d : Char} (hd : isDelimiter d) (body : Text) :
    (∀ previous, parse (d :: body) previous = ofFields d previous (readFields d body)) ∧
    (∀ previous, parse (d :: body) previous = .error (.malformed (.missingDelimiter d)) ↔ readFields d body = none) ∧
    (readFields d body = scannedFields d body ↔ ScansAlike d body) ∧
    (ScansAlike d body → ∀ p rest, splitAtDelimiter d body = some (p, rest) →
      ∀ previous s, parse (d :: body) previous = .ok s →
        s.pattern = unescapeDelimiter d p ∧
        ∀ tail, (∀ ed, ∃ command, Editor.readGlobal ed (d :: (p ++ d :: tail)) = .ok ⟨s.pattern, command⟩) ∧
          ∀ f rule last start line, rule.remember → (search f rule last start d (p ++ d :: tail)).1 = .ok line →
            (search f rule last start d (p ++ d :: tail)).2 = some s.pattern) := by
  have hne := ne_backslash_of_isDelimiter hd
  refine ⟨parse_eq_ofFields hd body, parse_eq_missingDelimiter_iff hd body,
    readFields_eq_scannedFields_iff hne body, ?_⟩
  intro halike p rest hsplit previous s hparse
  have hp : Enclosed d p := ((splitAtDelimiter_eq_some_iff hne).mp hsplit).2
  have hfields := (readFields_eq_scannedFields_iff hne body).mpr halike
  rw [parse_eq_ofFields hd, hfields, scannedFields, hsplit] at hparse
  obtain ⟨hpattern, hfull⟩ := ofFields_some.2 s hparse
  rw [hpattern]
  refine ⟨rfl, fun tail => ⟨fun ed => readGlobal_eq_ok hd ed hp hfull, ?_⟩⟩
  intro f rule last start line hrule hfound
  exact search_remembers hne hp hfull hrule hfound

/-- An escaped delimiter inside a pattern. -/
theorem parse_scans_fields_iff_slash :
    isDelimiter '/' ∧ ScansAlike '/' "a\\/b/c/gi".toList ∧
      readFields '/' "a\\/b/c/gi".toList = some ("a/b".toList, "c".toList, "gi".toList) :=
  have halike : ScansAlike '/' "a\\/b/c/gi".toList := ⟨⟨by decide, by decide⟩, by decide, by decide⟩
  ⟨by decide, halike, (((parse_scans_fields_iff (by decide) _).2.2.1.mpr halike).trans (by rfl))⟩

/-- An escaped backslash in front of a delimiter: the scan ends the pattern there, the substitution does not. -/
theorem parse_escaped_backslash :
    splitAtDelimiter '/' "a\\\\/b/".toList = some ("a\\\\".toList, "b/".toList) ∧
      parse "/a\\\\/b/".toList none = .ok { pattern := "a\\/b".toList, replacement := [], flags := {} } :=
  ⟨by decide, by rfl⟩

end Substitution
end ExEditor
