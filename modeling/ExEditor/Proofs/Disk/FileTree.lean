import ExEditor.Disk.FileTree

/-! What is found at a canonical path is kept in the tree under the names of this path. So there are no more
canonical paths of files than entries. -/
namespace ExEditor
namespace Path

theorem pieces_append {t : Text} (h : '/' ∉ t) (rest : Text) : pieces (t ++ '/' :: rest) = t :: pieces rest := by
  induction t with
  | nil => rfl
  | cons c t ih =>
    obtain ⟨hc, ht⟩ : ¬ '/' = c ∧ '/' ∉ t := by simpa using h
    simp only [List.cons_append, pieces, ih ht, if_neg (Ne.symm hc)]

theorem pieces_name {t : Text} (h : '/' ∉ t) : pieces t = [t] := by
  induction t with
  | nil => rfl
  | cons c t ih =>
    obtain ⟨hc, ht⟩ : ¬ '/' = c ∧ '/' ∉ t := by simpa using h
    simp only [pieces, ih ht, if_neg (Ne.symm hc)]

theorem pieces_names {names : List Text} (h : ∀ name ∈ names, '/' ∉ name) {t : Text} (ht : '/' ∉ t) :
    pieces (t ++ names.flatMap ('/' :: ·)) = t :: names := by
  induction names generalizing t with
  | nil => simpa using pieces_name ht
  | cons name names ih =>
    rw [List.flatMap_cons, List.cons_append, pieces_append ht,
      ih (fun n hn => h n (List.mem_cons_of_mem _ hn)) (h name List.mem_cons_self)]

theorem not_mem_pieces {t piece : Text} (h : piece ∈ pieces t) : '/' ∉ piece := by
  induction t generalizing piece with
  | nil => simp_all [pieces]
  | cons c t ih =>
    unfold pieces at h
    split at h
    · rcases List.mem_cons.mp h with rfl | h
      · simp
      · exact ih h
    · next hc =>
      split at h
      · simp_all [Ne.symm hc]
      · next first rest hp =>
        rcases List.mem_cons.mp h with rfl | h
        · simpa [Ne.symm hc] using ih (hp ▸ List.mem_cons_self)
        · exact ih (hp ▸ List.mem_cons_of_mem _ h)

end Path

namespace FileTree

/-- A name as entries are kept under it. -/
def IsName (name : Text) : Prop := name ≠ [] ∧ name ≠ ['.'] ∧ name ≠ ['.', '.'] ∧ '/' ∉ name

/-- Names found on the way are names of entries, if those on the way so far are. -/
theorem walk_names {tree : FileTree} {here pieces names : List Text} (h : tree.walk here pieces = .ok names)
    (hhere : ∀ name ∈ here, IsName name) (hpieces : ∀ piece ∈ pieces, '/' ∉ piece) :
    ∀ name ∈ names, IsName name := by
  induction pieces generalizing here with
  | nil =>
    cases h
    exact hhere
  | cons piece rest ih =>
    have hrest : ∀ piece ∈ rest, '/' ∉ piece := fun p hp => hpieces p (List.mem_cons_of_mem _ hp)
    unfold walk at h
    split at h
    · split at h
      · exact ih h hhere hrest
      · next hstay =>
        split at h
        · exact ih h (fun name hname => hhere name (List.dropLast_subset here hname)) hrest
        · next hup =>
          split at h
          · cases h
          · refine ih h (fun name hname => ?_) hrest
            rcases List.mem_append.mp hname with hname | hname
            · exact hhere name hname
            · cases List.mem_singleton.mp hname
              have hslash := hpieces piece List.mem_cons_self
              simp only [Bool.or_eq_true, decide_eq_true_eq, not_or] at hstay
              exact ⟨hstay.1, hstay.2, hup, hslash⟩
    · cases h
    · cases h

/-- Names of entries are followed as they are. -/
theorem walk_of_names {tree : FileTree} {here rest names : List Text} (h : tree.walk here rest = .ok names)
    (hrest : ∀ name ∈ rest, IsName name) : names = here ++ rest := by
  induction rest generalizing here with
  | nil =>
    cases h
    exact (List.append_nil _).symm
  | cons piece rest ih =>
    obtain ⟨hempty, hdot, hup, -⟩ := hrest piece List.mem_cons_self
    unfold walk at h
    split at h
    · simp only [hempty, hdot, hup, decide_false, Bool.or_self, Bool.false_eq_true, ↓reduceIte] at h
      split at h
      · cases h
      · rw [ih h fun name hname => hrest name (List.mem_cons_of_mem _ hname)]
        simp
    · cases h
    · cases h

theorem namesOf_names {tree : FileTree} {path : Text} {names : List Text} (h : tree.namesOf path = .ok names) :
    ∀ name ∈ names, IsName name := by
  unfold namesOf at h
  split at h
  · cases h
  · exact walk_names h (by simp) fun piece => Path.not_mem_pieces

theorem walk_blank {tree : FileTree} {here rest names : List Text} (h : tree.walk here ([] :: rest) = .ok names) :
    tree.walk here rest = .ok names := by
  unfold walk at h
  split at h
  · exact h
  · cases h
  · cases h

/-- The path of some names leads to these names. -/
theorem namesOf_ofNames {tree : FileTree} {names names' : List Text} (hnames : ∀ name ∈ names, IsName name)
    (h : tree.namesOf (Path.ofNames names) = .ok names') : names' = names := by
  unfold namesOf at h
  split at h
  · cases h
  · cases names with
    | nil =>
      have hroot : tree.walk [] [[], []] = .ok names' := h
      cases walk_blank (walk_blank hroot)
      rfl
    | cons name rest =>
      have hpieces := Path.pieces_names (fun n hn => (hnames n hn).2.2.2) (t := []) List.not_mem_nil
      have hwalk : tree.walk [] (Path.pieces ([] ++ (name :: rest).flatMap ('/' :: ·))) = .ok names' := h
      rw [hpieces] at hwalk
      exact walk_of_names (walk_blank hwalk) hnames

theorem mem_of_find? {tree : FileTree} {names : List Text} {content : Content}
    (h : tree.find? names = some (.file content)) : names ∈ tree.entries.map Prod.fst := by
  unfold find? at h
  split at h
  · next hlookup =>
    obtain ⟨before, after, hentries, -⟩ := List.lookup_eq_some_iff.mp hlookup
    simp [hentries]
  · split at h <;> cases h

/-- A file that is read is found under the names on the way to its path. -/
theorem readText_ok {tree : FileTree} {path t : Text} (h : tree.readText path = .ok t) :
    ∃ names, tree.namesOf path = .ok names ∧ tree.find? names = some (.file (.text t)) := by
  unfold readText at? at h
  rcases hn : tree.namesOf path with fault | names <;> rw [hn] at h
  · cases h
  · refine ⟨names, rfl, ?_⟩
    dsimp only [bind, Except.bind, pure, Except.pure, throw, throwThe, MonadExceptOf.throw] at h
    generalize tree.find? names = found at h ⊢
    rcases found with _ | _ | t' | bytes <;> cases h
    rfl

/-- What is read at a canonical path is an entry. -/
theorem canonical_mem {tree : FileTree} {path t : Text} (h : tree.readText (tree.canonical path) = .ok t) :
    tree.canonical path ∈ tree.entries.map fun e => Path.ofNames e.1 := by
  obtain ⟨found, hfound, hfile⟩ := readText_ok h
  suffices hpath : tree.canonical path = Path.ofNames found by
    obtain ⟨entry, hentry, rfl⟩ := List.mem_map.mp (mem_of_find? hfile)
    exact List.mem_map.mpr ⟨entry, hentry, hpath.symm⟩
  unfold canonical at hfound ⊢
  split at hfound
  · next names hnames =>
    split at hfound
    · next hthere =>
      rw [if_pos hthere, namesOf_ofNames (namesOf_names hnames) hfound]
    · next hthere =>
      rw [hnames] at hfound
      cases hfound
      exact absurd (by rw [hfile]; rfl) hthere
  · next hfault =>
    rw [hfault] at hfound
    cases hfound

end FileTree

/-! What is written into a file is read back from it. A file that could be written once can be written again:
the directories on the way to it are made by then, and the file takes the place of none of them. -/

namespace FileTree

variable {tree tree' : FileTree} {names : List Text}

/-- One name is looked up anew, all others as before. -/
theorem lookup_put (tree : FileTree) (names other : List Text) (entry : Entry) :
    (tree.put names entry).entries.lookup other =
      if other = names then some entry else tree.entries.lookup other := by
  change (tree.entries.filter (fun e => e.1 ≠ names) ++ [(names, entry)]).lookup other = _
  induction tree.entries with
  | nil =>
    rw [List.filter_nil, List.nil_append, List.lookup_cons, List.lookup_nil]
    by_cases h : other = names
    · rw [if_pos h, beq_iff_eq.mpr h]
    · rw [if_neg h, beq_eq_false_iff_ne.mpr h]
  | cons e entries ih =>
    obtain ⟨found, kept⟩ := e
    by_cases hfound : found = names
    · rw [List.filter_cons_of_neg (by simpa using hfound), ih, List.lookup_cons]
      by_cases h : other = names
      · rw [if_pos h, if_pos h]
      · rw [if_neg h, if_neg h, beq_eq_false_iff_ne.mpr fun heq => h (heq.trans hfound)]
    · rw [List.filter_cons_of_pos (by simpa using hfound), List.cons_append, List.lookup_cons, List.lookup_cons, ih]
      by_cases h : other = names
      · rw [if_pos h, if_pos h, beq_eq_false_iff_ne.mpr fun heq => hfound (heq.symm.trans h)]
      · rw [if_neg h, if_neg h]

theorem find?_put_self (tree : FileTree) (names : List Text) (entry : Entry) :
    (tree.put names entry).find? names = some entry := by
  unfold find?
  rw [lookup_put, if_pos rfl]

/-- What is found elsewhere stays where it is. -/
theorem find?_put_ne {other : List Text} {found : Entry} (entry : Entry) (hne : other ≠ names)
    (h : tree.find? other = some found) : (tree.put names entry).find? other = some found := by
  unfold find? at h ⊢
  rw [lookup_put, if_neg hne]
  split at h
  · exact h
  · split at h
    · next hinside =>
      have hkept : (tree.put names entry).entries.any (fun e => other.isPrefixOf e.1) ∨ other = [] := by
        rcases Bool.or_eq_true _ _ ▸ hinside with hroot | hany
        · exact .inr (by simpa using hroot)
        · obtain ⟨e, he, hprefix⟩ := List.any_eq_true.mp hany
          refine .inl (List.any_eq_true.mpr ?_)
          by_cases hmoved : e.1 = names
          · exact ⟨(names, entry), List.mem_append_right _ (List.mem_singleton_self _), hmoved ▸ hprefix⟩
          · exact ⟨e, List.mem_append_left _ (List.mem_filter.mpr ⟨he, by simpa using hmoved⟩), hprefix⟩
      rw [if_pos (by simpa [or_comm] using hkept)]
      exact h
    · cases h

/-- A way along directories stays open when something that is no directory is replaced. -/
theorem walk_put {here pieces found : List Text} (entry : Entry) (hnames : tree.find? names ≠ some .directory)
    (h : tree.walk here pieces = .ok found) : (tree.put names entry).walk here pieces = .ok found := by
  induction pieces generalizing here with
  | nil => exact h
  | cons piece rest ih =>
    unfold walk at h
    split at h
    · next hhere =>
      have hne : here ≠ names := fun heq => hnames (heq ▸ hhere)
      unfold walk
      rw [find?_put_ne entry hne hhere]
      dsimp only
      split at h
      · next hstay => rw [if_pos hstay]; exact ih h
      · next hmoves =>
        rw [if_neg hmoves]
        split at h
        · next hup => rw [if_pos hup]; exact ih h
        · next hdown =>
          rw [if_neg hdown]
          split at h
          · cases h
          · next hshort => rw [if_neg hshort]; exact ih h
    · cases h
    · cases h

/-- Where a file can be written: its directory is there, and it is none itself. -/
structure Writable (tree : FileTree) (path : Text) (names : List Text) : Prop where
  found : tree.namesOf path = .ok names
  directory : tree.find? names.dropLast = some .directory
  noDirectory : tree.find? names ≠ some .directory

theorem writable_of_write {path : Text} {content : Content} (h : tree.write path content = .ok tree') :
    ∃ names, tree.Writable path names ∧ tree' = tree.put names (.file content) := by
  unfold write at h
  rcases hn : tree.namesOf path with fault | names <;> rw [hn] at h
  · cases h
  · dsimp only [bind, Except.bind, pure, Except.pure, throw, throwThe, MonadExceptOf.throw] at h
    split at h
    · cases h
    · next hdirectory hnames =>
      cases h
      exact ⟨names, ⟨hn, hdirectory, hnames⟩, rfl⟩
    · cases h
    · cases h

namespace Writable
variable {path : Text}

theorem write (h : tree.Writable path names) (content : Content) :
    tree.write path content = .ok (tree.put names (.file content)) := by
  unfold FileTree.write
  rw [h.found]
  dsimp only [bind, Except.bind, pure, Except.pure]
  rw [h.directory]
  split
  · next hthere => exact absurd hthere h.noDirectory
  · rfl
  · next hnone => cases hnone
  · next hnone => cases hnone

theorem namesOf_put (h : tree.Writable path names) (entry : Entry) :
    (tree.put names entry).namesOf path = .ok names := by
  have hfound := h.found
  unfold namesOf at hfound ⊢
  split at hfound
  · cases hfound
  · exact walk_put entry h.noDirectory hfound

/-- A file that has been written can be written again. -/
theorem put (h : tree.Writable path names) (content : Content) :
    (tree.put names (.file content)).Writable path names where
  found := h.namesOf_put _
  directory := find?_put_ne _ (fun heq => h.noDirectory (heq ▸ h.directory)) h.directory
  noDirectory := by
    rw [find?_put_self]
    exact nofun

theorem at?_put (h : tree.Writable path names) (content : Content) :
    (tree.put names (.file content)).at? path = .ok (.file content) := by
  unfold at?
  rw [h.namesOf_put]
  dsimp only [bind, Except.bind]
  rw [find?_put_self]
  rfl

theorem has_put (h : tree.Writable path names) (content : Content) :
    (tree.put names (.file content)).has path = true := by
  unfold has
  rw [h.at?_put]
  rfl

/-- A text that has been written is read back. -/
theorem readText_put (h : tree.Writable path names) (t : Text) :
    (tree.put names (.file (.text t))).readText path = .ok t := by
  unfold readText
  rw [h.at?_put]
  rfl

end Writable

/-- Directories stay while others are made. -/
theorem makeAlong_keeps {here pieces other : List Text} {made : Except FileFault Unit}
    (h : tree.makeAlong here pieces = (made, tree')) (hother : tree.find? other = some .directory) :
    tree'.find? other = some .directory := by
  induction pieces generalizing tree here with
  | nil =>
    cases h
    exact hother
  | cons piece rest ih =>
    unfold makeAlong at h
    split at h
    · exact ih h hother
    · split at h
      · exact ih h hother
      · split at h
        · cases h
          exact hother
        · split at h
          · exact ih h hother
          · cases h
            exact hother
          · refine ih h ?_
            by_cases heq : other = here ++ [piece]
            · rw [heq, find?_put_self]
            · exact find?_put_ne _ heq hother

/-- Directories that have been made are not made again, also when a file has taken a place that is none of
theirs. -/
theorem makeAlong_again {here pieces : List Text} {after : FileTree}
    (h : tree.makeAlong here pieces = (.ok (), tree'))
    (hafter : ∀ other, tree'.find? other = some .directory → after.find? other = some .directory) :
    after.makeAlong here pieces = (.ok (), after) := by
  -- Each directory on the way was there or has been made, and making the others keeps it.
  induction pieces generalizing tree here with
  | nil => rfl
  | cons piece rest ih =>
    unfold makeAlong at h ⊢
    split at h
    · next hstay => rw [if_pos hstay]; exact ih h
    · next hmoves =>
      rw [if_neg hmoves]
      split at h
      · next hup => rw [if_pos hup]; exact ih h
      · next hdown =>
        rw [if_neg hdown]
        split at h
        · cases h
        · next hshort =>
          rw [if_neg hshort]
          split at h
          · next hthere =>
            rw [hafter _ (makeAlong_keeps h hthere)]
            exact ih h
          · cases h
          · rw [hafter _ (makeAlong_keeps h (find?_put_self _ _ _))]
            exact ih h

theorem makeAlong_workDir {here pieces : List Text} {made : Except FileFault Unit}
    (h : tree.makeAlong here pieces = (made, tree')) : tree'.workDir = tree.workDir := by
  induction pieces generalizing tree here with
  | nil =>
    cases h
    rfl
  | cons piece rest ih =>
    unfold makeAlong at h
    split at h
    · exact ih h
    · split at h
      · exact ih h
      · split at h
        · cases h
          rfl
        · split at h
          · exact ih h
          · cases h
            rfl
          · exact (ih h).trans rfl

/-- Directories that have been made are still there after a file has been written. -/
theorem makeDirectories_again {directory path : Text} {content : Content}
    (hmade : tree.makeDirectories directory = (.ok (), tree')) (h : tree'.Writable path names) :
    (tree'.put names (.file content)).makeDirectories directory = (.ok (), tree'.put names (.file content)) := by
  unfold makeDirectories at hmade ⊢
  split at hmade
  · cases hmade
  · have hkept : ∀ other, tree'.find? other = some .directory →
        (tree'.put names (.file content)).find? other = some .directory := fun other hother =>
      find?_put_ne _ (fun heq => h.noDirectory (heq ▸ hother)) hother
    have hworkDir : tree'.workDir = tree.workDir := makeAlong_workDir hmade
    change (tree'.put names (.file content)).makeAlong [] (Path.pieces (Path.join tree'.workDir directory)) = _
    rw [hworkDir]
    exact makeAlong_again hmade hkept

end FileTree

/-! What the files of a tree hold, place by place. A path leads to its place by its text alone, where it leads to one
at all, so that the places of two paths can be told apart before anything is written. Writing a file changes what is
held at its own place, making directories changes it nowhere, and moving a file takes what is held along. -/

namespace Path

/-- The names that pieces of a path lead to, if everything on the way is a directory. -/
def along : List Text → List Text → List Text
  | here, [] => here
  | here, piece :: rest =>
    if piece = [] || piece = ['.'] then along here rest
    else if piece = ['.', '.'] then along here.dropLast rest
    else along (here ++ [piece]) rest

theorem along_append (here front rest : List Text) : along here (front ++ rest) = along (along here front) rest := by
  induction front generalizing here with
  | nil => rfl
  | cons piece front ih =>
    rw [List.cons_append, along, along]
    split
    · exact ih here
    · split
      · exact ih _
      · exact ih _

/-- What is written behind a path belongs to its last piece. -/
theorem pieces_extend (p : Text) {suffix : Text} (h : '/' ∉ suffix) :
    ∃ front last, pieces p = front ++ [last] ∧ pieces (p ++ suffix) = front ++ [last ++ suffix] := by
  induction p with
  | nil => exact ⟨[], [], rfl, pieces_name h⟩
  | cons c p ih =>
    obtain ⟨front, last, hp, hextended⟩ := ih
    rw [List.cons_append, pieces, pieces]
    by_cases hc : c = '/'
    · rw [if_pos hc, if_pos hc, hp, hextended]
      exact ⟨[] :: front, last, rfl, rfl⟩
    · rw [if_neg hc, if_neg hc, hp, hextended]
      cases front with
      | nil => exact ⟨[], c :: last, rfl, rfl⟩
      | cons first front => exact ⟨(c :: first) :: front, last, rfl, rfl⟩

theorem isAbsolute_append {p suffix : Text} (h : suffix.head? ≠ some '/') :
    isAbsolute (p ++ suffix) = isAbsolute p := by
  cases p with
  | nil => simpa [isAbsolute] using h
  | cons c p => rfl

theorem join_append {p suffix : Text} (directory : Text) (h : suffix.head? ≠ some '/') :
    join directory (p ++ suffix) = join directory p ++ suffix := by
  unfold join
  rw [isAbsolute_append h]
  split
  · rfl
  · split
    · exact (List.append_assoc _ _ _).symm
    · simp

end Path

namespace FileTree
variable {tree tree' : FileTree} {names : List Text} {path : Text}

/-- The place of a path: the names that it leads to, if everything on the way is there. -/
def placeOf (tree : FileTree) (path : Text) : List Text := Path.along [] (Path.pieces (Path.join tree.workDir path))

theorem walk_along {here pieces : List Text} (h : tree.walk here pieces = .ok names) :
    names = Path.along here pieces := by
  induction pieces generalizing here with
  | nil => exact (Except.ok.inj h).symm
  | cons piece rest ih =>
    unfold walk at h
    unfold Path.along
    split at h
    · split at h
      · next hstay => exact if_pos hstay ▸ ih h
      · next hmoves =>
        rw [if_neg hmoves]
        split at h
        · next hup => exact if_pos hup ▸ ih h
        · next hdown =>
          rw [if_neg hdown]
          split at h
          · cases h
          · exact ih h
    · cases h
    · cases h

/-- A path that leads somewhere leads to its place. -/
theorem namesOf_place (h : tree.namesOf path = .ok names) : names = tree.placeOf path := by
  unfold namesOf at h
  split at h
  · cases h
  · exact walk_along h

theorem placeOf_congr (h : tree'.workDir = tree.workDir) : tree'.placeOf = tree.placeOf := by
  funext path
  rw [placeOf, h]
  rfl

/-- Something written behind a path that is more than dots makes another place of it. -/
theorem placeOf_append_ne {suffix : Text} (hslash : '/' ∉ suffix) {c : Char} (hc : c ∈ suffix) (hdot : c ≠ '.') :
    tree.placeOf (path ++ suffix) ≠ tree.placeOf path := by
  have hhead : suffix.head? ≠ some '/' := fun heq => hslash (List.mem_of_mem_head? heq)
  obtain ⟨front, last, hpath, hextended⟩ := Path.pieces_extend (Path.join tree.workDir path) hslash
  have hname : ∀ dots : Text, (∀ d ∈ dots, d = '.') → last ++ suffix ≠ dots := by
    rintro dots hdots rfl
    exact hdot (hdots c (List.mem_append_right _ hc))
  have hempty := hname [] (by simp)
  have hone := hname ['.'] (by simp)
  have htwo := hname ['.', '.'] (by simp)
  rw [placeOf, placeOf, Path.join_append _ hhead, hpath, hextended, Path.along_append, Path.along_append]
  generalize Path.along [] front = here
  -- The last piece stays, goes up or goes down; with the suffix it goes down by a longer name.
  simp only [Path.along, hempty, hone, htwo, decide_false, Bool.or_self, Bool.false_eq_true, ↓reduceIte]
  split
  · exact fun heq => absurd (congrArg List.length heq) (by simp)
  · split
    · exact fun heq => absurd (congrArg List.length heq) (by simp; omega)
    · intro heq
      obtain rfl : suffix = [] := by simpa using heq
      cases hc

/-- What the file at a place holds, none if there is no file. -/
def held? (tree : FileTree) (names : List Text) : Option Content :=
  match tree.find? names with
  | some (.file content) => some content
  | _ => none

theorem held?_eq_some_iff {content : Content} :
    tree.held? names = some content ↔ tree.entries.lookup names = some (.file content) := by
  unfold held? find?
  rcases tree.entries.lookup names with _ | _ | other
  · dsimp only
    split
    · next hfound =>
      split at hfound <;> cases hfound
    · exact iff_of_false nofun nofun
  · exact iff_of_false nofun nofun
  · simp

theorem held?_congr (h : tree'.entries.lookup names = tree.entries.lookup names) :
    tree'.held? names = tree.held? names :=
  Option.ext fun content => by
    rw [held?_eq_some_iff, held?_eq_some_iff, h]

theorem held?_of_find? {content : Content} (h : tree.find? names = some (.file content)) :
    tree.held? names = some content := by
  rw [held?, h]

/-- A file that is written holds what is written, and all others what they held. -/
theorem held?_put (tree : FileTree) (names other : List Text) (content : Content) :
    (tree.put names (.file content)).held? other = if other = names then some content else tree.held? other := by
  split
  · next heq =>
    rw [heq]
    exact held?_of_find? (tree.find?_put_self names _)
  · next hne => exact held?_congr (by rw [lookup_put, if_neg hne])

/-- A directory in the place of no file changes nothing that is held. -/
theorem held?_put_directory (h : tree.held? names = none) (other : List Text) :
    (tree.put names .directory).held? other = tree.held? other := by
  by_cases heq : other = names
  · rw [heq, h, held?, tree.find?_put_self]
  · exact held?_congr (by rw [lookup_put, if_neg heq])

/-- What is held when the file at a place is taken away. -/
theorem held?_without (tree : FileTree) (names other : List Text) :
    ({ tree with entries := tree.entries.filter (·.1 ≠ names) } : FileTree).held? other =
      if other = names then none else tree.held? other := by
  have hentries : (tree.put names .directory).entries =
      tree.entries.filter (·.1 ≠ names) ++ [(names, .directory)] := rfl
  have hput := tree.lookup_put names other .directory
  rw [hentries, List.lookup_append] at hput
  split
  · next heq =>
    refine Option.eq_none_iff_forall_ne_some.mpr fun content hheld => ?_
    rw [held?_eq_some_iff.mp hheld, if_pos heq] at hput
    cases hput
  · next hne =>
    refine held?_congr ?_
    rwa [if_neg hne, List.lookup_cons, beq_eq_false_iff_ne.mpr hne, List.lookup_nil, Option.or_none] at hput

/-- Making directories changes nothing that is held. -/
theorem makeAlong_held? {here pieces : List Text} {made : Except FileFault Unit}
    (h : tree.makeAlong here pieces = (made, tree')) (other : List Text) : tree'.held? other = tree.held? other := by
  induction pieces generalizing tree here with
  | nil =>
    cases h
    rfl
  | cons piece rest ih =>
    unfold makeAlong at h
    split at h
    · exact ih h
    · split at h
      · exact ih h
      · split at h
        · cases h
          rfl
        · split at h
          · exact ih h
          · cases h
            rfl
          · next hnone => exact (ih h).trans (held?_put_directory (by rw [held?, hnone]) other)

theorem makeDirectories_held? (tree : FileTree) (directory : Text) (other : List Text) :
    (tree.makeDirectories directory).2.held? other = tree.held? other ∧
      (tree.makeDirectories directory).2.workDir = tree.workDir := by
  unfold makeDirectories
  split
  · exact ⟨rfl, rfl⟩
  · exact ⟨makeAlong_held? rfl other, makeAlong_workDir rfl⟩

/-- Writing changes what is held at the place of the path, and only there. -/
theorem write_held? {content : Content} (h : tree.write path content = .ok tree') :
    (∀ other, tree'.held? other = if other = tree.placeOf path then some content else tree.held? other) ∧
      tree'.workDir = tree.workDir := by
  obtain ⟨names, hwritable, rfl⟩ := writable_of_write h
  rw [← namesOf_place hwritable.found]
  exact ⟨fun other => tree.held?_put names other content, rfl⟩

/-- Moving a file takes what it holds to the place of the new path. -/
theorem rename_held? {newPath : Text} (h : tree.rename path newPath = .ok tree') :
    (∃ content, tree.held? (tree.placeOf path) = some content) ∧
      (∀ other, tree'.held? other =
        if other = tree.placeOf newPath then tree.held? (tree.placeOf path)
        else if other = tree.placeOf path then none else tree.held? other) ∧
      tree'.workDir = tree.workDir := by
  unfold rename at h
  rcases hnames : tree.namesOf path with fault | names <;> rw [hnames] at h
  · cases h
  dsimp only [bind, Except.bind] at h
  split at h
  · next content hfound =>
    obtain ⟨hheld, hworkDir⟩ := write_held? h
    have hplace := namesOf_place hnames
    rw [← hplace, held?_of_find? hfound]
    refine ⟨⟨content, rfl⟩, fun other => ?_, hworkDir⟩
    rw [hheld other, held?_without]
    rfl
  · cases h
  · cases h

/-- Where nothing is found no file is held. -/
theorem held?_of_not_has (h : tree.has path = false) (hnames : tree.namesOf path = .ok names) :
    tree.held? (tree.placeOf path) = none := by
  unfold has at? at h
  rw [hnames] at h
  rw [← namesOf_place hnames, held?]
  dsimp only [bind, Except.bind, pure, Except.pure] at h
  rcases hfound : tree.find? names with _ | entry
  · rfl
  · rw [hfound] at h
    cases h

end FileTree
end ExEditor
