import PenPlotter.Disk

/-!
# What writing a file does to a disk

A path is walked name by name, and only from directories (`Disk.walk_name_eq_ok_iff`); where a link
stands it goes on from the place that the link leads to.  A file is put only where a file is or
where nothing is (`Disk.TakesFile`), and it is the only thing on the disk that differs
(`Disk.isFileChange_put`).  So every path that led somewhere leads to the same place afterwards
(`Disk.IsFileChange.place_eq`), what has been put can be read (`Disk.IsFileChange.read_self`), and
what is read anywhere else is what was read before (`Disk.IsFileChange.read_of_ne`).
-/

namespace PenPlotter

namespace Disk

variable {d d' : Disk} {p q directory : Place} {n : Node} {path : Text} {bytes more : List UInt8}

/-! ## 1. What stands where -/

theorem lookup_map_put (entries : List (Place × Node)) :
    (entries.map fun entry => if entry.1 = p then (p, n) else entry).lookup q =
      if q = p then (entries.lookup q).map fun _ => n else entries.lookup q := by
  induction entries with
  | nil => simp
  | cons entry rest ih =>
    obtain ⟨r, m⟩ := entry
    rw [List.map_cons, List.lookup_cons, List.lookup_cons, ih]
    by_cases hr : r = p
    · subst hr
      by_cases hq : q = r
      · simp [hq]
      · have hne : (q == r) = false := by simpa using hq
        simp [hq, hne]
    · by_cases hq : q = p
      · have hne : (p == r) = false := by simpa using Ne.symm hr
        simp [hq, hr, hne]
      · simp [hq, hr]

/-- A disk holds what has been put at a place, other than the root. -/
theorem node?_put_self (hp : p ≠ []) : (d.put p n).node? p = some n := by
  rw [node?, if_neg hp, put]
  split
  · rename_i h
    obtain ⟨m, hm⟩ := Option.isSome_iff_exists.mp h
    rw [lookup_map_put, if_pos rfl, hm]
    rfl
  · rename_i h
    rw [List.lookup_append, Option.not_isSome_iff_eq_none.mp h]
    simp

/-- Whatever is put at a place, the others keep what they hold. -/
theorem node?_put_of_ne (hq : q ≠ p) : (d.put p n).node? q = d.node? q := by
  have hne : (q == p) = false := by simpa using hq
  rw [node?, node?, put]
  split
  · rfl
  · split
    · rw [lookup_map_put, if_neg hq]
    · rw [List.lookup_append]
      simp [List.lookup_cons, hne]

/-- Whether a file is at a place, or nothing. -/
def TakesFile (d : Disk) (p : Place) : Prop :=
  ∀ n, d.node? p = some n → ∃ content, n = .file content

theorem TakesFile.ne_directory (h : d.TakesFile p) : d.node? p ≠ some .directory := fun hnode =>
  (h _ hnode).elim fun _ hn => Node.noConfusion hn

theorem TakesFile.ne_link (h : d.TakesFile p) : d.node? p ≠ some (.link q) := fun hnode =>
  (h _ hnode).elim fun _ hn => Node.noConfusion hn

/-- The root is a directory, so that no file stands there. -/
theorem TakesFile.ne_root (h : d.TakesFile p) : p ≠ [] := by
  rintro rfl
  exact h.ne_directory rfl

theorem takesFile_of_node? (h : d.node? p = some (.file bytes)) : d.TakesFile p := fun _ hn =>
  ⟨bytes, Option.some.inj (hn.symm.trans h)⟩

/-- Whether two disks differ in nothing but a file, which holds the given bytes on the second. -/
structure IsFileChange (d d' : Disk) (p : Place) (content : List UInt8) : Prop where
  written : d'.node? p = some (.file content)
  others : ∀ q, q ≠ p → d'.node? q = d.node? q

/-- **A file that is put on a disk is all that differs.** -/
theorem isFileChange_put (h : d.TakesFile p) (bytes : List UInt8) :
    IsFileChange d (d.put p (.file bytes)) p bytes :=
  ⟨node?_put_self h.ne_root, fun _ => node?_put_of_ne⟩

/-- Of two changes of a file the later one is seen. -/
theorem IsFileChange.trans {d'' : Disk} (h : IsFileChange d d' p bytes)
    (h' : IsFileChange d' d'' p more) : IsFileChange d d'' p more :=
  ⟨h'.written, fun q hq => (h'.others q hq).trans (h.others q hq)⟩

/-! ## 2. Walking -/

/-- A place is meant by itself if no link stands there; a link leads to something that is no link,
or to a place in a directory where nothing stands. -/
theorem follow_eq_ok_iff :
    d.follow p = .ok q ↔ (∀ r, d.node? p ≠ some (.link r)) ∧ q = p ∨
      d.node? p = some (.link q) ∧ (∀ r, d.node? q ≠ some (.link r)) ∧
        (d.node? q = none → d.node? q.dropLast = some .directory) := by
  rw [follow]
  cases hp : d.node? p with
  | none => simp [eq_comm]
  | some node =>
    cases node with
    | file content => simp [eq_comm]
    | directory => simp [eq_comm]
    | link r =>
      cases hr : d.node? r with
      | none => by_cases hparent : d.node? r.dropLast = some .directory <;> grind
      | some node => cases node <;> grind

/-- Where a file is put, links lead to the same places. -/
theorem IsFileChange.follow_eq {r : Place} (hchange : d.IsFileChange d' p bytes)
    (hp : d.TakesFile p) (h : d.follow r = .ok q) : d'.follow r = .ok q := by
  rw [follow_eq_ok_iff] at h ⊢
  rcases h with ⟨hlink, rfl⟩ | ⟨hlink, hend, hfree⟩
  · refine .inl ⟨fun s hs => ?_, rfl⟩
    by_cases hqp : q = p
    · rw [hqp, hchange.written] at hs
      cases hs
    · rw [hchange.others q hqp] at hs
      exact hlink s hs
  · have hrp : r ≠ p := by
      rintro rfl
      exact hp.ne_link hlink
    refine .inr ⟨by rw [hchange.others r hrp, hlink], ?_⟩
    by_cases hqp : q = p
    · rw [hqp, hchange.written]
      exact ⟨fun s hs => (nomatch hs), fun hnone => nomatch hnone⟩
    · rw [hchange.others q hqp]
      refine ⟨hend, fun hnone => ?_⟩
      have hparent := hfree hnone
      rw [hchange.others q.dropLast fun heq => hp.ne_directory (heq ▸ hparent), hparent]

theorem walk_cons (d : Disk) (p : Place) (name : Text) (rest : List Text) :
    d.walk p (name :: rest) = (d.walk p [name]).bind fun q => d.walk q rest := by
  simp only [walk]
  cases d.node? p with
  | none => rfl
  | some node =>
    cases node with
    | file content => rfl
    | link q => rfl
    | directory =>
      simp only
      split
      · rfl
      · split
        · rfl
        · split
          · rfl
          · cases d.follow (p ++ [name]) <;> rfl

theorem walk_append (d : Disk) (p : Place) (first second : List Text) :
    d.walk p (first ++ second) = (d.walk p first).bind fun q => d.walk q second := by
  induction first generalizing p with
  | nil => rfl
  | cons name rest ih =>
    rw [List.cons_append, walk_cons, walk_cons d p name rest]
    cases d.walk p [name] with
    | error fault => rfl
    | ok q => exact ih q

/-- A name leads on from a directory only: to the same place, up, or down, where a link leads to
another place. -/
theorem walk_name_eq_ok_iff {name : Text} :
    d.walk p [name] = .ok q ↔ d.node? p = some .directory ∧
      (name = ['.'] ∧ q = p ∨ name = ['.', '.'] ∧ q = p.dropLast ∨
        (name ≠ ['.'] ∧ name ≠ ['.', '.'] ∧ Text.byteLength name ≤ longestName) ∧
          d.follow (p ++ [name]) = .ok q) := by
  simp only [walk]
  cases d.node? p with
  | none => simp
  | some node =>
    cases node with
    | file content => simp
    | link q => simp
    | directory => cases d.follow (p ++ [name]) <;> grind

/-- A walk goes on from directories only, so that it leads to the same place if none of them is
replaced. -/
theorem IsFileChange.walk_eq {names : List Text} {start stop : Place}
    (hchange : d.IsFileChange d' p bytes) (hp : d.TakesFile p)
    (h : d.walk start names = .ok stop) : d'.walk start names = .ok stop := by
  induction names generalizing start with
  | nil => exact h
  | cons name rest ih =>
    rw [walk_cons] at h ⊢
    cases hname : d.walk start [name] with
    | error fault => rw [hname] at h; cases h
    | ok next =>
      rw [hname] at h
      obtain ⟨hdirectory, hway⟩ := walk_name_eq_ok_iff.mp hname
      have hne : start ≠ p := by
        rintro rfl
        exact hp.ne_directory hdirectory
      have hsame : d'.walk start [name] = .ok next :=
        walk_name_eq_ok_iff.mpr ⟨by rw [hchange.others start hne, hdirectory],
          hway.imp_right fun hway => hway.imp_right fun hdown =>
            ⟨hdown.1, hchange.follow_eq hp hdown.2⟩⟩
      rw [hsame]
      exact ih h

theorem place_eq_ok_iff :
    d.place directory path = .ok q ↔ path ≠ [] ∧ Text.byteLength path ≤ longestPath ∧
      d.walk (origin directory path) (names path) = .ok q := by
  rw [place, placeOf]
  by_cases hempty : path = []
  · simp [hempty]
  · by_cases hlong : longestPath < Text.byteLength path
    · simp [hempty, hlong, Nat.not_le.mpr hlong]
    · simp [hempty, hlong, Nat.not_lt.mp hlong]

/-- A path leads to the same place, whatever file is put where a file is or nothing. -/
theorem IsFileChange.place_eq (hchange : d.IsFileChange d' p bytes) (hp : d.TakesFile p)
    (h : d.place directory path = .ok q) : d'.place directory path = .ok q := by
  obtain ⟨hempty, hlong, hwalk⟩ := place_eq_ok_iff.mp h
  exact place_eq_ok_iff.mpr ⟨hempty, hlong, hchange.walk_eq hp hwalk⟩

/-! ## 3. Reading and writing -/

theorem fileToRead_eq_ok_iff :
    d.fileToRead directory path = .ok p ↔ endsInSlash path = false ∧
      d.place directory path = .ok p ∧ ∃ content, d.node? p = some (.file content) := by
  rw [fileToRead]
  cases d.place directory path with
  | error fault => simp [Except.bind]
  | ok q =>
    simp only [Except.bind, Except.ok.injEq]
    cases hnode : d.node? q with
    | none => grind
    | some node =>
      cases node with
      | file content => cases hslash : endsInSlash path <;> grind
      | directory => grind
      | link r => grind

theorem contentAt_of_node? (h : d.node? p = some (.file bytes)) : d.contentAt p = bytes := by
  rw [contentAt, h]

theorem read_eq_ok_iff :
    d.read directory path = .ok bytes ↔ endsInSlash path = false ∧
      ∃ p, d.place directory path = .ok p ∧ d.node? p = some (.file bytes) := by
  rw [read]
  constructor
  · intro h
    cases hfile : d.fileToRead directory path with
    | error fault => rw [hfile] at h; cases h
    | ok p =>
      obtain ⟨hslash, hplace, content, hnode⟩ := fileToRead_eq_ok_iff.mp hfile
      rw [hfile] at h
      obtain rfl : d.contentAt p = bytes := Except.ok.inj h
      exact ⟨hslash, p, hplace, by rw [hnode, contentAt_of_node? hnode]⟩
  · rintro ⟨hslash, p, hplace, hnode⟩
    rw [fileToRead_eq_ok_iff.mpr ⟨hslash, hplace, bytes, hnode⟩]
    exact congrArg Except.ok (contentAt_of_node? hnode)

/-- A path leads to a file if it can be read. -/
theorem isFile_iff :
    d.isFile directory path = true ↔ ∃ bytes, d.read directory path = .ok bytes := by
  rw [isFile, read]
  cases d.fileToRead directory path with
  | error fault => exact iff_of_false Bool.false_ne_true fun ⟨_, h⟩ => nomatch h
  | ok p => exact iff_of_true rfl ⟨_, rfl⟩

theorem fileToChange_eq_ok_iff :
    d.fileToChange directory path = .ok p ↔ endsInSlash path = false ∧
      d.place directory path = .ok p ∧ d.TakesFile p := by
  rw [fileToChange]
  cases hslash : endsInSlash path with
  | true =>
    rw [if_pos rfl]
    cases d.placeOf directory path ((names path).dropLast ++ [['.']]) <;> simp [Except.bind]
  | false =>
    rw [if_neg Bool.false_ne_true]
    cases d.place directory path with
    | error fault => simp [Except.bind]
    | ok q =>
      simp only [Except.bind, Except.ok.injEq, TakesFile]
      cases hnode : d.node? q with
      | none => grind
      | some node => cases node <;> grind

/-- **What has been put at the place that a path leads to can be read.** -/
theorem IsFileChange.read_self (hchange : d.IsFileChange d' p bytes) (hp : d.TakesFile p)
    (hslash : endsInSlash path = false) (hplace : d.place directory path = .ok p) :
    d'.read directory path = .ok bytes :=
  read_eq_ok_iff.mpr ⟨hslash, p, hchange.place_eq hp hplace, hchange.written⟩

/-- **What is read elsewhere is what was read before.** -/
theorem IsFileChange.read_of_ne (hchange : d.IsFileChange d' p bytes) (hp : d.TakesFile p)
    (hplace : d.place directory path ≠ .ok p) (h : d.read directory path = .ok more) :
    d'.read directory path = .ok more := by
  obtain ⟨hslash, q, hq, hnode⟩ := read_eq_ok_iff.mp h
  have hne : q ≠ p := by
    rintro rfl
    exact hplace hq
  exact read_eq_ok_iff.mpr ⟨hslash, q, hchange.place_eq hp hq, by rw [hchange.others q hne, hnode]⟩

/-! ## 4. The names of a place -/

/-- Whether there are no links on a disk. -/
def IsLinkFree (d : Disk) : Prop :=
  ∀ p q, d.node? p ≠ some (.link q)

/-- Without links, a place is meant by itself. -/
theorem IsLinkFree.eq_of_follow (h : d.IsLinkFree) (hfollow : d.follow p = .ok q) : q = p := by
  rcases follow_eq_ok_iff.mp hfollow with ⟨-, heq⟩ | ⟨hlink, -⟩
  · exact heq
  · exact absurd hlink (h p q)

/-- Without links, a walk down leads to the place of its names. -/
theorem walk_down (hlinks : d.IsLinkFree) {names : List Text} {start stop : Place}
    (hnames : ∀ name ∈ names, name ≠ ['.'] ∧ name ≠ ['.', '.'])
    (h : d.walk start names = .ok stop) : stop = start ++ names := by
  induction names generalizing start with
  | nil => rw [List.append_nil, ← Except.ok.inj h]
  | cons name rest ih =>
    obtain ⟨⟨hpoint, hpoints⟩, hrest⟩ := List.forall_mem_cons.mp hnames
    rw [walk_cons] at h
    cases hname : d.walk start [name] with
    | error fault => rw [hname] at h; cases h
    | ok next =>
      rw [hname] at h
      obtain ⟨-, ⟨hstays, -⟩ | ⟨hup, -⟩ | ⟨-, hdown⟩⟩ := walk_name_eq_ok_iff.mp hname
      · exact absurd hstays hpoint
      · exact absurd hup hpoints
      · rw [ih hrest h, hlinks.eq_of_follow hdown, List.append_assoc]
        rfl

/-- Without links, the names of a place that a walk leads to are those walked and those it has
started from. -/
theorem mem_of_walk (hlinks : d.IsLinkFree) {name : Text} {names : List Text}
    {start stop : Place} (h : d.walk start names = .ok stop) (hname : name ∈ stop) :
    name ∈ start ∨ name ∈ names := by
  induction names generalizing start with
  | nil => exact .inl (Except.ok.inj h ▸ hname)
  | cons first rest ih =>
    rw [walk_cons] at h
    cases hfirst : d.walk start [first] with
    | error fault => rw [hfirst] at h; cases h
    | ok next =>
      rw [hfirst] at h
      rcases ih h with hnext | hrest
      · obtain ⟨-, ⟨-, rfl⟩ | ⟨-, rfl⟩ | ⟨-, hdown⟩⟩ := walk_name_eq_ok_iff.mp hfirst
        · exact .inl hnext
        · exact .inl ((List.dropLast_sublist start).subset hnext)
        · rw [hlinks.eq_of_follow hdown] at hnext
          exact (List.mem_append.mp hnext).imp_right fun hname =>
            List.mem_cons.mpr (.inl (List.mem_singleton.mp hname))
      · exact .inr (List.mem_cons_of_mem first hrest)

end Disk

end PenPlotter
