import PenPlotter.Proofs.Disk.Files

/-!
# The last name of a path

A path is its last name with something before it that ends in a slash, if there is anything
(`Disk.beforeName_append_lastName`).  The last name is walked last.  Two paths that differ in it
alone never lead to the same file, unless one of them ends in a link (`Disk.eq_of_place_append`):
from one directory, one name leads down to one place, and the names that stay or go up lead to no
file that a name leads down to.
-/

namespace PenPlotter

namespace Disk

variable {d : Disk} {p directory : Place} {path base name other : Text} {content : List UInt8}

/-! ## 1. A path in two parts -/

/-- What stands behind the last slash of a path. -/
def lastName (path : Text) : Text :=
  (path.reverse.takeWhile (· ≠ '/')).reverse

/-- A path without its last name. -/
def beforeName (path : Text) : Text :=
  path.take (path.length - (lastName path).length)

/-- Whether a name may follow: nothing comes before it, or a slash. -/
def IsBefore (base : Text) : Prop :=
  base = [] ∨ ∃ front, base = front ++ ['/']

/-- Whether no link stands at the last name of a path. -/
def IsDirect (d : Disk) (directory : Place) (path : Text) : Prop :=
  ∀ p, d.walk (origin directory (beforeName path)) (names (beforeName path)) = .ok p →
    ∀ q, d.node? (p ++ [lastName path]) ≠ some (.link q)

/-- Whether a text is a single name. -/
def IsName (name : Text) : Prop :=
  name ≠ [] ∧ '/' ∉ name

theorem beforeName_eq (path : Text) :
    beforeName path = (path.reverse.dropWhile (· ≠ '/')).reverse := by
  have hsplit : (path.reverse.dropWhile (· ≠ '/')).reverse ++ lastName path = path := by
    rw [lastName, ← List.reverse_append, List.takeWhile_append_dropWhile, List.reverse_reverse]
  have hlength := congrArg List.length hsplit
  rw [List.length_append] at hlength
  rw [beforeName, ← hlength, Nat.add_sub_cancel]
  exact (congrArg (List.take _) hsplit.symm).trans List.take_left

theorem beforeName_append_lastName (path : Text) : beforeName path ++ lastName path = path := by
  rw [beforeName_eq, lastName, ← List.reverse_append, List.takeWhile_append_dropWhile,
    List.reverse_reverse]

theorem slash_not_mem_lastName (path : Text) : '/' ∉ lastName path := by
  intro h
  have hall := List.all_eq_true.mp (List.all_takeWhile (p := (· ≠ '/')) (l := path.reverse))
  simpa using hall '/' (List.mem_reverse.mp h)

theorem isBefore_beforeName (path : Text) : IsBefore (beforeName path) := by
  rw [beforeName_eq]
  cases hrest : path.reverse.dropWhile (· ≠ '/') with
  | nil => exact .inl rfl
  | cons c rest =>
    have hc := List.head?_dropWhile_not (· ≠ '/') path.reverse
    rw [hrest] at hc
    obtain rfl : c = '/' := by simpa using hc
    exact .inr ⟨rest.reverse, List.reverse_cons⟩

theorem lastName_append (hbase : IsBefore base) (hname : '/' ∉ name) :
    lastName (base ++ name) = name := by
  have hall : ∀ c ∈ name.reverse, decide (c ≠ '/') = true := fun c hc =>
    decide_eq_true fun h => hname (h ▸ List.mem_reverse.mp hc)
  have hrest : base.reverse.takeWhile (· ≠ '/') = [] := by
    rcases hbase with rfl | ⟨front, rfl⟩
    · rfl
    · rw [List.reverse_append]
      exact List.takeWhile_cons_of_neg (by decide)
  rw [lastName, List.reverse_append, List.takeWhile_append_of_pos hall, hrest, List.append_nil,
    List.reverse_reverse]

theorem beforeName_append (hbase : IsBefore base) (hname : '/' ∉ name) :
    beforeName (base ++ name) = base := by
  have hsplit := beforeName_append_lastName (base ++ name)
  rw [lastName_append hbase hname] at hsplit
  exact List.append_cancel_right hsplit

/-- A path that leads to a file has a last name. -/
theorem isName_lastName (h : d.read directory path = .ok content) : IsName (lastName path) := by
  refine ⟨fun hempty => ?_, slash_not_mem_lastName path⟩
  obtain ⟨hslash, p, hplace, -⟩ := read_eq_ok_iff.mp h
  have hpath : beforeName path = path := by
    have := beforeName_append_lastName path
    rwa [hempty, List.append_nil] at this
  rcases isBefore_beforeName path with hnil | ⟨front, hfront⟩
  · exact (place_eq_ok_iff.mp hplace).1 (hpath ▸ hnil)
  · rw [endsInSlash, ← hpath, hfront, List.getLast?_concat] at hslash
    exact absurd hslash (by decide)

/-! ## 2. Where paths with different last names lead -/

theorem names_append (hbase : IsBefore base) (hname : IsName name) :
    names (base ++ name) = names base ++ [name] := by
  obtain ⟨hne, hslash⟩ := hname
  rcases hbase with rfl | ⟨front, rfl⟩
  · rw [names, names, List.nil_append, List.splitOn_eq_singleton hslash]
    simp [hne]
  · rw [names, names, List.append_assoc, List.singleton_append, List.splitOn_append_cons_self,
      List.splitOn_append_cons_self, List.splitOn_eq_singleton hslash]
    simp [hne]

theorem origin_append (hbase : IsBefore base) (hname : IsName name) :
    origin directory (base ++ name) = origin directory base := by
  rcases hbase with rfl | ⟨front, rfl⟩
  · have hhead : name.head? ≠ some '/' := fun h => hname.2 (List.mem_of_head? h)
    simp [origin, hhead]
  · simp [origin, List.head?_append]

/-- A path leads where its last name leads from the place of the rest. -/
theorem exists_of_place_append (hbase : IsBefore base) (hname : IsName name)
    (h : d.place directory (base ++ name) = .ok p) :
    ∃ q, d.walk (origin directory base) (names base) = .ok q ∧ d.walk q [name] = .ok p := by
  obtain ⟨-, -, hwalk⟩ := place_eq_ok_iff.mp h
  rw [names_append hbase hname, origin_append hbase hname, walk_append] at hwalk
  cases hq : d.walk (origin directory base) (names base) with
  | error fault => rw [hq] at hwalk; cases hwalk
  | ok q =>
    rw [hq] at hwalk
    exact ⟨q, rfl, hwalk⟩

/-- Down from a directory, a name that is no link leads to the place below. -/
theorem eq_of_follow_of_isDirect {q : Place} (hbase : IsBefore base) (hname : '/' ∉ name)
    (hdirect : d.IsDirect directory (base ++ name))
    (hplace : d.walk (origin directory base) (names base) = .ok q)
    (h : d.follow (q ++ [name]) = .ok p) : p = q ++ [name] := by
  rw [IsDirect, beforeName_append hbase hname, lastName_append hbase hname] at hdirect
  rcases follow_eq_ok_iff.mp h with ⟨-, heq⟩ | ⟨hlink, -⟩
  · exact heq
  · exact absurd hlink (hdirect q hplace p)

/-- **Paths that differ in the last name alone lead to different places**, other than directories,
if no link stands at either. -/
theorem eq_of_place_append (hbase : IsBefore base) (hname : IsName name) (hother : IsName other)
    (hdirect : d.IsDirect directory (base ++ name))
    (hdirect' : d.IsDirect directory (base ++ other))
    (hp : d.node? p ≠ some .directory) (h : d.place directory (base ++ name) = .ok p)
    (h' : d.place directory (base ++ other) = .ok p) : name = other := by
  obtain ⟨q, hq, hlast⟩ := exists_of_place_append hbase hname h
  obtain ⟨q', hq', hlast'⟩ := exists_of_place_append hbase hother h'
  obtain rfl : q = q' := Except.ok.inj (hq.symm.trans hq')
  obtain ⟨hdirectory, hway⟩ := walk_name_eq_ok_iff.mp hlast
  obtain ⟨-, hway'⟩ := walk_name_eq_ok_iff.mp hlast'
  have hne : p ≠ q := by
    rintro rfl
    exact hp hdirectory
  have hup (t : Text) : q.dropLast ≠ q ++ [t] := by
    intro heq
    have := congrArg List.length heq
    rw [List.length_dropLast, List.length_append, List.length_singleton] at this
    omega
  -- Each of the two names stays, goes up or leads down; staying leads to the directory itself.
  rcases hway with ⟨-, rfl⟩ | ⟨hdots, rfl⟩ | ⟨-, hdown⟩
  · exact absurd rfl hne
  · rcases hway' with ⟨-, hq⟩ | ⟨hdots', -⟩ | ⟨-, hdown'⟩
    · exact absurd hq hne
    · rw [hdots, hdots']
    · exact absurd (eq_of_follow_of_isDirect hbase hother.2 hdirect' hq' hdown') (hup other)
  · obtain rfl := eq_of_follow_of_isDirect hbase hname.2 hdirect hq hdown
    rcases hway' with ⟨-, hq⟩ | ⟨-, hq⟩ | ⟨-, hdown'⟩
    · exact absurd hq hne
    · exact absurd hq.symm (hup name)
    · exact (List.cons.inj (List.append_cancel_left
        (eq_of_follow_of_isDirect hbase hother.2 hdirect' hq' hdown'))).1

end Disk

end PenPlotter
