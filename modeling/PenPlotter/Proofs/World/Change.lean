import PenPlotter.Platform
import PenPlotter.Proofs.Disk.Files

/-!
# What changing a file does to a world

A change of a file ends in one of three ways (`World.Changes`).  The file is not opened, and
nothing has happened; it is opened and takes a part of what it is given only; or it takes it all.
Once it is open it has lost what is not kept of it, so that a change that is stopped is seen on the
disk as well as one that is done.
-/

namespace PenPlotter

namespace World

variable {w : World} {path : Text} {p : Place} {bytes : List UInt8} {fault : SystemFault}
  {kept : List UInt8 → List UInt8}

/-! ## 1. Files -/

theorem readFile_eq_ok_iff :
    w.readFile path = .ok bytes ↔ ∃ p, w.disk.fileToRead w.directory path = .ok p ∧
      w.refusals.reading p = none ∧ w.disk.contentAt p = bytes := by
  rw [readFile]
  cases w.disk.fileToRead w.directory path with
  | error fault => simp [Except.bind]
  | ok p =>
    simp only [Except.bind]
    cases hreading : w.refusals.reading p <;> grind

/-- What is read of a file is its content. -/
theorem read_of_readFile (h : w.readFile path = .ok bytes) :
    w.disk.read w.directory path = .ok bytes := by
  obtain ⟨p, hfile, -, hcontent⟩ := readFile_eq_ok_iff.mp h
  rw [Disk.read, hfile]
  exact congrArg Except.ok hcontent

/-- Where nobody refuses to read it, the content of a file is read. -/
theorem readFile_of_read
    (hreading : ∀ p, w.disk.place w.directory path = .ok p → w.refusals.reading p = none)
    (h : w.disk.read w.directory path = .ok bytes) : w.readFile path = .ok bytes := by
  rw [Disk.read] at h
  cases hfile : w.disk.fileToRead w.directory path with
  | error fault =>
    rw [hfile] at h
    cases h
  | ok p =>
    rw [hfile] at h
    exact readFile_eq_ok_iff.mpr ⟨p, hfile, hreading p (Disk.fileToRead_eq_ok_iff.mp hfile).2.1,
      Except.ok.inj h⟩

theorem openFile_eq_ok_iff :
    w.openFile path = .ok p ↔
      w.disk.fileToChange w.directory path = .ok p ∧ w.refusals.opening p = none := by
  rw [openFile]
  cases w.disk.fileToChange w.directory path with
  | error fault => simp [Except.bind]
  | ok q =>
    simp only [Except.bind]
    cases hopening : w.refusals.opening q <;> grind

theorem takesFile_of_openFile (h : w.openFile path = .ok p) : w.disk.TakesFile p :=
  (Disk.fileToChange_eq_ok_iff.mp (openFile_eq_ok_iff.mp h).1).2.2

/-- A file that has been changed is opened again. -/
theorem openFile_of_isFileChange {disk : Disk} (hchange : w.disk.IsFileChange disk p bytes)
    (h : w.openFile path = .ok p) : ({ w with disk } : World).openFile path = .ok p := by
  obtain ⟨hfile, hopening⟩ := openFile_eq_ok_iff.mp h
  obtain ⟨hslash, hplace, htakes⟩ := Disk.fileToChange_eq_ok_iff.mp hfile
  exact openFile_eq_ok_iff.mpr ⟨Disk.fileToChange_eq_ok_iff.mpr
    ⟨hslash, hchange.place_eq htakes hplace, Disk.takesFile_of_node? hchange.written⟩, hopening⟩

theorem place_of_openFile (h : w.openFile path = .ok p) :
    w.disk.place w.directory path = .ok p :=
  (Disk.fileToChange_eq_ok_iff.mp (openFile_eq_ok_iff.mp h).1).2.1

/-! ## 2. Changes -/

/-- Whether the file at a place takes all the bytes that it is given. -/
def Takes (w : World) (p : Place) (bytes : List UInt8) : Prop :=
  ∀ n fault, w.refusals.writing p = some (n, fault) → bytes.length ≤ n

theorem Takes.of_length_le {more : List UInt8} (h : w.Takes p more)
    (hlength : bytes.length ≤ more.length) : w.Takes p bytes := fun n fault hlimit =>
  Nat.le_trans hlength (h n fault hlimit)

theorem takes_of_writing (h : w.refusals.writing p = none) (bytes : List UInt8) :
    w.Takes p bytes := fun n fault hlimit => by
  rw [h] at hlimit
  cases hlimit

theorem Takes.taken_eq (h : w.Takes p bytes) : w.taken p bytes = (bytes, none) := by
  rw [taken]
  cases hlimit : w.refusals.writing p with
  | none => rfl
  | some limit => exact if_neg (Nat.not_lt.mpr (h _ _ hlimit))

theorem taken_of_lt {n : Nat} (hlimit : w.refusals.writing p = some (n, fault))
    (hn : n < bytes.length) : w.taken p bytes = (bytes.take n, some fault) := by
  rw [taken, hlimit]
  exact if_pos hn

/-- A file takes all the bytes, or there is a limit that stops the change. -/
theorem takes_or_lt (w : World) (p : Place) (bytes : List UInt8) :
    w.Takes p bytes ∨
      ∃ n fault, w.refusals.writing p = some (n, fault) ∧ n < bytes.length := by
  cases hlimit : w.refusals.writing p with
  | none => exact .inl (takes_of_writing hlimit bytes)
  | some limit =>
    by_cases hn : limit.1 < bytes.length
    · exact .inr ⟨_, _, rfl, hn⟩
    · refine .inl fun n fault h => ?_
      rw [hlimit] at h
      obtain rfl := Option.some.inj h
      exact Nat.not_lt.mp hn

/-- A file that is opened and takes all that it is given is changed. -/
theorem change_of_takes (hopen : w.openFile path = .ok p) (htakes : w.Takes p bytes) :
    change kept path bytes w =
      (.ok (), { w with disk := w.disk.put p (.file (kept (w.disk.contentAt p) ++ bytes)) }) := by
  simp only [change, hopen, htakes.taken_eq]
  rfl

/-- How a change of a file ends: the result, and the disk that it leaves. -/
inductive Changes (w : World) (kept : List UInt8 → List UInt8) (path : Text)
    (bytes : List UInt8) : Except SystemFault Unit → Disk → Prop
  | refused {fault : SystemFault} (h : w.openFile path = .error fault) :
      Changes w kept path bytes (.error fault) w.disk
  | stopped {p : Place} {n : Nat} {fault : SystemFault} (hopen : w.openFile path = .ok p)
      (hlimit : w.refusals.writing p = some (n, fault)) (hn : n < bytes.length) :
      Changes w kept path bytes (.error fault)
        (w.disk.put p (.file (kept (w.disk.contentAt p) ++ bytes.take n)))
  | done {p : Place} (hopen : w.openFile path = .ok p) (htakes : w.Takes p bytes) :
      Changes w kept path bytes (.ok ())
        (w.disk.put p (.file (kept (w.disk.contentAt p) ++ bytes)))

/-- **A change ends in one of these ways, and nothing but the disk differs.** -/
theorem exists_changes (w : World) (kept : List UInt8 → List UInt8) (path : Text)
    (bytes : List UInt8) : ∃ r disk, w.Changes kept path bytes r disk ∧
      change kept path bytes w = (r, { w with disk }) := by
  cases hopen : w.openFile path with
  | error fault => exact ⟨_, _, .refused hopen, by rw [change, hopen]⟩
  | ok p =>
    rcases takes_or_lt w p bytes with htakes | ⟨n, fault, hlimit, hn⟩
    · exact ⟨_, _, .done hopen htakes, change_of_takes hopen htakes⟩
    · refine ⟨_, _, .stopped hopen hlimit hn, ?_⟩
      simp only [change, hopen, taken_of_lt hlimit hn]
      rfl

namespace Changes

variable {disk : Disk}

/-- A change that is done is that of one file, which holds all the bytes. -/
theorem of_ok (h : w.Changes kept path bytes (.ok ()) disk) :
    ∃ p, w.openFile path = .ok p ∧ w.Takes p bytes ∧
      w.disk.IsFileChange disk p (kept (w.disk.contentAt p) ++ bytes) := by
  cases h with
  | done hopen htakes =>
    exact ⟨_, hopen, htakes, Disk.isFileChange_put (takesFile_of_openFile hopen) _⟩

/-- A change that fails is none, or that of one file, which holds a beginning of the bytes. -/
theorem of_error (h : w.Changes kept path bytes (.error fault) disk) :
    w.openFile path = .error fault ∧ disk = w.disk ∨ ∃ p n fault, w.openFile path = .ok p ∧
      w.refusals.writing p = some (n, fault) ∧ n < bytes.length ∧
        w.disk.IsFileChange disk p (kept (w.disk.contentAt p) ++ bytes.take n) := by
  cases h with
  | refused h => exact .inl ⟨h, rfl⟩
  | stopped hopen hlimit hn =>
    exact .inr ⟨_, _, _, hopen, hlimit, hn,
      Disk.isFileChange_put (takesFile_of_openFile hopen) _⟩

end Changes

/-- **A file that has been written is read as it was written**, if nobody refuses to read it. -/
theorem readFile_of_write {after : World}
    (h : platform.write path bytes w = (.ok (), after))
    (hreading : ∀ p, w.disk.place w.directory path = .ok p → w.refusals.reading p = none) :
    after.readFile path = .ok bytes := by
  obtain ⟨r, disk, hchanges, hchange⟩ := w.exists_changes (fun _ => []) path bytes
  obtain ⟨rfl, rfl⟩ := Prod.mk.inj (hchange.symm.trans h)
  obtain ⟨p, hopen, -, hfile⟩ := hchanges.of_ok
  obtain ⟨hslash, hplace, htakes⟩ := Disk.fileToChange_eq_ok_iff.mp (openFile_eq_ok_iff.mp hopen).1
  refine readFile_of_read (fun q hq => ?_) (hfile.read_self htakes hslash hplace)
  have hsame := hfile.place_eq htakes hplace
  obtain rfl := Except.ok.inj (hq.symm.trans hsame)
  exact hreading q hplace

end World

end PenPlotter
