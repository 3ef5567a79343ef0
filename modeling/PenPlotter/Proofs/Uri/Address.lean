import PenPlotter.Connection
import PenPlotter.Uri.Path

/-!
# The file that an address opens

The address of a file is its path behind `file://`, and what is opened is the path that the address
is read as.  The two need not be the same.  Who reads addresses keeps a set of characters out of
paths and writes them as percent signs and digits (`AddressReader.Encodes`); which characters these
are is not the program's business.  What has been encoded is not decoded before the file is opened.

So it is seen from the characters of a path whether its address opens it
(`AddressReader.Encodes.opened_eq_self_iff`).  The path with its characters encoded is opened
instead (`AddressReader.Encodes.read_fileAddress`), but for blanks at the end, which belong to no
address.
-/

namespace PenPlotter

namespace Uri

variable {c : Char} {t p : Text} {set : Char → Bool}

theorem encode_of_plain (h : ∀ c ∈ t, set c = false) : encode set t = t := by
  induction t with
  | nil => rfl
  | cons c rest ih =>
    obtain ⟨hc, hrest⟩ := List.forall_mem_cons.mp h
    have hcons : encode set (c :: rest) = [c] ++ encode set rest := by
      rw [encode, List.flatMap_cons, hc]
      rfl
    rw [hcons, ih hrest]
    rfl

/-! ## 1. Paths of files -/

/-- Whether a text is a plain absolute path of a file: printable, with names between single slashes
that neither stay nor go up nor begin with a drive, and without the characters that have a meaning
of their own in an address. -/
structure IsFilePath (p : Text) : Prop where
  absolute : p.head? = some '/'
  printable : ∀ c ∈ p, 0x20 ≤ c.toNat ∧ c.toNat ≤ 0x7E
  literal : ∀ c ∈ p, c ∉ ['%', '?', '#', '\\']
  named : ∀ name ∈ p.tail.splitOn '/', name ≠ [] ∧ name ≠ ['.'] ∧ name ≠ ['.', '.']
  noDrive : (p.tail.splitOn '/').head?.any isDrive = false

theorem IsFilePath.exists_tail (h : IsFilePath p) : ∃ t, p = '/' :: t := by
  cases p with
  | nil => cases h.absolute
  | cons c t => exact ⟨t, congrArg (· :: t) (Option.some.inj h.absolute)⟩

/-- The address of a file. -/
def fileAddress (p : Text) : Text :=
  "file://".toList ++ p

theorem fileAddress_append (p t : Text) : fileAddress (p ++ t) = fileAddress p ++ t :=
  (List.append_assoc "file://".toList p t).symm

end Uri

/-! ## 2. The promise -/

open Uri

/-- Whether a reader of addresses keeps the characters of a set out of the paths of files, and
writes them encoded where they come.  The blank is one of them; at the end of an address it does
not belong to it. -/
structure AddressReader.Encodes (reader : AddressReader) (set : Char → Bool) : Prop where
  blank : set ' ' = true
  absolute {address : Text} {target : Uri} : reader address = .ok target →
    target.scheme = "file".toList → target.path.head? = some '/'
  encoded {address : Text} {target : Uri} : reader address = .ok target →
    target.scheme = "file".toList → ∀ c ∈ target.path, set c = false
  reads {p : Text} : IsFilePath p → p.getLast? ≠ some ' ' →
    reader (fileAddress p) = .ok ⟨"file".toList, encode set p⟩
  trims (address : Text) : reader (address ++ [' ']) = reader address

/-- What an address opens is the path that it is read as, if it is that of a file. -/
theorem Destination.exists_of_device {reader : AddressReader} {address opened : Text}
    (h : Destination.read reader address = .ok (.device opened)) :
    ∃ target, reader address = .ok target ∧ target.scheme = "file".toList ∧
      target.path = opened := by
  rw [Destination.read] at h
  cases hread : reader address with
  | error fault =>
    rw [hread] at h
    cases h
  | ok target =>
    simp only [hread] at h
    split at h
    · split at h
      · split at h <;> cases h
      · cases h
    · split at h
      · rename_i hfile
        cases h
        exact ⟨target, rfl, hfile, rfl⟩
      · cases h

namespace AddressReader.Encodes

variable {reader : AddressReader} {set : Char → Bool} {p opened address : Text}

theorem head?_opened (h : reader.Encodes set)
    (hopened : Destination.read reader address = .ok (.device opened)) :
    opened.head? = some '/' := by
  obtain ⟨target, hread, hfile, rfl⟩ := Destination.exists_of_device hopened
  exact h.absolute hread hfile

/-- What is opened holds no character that is kept out of paths. -/
theorem not_mem_opened (h : reader.Encodes set)
    (hopened : Destination.read reader address = .ok (.device opened)) {c : Char}
    (hc : set c = true) : c ∉ opened := by
  obtain ⟨target, hread, hfile, rfl⟩ := Destination.exists_of_device hopened
  intro hmem
  rw [h.encoded hread hfile c hmem] at hc
  cases hc

/-- Blanks at the end of an address make no difference. -/
theorem trims_replicate (h : reader.Encodes set) (address : Text) (n : Nat) :
    reader (address ++ List.replicate n ' ') = reader address := by
  induction n with
  | zero => rw [List.replicate_zero, List.append_nil]
  | succ n ih => rw [List.replicate_succ', ← List.append_assoc, h.trims, ih]

/-- **The address of a plain path opens the path with its characters encoded**, but for blanks at
its end. -/
theorem read_fileAddress (h : reader.Encodes set) {front : Text} (hpath : IsFilePath front)
    (hlast : front.getLast? ≠ some ' ') (n : Nat) :
    Destination.read reader (fileAddress (front ++ List.replicate n ' ')) =
      .ok (.device (encode set front)) := by
  rw [Destination.read, fileAddress_append, h.trims_replicate, h.reads hpath hlast]
  rfl

/-- **The address of a path opens the path if and only if none of its characters is kept out of
paths.** -/
theorem opened_eq_self_iff (h : reader.Encodes set) (hpath : IsFilePath p)
    (hopened : Destination.read reader (fileAddress p) = .ok (.device opened)) :
    opened = p ↔ ∀ c ∈ p, set c = false := by
  constructor
  · rintro rfl c hc
    exact Bool.eq_false_iff.mpr fun hset => h.not_mem_opened hopened hset hc
  · intro hplain
    have hlast : p.getLast? ≠ some ' ' := fun hlast => by
      have hblank := h.blank
      rw [hplain ' ' (List.mem_of_getLast? hlast)] at hblank
      cases hblank
    have hread := h.read_fileAddress hpath hlast 0
    rw [List.replicate_zero, List.append_nil, encode_of_plain hplain, hopened] at hread
    exact Destination.device.inj (Except.ok.inj hread)

end AddressReader.Encodes

end PenPlotter
