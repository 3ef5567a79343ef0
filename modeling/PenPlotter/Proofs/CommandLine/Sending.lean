import PenPlotter.Proofs.CommandLine.Conversion
import PenPlotter.Proofs.Uri.FilePath
import PenPlotter.Proofs.Wire.Delivery

/-!
# Sending a program to a file

A program that is sent to the address of a file is found in the file that the address opens, and
nowhere else (`sendFile_to_file`).  What was in that file is gone.  Whether it is the file that the
address was made of is a question of the characters of its path: a path with a character that is
kept out of addresses leads elsewhere than the path that is opened (`place_ne_of_opened`), as no
name on the way to the latter holds such a character.  A link may lead from the one to the other
all the same.

Arguments that are not in order, and programs that cannot be read, come to no connection and are
left out here.
-/

namespace PenPlotter

namespace CommandLine

variable {lib : Libraries} {w : World} {args : List Text} {request : SendRequest}
  {program opened : Text} {place : Place}

/-! ## 1. The steps of sending -/

/-- Whether arguments ask for a program to be sent, and it is there. -/
structure Sends (w : World) (args : List Text) (request : SendRequest) (program : Text) : Prop where
  read : SendRequest.read args = .ok request
  held : ∃ bytes, w.readFile request.file = .ok bytes ∧ Bytes.text? bytes = some program

/-- A file takes all bytes of a program. -/
theorem send_to_file (program : Text) : ∃ wire,
    (Wire.fresh none none).send program = (wire, .ok (sentLines program).length) ∧
      wire.written.toList = programBytes program := by
  refine ⟨_, Wire.send_eq rfl, ?_⟩
  simp [Wire.deliver, Wire.fresh]

/-- The world after a file has been opened and emptied. -/
def emptied (w : World) (place : Place) : World :=
  { w with disk := w.disk.put place (.file []) }

theorem isFileChange_emptied (hopen : w.openFile opened = .ok place) :
    w.disk.IsFileChange (emptied w place).disk place [] :=
  Disk.isFileChange_put (World.takesFile_of_openFile hopen) []

/-- Without a file that can be opened there is no connection, and nothing has changed. -/
theorem run_openDevice_error {address : Text} {fault : SystemFault}
    (hdevice : Destination.read lib.addresses address = .ok (.device opened))
    (hopen : w.openFile opened = .error fault) :
    (openDevice lib World.platform address).run w =
      (.error (.unopened address (.system fault)), w) := by
  rw [openDevice, run_bind_ok (run_result_ok _ hdevice)]
  refine run_bind_error ?_
  rw [run_attempt]
  change ((World.change (fun _ => []) opened [] w).1.mapError _,
    (World.change (fun _ => []) opened [] w).2) = _
  rw [World.change, hopen]
  rfl

/-- The file that an address opens is empty at first. -/
theorem run_openDevice_ok {address : Text}
    (hdevice : Destination.read lib.addresses address = .ok (.device opened))
    (hopen : w.openFile opened = .ok place) :
    (openDevice lib World.platform address).run w = (.ok opened, emptied w place) := by
  rw [openDevice, run_bind_ok (run_result_ok _ hdevice)]
  exact run_bind_ok (run_write_ok _ hopen fun n fault _ => Nat.zero_le n)

/-- **What has been sent to a file that was emptied before** is a beginning of the bytes; where
nothing stops it, it is all of them. -/
theorem exists_run_transmit (w : World) (opened t : Text) (delay : Nat) (bytes : List UInt8)
    (hopen : w.openFile opened = .ok place) :
    ∃ (r : Except SystemFault Unit) (disk : Disk) (sent : List UInt8),
      (attempt .unsent (World.platform.transmit opened delay bytes)).run
          (printed (emptied w place) t) =
        (r.mapError .unsent, { printed (emptied w place) t with disk }) ∧
      w.disk.IsFileChange disk place sent ∧ sent <+: bytes ∧ (r = .ok () → sent = bytes) ∧
      (w.refusals.writing place = none → r = .ok ()) := by
  have hemptied := isFileChange_emptied hopen
  have hopen' : (emptied w place).openFile opened = .ok place :=
    World.openFile_of_isFileChange hemptied hopen
  change (printed (emptied w place) t).openFile opened = .ok place at hopen'
  have hempty : (printed (emptied w place) t).disk.contentAt place = [] :=
    Disk.contentAt_of_node? hemptied.written
  obtain ⟨r, disk, hchanges, hchange⟩ :=
    (printed (emptied w place) t).exists_changes id opened bytes
  have hrun : (attempt .unsent (World.platform.transmit opened delay bytes)).run
      (printed (emptied w place) t) =
        (r.mapError .unsent, { printed (emptied w place) t with disk }) := by
    rw [run_attempt]
    change ((World.change id opened bytes _).1.mapError _, (World.change id opened bytes _).2) = _
    rw [hchange]
  refine ⟨r, disk, ?_⟩
  cases r with
  | error fault =>
    rcases hchanges.of_error with ⟨hrefused, -⟩ | ⟨p, n, fault', hopen'', hlimit, -, hfile⟩
    · rw [hopen'] at hrefused
      cases hrefused
    · obtain rfl := Except.ok.inj (hopen''.symm.trans hopen')
      rw [hempty] at hfile
      refine ⟨bytes.take n, hrun, hemptied.trans hfile, List.take_prefix n bytes,
        fun h => (nomatch h), fun hwriting => ?_⟩
      cases hwriting.symm.trans hlimit
  | ok _ =>
    obtain ⟨p, hopen'', -, hfile⟩ := hchanges.of_ok
    obtain rfl := Except.ok.inj (hopen''.symm.trans hopen')
    rw [hempty] at hfile
    exact ⟨bytes, hrun, hemptied.trans hfile, List.prefix_refl bytes, fun _ => rfl, fun _ => rfl⟩

/-- **How sending to a file ends.**  Without a file that can be opened nothing differs.  Otherwise
that file holds a beginning of the bytes of the program, all of them if sending succeeds, and no
other file differs; it succeeds where nothing stops a write and every message is printed. -/
theorem Sends.exists_run (h : Sends w args request program)
    (hdevice : Destination.read lib.addresses request.address = .ok (.device opened)) :
    ∃ r after, (sendFile lib World.platform args).run w = (r, after) ∧
      (∀ fault, w.openFile opened = .error fault →
        r = .error (.unopened request.address (.system fault)) ∧ after = w) ∧
      ∀ place, w.openFile opened = .ok place →
        (∃ sent, sent <+: programBytes program ∧ w.disk.IsFileChange after.disk place sent ∧
          (r = .ok () → sent = programBytes program)) ∧
        (w.refusals.writing place = none → (∀ t, w.refusals.printing t = none) → r = .ok ()) := by
  obtain ⟨bytes, hbytes, htext⟩ := h.held
  obtain ⟨wire, hsend, hwire⟩ := send_to_file program
  rw [sendFile, run_bind_ok (run_result_ok id h.read), run_bind_ok (run_read_ok _ hbytes)]
  simp only [htext]
  cases hopen : w.openFile opened with
  | error fault =>
    refine ⟨_, _, run_bind_error (run_openDevice_error hdevice hopen), fun fault' h => ?_,
      fun place h => nomatch h⟩
    rw [Except.error.inj h]
    exact ⟨rfl, rfl⟩
  | ok place =>
  rw [run_bind_ok (run_openDevice_ok hdevice hopen)]
  cases hprint : w.refusals.printing w.output with
  | some fault =>
    have hprint' : (emptied w place).refusals.printing (emptied w place).output = some fault :=
      hprint
    refine ⟨_, _, run_bind_error (run_say_error _ hprint'), fun fault h => (nomatch h),
      fun place' h => ?_⟩
    obtain rfl := Except.ok.inj h
    refine ⟨⟨[], List.nil_prefix, isFileChange_emptied hopen, fun h => nomatch h⟩,
      fun _ hprinting => ?_⟩
    rw [hprinting] at hprint
    cases hprint
  | none =>
  have hprint' : (emptied w place).refusals.printing (emptied w place).output = none := hprint
  rw [run_bind_ok (run_say_ok _ hprint')]
  simp only [hsend, hwire]
  obtain ⟨r, disk, sent, hrun, hchange, hprefix, hall, hdone⟩ := exists_run_transmit w opened
    ("Plotting file: ".toList ++ request.file ++ ['\n']) request.delay (programBytes program) hopen
  cases r with
  | error fault =>
    refine ⟨_, _, run_bind_error hrun, fun fault h => (nomatch h), fun place' h => ?_⟩
    obtain rfl := Except.ok.inj h
    exact ⟨⟨sent, hprefix, hchange, fun h => nomatch h⟩, fun hwriting _ => nomatch hdone hwriting⟩
  | ok _ =>
  obtain rfl := hall rfl
  rw [run_bind_ok hrun, run_bind_ok (run_result_ok _ rfl)]
  cases hlast : w.refusals.printing
    (w.output ++ ("Plotting file: ".toList ++ request.file ++ ['\n'])) with
  | some fault =>
    refine ⟨_, _, run_say_error _ hlast, fun fault h => (nomatch h), fun place' h => ?_⟩
    obtain rfl := Except.ok.inj h
    refine ⟨⟨_, hprefix, hchange, fun h => nomatch h⟩, fun _ hprinting => ?_⟩
    rw [hprinting] at hlast
    cases hlast
  | none =>
    refine ⟨_, _, run_say_ok _ hlast, fun fault h => (nomatch h), fun place' h => ?_⟩
    obtain rfl := Except.ok.inj h
    exact ⟨⟨_, hprefix, hchange, fun _ => rfl⟩, fun _ _ => rfl⟩

/-! ## 2. Where paths lead -/

/-- Without links, a plain path leads to the place of its names. -/
theorem place_of_isFilePath {disk : Disk} {p : Text} {directory : Place} (hlinks : disk.IsLinkFree)
    (h : Uri.IsFilePath p) (hplace : disk.place directory p = .ok place) :
    place = p.tail.splitOn '/' := by
  obtain ⟨t, rfl⟩ := h.exists_tail
  have hnames : Disk.names ('/' :: t) = t.splitOn '/' := by
    have hsplit : ('/' :: t).splitOn '/' = [] :: t.splitOn '/' :=
      List.splitOn_append_cons_self [] t
    rw [Disk.names, hsplit, List.filter_cons_of_neg (by decide)]
    exact List.filter_eq_self.mpr fun name hname => decide_eq_true (h.named name hname).1
  obtain ⟨-, -, hwalk⟩ := Disk.place_eq_ok_iff.mp hplace
  rw [hnames] at hwalk
  exact Disk.walk_down hlinks (fun name hname => (h.named name hname).2) hwalk

/-- **A path with a character that the opened path does not hold leads elsewhere**, unless by
links. -/
theorem place_ne_of_opened {disk : Disk} {p : Text} {directory : Place} {c : Char}
    (hlinks : disk.IsLinkFree) (h : Uri.IsFilePath p) (hc : c ∈ p) (hnot : c ∉ opened)
    (hroot : opened.head? = some '/') (hopened : disk.place directory opened = .ok place) :
    disk.place directory p ≠ .ok place := by
  intro hplace
  obtain ⟨t, rfl⟩ := h.exists_tail
  have hslash : c ≠ '/' := by
    rintro rfl
    exact hnot (List.mem_of_head? hroot)
  have htail : c ∈ t := (List.mem_cons.mp hc).resolve_left hslash
  obtain ⟨name, hname, hmem⟩ := Text.exists_mem_splitOn_iff.mpr ⟨htail, hslash⟩
  -- All names of a place that a path leads to from the root are names in the path.
  rw [place_of_isFilePath hlinks h hplace] at hopened
  obtain ⟨-, -, hwalk⟩ := Disk.place_eq_ok_iff.mp hopened
  rw [Disk.origin, if_pos hroot] at hwalk
  have hnames : name ∈ Disk.names opened :=
    (Disk.mem_of_walk hlinks hwalk hname).resolve_left List.not_mem_nil
  exact hnot (Text.exists_mem_splitOn_iff.mp ⟨name, (List.mem_filter.mp hnames).1, hmem⟩).1

/-! ## 3. Sending to a file -/

/-- **What is sent to the address of a file.**  Whoever reads addresses keeps the characters of a
set out of paths.  Then the address of a plain path opens the path with these characters encoded,
but for blanks at its end, and so the path itself if and only if it holds none of them.  If the
file that is opened cannot be, that is the failure, and nothing differs at all.  If it can, it
holds a beginning of the bytes of the program afterwards, all of them if sending succeeds, and no
other file differs; and on a disk without links a path that holds a character of the set does not
lead to it. -/
theorem sendFile_to_file (lib : Libraries) (set : Char → Bool) (w : World) (args : List Text)
    (request : SendRequest) (program p : Text) (hreader : lib.addresses.Encodes set)
    (hsends : Sends w args request program) (hpath : Uri.IsFilePath p)
    (haddress : request.address = Uri.fileAddress p) :
    (∀ front n, p = front ++ List.replicate n ' ' → Uri.IsFilePath front →
      front.getLast? ≠ some ' ' →
        Destination.read lib.addresses request.address =
          .ok (.device (Uri.encode set front))) ∧
    ∀ opened, Destination.read lib.addresses request.address = .ok (.device opened) →
      (opened = p ↔ ∀ c ∈ p, set c = false) ∧
      ∃ r after, (sendFile lib World.platform args).run w = (r, after) ∧
        (∀ fault, w.openFile opened = .error fault →
          r = .error (.unopened request.address (.system fault)) ∧ after = w) ∧
        ∀ place, w.openFile opened = .ok place →
          (∃ sent, sent <+: programBytes program ∧ w.disk.IsFileChange after.disk place sent ∧
            (r = .ok () → sent = programBytes program)) ∧
          (w.refusals.writing place = none → (∀ t, w.refusals.printing t = none) →
            r = .ok ()) ∧
          (w.disk.IsLinkFree → (∃ c ∈ p, set c = true) →
            w.disk.place w.directory p ≠ .ok place) := by
  refine ⟨fun front n hp hfront hlast => ?_, fun opened hdevice => ⟨?_, ?_⟩⟩
  · rw [haddress, hp]
    exact hreader.read_fileAddress hfront hlast n
  · exact hreader.opened_eq_self_iff hpath (haddress ▸ hdevice)
  · obtain ⟨r, after, hrun, hrefused, hopened⟩ := hsends.exists_run hdevice
    refine ⟨r, after, hrun, hrefused, fun place hopen => ?_⟩
    obtain ⟨hsent, hdone⟩ := hopened place hopen
    refine ⟨hsent, hdone, fun hlinks ⟨c, hc, hset⟩ => ?_⟩
    exact place_ne_of_opened hlinks hpath hc (hreader.not_mem_opened hdevice hset)
      (hreader.head?_opened hdevice) (World.place_of_openFile hopen)

/-- A program that is sent to the address of `/a b` is found in the file `/a%20b`, and there is no
file `/a b` afterwards. -/
theorem sendFile_to_file_with_blank :
    ∃ after, (sendFile .usual World.platform ["a.hita".toList, "file:///a b".toList]).run
        (plotWorld "a.hita" "H") = (.ok (), after) ∧
      after.disk.node? ["a%20b".toList] = some (.file (Text.toBytes "H\r\n".toList)) ∧
      after.disk.node? ["a b".toList] = none := by
  have hsends : Sends (plotWorld "a.hita" "H") ["a.hita".toList, "file:///a b".toList]
      ⟨"a.hita".toList, "file:///a b".toList, 100⟩ "H".toList :=
    ⟨rfl, Text.toBytes "H".toList, by decide +kernel, by decide +kernel⟩
  have hpath : Uri.IsFilePath "/a b".toList :=
    ⟨rfl, by simp, by simp, by decide, rfl⟩
  obtain ⟨hread, hends⟩ := sendFile_to_file .usual Uri.isReplaced _ _ _ _ "/a b".toList
    Uri.read_encodes hsends hpath rfl
  have hdevice := hread "/a b".toList 0 rfl hpath (by decide)
  obtain ⟨-, r, after, hrun, -, hopened⟩ := hends _ hdevice
  obtain ⟨⟨sent, -, hchange, hsent⟩, hdone, -⟩ := hopened ["a%20b".toList] rfl
  obtain rfl := hdone rfl fun _ => rfl
  obtain rfl := hsent rfl
  exact ⟨after, hrun, hchange.written, (hchange.others _ (by decide)).trans rfl⟩

end CommandLine

end PenPlotter
