import Mathlib.Data.List.TakeWhile
import PenPlotter.Proofs.Text.Lines
import PenPlotter.Proofs.Uri.Address
import PenPlotter.Uri

/-!
# Paths of files by the rules of web addresses

The path of an address is encoded by the rules of web addresses.  Whatever it is read from, it holds
no blank, no quotation mark and none of the other characters that have no place in an address
(`Uri.not_isEncoded_of_mem_pathAfterSlash`).  A plain path is read as the path with its characters
encoded (`Uri.pathAfterSlash_of_isFilePath`), of which there are seven that can be printed
(`Uri.IsFilePath.isEncoded_eq`).  So these rules keep the promise that is asked of a reader of
addresses (`Uri.read_encodes`).
-/

namespace PenPlotter

namespace Uri

variable {c : Char} {t p : Text} {k : Kind}

/-! ## 1. The characters of a path -/

theorem isEncoded_hexDigit : ∀ n < 16, isEncoded (hexDigit n) = false := by
  decide

theorem not_isEncoded_of_mem_percent {b : UInt8} (h : c ∈ percent b) : isEncoded c = false := by
  have hb : b.toNat < 256 := b.toNat_lt
  simp only [percent, List.mem_cons, List.not_mem_nil, or_false] at h
  rcases h with rfl | rfl | rfl
  · rfl
  · exact isEncoded_hexDigit _ (by omega)
  · exact isEncoded_hexDigit _ (by omega)

/-- What has been encoded holds nothing that is to be encoded. -/
theorem not_isEncoded_of_mem_encode (h : c ∈ encode isEncoded t) : isEncoded c = false := by
  obtain ⟨d, -, hd⟩ := List.mem_flatMap.mp h
  split at hd
  · obtain ⟨b, -, hb⟩ := List.mem_flatMap.mp hd
    exact not_isEncoded_of_mem_percent hb
  · rename_i hplain
    rw [List.mem_singleton.mp hd]
    exact Bool.eq_false_iff.mpr hplain

theorem encode_congr {q q' : Char → Bool} (h : ∀ c ∈ t, q c = q' c) : encode q t = encode q' t :=
  congrArg List.flatten (List.map_congr_left fun c hc => by rw [h c hc])

theorem not_isEncoded_of_isAlpha (h : c.isAlpha = true) : isEncoded c = false := by
  have hrange : 0x41 ≤ c.toNat ∧ c.toNat ≤ 0x7A := by
    rcases Bool.or_eq_true_iff.mp h with hupper | hlower
    · have hletter : 0x41 ≤ c.toNat ∧ c.toNat ≤ 0x5A := of_decide_eq_true hupper
      omega
    · have hletter : (decide (0x61 ≤ c.toNat) && decide (c.toNat ≤ 0x7A)) = true := hlower
      rw [Bool.and_eq_true, decide_eq_true_eq, decide_eq_true_eq] at hletter
      omega
  refine Bool.eq_false_iff.mpr fun hencoded => ?_
  simp only [isEncoded, isEncodedOpaque, Bool.or_eq_true, decide_eq_true_eq, List.contains_eq_mem,
    List.mem_cons, List.not_mem_nil, or_false] at hencoded
  rcases hencoded with (hc | hc) | rfl | rfl | rfl | rfl | rfl | rfl | rfl | rfl | rfl
  · omega
  · omega
  all_goals exact absurd h (by decide)

/-- Whether segments hold nothing that is to be encoded. -/
def Clear (segments : List Text) : Prop :=
  ∀ segment ∈ segments, ∀ c ∈ segment, isEncoded c = false

theorem clear_nil : Clear [] :=
  List.forall_mem_nil _

theorem clear_singleton : Clear [t] ↔ ∀ c ∈ t, isEncoded c = false :=
  List.forall_mem_singleton

theorem Clear.append {first second : List Text} (h : Clear first) (h' : Clear second) :
    Clear (first ++ second) :=
  List.forall_mem_append.mpr ⟨h, h'⟩

theorem Clear.withoutLast {segments : List Text} (h : Clear segments) :
    Clear (withoutLast segments) := by
  rw [Uri.withoutLast]
  split
  · split
    · exact h
    · exact fun segment hsegment => h segment ((List.dropLast_sublist _).subset hsegment)
  · exact clear_nil

theorem exists_of_isDrive (h : isDrive t = true) :
    ∃ letter mark, t = [letter, mark] ∧ letter.isAlpha = true := by
  unfold isDrive at h
  split at h
  · rename_i letter mark
    exact ⟨letter, mark, rfl, (Bool.and_eq_true_iff.mp h).1⟩
  · cases h

theorem clear_normalDrive (h : isDrive t = true) : Clear [normalDrive t] := by
  obtain ⟨letter, mark, rfl, hletter⟩ := exists_of_isDrive h
  refine clear_singleton.mpr fun c hc => ?_
  rcases List.mem_cons.mp hc with rfl | hc
  · exact not_isEncoded_of_isAlpha hletter
  · rw [List.mem_singleton.mp hc]
    rfl

theorem clear_encode : Clear [encode isEncoded t] :=
  clear_singleton.mpr fun _ => not_isEncoded_of_mem_encode

theorem isDrive_of_partDrive? {drive rest : Text} (h : partDrive? t = some (drive, rest)) :
    isDrive drive = true ∧ normalDrive drive = drive := by
  unfold partDrive? at h
  split at h
  · split at h
    · split at h
      · rename_i hdrive
        cases h
        exact ⟨hdrive.1, rfl⟩
      · cases h
    · cases h
  · cases h

theorem clear_plainSegments (firstOfFile : Bool) (raw : Text) :
    Clear (plainSegments firstOfFile raw) := by
  rw [plainSegments]
  split
  · split
    · rename_i drive rest hpart
      obtain ⟨hdrive, hnormal⟩ := isDrive_of_partDrive? hpart
      rw [← hnormal]
      exact Clear.append (clear_normalDrive hdrive) clear_encode
    · split
      · rename_i hdrive
        exact clear_normalDrive hdrive
      · exact clear_encode
  · exact clear_encode

/-- **Resolved segments hold nothing that is to be encoded.** -/
theorem clear_resolve {done raws : List Text} (h : Clear done) : Clear (resolve k done raws) := by
  have hending (rest : List Text) : Clear (if rest.isEmpty then [[]] else []) := by
    split
    · exact clear_singleton.mpr (List.forall_mem_nil _)
    · exact clear_nil
  -- Points take segments back or end them, and everything else adds clear ones.
  induction raws generalizing done with
  | nil => exact h
  | cons raw rest ih =>
    rw [resolve]
    split
    · exact ih (h.withoutLast.append (hending rest))
    · split
      · exact ih (h.append (hending rest))
      · exact ih (h.append (clear_plainSegments _ raw))

theorem clear_intercalate {segments : List Text} (h : Clear segments) :
    ∀ c ∈ ['/'].intercalate segments, isEncoded c = false := by
  induction segments with
  | nil => exact List.forall_mem_nil _
  | cons segment rest ih =>
    obtain ⟨hsegment, hrest⟩ := List.forall_mem_cons.mp h
    cases rest with
    | nil =>
      rw [List.intercalate_singleton]
      exact hsegment
    | cons next more =>
      rw [List.intercalate_cons_cons, List.append_assoc]
      refine List.forall_mem_append.mpr ⟨hsegment, List.forall_mem_append.mpr ⟨?_, ih hrest⟩⟩
      exact List.forall_mem_singleton.mpr rfl

/-- **A path holds nothing that is to be encoded**, whatever it is read from. -/
theorem not_isEncoded_of_mem_pathAfterSlash (h : c ∈ pathAfterSlash k t) : isEncoded c = false := by
  have hclear : Clear (resolve k [] ((beforeQuery t).splitOnP k.isSlash)) :=
    clear_resolve clear_nil
  rw [pathAfterSlash] at h
  rcases List.mem_cons.mp h with rfl | h
  · rfl
  · refine clear_intercalate ?_ c h
    split
    · exact fun segment hsegment => hclear segment ((List.dropWhile_sublist _).subset hsegment)
    · exact hclear

/-! ## 2. Paths of files -/

/-- The printable characters that stand in a path of an address only encoded, leaving out those that
end it. -/
def isReplaced (c : Char) : Bool :=
  [' ', '"', '<', '>', '\x60', '\x7b', '\x7d'].contains c

theorem isEncoded_of_isReplaced (h : isReplaced c = true) : isEncoded c = true := by
  simp only [isReplaced, List.contains_eq_mem, List.mem_cons, List.not_mem_nil, or_false,
    decide_eq_true_eq] at h
  rcases h with rfl | rfl | rfl | rfl | rfl | rfl | rfl <;> rfl

/-- Of a plain path, the replaced characters are those that are encoded. -/
theorem IsFilePath.isEncoded_eq (h : IsFilePath p) (hc : c ∈ p) : isEncoded c = isReplaced c := by
  have hprintable := h.printable c hc
  have hliteral := h.literal c hc
  simp only [List.mem_cons, List.not_mem_nil, or_false, not_or] at hliteral
  rw [Bool.eq_iff_iff]
  simp only [isEncoded, isEncodedOpaque, isReplaced, Bool.or_eq_true, decide_eq_true_eq,
    List.contains_eq_mem, List.mem_cons, List.not_mem_nil, or_false, hliteral.2.1, hliteral.2.2.1,
    false_or, Nat.not_lt.mpr hprintable.1, Nat.not_lt.mpr hprintable.2]

theorem not_isIgnored_of_le (h : 0x20 ≤ c.toNat) : isIgnored c = false := by
  refine Bool.eq_false_iff.mpr fun hignored => ?_
  simp only [isIgnored, Bool.or_eq_true, beq_iff_eq] at hignored
  rcases hignored with (rfl | rfl) | rfl <;> exact absurd h (by decide)

theorem clean_of_printable (h : ∀ c ∈ t, 0x20 ≤ c.toNat) : clean t = t :=
  List.filter_eq_self.mpr fun c hc => by rw [not_isIgnored_of_le (h c hc)]; rfl

theorem decodedPoints_of_plain (h : '%' ∉ t) : decodedPoints t = t := by
  induction t with
  | nil => rfl
  | cons c rest ih =>
    rw [decodedPoints, ih fun hrest => h (List.mem_cons_of_mem c hrest)]
    rintro - - rfl -
    exact h List.mem_cons_self

/-- Names that are plain are added to those before them, encoded. -/
theorem resolve_of_plain {done raws : List Text} (hdone : done ≠ [])
    (h : ∀ raw ∈ raws, clean raw = raw ∧ '%' ∉ raw ∧ raw ≠ ['.'] ∧ raw ≠ ['.', '.']) :
    resolve k done raws = done ++ raws.map (encode isEncoded) := by
  induction raws generalizing done with
  | nil => rw [resolve, List.map_nil, List.append_nil]
  | cons raw rest ih =>
    obtain ⟨⟨hclean, hpercent, hpoint, hpoints⟩, hrest⟩ := List.forall_mem_cons.mp h
    have hnotFirst : plainSegments (k = .file && done.isEmpty) raw = [encode isEncoded raw] := by
      rw [List.isEmpty_eq_false_iff.mpr hdone, Bool.and_false, plainSegments,
        if_neg Bool.false_ne_true, hclean]
    rw [resolve]
    simp only [hclean, decodedPoints_of_plain hpercent, if_neg hpoint, if_neg hpoints, hnotFirst]
    rw [ih (List.append_ne_nil_of_left_ne_nil hdone _) hrest, List.map_cons, List.append_assoc]
    rfl

theorem encode_intercalate (names : List Text) :
    encode isEncoded (['/'].intercalate names) =
      ['/'].intercalate (names.map (encode isEncoded)) := by
  induction names with
  | nil => rfl
  | cons name rest ih =>
    cases rest with
    | nil => rw [List.map_singleton, List.intercalate_singleton, List.intercalate_singleton]
    | cons next more =>
      rw [List.map_cons, List.map_cons, List.intercalate_cons_cons, List.intercalate_cons_cons,
        ← List.map_cons, ← ih, encode, List.flatMap_append, List.flatMap_append]
      rfl

theorem encode_ne_nil {name : Text} (h : name ≠ []) : encode isEncoded name ≠ [] := by
  obtain ⟨c, rest, rfl⟩ := List.exists_cons_of_ne_nil h
  rw [encode, List.flatMap_cons]
  refine List.append_ne_nil_of_left_ne_nil ?_ _
  split
  · rename_i hc
    intro hnil
    have hbytes := List.flatMap_eq_nil_iff.mp hnil
    cases hutf8 : String.utf8EncodeChar c with
    | nil =>
      have hlength := String.length_utf8EncodeChar c
      rw [hutf8] at hlength
      exact absurd hlength (Nat.ne_of_lt c.utf8Size_pos)
    | cons b more => exact absurd (hbytes b (hutf8 ▸ List.mem_cons_self)) (List.cons_ne_nil _ _)
  · exact List.cons_ne_nil c []

/-- Without backslashes, only slashes are slashes. -/
theorem splitOnP_isSlash (h : '\\' ∉ t) : t.splitOnP Kind.file.isSlash = t.splitOn '/' := by
  have hname {name : Text} (hslash : '/' ∉ name) (hname : '\\' ∉ name) :
      name.splitOnP Kind.file.isSlash = name.splitOn '/' := by
    rw [List.splitOn_eq_singleton hslash]
    refine List.splitOnP_eq_singleton fun c hc => ?_
    have hne : c ≠ '/' ∧ c ≠ '\\' := ⟨fun heq => hslash (heq ▸ hc), fun heq => hname (heq ▸ hc)⟩
    simp [Kind.isSlash, hne]
  induction t using Text.pieces_induction '/' with
  | last t hslash => exact hname hslash h
  | piece t rest hslash ih =>
    have hboth : '\\' ∉ t ∧ '\\' ∉ rest := by
      simpa using h
    rw [List.splitOnP_append_cons t rest (show Kind.file.isSlash '/' = true from rfl),
      List.splitOn_append_cons_self, hname hslash hboth.1, ih hboth.2]

/-- **A plain path is read as the path with its characters encoded.** -/
theorem pathAfterSlash_of_isFilePath (h : IsFilePath p) :
    pathAfterSlash .file p = encode isEncoded p := by
  obtain ⟨t, rfl⟩ := h.exists_tail
  have hliteral : ∀ a ∈ ['%', '?', '#', '\\'], a ∉ '/' :: t := fun a ha hmem => h.literal a hmem ha
  have hquery : beforeQuery ('/' :: t) = '/' :: t := by
    refine List.takeWhile_eq_self_iff.mpr fun c hc => decide_eq_true ⟨?_, ?_⟩
    · rintro rfl
      exact hliteral _ (by decide) hc
    · rintro rfl
      exact hliteral _ (by decide) hc
  have hraws : ∀ raw ∈ t.splitOn '/',
      clean raw = raw ∧ '%' ∉ raw ∧ raw ≠ ['.'] ∧ raw ≠ ['.', '.'] := by
    intro raw hraw
    have hsub : ∀ c ∈ raw, c ∈ '/' :: t := fun c hc =>
      List.mem_cons_of_mem _ (Text.exists_mem_splitOn_iff.mp ⟨raw, hraw, hc⟩).1
    exact ⟨clean_of_printable fun c hc => (h.printable c (hsub c hc)).1,
      fun hpercent => hliteral _ (by decide) (hsub _ hpercent), (h.named raw hraw).2⟩
  have hsegments : resolve .file [] (('/' :: t).splitOnP Kind.file.isSlash) =
      [] :: (t.splitOn '/').map (encode isEncoded) := by
    have hsplit : ('/' :: t).splitOn '/' = [] :: t.splitOn '/' :=
      List.splitOn_append_cons_self [] t
    -- The slash at the beginning leaves an empty segment, so that no name is the first one.
    rw [splitOnP_isSlash (hliteral _ (by decide)), hsplit, resolve]
    exact resolve_of_plain (List.cons_ne_nil _ _) hraws
  have hnames : (([] :: (t.splitOn '/').map (encode isEncoded)).dropWhile List.isEmpty) =
      (t.splitOn '/').map (encode isEncoded) := by
    rw [List.dropWhile_cons_of_pos rfl]
    obtain ⟨name, rest, hname⟩ := List.exists_cons_of_ne_nil (List.splitOn_ne_nil '/' t)
    rw [hname, List.map_cons, List.dropWhile_cons_of_neg]
    rw [Bool.not_eq_true, List.isEmpty_eq_false_iff]
    exact encode_ne_nil (h.named name (hname ▸ List.mem_cons_self)).1
  rw [pathAfterSlash, hquery, hsegments, if_pos rfl, hnames, ← encode_intercalate,
    List.intercalate_splitOn]
  rfl

/-! ## 3. Addresses of files -/

theorem pathAt_file (t : Text) : ∃ u, pathAt .file t = pathAfterSlash .file u :=
  ⟨_, if_neg fun h => Kind.noConfusion h.1⟩

/-- The path of a `file` address follows a slash, whether that stands in the address or not. -/
theorem exists_of_filePath {path : Text} (h : filePath t = .ok path) :
    ∃ u, path = pathAfterSlash .file u := by
  rw [filePath] at h
  split at h
  · exact ⟨_, (Except.ok.inj h).symm⟩
  split at h
  · exact ⟨_, (Except.ok.inj h).symm⟩
  rename_i rest _
  rw [filePathAfterSlashes] at h
  split at h
  · exact ⟨_, (Except.ok.inj h).symm⟩
  split at h
  · exact ⟨_, (Except.ok.inj h).symm⟩
  -- A host is no part of the path.
  cases hhost : readHost (clean (rest.takeWhile fun c => !Kind.file.endsAuthority c)) with
  | error fault =>
    rw [hhost] at h
    cases h
  | ok name =>
    rw [hhost, Except.map] at h
    split at h
    · exact ⟨_, (Except.ok.inj h).symm⟩
    · obtain rfl := Except.ok.inj h
      exact pathAt_file _

theorem exists_of_read {target : Uri} (h : read t = .ok target)
    (hfile : target.scheme = "file".toList) : ∃ u, target.path = pathAfterSlash .file u := by
  rw [read] at h
  cases hscheme : splitScheme? (withoutEdges t) with
  | none =>
    rw [hscheme] at h
    cases h
  | some split =>
    obtain ⟨scheme, rest⟩ := split
    simp only [hscheme] at h
    cases hpath : readPath (kind scheme) rest with
    | error fault =>
      rw [hpath] at h
      cases h
    | ok path =>
      rw [hpath] at h
      obtain rfl := Except.ok.inj h
      have hkind : kind scheme = .file := if_pos hfile
      rw [hkind] at hpath
      exact exists_of_filePath hpath

/-- The address of a plain path that does not end in a blank is read as the path, encoded. -/
theorem read_fileAddress (h : IsFilePath p) (hlast : p.getLast? ≠ some ' ') :
    read (fileAddress p) = .ok ⟨"file".toList, encode isReplaced p⟩ := by
  have hencode : encode isReplaced p = pathAfterSlash .file p :=
    (encode_congr fun c hc => (h.isEncoded_eq hc).symm).trans
      (pathAfterSlash_of_isFilePath h).symm
  have hedge : p.getLast?.all (fun c => !decide (c ≤ ' ')) = true := by
    refine (Option.all_eq_true _ _).mpr fun c hc => ?_
    have hprintable := (h.printable c (List.mem_of_getLast? hc)).1
    rw [Bool.not_eq_true', decide_eq_false_iff_not]
    intro hle
    have htoNat : c.toNat = ' '.toNat := Nat.le_antisymm (UInt32.le_iff_toNat_le.mp hle) hprintable
    exact hlast (by rw [hc, Char.toNat_inj.mp htoNat])
  have hclean : clean p = p := clean_of_printable fun c hc => (h.printable c hc).1
  obtain ⟨t, rfl⟩ := h.exists_tail
  have hedges : withoutEdges (fileAddress ('/' :: t)) = "file://".toList ++ '/' :: t := by
    have hdrop := Text.dropEndWhile_append (p := fun c => decide (c ≤ ' ')) "file://".toList
      (by decide) ('/' :: t)
    rw [Text.dropEndWhile_eq_self hedge] at hdrop
    exact hdrop
  have hscheme : splitScheme? ("file://".toList ++ '/' :: t) =
      some ("file".toList, "//".toList ++ '/' :: t) := rfl
  have hpath : readPath (kind "file".toList) ("//".toList ++ '/' :: t) =
      .ok (pathAfterSlash .file (clean ('/' :: t))) := rfl
  rw [read, hedges, hscheme]
  simp only [hpath, hclean, hencode]
  rfl

theorem withoutEdges_append_blank (t : Text) : withoutEdges (t ++ [' ']) = withoutEdges t := by
  have hblank : decide (' ' ≤ ' ') = true := by decide
  rw [withoutEdges, withoutEdges, List.dropWhile_append]
  split
  · rename_i hempty
    rw [List.isEmpty_iff.mp hempty]
    rfl
  · exact Text.dropEndWhile_append_of_pos hblank _

/-- **Addresses that are read by the rules of web addresses keep their paths encoded.** -/
theorem read_encodes : AddressReader.Encodes read isReplaced where
  blank := rfl
  absolute h hfile := by
    obtain ⟨u, hu⟩ := exists_of_read h hfile
    rw [hu]
    rfl
  encoded h hfile c hc := by
    obtain ⟨u, hu⟩ := exists_of_read h hfile
    refine Bool.eq_false_iff.mpr fun hreplaced => ?_
    have hplain := not_isEncoded_of_mem_pathAfterSlash (hu ▸ hc)
    rw [isEncoded_of_isReplaced hreplaced] at hplain
    cases hplain
  reads := read_fileAddress
  trims address := by rw [read, read, withoutEdges_append_blank]

end Uri

end PenPlotter
