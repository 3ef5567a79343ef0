import PenPlotter.Proofs.CommandLine.Target
import PenPlotter.Proofs.Text.Utf8
import PenPlotter.Proofs.Wire.Delivery

/-!
# The head of a file on the wire

The head of a converted file is written in comment lines, and the file is cut at line feeds again
when it is sent.  What is sent of a file is what is sent of its lines, one after the other
(`sentLines_fileText_eq`).  Of a line that begins with a number sign nothing is sent up to the first
line feed in it; so the head adds nothing to what is sent if and only if nothing is to be sent
behind the line feeds inside its lines (`wire_of_header`).  The texts in the head come from the
command line and from the environment, and may hold line feeds.
-/

namespace PenPlotter

/-! ## 1. What is sent of lines -/

theorem sentLines_append_newline (s t : Text) :
    sentLines (s ++ '\n' :: t) = sentLines s ++ sentLines t := by
  rw [sentLines_eq_pieces, sentLines_eq_pieces s, sentLines_eq_pieces t,
    List.splitOn_append_cons_self, List.map_append, List.filter_append]

/-- A carriage return at the end of a text is not sent. -/
theorem sentLines_append_return (t : Text) : sentLines (t ++ ['\r']) = sentLines t := by
  induction t using Text.pieces_induction '\n' with
  | last t h =>
    have hreturn : '\n' ∉ t ++ ['\r'] := by simpa using h
    rw [sentLines_eq_pieces, sentLines_eq_pieces, List.splitOn_eq_singleton h,
      List.splitOn_eq_singleton hreturn, List.map_singleton, List.map_singleton,
      Text.dropEndWhile_append_of_pos (by decide)]
  | piece t rest h ih =>
    rw [List.append_assoc, List.cons_append, sentLines_append_newline, ih, sentLines_append_newline]

/-- A line end parts what is sent before it from what is sent behind it. -/
theorem sentLines_append_lineEnd (s t : Text) :
    sentLines (s ++ lineEnd ++ t) = sentLines s ++ sentLines t := by
  have hpieces : s ++ lineEnd ++ t = (s ++ ['\r']) ++ '\n' :: t := by
    simp [lineEnd]
  rw [hpieces, sentLines_append_newline, sentLines_append_return]

namespace CommandLine

/-- **What is sent of a file is what is sent of its lines.** -/
theorem sentLines_fileText_eq (lines : List Text) :
    sentLines (fileText lines) = lines.flatMap sentLines := by
  induction lines with
  | nil => rfl
  | cons line rest ih =>
    rw [List.flatMap_cons, ← ih]
    cases rest with
    | nil =>
      rw [fileText_singleton, ← List.append_nil (line ++ lineEnd), sentLines_append_lineEnd]
      rfl
    | cons next more => rw [fileText_cons_cons, sentLines_append_lineEnd]

/-- Whether nothing is to be sent behind the line feeds inside a line: each piece there is empty or
a comment. -/
def IsCommentThroughout (line : Text) : Prop :=
  ∀ piece ∈ (line.splitOn '\n').tail, isSent (Text.dropEndWhile (· = '\r') piece) = false

theorem isCommentThroughout_of_not_mem {line : Text} (h : '\n' ∉ line) :
    IsCommentThroughout line := by
  rw [IsCommentThroughout, List.splitOn_eq_singleton h]
  exact fun piece hpiece => absurd hpiece List.not_mem_nil

/-- A comment is not sent, whatever it ends with. -/
theorem isSent_comment (rest : Text) :
    isSent (Text.dropEndWhile (· = '\r') ('#' :: rest)) = false := by
  have hhead : (Text.dropEndWhile (· = '\r') ('#' :: rest)).head? = some '#' := by
    rw [Text.dropEndWhile, List.reverse_cons, List.dropWhile_append]
    split
    · rfl
    · rw [List.reverse_append]
      rfl
  rw [isSent, hhead]
  simp

/-- Nothing is sent of a comment line if and only if nothing is to be sent behind its line feeds. -/
theorem sentLines_comment_eq_nil_iff (rest : Text) :
    sentLines ('#' :: rest) = [] ↔ IsCommentThroughout ('#' :: rest) := by
  have hfirst : ∃ first pieces, ('#' :: rest).splitOn '\n' = ('#' :: first) :: pieces := by
    obtain ⟨first, pieces, h⟩ := List.exists_cons_of_ne_nil (List.splitOn_ne_nil '\n' rest)
    refine ⟨first, pieces, ?_⟩
    rw [List.splitOn, List.splitOnP_cons_eq_if_modifyHead, if_neg (by decide)]
    exact congrArg (List.modifyHead _) h
  obtain ⟨first, pieces, hpieces⟩ := hfirst
  rw [sentLines_eq_pieces, IsCommentThroughout, hpieces, List.map_cons, List.filter_cons,
    isSent_comment, if_neg Bool.false_ne_true, List.filter_eq_nil_iff, List.tail_cons]
  simp

/-! ## 2. The head -/

variable {w : World} {program : Text}

theorem headerLines_comment (source target date user program : Text) :
    ∀ line ∈ headerLines source target date user program, ∃ rest, line = '#' :: rest := by
  simp only [headerLines, List.forall_mem_cons]
  exact ⟨⟨_, rfl⟩, ⟨_, rfl⟩, ⟨_, rfl⟩, ⟨_, rfl⟩, ⟨_, rfl⟩, ⟨_, rfl⟩, ⟨_, rfl⟩,
    fun line hline => absurd hline List.not_mem_nil⟩

/-- The lines of a head are comments. -/
theorem headIn_comment (w : World) (program source target : Text) (wanted : Bool) :
    ∀ line ∈ headIn w program source target wanted, ∃ rest, line = '#' :: rest := by
  cases wanted with
  | false => exact fun line hline => absurd hline List.not_mem_nil
  | true => exact fun line hline => headerLines_comment _ _ _ _ _ line hline

/-- The lines of a head hold no line feed that the texts in it do not hold. -/
theorem newline_not_mem_headIn {source target : Text} (wanted : Bool) (hsource : '\n' ∉ source)
    (htarget : '\n' ∉ target) (hdate : '\n' ∉ w.date) (huser : '\n' ∉ user w)
    (hprogram : '\n' ∉ program) :
    ∀ line ∈ headIn w program source target wanted, '\n' ∉ line := by
  cases wanted with
  | false => exact fun line hline => absurd hline List.not_mem_nil
  | true =>
    simp only [headIn, if_pos, headerLines, List.forall_mem_cons, List.mem_append, not_or]
    refine ⟨by decide, ⟨⟨⟨by decide, hsource⟩, by decide⟩, htarget⟩, ⟨by decide, hdate⟩,
      ⟨⟨⟨by decide, huser⟩, by decide⟩, hprogram⟩, by decide, by decide, by decide, ?_⟩
    exact fun line hline => absurd hline List.not_mem_nil

/-- Nothing is sent of a head if and only if its lines are comments throughout. -/
theorem flatMap_headIn_eq_nil_iff (w : World) (program source target : Text) (wanted : Bool) :
    (headIn w program source target wanted).flatMap sentLines = [] ↔
      ∀ line ∈ headIn w program source target wanted, IsCommentThroughout line := by
  rw [List.flatMap_eq_nil_iff]
  refine forall₂_congr fun line hline => ?_
  obtain ⟨rest, rfl⟩ := headIn_comment w program source target wanted line hline
  exact sentLines_comment_eq_nil_iff rest

/-- **What is sent of a file with a head is what is sent of the head, and then of the rest.** -/
theorem sentLines_head (head rest : List Text) :
    sentLines (fileText (head ++ rest)) = head.flatMap sentLines ++ sentLines (fileText rest) := by
  rw [sentLines_fileText_eq, List.flatMap_append, sentLines_fileText_eq]

end CommandLine

/-- A wire that is never cut holds all bytes that are sent of a program. -/
theorem Wire.written_send_fresh (program : Text) :
    ((Wire.fresh none none).send program).1.written = (programBytes program).toArray := by
  rw [Wire.send_eq rfl]
  simp [Wire.deliver, Wire.fresh]

/-- A line is never sent as no bytes. -/
theorem lineBytes_ne_nil (line : Text) : lineBytes line ≠ [] := by
  rw [lineBytes, Text.toBytes_append]
  exact List.append_ne_nil_of_right_ne_nil _ (by decide)

namespace CommandLine

variable {lib : Libraries} {w : World} {program : Text} {args : List Text}

/-- The bytes that are sent are those of the rest if and only if nothing is sent of the head. -/
theorem programBytes_head_iff (head rest : List Text) :
    programBytes (fileText (head ++ rest)) = programBytes (fileText rest) ↔
      head.flatMap sentLines = [] := by
  rw [programBytes, programBytes, sentLines_head, List.flatMap_append, List.append_left_eq_self,
    List.flatMap_eq_nil_iff]
  refine ⟨fun h => List.eq_nil_iff_forall_not_mem.mpr fun line hline => ?_, fun h => ?_⟩
  · exact lineBytes_ne_nil line (h line hline)
  · rw [h]
    exact fun line hline => absurd hline List.not_mem_nil

/-! ## 3. With the head and without it -/

/-- A file without its first line is an end of the file with it. -/
theorem fileText_isSuffix_cons (line : Text) (rest : List Text) :
    fileText rest <:+ fileText (line :: rest) := by
  cases rest with
  | nil =>
    rw [fileText_singleton]
    exact List.suffix_append line lineEnd
  | cons next more =>
    rw [fileText_cons_cons]
    exact List.suffix_append _ _

theorem fileText_isSuffix_append (head rest : List Text) :
    fileText rest <:+ fileText (head ++ rest) := by
  induction head with
  | nil => exact List.suffix_refl _
  | cons line head ih => exact ih.trans (fileText_isSuffix_cons line (head ++ rest))

/-- A file without its head is no longer than with it. -/
theorem length_fileText_le (head rest : List Text) :
    (Text.toBytes (fileText rest)).length ≤ (Text.toBytes (fileText (head ++ rest))).length := by
  obtain ⟨front, hfront⟩ := fileText_isSuffix_append head rest
  rw [← hfront, Text.toBytes_append, List.length_append]
  exact Nat.le_add_left ..

theorem readFrom_append_noHeader {p q : ConvertRequest.Partway}
    (h : ConvertRequest.readFrom p args = .ok q) :
    ConvertRequest.readFrom p (args ++ ["--no-header".toList]) =
      .ok { q with header := false } := by
  fun_induction ConvertRequest.readFrom p args with
  | case1 p =>
    obtain rfl := Except.ok.inj h
    rfl
  | case2 p arg hconfig path rest ih =>
    rw [List.cons_append, List.cons_append, ConvertRequest.readFrom, if_pos hconfig]
    exact ih h
  | case3 => cases h
  | case4 p rest hconfig ih =>
    rw [List.cons_append, ConvertRequest.readFrom.eq_def]
    exact (if_neg hconfig).trans ((if_pos rfl).trans (ih h))
  | case5 p arg rest hconfig hheader hname ih =>
    rw [List.cons_append, ConvertRequest.readFrom.eq_def]
    exact (if_neg hconfig).trans ((if_neg hheader).trans ((if_pos hname).trans (ih h)))
  | case6 p arg rest hconfig hheader hname hscale scale hread ih =>
    rw [List.cons_append, ConvertRequest.readFrom.eq_def]
    refine (if_neg hconfig).trans ((if_neg hheader).trans ((if_neg hname).trans
      ((if_pos hscale).trans ?_)))
    rw [hread]
    exact ih h
  | case7 => cases h
  | case8 => cases h

/-- The option at the end switches the head off and leaves the rest of the request as it is. -/
theorem read_append_noHeader {request : ConvertRequest}
    (h : ConvertRequest.read args = .ok request) :
    ConvertRequest.read (args ++ ["--no-header".toList]) =
      .ok { request with header := false } := by
  rw [ConvertRequest.read] at h ⊢
  cases hread : ConvertRequest.readFrom {} args with
  | error failure =>
    rw [hread] at h
    cases h
  | ok p =>
    rw [readFrom_append_noHeader hread]
    simp only [hread] at h ⊢
    cases hname : p.name with
    | none =>
      rw [hname] at h
      cases h
    | some name =>
      rw [hname] at h
      obtain rfl := Except.ok.inj h
      rfl

theorem Prepared.without_header {request : ConvertRequest} {settings : Settings}
    (h : Prepared lib w args request settings) :
    Prepared lib w (args ++ ["--no-header".toList]) { request with header := false }
      { settings with header := false } := by
  obtain ⟨hread, ⟨base, hbase, rfl⟩, haccepted⟩ := h
  refine ⟨read_append_noHeader hread, ⟨base, hbase, ?_⟩, haccepted⟩
  simp [ConvertRequest.adjust]

section

variable {after : World} {request : ConvertRequest} {settings : Settings} {source : Text}
  {bytes : List UInt8}

/-- The name of a source is made of the characters of the name and those of an extension. -/
theorem Found.newline_not_mem (h : Found w request.name source bytes)
    (hname : '\n' ∉ request.name) : '\n' ∉ source := by
  have hsuffix {suffix : String} (hsuffix : '\n' ∉ '.' :: suffix.toList) :
      '\n' ∉ withSuffix request.name suffix := by
    rw [withSuffix, List.mem_append, not_or]
    exact ⟨hname, hsuffix⟩
  by_cases hown : source = request.name
  · rw [hown]
    exact hname
  · rcases h.source_eq hown with rfl | rfl
    · exact hsuffix (by decide)
    · exact hsuffix (by decide)

/-- A conversion that succeeds does so without the head as well, and writes the commands alone. -/
theorem exists_without_header
    (hrun : (convertFile lib World.platform program args).run w = (.ok (), after))
    (hprepared : Prepared lib w args request settings)
    (hfound : Found w request.name source bytes) :
    ∃ (posted : List Text) (without : World),
      after.disk.read w.directory (targetPath request.name source) = .ok (Text.toBytes
        (fileText (headIn w program source (targetPath request.name source) settings.header ++
          posted))) ∧
      (convertFile lib World.platform program (args ++ ["--no-header".toList])).run w =
        (.ok (), without) ∧
      without.disk.read w.directory (targetPath request.name source) =
        .ok (Text.toBytes (fileText posted)) := by
  obtain ⟨r, disk, output, hends, hconvert⟩ := ends_convertFile lib w program args
  obtain ⟨rfl, rfl⟩ := Prod.mk.inj (hconvert.symm.trans hrun)
  rcases hends.disk_cases with ⟨⟨failure, hfailed⟩, -⟩ |
    ⟨request', settings', source', bytes', posted, place, text, hconverted, htext, hopen, hend⟩
  · cases hfailed
  obtain ⟨rfl, rfl⟩ := hprepared.unique hconverted.prepared
  obtain ⟨rfl, rfl⟩ := hfound.unique hconverted.found
  rcases hend with ⟨-, htakes, hprint, hchange⟩ | ⟨⟨fault, hfailed⟩, -⟩ |
    ⟨⟨fault, hfailed, -⟩, -⟩
  · have htarget := World.takesFile_of_openFile hopen
    obtain ⟨hslash, hplace, -⟩ :=
      Disk.fileToChange_eq_ok_iff.mp (World.openFile_eq_ok_iff.mp hopen).1
    have hbare : Converted lib w (args ++ ["--no-header".toList]) { request with header := false }
        { settings with header := false } source bytes posted :=
      ⟨hprepared.without_header, hfound, hconverted.announced, hconverted.readable,
        hconverted.converted⟩
    have hbareText : Text.toBytes (fileText posted) = Text.toBytes (fileText
        (convertedLines w program request.name source { settings with header := false } posted)) :=
      rfl
    obtain ⟨without, hwithout, hdisk⟩ := exists_run_of_converted hbare hbareText hopen
      (htakes.of_length_le (htext ▸ length_fileText_le _ posted)) hprint
    refine ⟨posted, without, ?_, hwithout, ?_⟩
    · rw [htext] at hchange
      exact hchange.read_self htarget hslash hplace
    · rw [hdisk]
      exact (Disk.isFileChange_put htarget _).read_self htarget hslash hplace
  · cases hfailed
  · cases hfailed

/-- **When the head of a file reaches the wire.**  A conversion that succeeds does so without the
head as well, and both files are read as they were written.  The same bytes are sent of both if and
only if nothing is to be sent behind the line feeds inside the lines of the head, and then every
wire fares the same with both.  It is so if no line feed is in the name, the date, the name of the
user or that of the program. -/
theorem wire_of_header (lib : Libraries) (w : World) (program : Text) (args : List Text)
    (after : World) (request : ConvertRequest) (settings : Settings) (source : Text)
    (bytes : List UInt8)
    (hrun : (convertFile lib World.platform program args).run w = (.ok (), after))
    (hprepared : Prepared lib w args request settings)
    (hfound : Found w request.name source bytes) :
    ∃ full bare without,
      after.disk.read w.directory (targetPath request.name source) = .ok (Text.toBytes full) ∧
      (convertFile lib World.platform program (args ++ ["--no-header".toList])).run w =
        (.ok (), without) ∧
      without.disk.read w.directory (targetPath request.name source) = .ok (Text.toBytes bare) ∧
      Bytes.text? (Text.toBytes full) = some full ∧ Bytes.text? (Text.toBytes bare) = some bare ∧
      (((Wire.fresh none none).send full).1.written =
          ((Wire.fresh none none).send bare).1.written ↔
        ∀ line ∈ headIn w program source (targetPath request.name source) settings.header,
          IsCommentThroughout line) ∧
      ((∀ line ∈ headIn w program source (targetPath request.name source) settings.header,
          IsCommentThroughout line) →
        ∀ wire : Wire, wire.send full = wire.send bare) ∧
      ('\n' ∉ request.name → '\n' ∉ w.date → '\n' ∉ user w → '\n' ∉ program →
        ∀ wire : Wire, wire.send full = wire.send bare) := by
  obtain ⟨posted, without, hfull, hwithout, hbare⟩ :=
    exists_without_header hrun hprepared hfound
  have hnothing := flatMap_headIn_eq_nil_iff w program source (targetPath request.name source)
    settings.header
  have hsame (h : ∀ line ∈ headIn w program source (targetPath request.name source)
      settings.header, IsCommentThroughout line) (wire : Wire) :
      wire.send (fileText (headIn w program source (targetPath request.name source)
        settings.header ++ posted)) =
          wire.send (fileText posted) := by
    rw [Wire.send, Wire.send, sentLines_head, hnothing.mpr h, List.nil_append]
  refine ⟨_, _, without, hfull, hwithout, hbare, Bytes.text?_toBytes _, Bytes.text?_toBytes _, ?_,
    hsame, fun hname hdate huser hprogram => hsame fun line hline => ?_⟩
  · rw [← hnothing, ← programBytes_head_iff, Wire.written_send_fresh, Wire.written_send_fresh]
    exact ⟨fun h => congrArg Array.toList h, fun h => congrArg List.toArray h⟩
  · have hsuffix : '\n' ∉ '.' :: "hita".toList := by decide
    have htarget : '\n' ∉ targetPath request.name source := fun h =>
      (mem_of_mem_targetPath h).elim hname hsuffix
    exact isCommentThroughout_of_not_mem (newline_not_mem_headIn settings.header
      (hfound.newline_not_mem hname) htarget hdate huser hprogram line hline)

end

/-- A line feed in the name of the user puts the rest of the name on the wire. -/
theorem wire_of_header_line_feed :
    ∃ after full bare without,
      (convertFile .usual World.platform "hpgl2dxy".toList ["job".toList]).run
          { plotWorld "job.plt" "PU;PA 400,400;" with
            environment := [("USER", "a\nH".toList)] } = (.ok (), after) ∧
      after.disk.read [] "job.hita".toList = .ok (Text.toBytes full) ∧
      (convertFile .usual World.platform "hpgl2dxy".toList ["job".toList, "--no-header".toList]).run
          { plotWorld "job.plt" "PU;PA 400,400;" with
            environment := [("USER", "a\nH".toList)] } = (.ok (), without) ∧
      without.disk.read [] "job.hita".toList = .ok (Text.toBytes bare) ∧
      ((Wire.fresh none none).send full).1.written ≠
        ((Wire.fresh none none).send bare).1.written := by
  let w : World := { plotWorld "job.plt" "PU;PA 400,400;" with
    environment := [("USER", "a\nH".toList)] }
  have hprepared : Prepared .usual w ["job".toList] ⟨"job".toList, none, none, true⟩ {} :=
    ⟨rfl, ⟨{}, rfl, rfl⟩, by decide +kernel⟩
  have hfound : Found w "job".toList "job.plt".toList (Text.toBytes "PU;PA 400,400;".toList) :=
    ⟨by decide +kernel, rfl⟩
  have hrun : (convertFile .usual World.platform "hpgl2dxy".toList ["job".toList]).run w =
      (.ok (), _) :=
    Prod.ext (eq_ok_of_exitStatus (by decide +kernel : exitStatus w _ = 0)) rfl
  obtain ⟨full, bare, without, hfull, hwithout, hbare, -, -, hsame, -⟩ :=
    wire_of_header .usual w "hpgl2dxy".toList ["job".toList] _ _ _ _ _ hrun hprepared hfound
  have hline : "# Converted by: a\nH - with: hpgl2dxy".toList ∈
      headIn w "hpgl2dxy".toList "job.plt".toList (targetPath "job".toList "job.plt".toList)
        true := by
    decide +kernel
  refine ⟨_, full, bare, without, hrun, hfull, hwithout, hbare, fun h => ?_⟩
  have hpiece := hsame.mp h _ hline "H - with: hpgl2dxy".toList (by decide +kernel)
  exact absurd hpiece (by decide +kernel)

end CommandLine

end PenPlotter
