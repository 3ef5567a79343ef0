import PenPlotter.Libraries.Usual
import PenPlotter.Proofs.CommandLine.Run
import PenPlotter.Proofs.Dialect.Plain
import PenPlotter.Proofs.Dialect.Roland
import PenPlotter.Proofs.Disk.Files

/-!
# Converting a file is all or nothing

A conversion reads its arguments and its settings, looks for its source, converts it and writes the
file.  It may end at each of these steps (`Ends`), and does end in one of these ways
(`ends_convertFile`).  The file is written last.  So a conversion that succeeds puts the file on
the disk and nothing else, and one that fails leaves the disk as it is, but for two kinds of
failure that come too late: the file is open and does not take all of its text, or it is written
and nobody takes the message that says so.  The exit status tells these apart from success, and
tells from all other failures the one of a name that no plot file has (`conversion_of_run`).
-/

namespace PenPlotter

namespace CommandLine

variable {α : Type} {lib : Libraries} {w : World} {program : Text} {args : List Text}

/-! ## 1. How a conversion ends -/

/-- Whether arguments are in order and ask for a conversion under settings that are accepted. -/
structure Prepared (lib : Libraries) (w : World) (args : List Text) (request : ConvertRequest)
    (settings : Settings) : Prop where
  read : ConvertRequest.read args = .ok request
  adjusted : ∃ base, loaded lib w request.config = .ok base ∧ settings = request.adjust base
  accepted : settings.check = none

/-- Whether a file is the first of those that a name may mean, and holds the given bytes. -/
structure Found (w : World) (name source : Text) (bytes : List UInt8) : Prop where
  first : (sourcePaths name).find? (w.disk.isFile w.directory) = some source
  content : w.disk.read w.directory source = .ok bytes

/-- The lines that commands are written as on the device. -/
def postedLines (lib : Libraries) (commands : List Command) : Except TemplateFault (List Text) :=
  lib.templates.roland.bind fun templates => lib.templates.post templates commands

theorem postedLines_of_error {fault : TemplateFault} (commands : List Command)
    (h : lib.templates.roland = .error fault) : postedLines lib commands = .error fault := by
  rw [postedLines, h]
  rfl

theorem postedLines_of_ok {templates : lib.templates.Templates} (commands : List Command)
    (h : lib.templates.roland = .ok templates) :
    postedLines lib commands = lib.templates.post templates commands := by
  rw [postedLines, h]
  rfl

/-- In a template language that keeps its promise, commands are written as their texts. -/
theorem postedLines_of_lawful (h : lib.templates.Lawful) (commands : List Command) :
    postedLines lib commands = .ok (commands.map Command.text) := by
  obtain ⟨templates, hroland⟩ := h.exists_roland
  rw [postedLines_of_ok commands hroland, TemplateEngine.post_roland h hroland]

/-- The lines of the file that is made of a source: the head, if it is wanted, and then the
commands. -/
def convertedLines (w : World) (program name source : Text) (settings : Settings)
    (posted : List Text) : List Text :=
  headIn w program source (targetPath name source) settings.header ++ posted

/-- Whether a conversion comes to the lines that the commands of its source are written as. -/
structure Converted (lib : Libraries) (w : World) (args : List Text) (request : ConvertRequest)
    (settings : Settings) (source : Text) (bytes : List UInt8) (posted : List Text) : Prop where
  prepared : Prepared lib w args request settings
  found : Found w request.name source bytes
  announced : w.refusals.printing w.output = none
  readable : w.readFile source = .ok bytes
  converted : ∃ commands, convert (Bytes.text bytes) settings = .ok commands ∧
    postedLines lib commands = .ok posted

/-- What has been printed when the file is written. -/
def announced (w : World) (name source : Text) : Text :=
  w.output ++ announcement source (targetPath name source)

/-- Whether a change is that of the target of a conversion to the text of its lines. -/
def WritesTarget (w : World) (program name source : Text) (settings : Settings)
    (posted : List Text) (r : Except SystemFault Unit) (disk : Disk) : Prop :=
  w.Changes (fun _ => []) (targetPath name source)
    (Text.toBytes (fileText (convertedLines w program name source settings posted))) r disk

/-- How a conversion ends: the result, and the disk that it leaves. -/
inductive Ends (lib : Libraries) (w : World) (program : Text) (args : List Text) :
    Except Failure Unit → Disk → Prop
  | misread {failure : Failure} (h : ConvertRequest.read args = .error failure) :
      Ends lib w program args (.error failure) w.disk
  | unloaded {request : ConvertRequest} {failure : Failure}
      (hread : ConvertRequest.read args = .ok request)
      (h : loaded lib w request.config = .error failure) :
      Ends lib w program args (.error failure) w.disk
  | rejected {request : ConvertRequest} {base : Settings} {fault : Settings.Fault}
      (hread : ConvertRequest.read args = .ok request)
      (hloaded : loaded lib w request.config = .ok base)
      (h : (request.adjust base).check = some fault) :
      Ends lib w program args (.error (.settings fault)) w.disk
  | noSource {request : ConvertRequest} {settings : Settings}
      (hprepared : Prepared lib w args request settings)
      (h : (sourcePaths request.name).find? (w.disk.isFile w.directory) = none) :
      Ends lib w program args (.error (.noSource request.name)) w.disk
  | unannounced {request : ConvertRequest} {settings : Settings} {source : Text}
      {bytes : List UInt8} {fault : SystemFault}
      (hprepared : Prepared lib w args request settings)
      (hfound : Found w request.name source bytes)
      (h : w.refusals.printing w.output = some fault) :
      Ends lib w program args (.error (.unprinted fault)) w.disk
  | unread {request : ConvertRequest} {settings : Settings} {source : Text}
      {bytes : List UInt8} {fault : SystemFault}
      (hprepared : Prepared lib w args request settings)
      (hfound : Found w request.name source bytes)
      (h : w.readFile source = .error fault) :
      Ends lib w program args (.error (.unread source fault)) w.disk
  | unconverted {request : ConvertRequest} {settings : Settings} {source : Text}
      {bytes : List UInt8} {fault : ConversionFault}
      (hprepared : Prepared lib w args request settings)
      (hfound : Found w request.name source bytes)
      (h : convert (Bytes.text bytes) settings = .error fault) :
      Ends lib w program args (.error (.unconverted source fault)) w.disk
  | unposted {request : ConvertRequest} {settings : Settings} {source : Text}
      {bytes : List UInt8} {commands : List Command} {fault : TemplateFault}
      (hprepared : Prepared lib w args request settings)
      (hfound : Found w request.name source bytes)
      (hconvert : convert (Bytes.text bytes) settings = .ok commands)
      (h : postedLines lib commands = .error fault) :
      Ends lib w program args (.error (.dialect fault)) w.disk
  | unwritten {request : ConvertRequest} {settings : Settings} {source : Text}
      {bytes : List UInt8} {posted : List Text} {fault : SystemFault} {disk : Disk}
      (hconverted : Converted lib w args request settings source bytes posted)
      (hwrite : WritesTarget w program request.name source settings posted (.error fault) disk) :
      Ends lib w program args (.error (.unwritten (targetPath request.name source) fault)) disk
  | unconfirmed {request : ConvertRequest} {settings : Settings} {source : Text}
      {bytes : List UInt8} {posted : List Text} {fault : SystemFault} {disk : Disk}
      (hconverted : Converted lib w args request settings source bytes posted)
      (hwrite : WritesTarget w program request.name source settings posted (.ok ()) disk)
      (h : w.refusals.printing (announced w request.name source) = some fault) :
      Ends lib w program args (.error (.unprinted fault)) disk
  | converted {request : ConvertRequest} {settings : Settings} {source : Text}
      {bytes : List UInt8} {posted : List Text} {disk : Disk}
      (hconverted : Converted lib w args request settings source bytes posted)
      (hwrite : WritesTarget w program request.name source settings posted (.ok ()) disk)
      (h : w.refusals.printing (announced w request.name source) = none) :
      Ends lib w program args (.ok ()) disk

/-- Whether a computation that starts in a world comes to one of the ends of a conversion, and
leaves the world as it was but for the disk and what has been printed. -/
def Leads (lib : Libraries) (w : World) (program : Text) (args : List Text)
    (x : ExceptT Failure (StateM World) Unit) (start : World) : Prop :=
  ∃ r disk output, Ends lib w program args r disk ∧ x.run start = (r, { w with disk, output })

namespace Leads

variable {x : ExceptT Failure (StateM World) α} {f : α → ExceptT Failure (StateM World) Unit}
  {start next : World}

theorem of_ok {a : α} (hx : x.run start = (.ok a, next))
    (h : Leads lib w program args (f a) next) : Leads lib w program args (x >>= f) start := by
  rw [Leads, run_bind_ok hx]
  exact h

/-- A failure before anything is written leaves the disk as it is. -/
theorem of_error {failure : Failure} {output : Text}
    (hx : x.run start = (.error failure, { w with output }))
    (h : Ends lib w program args (.error failure) w.disk) :
    Leads lib w program args (x >>= f) start :=
  ⟨_, _, _, h, run_bind_error hx⟩

end Leads

section

variable {request : ConvertRequest} {settings : Settings} {source : Text} {bytes : List UInt8}
  {posted : List Text}

/-- **Writing comes to the end of a conversion.** -/
theorem leads_write (hconverted : Converted lib w args request settings source bytes posted) :
    Leads lib w program args
      (do
        attempt (.unwritten (targetPath request.name source))
          (World.platform.write (targetPath request.name source)
            (Text.toBytes
              (fileText (convertedLines w program request.name source settings posted))))
        say World.platform "... done!\n".toList)
      (printed w (announcement source (targetPath request.name source))) := by
  obtain ⟨r, disk, hchanges, hwrite⟩ := exists_run_write
    (printed w (announcement source (targetPath request.name source)))
    (.unwritten (targetPath request.name source)) (targetPath request.name source)
    (Text.toBytes (fileText (convertedLines w program request.name source settings posted)))
  have htarget : WritesTarget w program request.name source settings posted r disk :=
    changes_of_printed hchanges
  cases r with
  | error fault => exact ⟨_, _, _, .unwritten hconverted htarget, run_bind_error hwrite⟩
  | ok _ =>
    refine .of_ok hwrite ?_
    cases hprint : w.refusals.printing (announced w request.name source) with
    | some fault =>
      exact ⟨_, _, _, .unconfirmed hconverted htarget hprint, run_say_error _ hprint⟩
    | none => exact ⟨_, _, _, .converted hconverted htarget hprint, run_say_ok _ hprint⟩

end

/-- **A conversion ends in one of these ways.** -/
theorem ends_convertFile (lib : Libraries) (w : World) (program : Text) (args : List Text) :
    Leads lib w program args (convertFile lib World.platform program args) w := by
  rw [convertFile]
  cases hread : ConvertRequest.read args with
  | error failure => exact .of_error (run_result_error id rfl) (.misread hread)
  | ok request =>
  refine .of_ok (run_result_ok id rfl) ?_
  have hsettings := run_loadSettings (w := w) lib request.config
  cases hloaded : loaded lib w request.config with
  | error failure =>
    rw [hloaded] at hsettings
    exact .of_error hsettings (.unloaded hread hloaded)
  | ok base =>
  rw [hloaded] at hsettings
  refine .of_ok hsettings ?_
  cases hcheck : (request.adjust base).check with
  | some fault =>
    simp only [hcheck]
    have hthrow : (throw (.settings fault) : ExceptT Failure (StateM World) PUnit).run w =
        (.error (.settings fault), w) := rfl
    exact .of_error hthrow (.rejected hread hloaded hcheck)
  | none =>
  have hprepared : Prepared lib w args request (request.adjust base) :=
    ⟨hread, ⟨base, hloaded, rfl⟩, hcheck⟩
  simp only [hcheck]
  have hfind := run_lift (findFile World.platform (sourcePaths request.name)) (w := w)
  rw [run_findFile] at hfind
  refine .of_ok hfind ?_
  cases hsource : (sourcePaths request.name).find? (w.disk.isFile w.directory) with
  | none => exact ⟨_, _, _, .noSource hprepared hsource, rfl⟩
  | some source =>
  obtain ⟨bytes, hbytes⟩ := Disk.isFile_iff.mp (List.find?_some hsource)
  have hfound : Found w request.name source bytes := ⟨hsource, hbytes⟩
  cases hprint : w.refusals.printing w.output with
  | some fault =>
    exact .of_error (run_say_error _ hprint) (.unannounced hprepared hfound hprint)
  | none =>
  refine .of_ok (run_say_ok _ hprint) ?_
  cases hreadable : w.readFile source with
  | error fault =>
    exact .of_error (run_read_printed_error _ _ hreadable) (.unread hprepared hfound hreadable)
  | ok content =>
  obtain rfl : content = bytes :=
    Except.ok.inj ((World.read_of_readFile hreadable).symm.trans hbytes)
  refine .of_ok (run_read_printed_ok _ _ hreadable) ?_
  cases hconvert : convert (Bytes.text content) (request.adjust base) with
  | error fault =>
    exact .of_error (run_result_error _ rfl) (.unconverted hprepared hfound hconvert)
  | ok commands =>
  refine .of_ok (run_result_ok _ rfl) ?_
  cases hroland : lib.templates.roland with
  | error fault =>
    exact .of_error (run_result_error _ rfl)
      (.unposted hprepared hfound hconvert (postedLines_of_error commands hroland))
  | ok templates =>
  have hposted := postedLines_of_ok commands hroland
  refine .of_ok (run_result_ok _ rfl) (.of_ok (run_header_printed ..) ?_)
  cases hpost : lib.templates.post templates commands with
  | error fault =>
    exact .of_error (run_result_error _ rfl)
      (.unposted hprepared hfound hconvert (hposted.trans hpost))
  | ok posted =>
  refine .of_ok (run_result_ok _ rfl) ?_
  exact leads_write
    ⟨hprepared, hfound, hprint, hreadable, commands, hconvert, hposted.trans hpost⟩

/-- **A conversion that comes to its lines succeeds**, if its target is opened and takes them all
and the last message is printed. -/
theorem exists_run_of_converted {request : ConvertRequest} {settings : Settings} {source : Text}
    {bytes : List UInt8} {posted : List Text} {place : Place} {text : List UInt8}
    (h : Converted lib w args request settings source bytes posted)
    (htext : text = Text.toBytes
      (fileText (convertedLines w program request.name source settings posted)))
    (hopen : w.openFile (targetPath request.name source) = .ok place)
    (htakes : w.Takes place text)
    (hprint : w.refusals.printing (announced w request.name source) = none) :
    ∃ after, (convertFile lib World.platform program args).run w = (.ok (), after) ∧
      after.disk = w.disk.put place (.file text) := by
  obtain ⟨⟨hread, ⟨base, hbase, rfl⟩, hcheck⟩, hfound, hannounced, hreadable, commands, hconvert,
    hposted⟩ := h
  have hsettings := run_loadSettings (w := w) lib request.config
  rw [hbase] at hsettings
  have hfind := run_lift (findFile World.platform (sourcePaths request.name)) (w := w)
  rw [run_findFile, hfound.first] at hfind
  cases hroland : lib.templates.roland with
  | error fault =>
    rw [postedLines_of_error commands hroland] at hposted
    cases hposted
  | ok templates =>
  rw [postedLines_of_ok commands hroland] at hposted
  have hwrite := run_write_ok
    (w := printed w (announcement source (targetPath request.name source)))
    (.unwritten (targetPath request.name source)) hopen htakes
  rw [htext] at hwrite ⊢
  rw [convertFile, run_bind_ok (run_result_ok id hread), run_bind_ok hsettings]
  simp only [hcheck]
  exact ⟨_, (run_bind_ok hfind).trans <| (run_bind_ok (run_say_ok _ hannounced)).trans <|
    (run_bind_ok (run_read_printed_ok _ _ hreadable)).trans <|
    (run_bind_ok (run_result_ok _ hconvert)).trans <|
    (run_bind_ok (run_result_ok _ hroland)).trans <|
    (run_bind_ok (run_header_printed ..)).trans <|
    (run_bind_ok (run_result_ok _ hposted)).trans <|
    (run_bind_ok hwrite).trans (run_say_ok _ hprint), rfl⟩

/-! ## 2. The exit status of each end -/

theorem status_of_readFrom {p : ConvertRequest.Partway} {args : List Text} {failure : Failure}
    (h : ConvertRequest.readFrom p args = .error failure) : failure.status = 1 := by
  fun_induction ConvertRequest.readFrom p args with
  | case1 => cases h
  | case2 p arg hconfig path rest ih => exact ih h
  | case3 => obtain rfl := Except.error.inj h; rfl
  | case4 p rest hconfig ih => exact ih h
  | case5 p arg rest hconfig hheader hname ih => exact ih h
  | case6 p arg rest hconfig hheader hname hscale scale hread ih => exact ih h
  | case7 => obtain rfl := Except.error.inj h; rfl
  | case8 => obtain rfl := Except.error.inj h; rfl

theorem status_of_read {failure : Failure} (h : ConvertRequest.read args = .error failure) :
    failure.status = 1 := by
  rw [ConvertRequest.read] at h
  cases hread : ConvertRequest.readFrom {} args with
  | error fault =>
    rw [hread] at h
    obtain rfl := Except.error.inj h
    exact status_of_readFrom hread
  | ok p =>
    simp only [hread] at h
    cases hname : p.name with
    | some name => rw [hname] at h; cases h
    | none =>
      rw [hname] at h
      obtain rfl := Except.error.inj h
      rfl

theorem status_of_loaded {config : Option Text} {failure : Failure}
    (h : loaded lib w config = .error failure) : failure.status = 1 := by
  cases config with
  | none => cases h
  | some path =>
    cases hread : w.readFile path with
    | error fault =>
      rw [loaded, hread] at h
      obtain rfl := Except.error.inj h
      rfl
    | ok bytes =>
      rw [loaded_of_readFile lib hread] at h
      cases hload : Settings.load lib.records bytes with
      | error fault =>
        rw [hload] at h
        obtain rfl := Except.error.inj h
        rfl
      | ok settings =>
        rw [hload] at h
        cases h

/-- Whether the arguments and the settings of a conversion are in order, and no plot file has the
name that is given. -/
def Sourceless (lib : Libraries) (w : World) (args : List Text) : Prop :=
  ∃ request settings, Prepared lib w args request settings ∧
    ∀ path ∈ sourcePaths request.name, w.disk.isFile w.directory path = false

/-- Whether a conversion comes to a fill that has no last stroke. -/
def ComesToEndlessFill (lib : Libraries) (w : World) (args : List Text) : Prop :=
  ∃ request settings source bytes line, Prepared lib w args request settings ∧
    Found w request.name source bytes ∧ w.refusals.printing w.output = none ∧
    w.readFile source = .ok bytes ∧
    convert (Bytes.text bytes) settings = .error (.program (.endlessFill line))

/-- What arguments ask for and what settings they lead to is settled by the world. -/
theorem Prepared.unique {request request' : ConvertRequest} {settings settings' : Settings}
    (h : Prepared lib w args request settings) (h' : Prepared lib w args request' settings') :
    request = request' ∧ settings = settings' := by
  obtain ⟨hread, ⟨base, hbase, rfl⟩, -⟩ := h
  obtain ⟨hread', ⟨base', hbase', rfl⟩, -⟩ := h'
  obtain rfl := Except.ok.inj (hread.symm.trans hread')
  obtain rfl := Except.ok.inj (hbase.symm.trans hbase')
  exact ⟨rfl, rfl⟩

/-- Arguments in order lead to settings that are loaded and accepted. -/
theorem Prepared.loaded_of_read {request request' : ConvertRequest} {settings : Settings}
    (h : Prepared lib w args request settings) (hread : ConvertRequest.read args = .ok request') :
    ∃ base, loaded lib w request'.config = .ok base ∧ (request'.adjust base).check = none := by
  obtain ⟨hread', ⟨base, hbase, rfl⟩, haccepted⟩ := h
  obtain rfl := Except.ok.inj (hread'.symm.trans hread)
  exact ⟨base, hbase, haccepted⟩

/-- Which file is found and what it holds is settled by the world. -/
theorem Found.unique {name source source' : Text} {bytes bytes' : List UInt8}
    (h : Found w name source bytes) (h' : Found w name source' bytes') :
    source = source' ∧ bytes = bytes' := by
  obtain rfl := Option.some.inj (h.first.symm.trans h'.first)
  exact ⟨rfl, Except.ok.inj (h.content.symm.trans h'.content)⟩

theorem sourceless_of_find? {request : ConvertRequest} {settings : Settings}
    (hprepared : Prepared lib w args request settings)
    (h : (sourcePaths request.name).find? (w.disk.isFile w.directory) = none) :
    Sourceless lib w args := by
  refine ⟨request, settings, hprepared, fun path hpath => ?_⟩
  exact Bool.not_eq_true _ ▸ List.find?_eq_none.mp h path hpath

/-- A name that a plot file has is not one that no plot file has. -/
theorem Found.not_sourceless {request : ConvertRequest} {settings : Settings} {source : Text}
    {bytes : List UInt8} (hprepared : Prepared lib w args request settings)
    (hfound : Found w request.name source bytes) : ¬ Sourceless lib w args := by
  rintro ⟨request', settings', hprepared', hnone⟩
  obtain ⟨rfl, -⟩ := hprepared.unique hprepared'
  have hfile := List.find?_some hfound.first
  rw [hnone source (List.mem_of_find?_eq_some hfound.first)] at hfile
  cases hfile

section

variable {r : Except Failure Unit} {disk : Disk}

/-- **A failure has the status two if and only if no plot file has the name.** -/
theorem Ends.status_eq_two_iff (h : Ends lib w program args r disk) :
    (∃ failure, r = .error failure ∧ failure.status = 2) ↔ Sourceless lib w args := by
  have hone : (1 : Nat) ≠ 2 := by decide
  have hbroken : (101 : Nat) ≠ 2 := by decide
  have hother {failure : Failure} (hstatus : failure.status ≠ 2) :
      ¬ ∃ failure', (.error failure : Except Failure Unit) = .error failure' ∧
        failure'.status = 2 := by
    rintro ⟨_, heq, htwo⟩
    obtain rfl := Except.error.inj heq
    exact hstatus htwo
  cases h with
  | misread h =>
    refine iff_of_false (hother (by rw [status_of_read h]; exact hone)) ?_
    rintro ⟨request, settings, hprepared, -⟩
    rw [hprepared.read] at h
    cases h
  | unloaded hread h =>
    refine iff_of_false (hother (by rw [status_of_loaded h]; exact hone)) ?_
    rintro ⟨request, settings, hprepared, -⟩
    obtain ⟨base, hbase, -⟩ := hprepared.loaded_of_read hread
    rw [hbase] at h
    cases h
  | rejected hread hloaded h =>
    refine iff_of_false (hother hone) ?_
    rintro ⟨request, settings, hprepared, -⟩
    obtain ⟨base, hbase, haccepted⟩ := hprepared.loaded_of_read hread
    obtain rfl := Except.ok.inj (hloaded.symm.trans hbase)
    rw [haccepted] at h
    cases h
  | noSource hprepared h =>
    exact iff_of_true ⟨_, rfl, rfl⟩ (sourceless_of_find? hprepared h)
  | unannounced hprepared hfound =>
    exact iff_of_false (hother hbroken) (hfound.not_sourceless hprepared)
  | unread hprepared hfound =>
    exact iff_of_false (hother hone) (hfound.not_sourceless hprepared)
  | unconverted hprepared hfound =>
    exact iff_of_false (hother hone) (hfound.not_sourceless hprepared)
  | unposted hprepared hfound =>
    exact iff_of_false (hother hone) (hfound.not_sourceless hprepared)
  | unwritten hconverted =>
    exact iff_of_false (hother hone) (hconverted.found.not_sourceless hconverted.prepared)
  | unconfirmed hconverted =>
    exact iff_of_false (hother hbroken) (hconverted.found.not_sourceless hconverted.prepared)
  | converted hconverted =>
    exact iff_of_false (fun ⟨_, h, _⟩ => nomatch h)
      (hconverted.found.not_sourceless hconverted.prepared)

/-- A failure has the status one or two, or something could not be printed. -/
theorem Ends.status_of_error {failure : Failure}
    (h : Ends lib w program args (.error failure) disk) :
    failure.status = 1 ∨ failure.status = 2 ∨
      failure.status = 101 ∧ ∃ t, w.refusals.printing t ≠ none := by
  have hrefused {t : Text} {fault : SystemFault} (h : w.refusals.printing t = some fault) :
      ∃ t, w.refusals.printing t ≠ none :=
    ⟨t, by rw [h]; exact Option.some_ne_none fault⟩
  cases h with
  | misread h => exact .inl (status_of_read h)
  | unloaded _ h => exact .inl (status_of_loaded h)
  | rejected => exact .inl rfl
  | noSource => exact .inr (.inl rfl)
  | unannounced _ _ h => exact .inr (.inr ⟨rfl, hrefused h⟩)
  | unread => exact .inl rfl
  | unconverted => exact .inl rfl
  | unposted => exact .inl rfl
  | unwritten => exact .inl rfl
  | unconfirmed _ _ h => exact .inr (.inr ⟨rfl, hrefused h⟩)

/-- **The exit status is two if and only if no plot file has the name and this can be said.** -/
theorem Ends.exitStatus_eq_two_iff (h : Ends lib w program args r disk) :
    exitStatus w r = 2 ↔
      Sourceless lib w args ∧ w.refusals.printingErrors w.errorOutput = none := by
  rw [← h.status_eq_two_iff]
  cases r with
  | ok _ =>
    have hzero : (0 : Nat) ≠ 2 := by decide
    exact iff_of_false hzero fun ⟨⟨_, h, _⟩, _⟩ => nomatch h
  | error failure =>
    rcases exitStatus_error w failure with ⟨hstatus, hprint⟩ | ⟨hstatus, hprint⟩
    · rw [hstatus]
      exact ⟨fun h => ⟨⟨failure, rfl, h⟩, hprint⟩,
        fun ⟨⟨_, h, htwo⟩, _⟩ => Except.error.inj h ▸ htwo⟩
    · rw [hstatus]
      exact iff_of_false (by decide) fun h => hprint h.2

/-- **Every other failure has the exit status one**, or something could not be printed. -/
theorem Ends.exitStatus_of_failed (h : Ends lib w program args r disk)
    (hfailed : exitStatus w r ≠ 0) (htwo : exitStatus w r ≠ 2) :
    exitStatus w r = 1 ∨ exitStatus w r = 101 ∧ ((∃ t, w.refusals.printing t ≠ none) ∨
      w.refusals.printingErrors w.errorOutput ≠ none) := by
  cases r with
  | ok _ => exact absurd rfl hfailed
  | error failure =>
    rcases exitStatus_error w failure with ⟨hstatus, -⟩ | ⟨hstatus, hprint⟩
    · rw [hstatus] at htwo ⊢
      rcases h.status_of_error with hone | htwo' | ⟨hbroken, hrefused⟩
      · exact .inl hone
      · exact absurd htwo' htwo
      · exact .inr ⟨hbroken, .inl hrefused⟩
    · exact .inr ⟨hstatus, .inr hprint⟩

/-! ## 3. The disk at each end -/

/-- **What a conversion does to the disk.**  Either it fails and leaves it as it is, or it comes to
write its target.  Then it succeeds and has written it; or it fails, and the target has taken a part
of its text, or all of it but nobody takes the last message. -/
theorem Ends.disk_cases (h : Ends lib w program args r disk) :
    (∃ failure, r = .error failure) ∧ disk = w.disk ∨
      ∃ request settings source bytes posted place text,
        Converted lib w args request settings source bytes posted ∧
        text = Text.toBytes
          (fileText (convertedLines w program request.name source settings posted)) ∧
        w.openFile (targetPath request.name source) = .ok place ∧
        (r = .ok () ∧ w.Takes place text ∧
            w.refusals.printing (announced w request.name source) = none ∧
            w.disk.IsFileChange disk place text ∨
          (∃ fault, r = .error (.unwritten (targetPath request.name source) fault)) ∧
            (∃ n fault, w.refusals.writing place = some (n, fault) ∧ n < text.length ∧
              w.disk.IsFileChange disk place (text.take n)) ∨
          (∃ fault, r = .error (.unprinted fault) ∧
              w.refusals.printing (announced w request.name source) = some fault) ∧
            w.disk.IsFileChange disk place text) := by
  cases h with
  | unwritten hconverted hwrite =>
    rcases hwrite.of_error with ⟨-, hsame⟩ | ⟨place, n, fault, hopen, hlimit, hn, hchange⟩
    · exact .inl ⟨⟨_, rfl⟩, hsame⟩
    · exact .inr ⟨_, _, _, _, _, place, _, hconverted, rfl, hopen,
        .inr (.inl ⟨⟨_, rfl⟩, n, fault, hlimit, hn, hchange⟩)⟩
  | unconfirmed hconverted hwrite hprint =>
    obtain ⟨place, hopen, -, hchange⟩ := hwrite.of_ok
    exact .inr ⟨_, _, _, _, _, place, _, hconverted, rfl, hopen,
      .inr (.inr ⟨⟨_, rfl, hprint⟩, hchange⟩)⟩
  | converted hconverted hwrite hprint =>
    obtain ⟨place, hopen, htakes, hchange⟩ := hwrite.of_ok
    exact .inr ⟨_, _, _, _, _, place, _, hconverted, rfl, hopen,
      .inl ⟨rfl, htakes, hprint, hchange⟩⟩
  | misread => exact .inl ⟨⟨_, rfl⟩, rfl⟩
  | unloaded => exact .inl ⟨⟨_, rfl⟩, rfl⟩
  | rejected => exact .inl ⟨⟨_, rfl⟩, rfl⟩
  | noSource => exact .inl ⟨⟨_, rfl⟩, rfl⟩
  | unannounced => exact .inl ⟨⟨_, rfl⟩, rfl⟩
  | unread => exact .inl ⟨⟨_, rfl⟩, rfl⟩
  | unconverted => exact .inl ⟨⟨_, rfl⟩, rfl⟩
  | unposted => exact .inl ⟨⟨_, rfl⟩, rfl⟩

/-- Where nothing stops a write and every message is printed, a failure leaves the disk as it is. -/
theorem Ends.disk_eq_of_error {failure : Failure}
    (h : Ends lib w program args (.error failure) disk)
    (hwriting : ∀ p, w.refusals.writing p = none)
    (hprinting : ∀ t, w.refusals.printing t = none) : disk = w.disk := by
  rcases h.disk_cases with ⟨-, hsame⟩ | ⟨_, _, _, _, _, _, _, -, -, -, hend⟩
  · exact hsame
  rcases hend with ⟨hok, -⟩ | ⟨-, n, fault, hlimit, -⟩ | ⟨⟨fault, -, hprint⟩, -⟩
  · cases hok
  · cases (hwriting _).symm.trans hlimit
  · cases (hprinting _).symm.trans hprint

end

/-- The text of a file is its lines, each with a line end; of no lines it is a line end alone. -/
theorem fileText_eq (lines : List Text) :
    fileText lines = if lines = [] then lineEnd else lines.flatMap (· ++ lineEnd) := by
  induction lines with
  | nil => rfl
  | cons line rest ih =>
    rw [if_neg (List.cons_ne_nil _ _), List.flatMap_cons]
    cases rest with
    | nil =>
      rw [fileText, List.intercalate_singleton]
      simp
    | cons next more =>
      rw [if_neg (List.cons_ne_nil _ _)] at ih
      rw [← ih, fileText, List.intercalate_cons_cons, fileText]
      simp

/-! ## 4. All or nothing -/

/-- A run of the program for a conversion ends as the conversion does. -/
theorem exists_ends_of_run {after : World} {status : Nat} (husage : asksForUsage args = false)
    (hsend : args.head? ≠ some "send".toList)
    (hrun : run lib World.platform program args w = (status, after)) :
    ∃ r, Ends lib w program args r after.disk ∧ status = exitStatus w r := by
  rw [run_eq_convertFile lib program husage hsend] at hrun
  obtain ⟨hstatus, hdisk⟩ := run_finish (w := w) (convertFile lib World.platform program args)
  obtain ⟨r, disk, output, hends, hconvert⟩ := ends_convertFile lib w program args
  rw [hrun, hconvert] at hstatus hdisk
  have hdisk : after.disk = disk := hdisk
  rw [← hdisk] at hends
  exact ⟨r, hends, hstatus⟩

/-- **A conversion is all or nothing, up to what comes too late.**  Arguments that ask neither for
the usage nor for sending ask for a conversion.  Either the exit status is not zero and the disk is
as it was, or the arguments and the settings are in order, a plot file is found and converted, and
the disk differs in the file at the target path alone.  If the status is zero, that file holds the
head, if it is wanted, and the commands, each line ended by carriage return and line feed; if there
is no line at all, it holds one line end.  The status is not zero although the file has changed if
it takes a beginning of the text only, or if it holds all of it and the last message cannot be
printed.  Where nothing stops a write and every message is printed there are no such failures.

The status is two if and only if the arguments and the settings are in order, no path that the name
may mean leads to a file, and this can be said.  Every other failure that a conversion comes to has
the status one, or 101 where a message cannot be printed. -/
theorem conversion_of_run (lib : Libraries) (program : Text) (args : List Text) (w after : World)
    (status : Nat) (husage : asksForUsage args = false) (hsend : args.head? ≠ some "send".toList)
    (hrun : run lib World.platform program args w = (status, after)) :
    (status ≠ 0 ∧ after.disk = w.disk ∨
      ∃ request settings source bytes posted lines text place,
        Converted lib w args request settings source bytes posted ∧
        lines = headIn w program source (targetPath request.name source) settings.header ++
          posted ∧
        text = Text.toBytes (if lines = [] then lineEnd else lines.flatMap (· ++ lineEnd)) ∧
        w.disk.place w.directory (targetPath request.name source) = .ok place ∧
        (status = 0 ∧ w.disk.IsFileChange after.disk place text ∨
          (status = 1 ∨ status = 101) ∧
            (∃ n fault, w.refusals.writing place = some (n, fault) ∧ n < text.length ∧
              w.disk.IsFileChange after.disk place (text.take n)) ∨
          status = 101 ∧ w.refusals.printing (announced w request.name source) ≠ none ∧
            w.disk.IsFileChange after.disk place text)) ∧
    ((∀ p, w.refusals.writing p = none) → (∀ t, w.refusals.printing t = none) → status ≠ 0 →
      after.disk = w.disk) ∧
    (status = 2 ↔ Sourceless lib w args ∧ w.refusals.printingErrors w.errorOutput = none) ∧
    (¬ ComesToEndlessFill lib w args → status ≠ 0 → status ≠ 2 →
      status = 1 ∨ status = 101 ∧ ((∃ t, w.refusals.printing t ≠ none) ∨
        w.refusals.printingErrors w.errorOutput ≠ none)) := by
  obtain ⟨r, hends, rfl⟩ := exists_ends_of_run husage hsend hrun
  refine ⟨?_, fun hwriting hprinting hfailed => ?_, hends.exitStatus_eq_two_iff,
    fun _ => hends.exitStatus_of_failed⟩
  · rcases hends.disk_cases with ⟨⟨failure, rfl⟩, hsame⟩ |
      ⟨request, settings, source, bytes, posted, place, text, hconverted, htext, hopen, hend⟩
    · exact .inl ⟨exitStatus_error_ne_zero w failure, hsame⟩
    rw [fileText_eq, convertedLines] at htext
    refine .inr ⟨request, settings, source, bytes, posted, _, text, place, hconverted, rfl, htext,
      World.place_of_openFile hopen, ?_⟩
    rcases hend with ⟨rfl, -, -, hchange⟩ | ⟨⟨fault, rfl⟩, hstopped⟩ |
      ⟨⟨fault, rfl, hprint⟩, hchange⟩
    · exact .inl ⟨rfl, hchange⟩
    · exact .inr (.inl ⟨(exitStatus_error w _).imp And.left And.left, hstopped⟩)
    · refine .inr (.inr ⟨?_, by rw [hprint]; exact Option.some_ne_none fault, hchange⟩)
      exact (exitStatus_error w (.unprinted fault)).elim And.left And.left
  · cases r with
    | ok _ => exact absurd rfl hfailed
    | error failure => exact hends.disk_eq_of_error hwriting hprinting

/-- A world with one plot file, in the root directory. -/
def plotWorld (name content : String) : World where
  disk := ⟨[([name.toList], .file (Text.toBytes content.toList))]⟩
  directory := []
  environment := []
  date := []
  output := []
  errorOutput := []

/-- A plot file of one move is converted to a file of one line, and nothing else differs. -/
theorem conversion_of_run_one_move :
    asksForUsage ["job".toList, "--no-header".toList] = false ∧
      ["job".toList, "--no-header".toList].head? ≠ some "send".toList ∧
      ∃ after place,
        run .usual World.platform "hpgl2dxy".toList ["job".toList, "--no-header".toList]
          (plotWorld "job.plt" "PU;PA 400,400;") = (0, after) ∧
        after.disk.node? ["job.hita".toList] = some (.file (Text.toBytes "M100,100\r\n".toList)) ∧
        ∀ other ≠ place,
          after.disk.node? other = (plotWorld "job.plt" "PU;PA 400,400;").disk.node? other := by
  have husage : asksForUsage ["job".toList, "--no-header".toList] = false := by decide
  have hsend : ["job".toList, "--no-header".toList].head? ≠ some "send".toList := by decide
  have hrun : run .usual World.platform "hpgl2dxy".toList ["job".toList, "--no-header".toList]
      (plotWorld "job.plt" "PU;PA 400,400;") = (0, _) :=
    Prod.ext (by decide +kernel) rfl
  obtain ⟨hdisk, -⟩ := conversion_of_run _ _ _ _ _ _ husage hsend hrun
  rcases hdisk with ⟨hfailed, -⟩ | ⟨_, _, _, _, _, _, _, place, -, -, -, -, hend⟩
  · exact absurd rfl hfailed
  rcases hend with ⟨-, hchange⟩ | ⟨hstatus, -⟩ | ⟨hstatus, -⟩
  · exact ⟨husage, hsend, _, place, hrun, by decide +kernel, hchange.others⟩
  · exact absurd hstatus (by decide)
  · exact absurd hstatus (by decide)

/-- A world with one plot file, that of one move, where a file takes four bytes only. -/
def fullWorld : World :=
  { plotWorld "job.plt" "PU;PA 400,400;" with
    refusals := { writing := fun _ => some (4, .other "No space left on device (os error 28)") } }

/-- A world with one plot file, that of one move, where one message is taken and no second one. -/
def hurriedWorld : World :=
  { plotWorld "job.plt" "PU;PA 400,400;" with
    refusals :=
      { printing := fun t => if t = [] then none else some (.other "Broken pipe (os error 32)") } }

/-- An empty plot file without a head is converted to no lines, but its file holds a line end.
Where the disk is full, a conversion fails and leaves a beginning of its file; where the second
message finds no one to take it, it fails and leaves the whole file, and the status is not one. -/
theorem conversion_of_nothing :
    asksForUsage ["job".toList, "--no-header".toList] = false ∧
      ["job".toList, "--no-header".toList].head? ≠ some "send".toList ∧
      (convert [] { header := false } = .ok [] ∧ postedLines .usual [] = .ok [] ∧
        ∃ after,
          run .usual World.platform "hpgl2dxy".toList ["job".toList, "--no-header".toList]
            (plotWorld "job.plt" "") = (0, after) ∧
          after.disk.node? ["job.hita".toList] = some (.file (Text.toBytes lineEnd)) ∧
          after.disk.node? ["job.hita".toList] ≠
            some (.file (Text.toBytes (([] : List Text).flatMap (· ++ lineEnd))))) ∧
      (∃ after,
        run .usual World.platform "hpgl2dxy".toList ["job".toList, "--no-header".toList]
          fullWorld = (1, after) ∧
        fullWorld.disk.node? ["job.hita".toList] = none ∧
        after.disk.node? ["job.hita".toList] = some (.file (Text.toBytes "M100".toList))) ∧
      ∃ after,
        run .usual World.platform "hpgl2dxy".toList ["job".toList, "--no-header".toList]
          hurriedWorld = (101, after) ∧
        hurriedWorld.disk.node? ["job.hita".toList] = none ∧
        after.disk.node? ["job.hita".toList] =
          some (.file (Text.toBytes "M100,100\r\n".toList)) :=
  ⟨by decide, by decide,
    ⟨convert_eq_ok_iff.mpr (by decide +kernel),
      postedLines_of_lawful TemplateEngine.plain_lawful [], _,
      Prod.ext (by decide +kernel) rfl, by decide +kernel, by decide +kernel⟩,
    ⟨_, Prod.ext (by decide +kernel) rfl, by decide +kernel, by decide +kernel⟩,
    ⟨_, Prod.ext (by decide +kernel) rfl, by decide +kernel, by decide +kernel⟩⟩

end CommandLine

end PenPlotter
