import PenPlotter.Proofs.CommandLine.Conversion
import PenPlotter.Proofs.Disk.LastName

/-!
# Which source a conversion replaces

The source and the target of a conversion differ in their last names alone, if they differ at all.
They are the same path if the source was found under its own name and already has the extension of
the target.  Otherwise they lead to the same file only through a link at one of the two
(`place_targetPath_iff`).  Where they do lead to the same file, a conversion that succeeds puts its
result in the place of what it has read, and one that fails when it writes may have lost a part of
it.  Where they do not, the source is as it was after any conversion (`source_of_convertFile`).
-/

namespace PenPlotter

namespace CommandLine

variable {lib : Libraries} {w : World} {name source fileName ext : Text} {bytes : List UInt8}

/-! ## 1. Last names -/

/-- A name without its extension is what stands before the last point, if anything does. -/
theorem stem_append_point (hext : '.' ∉ ext) (before : Text) :
    stem (before ++ '.' :: ext) = if before = [] then before ++ '.' :: ext else before := by
  have hreverse : (before ++ '.' :: ext).reverse = ext.reverse ++ '.' :: before.reverse := by
    simp
  have hall : ∀ c ∈ ext.reverse, decide (c ≠ '.') = true := fun c hc =>
    decide_eq_true fun h => hext (h ▸ List.mem_reverse.mp hc)
  have htake : ((before ++ '.' :: ext).reverse.takeWhile (· ≠ '.')).reverse = ext := by
    rw [hreverse, List.takeWhile_append_of_pos hall,
      List.takeWhile_cons_of_neg (by decide), List.append_nil, List.reverse_reverse]
  have hlength : (before ++ '.' :: ext).length - ext.length - 1 = before.length := by
    rw [List.length_append, List.length_cons]
    omega
  rw [stem, htake, hlength, List.take_left]

theorem stem_eq_nil_iff : stem fileName = [] ↔ fileName = [] := by
  constructor
  · intro h
    rw [stem] at h
    split at h
    · exact h
    · rename_i hne
      exact absurd h hne
  · rintro rfl
    rfl

theorem mem_of_mem_stem {c : Char} (h : c ∈ stem fileName) : c ∈ fileName := by
  rw [stem] at h
  split at h
  · exact h
  · exact List.mem_of_mem_take h

/-- The last name of a path after its extension has been replaced. -/
def renamed (fileName : Text) (suffix : String) : Text :=
  if stem fileName = ['.'] then ['.', '.'] else withSuffix (stem fileName) suffix

/-- Replacing the extension of a path changes its last name alone. -/
theorem replaceExtension_eq (path : Text) (suffix : String) :
    replaceExtension path suffix =
      Disk.beforeName path ++ renamed (Disk.lastName path) suffix := by
  rw [renamed]
  change (if stem (Disk.lastName path) = ['.'] then Disk.beforeName path ++ ['.', '.']
    else withSuffix (Disk.beforeName path ++ stem (Disk.lastName path)) suffix) = _
  split
  · rfl
  · rw [withSuffix, withSuffix, List.append_assoc]

/-- A name with an extension is the path before its last name and that name with the extension. -/
theorem withSuffix_eq (name : Text) (suffix : String) :
    withSuffix name suffix =
      Disk.beforeName name ++ withSuffix (Disk.lastName name) suffix := by
  rw [withSuffix, withSuffix, ← List.append_assoc, Disk.beforeName_append_lastName]

theorem isName_withSuffix {suffix : String} (hname : '/' ∉ fileName)
    (hsuffix : '/' ∉ suffix.toList) : Disk.IsName (withSuffix fileName suffix) := by
  refine ⟨List.append_ne_nil_of_right_ne_nil _ (List.cons_ne_nil _ _), ?_⟩
  rw [withSuffix, List.mem_append, List.mem_cons]
  rintro (h | h | h)
  · exact hname h
  · exact absurd h (by decide)
  · exact hsuffix h

theorem isName_renamed {suffix : String} (hname : '/' ∉ fileName)
    (hsuffix : '/' ∉ suffix.toList) : Disk.IsName (renamed fileName suffix) := by
  rw [renamed]
  split
  · exact ⟨by decide, by decide⟩
  · exact isName_withSuffix (fun h => hname (mem_of_mem_stem h)) hsuffix

/-! ## 2. The source and the target -/

/-- Whether a last name is that of a file with the extension of a target.  With the name `..`, which
no file has where the disk is a tree, a path is its own target as well. -/
def HasTargetName (fileName : Text) : Prop :=
  fileName = ['.', '.'] ∨
    ∃ before, before ≠ [] ∧ before ≠ ['.'] ∧ fileName = withSuffix before "hita"

/-- Replacing the extension gives back a name that has it, and no other. -/
theorem renamed_eq_self_iff : renamed fileName "hita" = fileName ↔ HasTargetName fileName := by
  constructor
  · intro h
    rw [renamed] at h
    split at h
    · exact .inl h.symm
    · rename_i hpoint
      refine .inr ⟨stem fileName, fun hnil => ?_, hpoint, h.symm⟩
      rw [hnil, stem_eq_nil_iff.mp hnil] at h
      exact absurd h (by decide)
  · rintro (rfl | ⟨before, hne, hpoint, rfl⟩)
    · rfl
    · have hstem : stem (withSuffix before "hita") = before := by
        rw [withSuffix, stem_append_point (by decide), if_neg hne]
      rw [renamed, hstem, if_neg hpoint]

/-- Whether a source is its own target: it was found under its own name, and that has the extension
already. -/
def IsOwnTarget (name source : Text) : Prop :=
  source = name ∧ HasTargetName (Disk.lastName name)

theorem targetPath_of_isOwnTarget (h : IsOwnTarget name source) :
    targetPath name source = source := by
  obtain ⟨rfl, hname⟩ := h
  rw [targetPath, if_pos rfl, replaceExtension_eq, renamed_eq_self_iff.mpr hname,
    Disk.beforeName_append_lastName]

theorem mem_of_mem_renamed {c : Char} {suffix : String} (h : c ∈ renamed fileName suffix) :
    c ∈ fileName ∨ c ∈ '.' :: suffix.toList := by
  rw [renamed] at h
  split at h
  · exact .inr (List.mem_cons.mpr (.inl (by simpa using h)))
  · rw [withSuffix, List.mem_append] at h
    exact h.imp_left mem_of_mem_stem

/-- A target path is made of the characters of the name and those of the extension. -/
theorem mem_of_mem_targetPath {c : Char} (h : c ∈ targetPath name source) :
    c ∈ name ∨ c ∈ '.' :: "hita".toList := by
  rw [targetPath] at h
  split at h
  · rename_i hown
    rw [hown, replaceExtension_eq, List.mem_append] at h
    rcases h with h | h
    · exact .inl (List.mem_of_mem_take h)
    · refine (mem_of_mem_renamed h).imp_left fun h => ?_
      rw [← Disk.beforeName_append_lastName name]
      exact List.mem_append_right _ h
  · rw [withSuffix, List.mem_append] at h
    exact h

/-- A source that was not found under its own name has an extension put behind it. -/
theorem Found.source_eq (h : Found w name source bytes) (hne : source ≠ name) :
    source = withSuffix name "plt" ∨ source = withSuffix name "hpgl" := by
  have hmem := List.mem_of_find?_eq_some h.first
  rw [sourcePaths, List.mem_cons, List.mem_cons, List.mem_singleton] at hmem
  rcases hmem with h | h | h
  · exact .inl h
  · exact .inr h
  · exact absurd h hne

/-- **The target leads to the source if and only if the source is its own target**, unless one of
them is a link. -/
theorem place_targetPath_iff (hfound : Found w name source bytes) {place : Place}
    (hplace : w.disk.place w.directory source = .ok place)
    (hsource : w.disk.IsDirect w.directory source)
    (htarget : w.disk.IsDirect w.directory (targetPath name source)) :
    w.disk.place w.directory (targetPath name source) = .ok place ↔ IsOwnTarget name source := by
  have hfile : w.disk.node? place ≠ some .directory := by
    obtain ⟨-, place', hplace', hnode⟩ := Disk.read_eq_ok_iff.mp hfound.content
    obtain rfl := Except.ok.inj (hplace.symm.trans hplace')
    rw [hnode]
    exact fun h => Node.noConfusion (Option.some.inj h)
  refine ⟨fun hsame => ?_, fun h => by rw [targetPath_of_isOwnTarget h, hplace]⟩
  have hslash := Disk.slash_not_mem_lastName name
  by_cases hown : source = name
  · refine ⟨hown, renamed_eq_self_iff.mp ?_⟩
    rw [targetPath, if_pos hown, hown, replaceExtension_eq] at hsame htarget
    rw [hown, ← Disk.beforeName_append_lastName name] at hplace hsource
    have hlast : Disk.IsName (Disk.lastName name) :=
      Disk.isName_lastName (hown ▸ hfound.content)
    exact Disk.eq_of_place_append (Disk.isBefore_beforeName name)
      (isName_renamed hslash (by decide)) hlast htarget hsource hfile hsame hplace
  · exfalso
    rw [targetPath, if_neg hown, withSuffix_eq] at hsame htarget
    have hnot {suffix : String} (hsuffix : '/' ∉ suffix.toList)
        (hne : suffix.toList ≠ "hita".toList) (hname : source = withSuffix name suffix) :
        False := by
      rw [hname, withSuffix_eq] at hplace hsource
      have hlast := Disk.eq_of_place_append (Disk.isBefore_beforeName name)
        (isName_withSuffix hslash hsuffix) (isName_withSuffix hslash (by decide)) hsource htarget
        hfile hplace hsame
      rw [withSuffix, withSuffix] at hlast
      exact hne (List.cons.inj (List.append_cancel_left hlast)).2
    rcases hfound.source_eq hown with h | h
    · exact hnot (by decide) (by decide) h
    · exact hnot (by decide) (by decide) h

section

variable {program : Text} {args : List Text} {r : Except Failure Unit} {disk : Disk}
  {request : ConvertRequest}

/-- A source that the target does not lead to is kept. -/
theorem Ends.read_of_place_ne (h : Ends lib w program args r disk)
    (hread : ConvertRequest.read args = .ok request) (hfound : Found w request.name source bytes)
    (hne : w.disk.place w.directory (targetPath request.name source) ≠
      w.disk.place w.directory source) : disk.read w.directory source = .ok bytes := by
  rcases h.disk_cases with ⟨-, rfl⟩ | ⟨_, _, _, _, _, place, _, hconverted, -, hopen, hend⟩
  · exact hfound.content
  obtain rfl := Except.ok.inj (hconverted.prepared.read.symm.trans hread)
  obtain ⟨rfl, rfl⟩ := hfound.unique hconverted.found
  have htakes := World.takesFile_of_openFile hopen
  rw [World.place_of_openFile hopen] at hne
  rcases hend with ⟨-, -, -, hchange⟩ | ⟨-, _, _, -, -, hchange⟩ | ⟨-, hchange⟩
  all_goals exact hchange.read_of_ne htakes (Ne.symm hne) hfound.content

/-- A source that the target leads to is kept by a failure that comes before the target is opened,
and else holds what the target has taken. -/
theorem Ends.read_of_place_eq (h : Ends lib w program args r disk)
    (hread : ConvertRequest.read args = .ok request) (hfound : Found w request.name source bytes)
    (hsame : w.disk.place w.directory (targetPath request.name source) =
      w.disk.place w.directory source) :
    (∃ failure, r = .error failure) ∧ disk.read w.directory source = .ok bytes ∨
      ∃ settings posted text,
        Converted lib w args request settings source bytes posted ∧
        text = Text.toBytes
          (fileText (convertedLines w program request.name source settings posted)) ∧
        (r = .ok () ∧ disk.read w.directory source = .ok text ∨
          (∃ fault, r = .error (.unwritten (targetPath request.name source) fault)) ∧
            (∃ place n fault, w.disk.place w.directory source = .ok place ∧
              w.refusals.writing place = some (n, fault) ∧ n < text.length ∧
              disk.read w.directory source = .ok (text.take n)) ∨
          (∃ fault, r = .error (.unprinted fault) ∧
            w.refusals.printing (announced w request.name source) = some fault) ∧
            disk.read w.directory source = .ok text) := by
  rcases h.disk_cases with ⟨hfailed, rfl⟩ |
    ⟨_, settings, _, _, posted, place, text, hconverted, htext, hopen, hend⟩
  · exact .inl ⟨hfailed, hfound.content⟩
  obtain rfl := Except.ok.inj (hconverted.prepared.read.symm.trans hread)
  obtain ⟨rfl, rfl⟩ := hfound.unique hconverted.found
  obtain ⟨hslash, -⟩ := Disk.read_eq_ok_iff.mp hfound.content
  rw [World.place_of_openFile hopen] at hsame
  have hheld {content : List UInt8} (hchange : w.disk.IsFileChange disk place content) :
      disk.read w.directory source = .ok content :=
    hchange.read_self (World.takesFile_of_openFile hopen) hslash hsame.symm
  refine .inr ⟨settings, posted, text, hconverted, htext, ?_⟩
  rcases hend with ⟨hok, -, -, hchange⟩ | ⟨herror, n, fault, hlimit, hn, hchange⟩ |
    ⟨herror, hchange⟩
  · exact .inl ⟨hok, hheld hchange⟩
  · exact .inr (.inl ⟨herror, place, n, fault, hsame.symm, hlimit, hn, hheld hchange⟩)
  · exact .inr (.inr ⟨herror, hheld hchange⟩)

end

/-- **Which source a conversion replaces.**  A source that is its own target has the path of the
target; where neither of the two is a link, the target leads to the source in this case only.  If
the target does not lead to the source, the content of the source is left as it is by every
conversion.  If it does, a conversion that succeeds replaces the content by what it was converted
to.  One that fails leaves the content as it is, unless the file has been opened for the text and
does not take all of it, or has taken it and the last message cannot be printed; where nothing
stops a write and every message is printed, a failure leaves the content as it is. -/
theorem source_of_convertFile (lib : Libraries) (w : World) (program : Text) (args : List Text)
    (request : ConvertRequest) (source : Text) (bytes : List UInt8)
    (hread : ConvertRequest.read args = .ok request)
    (hfound : Found w request.name source bytes) :
    ∃ r after, (convertFile lib World.platform program args).run w = (r, after) ∧
      (IsOwnTarget request.name source → targetPath request.name source = source) ∧
      (w.disk.IsDirect w.directory source →
        w.disk.IsDirect w.directory (targetPath request.name source) →
        (w.disk.place w.directory (targetPath request.name source) =
          w.disk.place w.directory source ↔ IsOwnTarget request.name source)) ∧
      (w.disk.place w.directory (targetPath request.name source) ≠
          w.disk.place w.directory source →
        after.disk.read w.directory source = .ok bytes) ∧
      (w.disk.place w.directory (targetPath request.name source) =
          w.disk.place w.directory source →
        (∃ failure, r = .error failure) ∧ after.disk.read w.directory source = .ok bytes ∨
        ∃ settings posted text,
          Converted lib w args request settings source bytes posted ∧
          text = Text.toBytes
            (fileText (convertedLines w program request.name source settings posted)) ∧
          (r = .ok () ∧ after.disk.read w.directory source = .ok text ∨
            (∃ fault, r = .error (.unwritten (targetPath request.name source) fault)) ∧
              (∃ place n fault, w.disk.place w.directory source = .ok place ∧
                w.refusals.writing place = some (n, fault) ∧ n < text.length ∧
                after.disk.read w.directory source = .ok (text.take n)) ∨
            (∃ fault, r = .error (.unprinted fault) ∧
              w.refusals.printing (announced w request.name source) = some fault) ∧
              after.disk.read w.directory source = .ok text)) ∧
      ((∀ p, w.refusals.writing p = none) → (∀ t, w.refusals.printing t = none) →
        (∃ failure, r = .error failure) → after.disk.read w.directory source = .ok bytes) := by
  obtain ⟨r, disk, output, hends, hrun⟩ := ends_convertFile lib w program args
  refine ⟨r, _, hrun, targetPath_of_isOwnTarget, fun hsource htarget => ?_,
    hends.read_of_place_ne hread hfound, hends.read_of_place_eq hread hfound, ?_⟩
  · obtain ⟨-, place, hplace, -⟩ := Disk.read_eq_ok_iff.mp hfound.content
    rw [hplace]
    exact place_targetPath_iff hfound hplace hsource htarget
  · rintro hwriting hprinting ⟨failure, rfl⟩
    obtain rfl := hends.disk_eq_of_error hwriting hprinting
    exact hfound.content

/-- A plot file with the extension `plt` is kept. -/
theorem source_of_convertFile_plt :
    ConvertRequest.read ["job".toList] = .ok ⟨"job".toList, none, none, true⟩ ∧
      Found (plotWorld "job.plt" "PU;PA 400,400;") "job".toList "job.plt".toList
        (Text.toBytes "PU;PA 400,400;".toList) ∧
      ((convertFile .usual World.platform "hpgl2dxy".toList ["job".toList]).run
          (plotWorld "job.plt" "PU;PA 400,400;")).2.disk.read [] "job.plt".toList =
        .ok (Text.toBytes "PU;PA 400,400;".toList) := by
  have hfound : Found (plotWorld "job.plt" "PU;PA 400,400;") "job".toList "job.plt".toList
      (Text.toBytes "PU;PA 400,400;".toList) :=
    ⟨by decide +kernel, rfl⟩
  obtain ⟨r, after, hrun, -, -, hkept, -⟩ :=
    source_of_convertFile .usual _ "hpgl2dxy".toList ["job".toList] _ _ _ rfl hfound
  refine ⟨rfl, hfound, ?_⟩
  rw [hrun]
  exact hkept (by decide +kernel)

/-- A plot file found under its own name, which has the extension of the target, is not kept. -/
theorem source_lost_by_convertFile :
    ¬ ∀ (w : World) (program : Text) (args : List Text) (request : ConvertRequest) (source : Text)
      (bytes : List UInt8), ConvertRequest.read args = .ok request →
        Found w request.name source bytes →
        ((convertFile .usual World.platform program args).run w).2.disk.read w.directory source =
          .ok bytes := by
  intro h
  have hfound : Found (plotWorld "job.hita" "PU;PA 400,400;") "job.hita".toList "job.hita".toList
      (Text.toBytes "PU;PA 400,400;".toList) :=
    ⟨by decide +kernel, rfl⟩
  have hread := h _ "hpgl2dxy".toList ["job.hita".toList, "--no-header".toList]
    ⟨"job.hita".toList, none, none, false⟩ _ _ rfl hfound
  exact absurd (congrArg Except.toOption hread) (by decide +kernel)

end CommandLine

end PenPlotter
