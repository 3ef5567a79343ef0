import PenPlotter.Libraries.Usual
import PenPlotter.Proofs.CommandLine.Run
import PenPlotter.Proofs.Notation.Records
import PenPlotter.Proofs.Text.Utf8

/-!
# Settings that are saved and loaded

Settings are written as a record, field by field.  A notation that loses nothing of records gives
these fields back.  They are all different, and there is one for every setting, so that no default
is left when all have been put in (`Settings.ofFields?_fields`).

A file with that record is accepted if and only if the settings are; what is loaded from it are the
settings themselves, with every double bit by bit.
-/

namespace PenPlotter

namespace Settings

variable {format : RecordFormat}

/-! ## 1. The fields of settings -/

theorem find?_name (q : Quantity) :
    Quantity.all.find? (fun q' => q'.name.toList == q.name.toList) = some q := by
  cases q <;> rfl

theorem map_fst_fields (s : Settings) :
    s.fields.map Prod.fst = Quantity.all.map (·.name.toList) ++ [headerName.toList] := by
  rw [fields, List.map_append, List.map_map]
  rfl

/-- No two fields have the same name. -/
theorem nodup_fields (s : Settings) : (s.fields.map Prod.fst).Nodup := by
  rw [map_fst_fields]
  decide

theorem isFieldName_name (q : Quantity) : IsFieldName q.name.toList := by
  cases q <;> exact isFieldName_of_all (by decide) (by decide)

/-- The names of fields are plain. -/
theorem isFieldName_fields (s : Settings) : ∀ field ∈ s.fields, IsFieldName field.1 := by
  intro field hfield
  have hname := List.mem_map_of_mem (f := Prod.fst) hfield
  rw [map_fst_fields, List.mem_append, List.mem_singleton] at hname
  rcases hname with hname | hname
  · obtain ⟨q, -, hq⟩ := List.mem_map.mp hname
    rw [← hq]
    exact isFieldName_name q
  · rw [hname]
    exact isFieldName_of_all (by decide) (by decide)

/-- What the fields of settings hold is what is expected of them. -/
theorem kindsOf_fields (s : Settings) : kindsOf s.fields = kinds := by
  rw [kindsOf, fields, kinds, List.map_append, List.map_map]
  rfl

/-- The settings `t` with some of the quantities of `s`. -/
def withQuantities (s : Settings) : Settings → List Quantity → Settings :=
  List.foldl fun t q => t.set (s.get q) q

theorem foldlM_put?_quantities (s t : Settings) (quantities : List Quantity) :
    (quantities.map fun q => (q.name.toList, FieldValue.number (s.get q))).foldlM put? t =
      some (s.withQuantities t quantities) := by
  induction quantities generalizing t with
  | nil => rfl
  | cons q quantities ih =>
    rw [List.map_cons, List.foldlM_cons, put?, find?_name]
    exact ih _

/-- With all quantities and the header of other settings, settings are the same as those: there is
nothing else in them. -/
theorem withQuantities_all (s t : Settings) :
    { s.withQuantities t Quantity.all with header := s.header } = s := by
  rw [withQuantities, Quantity.all]
  simp only [List.foldl_cons, List.foldl_nil, set, get]

/-- **The fields of settings make the settings**, and no default is left. -/
theorem ofFields?_fields (s : Settings) : ofFields? s.fields = some s := by
  rw [ofFields?, if_pos s.nodup_fields, fields, List.foldlM_append, foldlM_put?_quantities]
  exact congrArg some (s.withQuantities_all {})

/-! ## 2. Loading -/

/-- **What is loaded from saved settings** are the settings, if they are accepted, and else the
reason why they are not. -/
theorem load_text (h : format.Lawful) (s : Settings) :
    load format (Text.toBytes (s.text format)) =
      match s.check with
      | none => .ok s
      | some fault => .error (.rejected fault) := by
  have hread := h.read_write recordName s.nodup_fields s.isFieldName_fields
  rw [kindsOf_fields] at hread
  rw [load, Bytes.text?_toBytes, text]
  simp only [hread, Option.bind_some, ofFields?_fields]
  cases s.check <;> rfl

end Settings

/-! ## 3. A settings file -/

namespace CommandLine

/-- **Loading undoes saving.**  In a notation that loses nothing of records, what is read of a file
that settings have been written to are the settings, every amount bit by bit, if they are accepted;
if they are not, loading fails for the reason that they are not accepted for.  It fails for no
other reason, and changes nothing. -/
theorem loadSettings_of_write (lib : Libraries) (h : lib.records.Lawful) (s : Settings)
    (w after : World) (path : Text)
    (hwrite : World.platform.write path (Text.toBytes (s.text lib.records)) w = (.ok (), after))
    (hreading : ∀ p, w.disk.place w.directory path = .ok p → w.refusals.reading p = none) :
    ∃ bytes, after.readFile path = .ok bytes ∧
      (s.check = none → Settings.load lib.records bytes = .ok s ∧
        (loadSettings lib World.platform (some path)).run after = (.ok s, after)) ∧
      ∀ fault, s.check = some fault →
        Settings.load lib.records bytes = .error (.rejected fault) ∧
        (loadSettings lib World.platform (some path)).run after =
          (.error (.configUnloaded path (.rejected fault)), after) := by
  have hread := World.readFile_of_write hwrite hreading
  have hloaded := loaded_of_readFile lib hread
  have hload := s.load_text h
  refine ⟨_, hread, fun hcheck => ?_, fun fault hcheck => ?_⟩
  all_goals
    rw [hcheck] at hload
    rw [hload] at hloaded
    refine ⟨hload, ?_⟩
    rw [run_loadSettings, hloaded]
    rfl

/-- Settings with a tenth and with a zero of either sign are written to a file and loaded again. -/
theorem loadSettings_of_write_signed_zeros :
    ∃ (s : Settings) (w after : World),
      s.xDiv = .ofFloat (Binary64.ofDecimal false 1 (-1)) ∧
      s.xOffset = .ofFloat (Binary64.ofDecimal false 0 0) ∧
      s.yOffset = .ofFloat (Binary64.ofDecimal true 0 0) ∧
      World.platform.write "c.ron".toList (Text.toBytes (s.text .objects)) w = (.ok (), after) ∧
      (loadSettings .usual World.platform (some "c.ron".toList)).run after = (.ok s, after) := by
  obtain ⟨s, hs⟩ : ∃ s : Settings, s =
      { xDiv := .ofFloat (Binary64.ofDecimal false 1 (-1))
        xOffset := .ofFloat (Binary64.ofDecimal false 0 0)
        yOffset := .ofFloat (Binary64.ofDecimal true 0 0) } := ⟨_, rfl⟩
  have hcheck : s.check = none := by
    rw [hs]
    decide +kernel
  have hwrite : World.platform.write "c.ron".toList (Text.toBytes (s.text .objects))
      ⟨⟨[]⟩, [], [], [], [], [], {}⟩ = (.ok (), _) := rfl
  obtain ⟨bytes, -, haccepted, -⟩ := loadSettings_of_write .usual RecordFormat.objects_lawful s _ _
    "c.ron".toList hwrite fun _ _ => rfl
  exact ⟨s, _, _, by rw [hs], by rw [hs], by rw [hs], hwrite, (haccepted hcheck).2⟩

end CommandLine

end PenPlotter
