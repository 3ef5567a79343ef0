import PenPlotter.Notation.Record
import PenPlotter.Proofs.Notation.Reading

/-!
# Records that are read back

What is asked of a notation for records is that it loses nothing (`RecordFormat.Lawful`): every
number is read back bit by bit, infinite or no number at all as it may be, every truth value is, and
a record whose fields are read back one by one is read back as a whole.  Then every record is
(`RecordFormat.Lawful.read_write`).

Object notation keeps this promise (`RecordFormat.objects_lawful`).  Fields are written without
blanks, and each is read back as it was written, whatever has been read before
(`Notation.field?_append`).

Only records with different names are promised anything, and only with names that are plain
(`IsFieldName`).
-/

namespace PenPlotter

/-! ## 1. The promise -/

/-- Whether a name is made of small letters and underscores, with a letter in front. -/
def IsFieldName (name : Text) : Prop :=
  ∃ c rest, name = c :: rest ∧ c.isLower = true ∧ ∀ d ∈ rest, d.isLower = true ∨ d = '_'

theorem isFieldName_of_all {name : Text} (hfirst : name.head?.any Char.isLower = true)
    (hrest : name.tail.all (fun d => d.isLower || d == '_') = true) : IsFieldName name := by
  cases name with
  | nil => cases hfirst
  | cons c rest =>
    refine ⟨c, rest, rfl, hfirst, fun d hd => ?_⟩
    simpa using List.all_eq_true.mp hrest d hd

/-- The names of the fields of a record, and what these hold. -/
def kindsOf (fields : List (Text × FieldValue)) : List (Text × FieldKind) :=
  fields.map fun (name, value) => (name, value.kind)

namespace RecordFormat

/-- Whether a record is read back as it is written. -/
def Keeps (format : RecordFormat) (record : Text) (fields : List (Text × FieldValue)) : Prop :=
  format.read record (kindsOf fields) (format.write record fields) = some fields

/-- Whether a notation loses nothing of numbers, of truth values, and of records made of them. -/
structure Lawful (format : RecordFormat) : Prop where
  number (record name : Text) (a : Amount) :
    IsFieldName name → format.Keeps record [(name, .number a)]
  truth (record name : Text) (b : Bool) :
    IsFieldName name → format.Keeps record [(name, .truth b)]
  fields (record : Text) (fields : List (Text × FieldValue)) :
    (fields.map Prod.fst).Nodup → (∀ field ∈ fields, IsFieldName field.1) →
      (∀ field ∈ fields, format.Keeps record [field]) → format.Keeps record fields

/-- **Every record is read back.** -/
theorem Lawful.read_write {format : RecordFormat} (h : format.Lawful) (record : Text)
    {fields : List (Text × FieldValue)} (hnodup : (fields.map Prod.fst).Nodup)
    (hnames : ∀ field ∈ fields, IsFieldName field.1) :
    format.read record (kindsOf fields) (format.write record fields) = some fields := by
  refine h.fields record fields hnodup hnames fun (name, value) hfield => ?_
  cases value with
  | number a => exact h.number record name a (hnames _ hfield)
  | truth b => exact h.truth record name b (hnames _ hfield)

end RecordFormat

/-! ## 2. One field -/

/-- Between the digits and the small letters there is neither a blank nor a slash. -/
theorem Notation.plain_of_range {c : Char} (hlow : 0x30 ≤ c.toNat) (hhigh : c.toNat ≤ 0x7A) :
    isBlank c = false ∧ c ≠ '/' := by
  constructor
  · simp only [isBlank, Bool.or_eq_false_iff, Bool.and_eq_false_iff, beq_eq_false_iff_ne,
      decide_eq_false_iff_not]
    omega
  · rintro rfl
    exact absurd hlow (by decide)

/-- An amount begins with a letter, a digit or a sign. -/
theorem Amount.beginsPlainly_text (a : Amount) : Notation.BeginsPlainly a.text := by
  have hdigit {c : Char} (hc : c.isDigit = true) : Notation.isBlank c = false ∧ c ≠ '/' := by
    have hrange : 48 ≤ c.toNat ∧ c.toNat ≤ 57 := by
      simpa [Char.isDigit, UInt32.le_iff_toNat_le] using hc
    exact Notation.plain_of_range hrange.1 (by omega)
  rcases a.text_cases with hword | ⟨_, ⟨whole, places, rfl, hwhole, hdigits⟩, ht⟩
  · simp only [List.mem_cons, List.not_mem_nil, or_false] at hword
    rcases hword with h | h | h | h <;> exact ⟨_, _, h, by decide⟩
  · obtain ⟨c, whole, rfl⟩ := List.exists_cons_of_ne_nil hwhole
    rcases ht with h | h
    · exact ⟨c, whole ++ '.' :: places, h, hdigit (hdigits c List.mem_cons_self)⟩
    · exact ⟨'-', _, h, by decide⟩

namespace Notation

theorem beginsPlainly_valueText (value : FieldValue) : BeginsPlainly (valueText value) := by
  cases value with
  | number a => exact a.beginsPlainly_text
  | truth b => cases b <;> exact ⟨_, _, rfl, by decide⟩

/-- **A value is read back**, up to the character that ends it. -/
theorem value?_append (value : FieldValue) {c : Char} (hc : EndsNumber c) (rest : Text) :
    value? value.kind (valueText value ++ c :: rest) = some (value, c :: rest) := by
  cases value with
  | number a =>
    obtain ⟨n, hnumber, rfl⟩ := number?_text a hc rest
    rw [FieldValue.kind, value?, valueText, hnumber, Option.map_some]
  | truth b => rw [FieldValue.kind, value?, valueText, truth?_append b hc.2, Option.map_some]

theorem isPlainName_of_isFieldName {name : Text} (h : IsFieldName name) : IsPlainName name := by
  obtain ⟨c, rest, rfl, hc, hrest⟩ := h
  have hletter {d : Char} (hd : d.isLower = true) : d.isAlpha = true :=
    Bool.or_eq_true_iff.mpr (.inr hd)
  refine ⟨c, rest, rfl, by rw [Text.isNameStart, hletter hc]; rfl, fun d hd => ?_⟩
  rcases hrest d hd with hlower | rfl
  · rw [Text.isNameRest, Char.isAlphanum, hletter hlower]
    rfl
  · decide

/-- A name begins with a letter, and so neither with a blank nor with the closing parenthesis. -/
theorem begins_of_isFieldName {name : Text} (h : IsFieldName name) (rest : Text) :
    BeginsPlainly (name ++ rest) ∧ (name ++ rest).head? ≠ some ')' := by
  obtain ⟨c, name, rfl, hc, -⟩ := h
  have hrange : 0x61 ≤ c.toNat ∧ c.toNat ≤ 0x7A := by
    obtain ⟨hlow, hhigh⟩ := Bool.and_eq_true_iff.mp hc
    exact ⟨UInt32.le_iff_toNat_le.mp (of_decide_eq_true hlow),
      UInt32.le_iff_toNat_le.mp (of_decide_eq_true hhigh)⟩
  refine ⟨⟨c, name ++ rest, rfl, plain_of_range (by omega) hrange.2⟩, ?_⟩
  rw [List.cons_append, List.head?_cons, ne_eq, Option.some.injEq]
  rintro rfl
  exact absurd hrange (by decide)

/-- A comma ends a number, and so does the closing parenthesis. -/
theorem endsNumber {c : Char} (hc : c = ',' ∨ c = ')') : EndsNumber c := by
  rcases hc with rfl | rfl <;> exact ⟨by decide, by decide⟩

variable (x : Extensions) {kinds : List (Text × FieldKind)} {fields : List (Text × FieldValue)}

/-- **A field is read back**, whatever has been read before. -/
theorem field?_append {name : Text} {value : FieldValue} (hname : IsPlainName name)
    (hkind : kinds.lookup name = some value.kind) {c : Char} (hc : EndsNumber c) (rest : Text) :
    field? x kinds fields (fieldText (name, value) ++ c :: rest) =
      some (fields ++ [(name, value)], c :: rest) := by
  have hidentifier := identifier?_append hname (c := ':') (by decide)
    (valueText value ++ c :: rest)
  have hblank := ((beginsPlainly_valueText value).append (c :: rest)).skipBlank?_eq
  rw [fieldText, List.append_assoc, List.cons_append, field?]
  simp only [Option.bind_eq_bind, hidentifier, Option.bind_some,
    skipBlank?_cons (c := ':') (by decide), expect?_self, hblank, hkind, value?_append value hc]
  rfl

/-! ## 3. All fields -/

/-- The kind under a name is that of the field of this name, if there is only one. -/
theorem lookup_kindsOf (hnodup : (fields.map Prod.fst).Nodup) {field : Text × FieldValue}
    (hfield : field ∈ fields) : (kindsOf fields).lookup field.1 = some field.2.kind := by
  obtain ⟨before, after, rfl⟩ := List.mem_iff_append.mp hfield
  rw [List.map_append, List.map_cons, List.nodup_append] at hnodup
  refine List.lookup_eq_some_iff.mpr ⟨kindsOf before, kindsOf after, ?_, fun entry hentry => ?_⟩
  · rw [kindsOf, List.map_append, List.map_cons]
    rfl
  · obtain ⟨other, hother, rfl⟩ := List.mem_map.mp hentry
    have hne := hnodup.2.2 other.1 (List.mem_map_of_mem hother) field.1 List.mem_cons_self
    exact bne_iff_ne.mpr (Ne.symm hne)

/-- The fields of a record are gathered into the record. -/
theorem gathers_fieldText (hkinds : ∀ field ∈ fields, IsFieldName field.1 ∧
      kinds.lookup field.1 = some field.2.kind) (before : List (Text × FieldValue)) :
    Gathers ')' (field? x kinds) before (fields.map fieldText) (before ++ fields) := by
  induction fields generalizing before with
  | nil =>
    rw [List.append_nil]
    exact .nil before
  | cons field fields ih =>
    obtain ⟨⟨hname, hkind⟩, hmore⟩ := List.forall_mem_cons.mp hkinds
    obtain ⟨hbegins, hclose⟩ := begins_of_isFieldName hname (':' :: valueText field.2)
    have hrest := ih hmore (before ++ [field])
    rw [List.append_assoc] at hrest
    exact .cons hbegins hclose (fun c rest hc =>
      field?_append x (isPlainName_of_isFieldName hname) hkind (endsNumber hc) rest) hrest

end Notation

/-! ## 4. Records -/

open Notation

/-- A record in object notation is read back. -/
theorem RecordFormat.objects_keeps (record : Text) {fields : List (Text × FieldValue)}
    (hnodup : (fields.map Prod.fst).Nodup) (hnames : ∀ field ∈ fields, IsFieldName field.1) :
    RecordFormat.objects.Keeps record fields := by
  have hkinds : ∀ field ∈ fields, IsFieldName field.1 ∧
      (kindsOf fields).lookup field.1 = some field.2.kind :=
    fun field hfield => ⟨hnames field hfield, lookup_kindsOf hnodup hfield⟩
  have hgathers := gathers_fieldText {} hkinds []
  have hfields := separated?_intercalate (by decide) (by decide) hgathers []
  have hattributes (rest : Text) :=
    Extensions.attributes?_of_expect?_eq_none (x := {}) (expect?_of_ne (c := '#') (d := '(')
      (by decide) rest)
  have hname (rest : Text) : afterName? record false ('(' :: rest) = some ('(' :: rest) := by
    have hparenthesis : Text.isNameRest '(' = false := by decide
    rw [afterName?, List.head?_cons, Option.any_some, hparenthesis]
    rfl
  rw [Keeps]
  change readRecord? record (kindsOf fields) (recordText fields) = some fields
  rw [recordText, List.cons_append, readRecord?]
  simp only [Option.bind_eq_bind, Option.bind_some, skipBlank?_cons (c := '(') (by decide),
    hattributes, hname, expect?_self, hfields, skipBlank?, if_true]
  rfl

/-- **Object notation loses nothing of records.** -/
theorem RecordFormat.objects_lawful : RecordFormat.objects.Lawful where
  number record name a hname :=
    objects_keeps record (by simp) (List.forall_mem_singleton.mpr hname)
  truth record name b hname :=
    objects_keeps record (by simp) (List.forall_mem_singleton.mpr hname)
  fields record _ hnodup hnames _ := objects_keeps record hnodup hnames

end PenPlotter
