/-
What is written is read back, with its structures in either form.

For each type there is first the exact description of what its reader takes:
`ofJson?_eq_some_iff`.  A structure without parts of its own is read from its fields, which are
then the values that the writer would put there.  The kind of a file and the settings have parts
with more than one form, so theirs speak of the readers of the parts.

From the description follow two things.  The written value is one of those that are taken, and
nothing changes if structures in the value are written as arrays: `Robust`.  Together they say
that the written value is read back in every form: `Robust.readsBack`.
-/
import SmartCard.Proofs.Json

namespace SmartCard

/-! ### Reading and writing -/

namespace Json

/-- A value that is read is read as the same thing after structures in it have been written as
arrays. -/
def Robust {α : Type} (read : Json → Option α) : Prop :=
  ∀ json json' a, Listed json json' → read json = some a → read json' = some a

/-- Everything that is written is read back, from what was written and from every value that is
the same but for the form of its structures. -/
structure ReadsBack {α : Type} (write : α → Json) (read : Json → Option α) : Prop where
  written : ∀ a, read (write a) = some a
  listed : ∀ a json, Listed (write a) json → read json = some a

theorem Robust.readsBack {α : Type} {write : α → Json} {read : Json → Option α}
    (hrobust : Robust read) (hwritten : ∀ a, read (write a) = some a) : ReadsBack write read :=
  ⟨hwritten, fun a json h => hrobust (write a) json a h (hwritten a)⟩

/-- A reader that looks for one of a few values, each with one form only. -/
theorem robust_of_rigid {α : Type} {read : Json → Option α}
    (hread : ∀ json a, read json = some a → json.Rigid) : Robust read := by
  intro json json' a hlisted h
  rwa [hread json a h json' hlisted]

/-- A reader that looks for the fields of a structure, each with one form only. -/
theorem robust_of_holds {α : Type} {read : Json → Option α} {names : List String}
    {values : α → List Json} (hread : ∀ json a, read json = some a ↔ json.Holds names (values a))
    (hnames : names ∈ structures) (hrigid : ∀ a, ∀ value ∈ values a, value.Rigid) :
    Robust read := by
  intro json json' a hlisted h
  rw [hread] at h ⊢
  exact h.of_listed hnames (hrigid a) hlisted

/-- A reader that looks for a name. -/
theorem robust_of_alternative {α : Type} {read : Json → Option α} {name : α → String}
    (hread : ∀ json a, read json = some a ↔ json.alternative? = some (name a))
    (hname : ∀ a, [name a] ∉ structures) : Robust read := by
  intro json json' a hlisted h
  simp only [hread, alternative?_eq_some_iff] at h ⊢
  rcases h with rfl | rfl
  · exact .inl (rigid_str _ _ hlisted)
  · obtain ⟨content, rfl, hcontent⟩ := exists_listed_of_singleton (hname a) hlisted
    rw [rigid_null _ hcontent]
    exact .inr rfl

/-- A structure is read from the values of its fields. -/
private theorem bind_fields?_eq_some_iff {α : Type} {json : Json} {names : List String}
    {values : List Json} {read : List Json → Option α} {a : α}
    (hread : ∀ contents, read contents = some a ↔ contents = values) :
    (json.fields? names).bind read = some a ↔ json.Holds names values := by
  simp only [Option.bind_eq_some_iff, hread, exists_eq_right, fields?_eq_some_iff]

end Json

open Json

variable {json : Json}

/-! ### Keys and rights -/

namespace AccessKey

theorem ofJson?_eq_some_iff {key : AccessKey} : ofJson? json = some key ↔ json = key.toJson := by
  have hbyte : ∀ b, (ofByte b).toOption = some key ↔ b = key.toByte := by
    intro b
    rw [← ofByte_eq_ok_iff]
    cases ofByte b <;> simp [Except.toOption]
  simp only [ofJson?, Option.bind_eq_bind, Option.bind_eq_some_iff, u8?_eq_some_iff, hbyte,
    exists_eq_right, toNat_toByte, toJson]

theorem robust : Robust ofJson? := by
  refine robust_of_rigid ?_
  intro json key h
  rw [ofJson?_eq_some_iff.mp h]
  exact rigid_nat _

theorem ofJson?_toJson (key : AccessKey) : ofJson? key.toJson = some key :=
  ofJson?_eq_some_iff.mpr rfl

end AccessKey

namespace AccessRights

/-- The values of the four fields. -/
def toFields (rights : AccessRights) : List Json :=
  [rights.read.toJson, rights.write.toJson, rights.readWrite.toJson, rights.change.toJson]

theorem ofJson?_eq_some_iff {rights : AccessRights} :
    ofJson? json = some rights ↔ json.Holds fieldNames rights.toFields := by
  refine bind_fields?_eq_some_iff ?_
  intro contents
  split
  · simp [Option.bind_eq_some_iff, AccessKey.ofJson?_eq_some_iff, AccessRights.ext_iff, toFields]
  · simp_all [toFields]

theorem robust : Robust ofJson? := by
  refine robust_of_holds (fun _ _ => ofJson?_eq_some_iff) (by decide) ?_
  simp [toFields, AccessKey.toJson]

theorem ofJson?_toJson (rights : AccessRights) : ofJson? rights.toJson = some rights :=
  ofJson?_eq_some_iff.mpr (holds_record (by decide) rfl)

end AccessRights

/-! ### The codes of a file -/

namespace FileType

theorem ofJson?_eq_some_iff {t : FileType} :
    ofJson? json = some t ↔ json.alternative? = some t.name := by
  simp only [ofJson?, Option.bind_eq_bind, Option.bind_eq_some_iff, ofName?_eq_some_iff,
    exists_eq_right]

private theorem singleton_name_notMem_structures (t : FileType) : [t.name] ∉ structures := by
  cases t <;> decide

theorem robust : Robust ofJson? :=
  robust_of_alternative (fun _ _ => ofJson?_eq_some_iff) singleton_name_notMem_structures

theorem ofJson?_toJson (t : FileType) : ofJson? t.toJson = some t :=
  ofJson?_eq_some_iff.mpr rfl

end FileType

namespace CommunicationMode

theorem ofJson?_eq_some_iff {m : CommunicationMode} :
    ofJson? json = some m ↔ json.alternative? = some m.name := by
  simp only [ofJson?, Option.bind_eq_bind, Option.bind_eq_some_iff, ofName?_eq_some_iff,
    exists_eq_right]

theorem robust : Robust ofJson? := by
  refine robust_of_alternative (fun _ _ => ofJson?_eq_some_iff) ?_
  intro m
  cases m <;> decide

theorem ofJson?_toJson (m : CommunicationMode) : ofJson? m.toJson = some m :=
  ofJson?_eq_some_iff.mpr rfl

end CommunicationMode

/-! ### What is particular to a kind -/

namespace DataFile

theorem ofJson?_eq_some_iff {file : DataFile} :
    ofJson? json = some file ↔ json.Holds fieldNames [.nat file.size.toNat] := by
  refine bind_fields?_eq_some_iff ?_
  intro contents
  split
  · simp [Option.bind_eq_some_iff, u32?_eq_some_iff, DataFile.ext_iff]
  · simp_all

theorem robust : Robust ofJson? := by
  refine robust_of_holds (fun _ _ => ofJson?_eq_some_iff) (by decide) ?_
  simp

theorem ofJson?_toJson (file : DataFile) : ofJson? file.toJson = some file :=
  ofJson?_eq_some_iff.mpr (holds_record (by decide) rfl)

end DataFile

namespace ValueFile

/-- The values of the four fields. -/
def toFields (file : ValueFile) : List Json :=
  [.nat file.lowerLimit.toNat, .nat file.upperLimit.toNat, .nat file.limitedCredit.toNat,
    .bool file.limitedCreditEnabled]

theorem ofJson?_eq_some_iff {file : ValueFile} :
    ofJson? json = some file ↔ json.Holds fieldNames file.toFields := by
  refine bind_fields?_eq_some_iff ?_
  intro contents
  split
  · simp [-Bool.exists_bool, Option.bind_eq_some_iff, u32?_eq_some_iff, bool?_eq_some_iff,
      ValueFile.ext_iff, toFields]
  · simp_all [toFields]

theorem robust : Robust ofJson? := by
  refine robust_of_holds (fun _ _ => ofJson?_eq_some_iff) (by decide) ?_
  simp [toFields]

theorem ofJson?_toJson (file : ValueFile) : ofJson? file.toJson = some file :=
  ofJson?_eq_some_iff.mpr (holds_record (by decide) rfl)

end ValueFile

namespace RecordFile

/-- The values of the three fields. -/
def toFields (file : RecordFile) : List Json :=
  [.nat file.recordSize.toNat, .nat file.capacity.toNat, .nat file.count.toNat]

theorem ofJson?_eq_some_iff {file : RecordFile} :
    ofJson? json = some file ↔ json.Holds fieldNames file.toFields := by
  refine bind_fields?_eq_some_iff ?_
  intro contents
  split
  · simp [Option.bind_eq_some_iff, u32?_eq_some_iff, RecordFile.ext_iff, toFields]
  · simp_all [toFields]

theorem robust : Robust ofJson? := by
  refine robust_of_holds (fun _ _ => ofJson?_eq_some_iff) (by decide) ?_
  simp [toFields]

theorem ofJson?_toJson (file : RecordFile) : ofJson? file.toJson = some file :=
  ofJson?_eq_some_iff.mpr (holds_record (by decide) rfl)

end RecordFile

namespace FileKind

/-- What is particular to the kind is read from the value. -/
def ReadFrom (particulars : Json) : FileKind → Prop
  | standardData file | backupData file => DataFile.ofJson? particulars = some file
  | value file => ValueFile.ofJson? particulars = some file
  | linearRecord file | cyclicRecord file => RecordFile.ofJson? particulars = some file

theorem ofJson?_eq_some_iff {kind : FileKind} :
    ofJson? json = some kind ↔
      ∃ particulars, json = .obj [(kind.type.name, particulars)] ∧ kind.ReadFrom particulars := by
  simp only [ofJson?, Option.bind_eq_bind, Option.bind_eq_some_iff, Prod.exists,
    tagged?_eq_some_iff, FileType.ofName?_eq_some_iff]
  refine ⟨?_, ?_⟩
  · intro h
    obtain ⟨_, particulars, rfl, t, rfl, h⟩ := h
    have hkind : t = kind.type ∧ kind.ReadFrom particulars := by
      cases t <;> cases kind <;> simp_all [ReadFrom, type, Option.bind_eq_some_iff]
    exact ⟨particulars, by rw [hkind.1], hkind.2⟩
  · intro h
    obtain ⟨particulars, rfl, h⟩ := h
    refine ⟨_, particulars, rfl, kind.type, rfl, ?_⟩
    cases kind <;> exact Option.bind_eq_some_iff.mpr ⟨_, h, rfl⟩

private theorem ReadFrom.of_listed {kind : FileKind} {particulars particulars' : Json}
    (h : kind.ReadFrom particulars) (hlisted : Listed particulars particulars') :
    kind.ReadFrom particulars' := by
  cases kind with
  | standardData | backupData => exact DataFile.robust _ _ _ hlisted h
  | value => exact ValueFile.robust _ _ _ hlisted h
  | linearRecord | cyclicRecord => exact RecordFile.robust _ _ _ hlisted h

theorem robust : Robust ofJson? := by
  intro json json' kind hlisted h
  obtain ⟨particulars, rfl, hread⟩ := ofJson?_eq_some_iff.mp h
  obtain ⟨particulars', rfl, hparticulars⟩ :=
    exists_listed_of_singleton kind.type.singleton_name_notMem_structures hlisted
  exact ofJson?_eq_some_iff.mpr ⟨particulars', rfl, hread.of_listed hparticulars⟩

private theorem readFrom_particularsToJson (kind : FileKind) :
    kind.ReadFrom kind.particularsToJson := by
  cases kind with
  | standardData file | backupData file => exact file.ofJson?_toJson
  | value file => exact file.ofJson?_toJson
  | linearRecord file | cyclicRecord file => exact file.ofJson?_toJson

theorem ofJson?_toJson (kind : FileKind) : ofJson? kind.toJson = some kind :=
  ofJson?_eq_some_iff.mpr ⟨_, rfl, kind.readFrom_particularsToJson⟩

end FileKind

/-! ### Settings and responses -/

namespace FileSettings

theorem ofJson?_eq_some_iff {settings : FileSettings} :
    ofJson? json = some settings ↔
      ∃ mode rights kind, json.Holds fieldNames [mode, rights, kind] ∧
        CommunicationMode.ofJson? mode = some settings.mode ∧
        AccessRights.ofJson? rights = some settings.rights ∧
        FileKind.ofJson? kind = some settings.kind := by
  simp only [ofJson?, Option.bind_eq_bind, Option.bind_eq_some_iff, fields?_eq_some_iff]
  refine ⟨?_, ?_⟩
  · intro h
    obtain ⟨values, hvalues, h⟩ := h
    split at h
    · rename_i mode rights kind
      simp only [Option.bind_eq_some_iff] at h
      obtain ⟨_, hmode, _, hrights, _, hkind, hsettings⟩ := h
      obtain rfl := Option.some.inj hsettings
      exact ⟨mode, rights, kind, hvalues, hmode, hrights, hkind⟩
    · contradiction
  · intro h
    obtain ⟨mode, rights, kind, hvalues, hmode, hrights, hkind⟩ := h
    refine ⟨_, hvalues, ?_⟩
    simp [hmode, hrights, hkind]

theorem robust : Robust ofJson? := by
  intro json json' settings hlisted h
  obtain ⟨mode, rights, kind, hholds, hmode, hrights, hkind⟩ := ofJson?_eq_some_iff.mp h
  obtain ⟨_, hholds', hvalues⟩ := hholds.listed (by decide) hlisted
  match hvalues with
  | .cons hmode' (.cons hrights' (.cons hkind' .nil)) =>
      exact ofJson?_eq_some_iff.mpr ⟨_, _, _, hholds', CommunicationMode.robust _ _ _ hmode' hmode,
        AccessRights.robust _ _ _ hrights' hrights, FileKind.robust _ _ _ hkind' hkind⟩

theorem ofJson?_toJson (settings : FileSettings) : ofJson? settings.toJson = some settings :=
  ofJson?_eq_some_iff.mpr ⟨_, _, _, holds_record (by decide) rfl, settings.mode.ofJson?_toJson,
    settings.rights.ofJson?_toJson, settings.kind.ofJson?_toJson⟩

end FileSettings

namespace Response

/-- The values of the two fields. -/
def toFields (response : Response) : List Json :=
  [.nat response.status.toNat, .arr (response.payload.map fun b => .nat b.toNat)]

private theorem mapM_u8?_eq_some_iff {elements : List Json} {bytes : Bytes} :
    elements.mapM (·.u8?) = some bytes ↔ elements = bytes.map fun b => .nat b.toNat := by
  simp only [mapM_eq_some_iff, u8?_eq_some_iff]
  refine ⟨?_, ?_⟩
  · intro h
    induction h with
    | nil => rfl
    | cons hfirst _ ih => rw [hfirst, ih, List.map_cons]
  · intro h
    rw [h, List.forall₂_map_left_iff]
    exact List.forall₂_same.mpr fun _ _ => rfl

theorem ofJson?_eq_some_iff {response : Response} :
    ofJson? json = some response ↔ json.Holds fieldNames response.toFields := by
  obtain ⟨status, payload⟩ := response
  refine bind_fields?_eq_some_iff ?_
  intro contents
  split
  · simp [Option.bind_eq_some_iff, u8?_eq_some_iff, elements?_eq_some_iff, mapM_u8?_eq_some_iff,
      toFields]
  · simp_all [toFields]

theorem robust : Robust ofJson? := by
  refine robust_of_holds (fun _ _ => ofJson?_eq_some_iff) (by decide) ?_
  intro response
  have hpayload : Rigid (.arr (response.payload.map fun b => .nat b.toNat)) := by
    refine rigid_arr ?_
    simp
  simp [toFields, hpayload]

theorem ofJson?_toJson (response : Response) : ofJson? response.toJson = some response :=
  ofJson?_eq_some_iff.mpr (holds_record (by decide) rfl)

end Response

/-! ### All of them -/

/-- Whatever has a JSON form is read back from it, and from every form of it in which some
structures, at any depth, are arrays. -/
theorem Json.every_form_read_back :
    ReadsBack AccessKey.toJson AccessKey.ofJson? ∧
    ReadsBack AccessRights.toJson AccessRights.ofJson? ∧
    ReadsBack FileType.toJson FileType.ofJson? ∧
    ReadsBack CommunicationMode.toJson CommunicationMode.ofJson? ∧
    ReadsBack DataFile.toJson DataFile.ofJson? ∧
    ReadsBack ValueFile.toJson ValueFile.ofJson? ∧
    ReadsBack RecordFile.toJson RecordFile.ofJson? ∧
    ReadsBack FileKind.toJson FileKind.ofJson? ∧
    ReadsBack FileSettings.toJson FileSettings.ofJson? ∧
    ReadsBack Response.toJson Response.ofJson? := by
  refine ⟨?_, ?_, ?_, ?_, ?_, ?_, ?_, ?_, ?_, ?_⟩
  · exact AccessKey.robust.readsBack AccessKey.ofJson?_toJson
  · exact AccessRights.robust.readsBack AccessRights.ofJson?_toJson
  · exact FileType.robust.readsBack FileType.ofJson?_toJson
  · exact CommunicationMode.robust.readsBack CommunicationMode.ofJson?_toJson
  · exact DataFile.robust.readsBack DataFile.ofJson?_toJson
  · exact ValueFile.robust.readsBack ValueFile.ofJson?_toJson
  · exact RecordFile.robust.readsBack RecordFile.ofJson?_toJson
  · exact FileKind.robust.readsBack FileKind.ofJson?_toJson
  · exact FileSettings.robust.readsBack FileSettings.ofJson?_toJson
  · exact Response.robust.readsBack Response.ofJson?_toJson

-- Settings in which the rights and the particulars of the kind are arrays.
example :
    FileSettings.ofJson? (.obj [("communication_mode", .str "Plain"),
      ("permissions", .arr [.nat 2, .nat 3, .nat 4, .nat 1]),
      ("kind", .obj [("StandardData", .arr [.nat 32])])]) =
    some { mode := .plain, rights := ⟨⟨2⟩, ⟨3⟩, ⟨4⟩, ⟨1⟩⟩, kind := .standardData ⟨32⟩ } := by
  decide

end SmartCard
