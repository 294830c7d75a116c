/-
Decoding accepts exactly the records of the grammar.

`FileSettings.decode` is a chain of readers, each aimed at a fixed position, and
`FileSettings.Spells` is a grammar that knows no positions.  They are tied together from
the inside out.

  * The decoder of the particulars of one kind fails if and only if the data is shorter
    than the record, and else answers the only particulars that the bytes after the
    header spell: `FileKind.ReadBy`.
  * The kind adds the type byte in front, and the settings add the mode and the rights
    between the two.

Since the length is checked before anything is read, no reader behind it can fail, which
is why the particulars have a single way to be wrong.
-/
import SmartCard.File.Record
import SmartCard.Proofs.Reader

namespace SmartCard

/-! ### The particulars of one kind -/

namespace FileKind

/-- How the particulars of a kind are read: `decode` looks at the length first, and then
answers what the bytes after the header spell. -/
structure ReadBy {α : Type} (length : Nat) (decode : Bytes → Except Error α) (kind : α → FileKind) :
    Prop where
  short : ∀ data, data.length < length → decode data = .error (.tooShort length data.length)
  long : ∀ data, length ≤ data.length → ∃ file, decode data = .ok file
  ok_iff : ∀ data file, decode data = .ok file ↔
    ∃ header particulars rest, header.length = FileSettings.headerLength ∧
      (kind file).Spells particulars ∧ data = header ++ (particulars ++ rest)

/-- Whoever reads the fields of a row of the right widths, and the particulars out of them, reads
the particulars: that there is such a row is a matter of the number of bytes alone. -/
theorem ReadBy.of_fields {α : Type} (widths : List Nat) {read : Bytes → Except Error α}
    {kind : α → FileKind}
    (hwidth : ∀ file particulars, (kind file).Spells particulars → particulars.length = widths.sum)
    (hunique : ∀ file other particulars,
      (kind file).Spells particulars → (kind other).Spells particulars → file = other)
    (hread : ∀ data fields, Bytes.Row FileSettings.headerLength widths fields data →
      ∃ file, read data = .ok file ∧ (kind file).Spells fields.flatten) :
    ReadBy (FileSettings.headerLength + widths.sum)
      (fun data => do
        data.require (FileSettings.headerLength + widths.sum)
        read data) kind where
  short data h := by
    rw [Bytes.require_of_lt h]
    rfl
  long data h := by
    obtain ⟨fields, hrow⟩ := Bytes.exists_row h
    obtain ⟨file, hfile, -⟩ := hread data fields hrow
    rw [Bytes.require_of_le h]
    exact ⟨file, hfile⟩
  ok_iff data file := by
    refine ⟨?_, ?_⟩
    · intro h
      by_cases hlength : FileSettings.headerLength + widths.sum ≤ data.length
      · obtain ⟨fields, hrow⟩ := Bytes.exists_row hlength
        obtain ⟨other, hother, hspells⟩ := hread data fields hrow
        rw [Bytes.require_of_le hlength] at h
        obtain rfl := Except.ok.inj (hother.symm.trans h)
        obtain @⟨header, rest, hheader, -⟩ := hrow
        exact ⟨header, fields.flatten, rest, hheader, hspells, rfl⟩
      · rw [Bytes.require_of_lt (Nat.lt_of_not_le hlength)] at h
        contradiction
    · intro h
      obtain ⟨header, particulars, rest, hheader, hspells, rfl⟩ := h
      -- Only the number of the particulars says where their fields are.
      obtain ⟨fields, hwidths, rfl⟩ := Bytes.exists_fields (hwidth file particulars hspells)
      have hrow : Bytes.Row _ widths fields (header ++ (fields.flatten ++ rest)) :=
        .mk hheader hwidths
      obtain ⟨other, hother, hspells'⟩ := hread _ fields hrow
      rw [Bytes.require_of_le hrow.le_length, hunique file other _ hspells hspells']
      exact hother

/-- Particulars that are numbers of three bytes are read by reading the numbers. -/
theorem ReadBy.of_numbers {α : Type} (count : Nat) (numbers : α → List UInt32)
    {read : Bytes → Except Error α} {kind : α → FileKind}
    (hspells : ∀ file particulars,
      (kind file).Spells particulars ↔ Bytes.SpellsU24s (numbers file) particulars)
    (hcount : ∀ file, (numbers file).length = count)
    (hinjective : ∀ file other, numbers file = numbers other → file = other)
    (hread : ∀ data fields,
      Bytes.Row FileSettings.headerLength (List.replicate count 3) fields data →
      ∃ file, read data = .ok file ∧
        numbers file = fields.map fun field => UInt32.ofNat (Bytes.leNat field)) :
    ReadBy (FileSettings.headerLength + (List.replicate count 3).sum)
      (fun data => do
        data.require (FileSettings.headerLength + (List.replicate count 3).sum)
        read data) kind := by
  refine .of_fields _ ?_ ?_ ?_
  · intro file particulars h
    rw [((hspells file particulars).mp h).length, hcount]
  · intro file other particulars h h'
    rw [hspells] at h h'
    exact hinjective file other (h.unique h' (by rw [hcount, hcount]))
  · intro data fields h
    obtain ⟨file, hfile, hnumbers⟩ := hread data fields h
    refine ⟨file, hfile, (hspells file _).mpr ?_⟩
    rw [hnumbers]
    exact Bytes.spellsU24s_of_lengths (h.length_of_replicate rfl)

/-! ### What each kind's particulars are -/

section Spells

variable {particulars : Bytes}

/-- The particulars of every kind but one are the numbers that there are three bytes for. -/
theorem spells_iff_of_ne_value {kind : FileKind} (h : ∀ file, kind ≠ value file) :
    kind.Spells particulars ↔ Bytes.SpellsU24s kind.narrowNumbers particulars := by
  cases kind with
  | standardData file =>
      rw [narrowNumbers, Bytes.spellsU24s_one_iff]
      exact ⟨fun | .standardData hsize => hsize, .standardData⟩
  | backupData file =>
      rw [narrowNumbers, Bytes.spellsU24s_one_iff]
      exact ⟨fun | .backupData hsize => hsize, .backupData⟩
  | value file => exact absurd rfl (h file)
  | linearRecord file =>
      rw [narrowNumbers, Bytes.spellsU24s_three_iff]
      exact ⟨fun | .linearRecord hsize hcapacity hcount => ⟨_, _, _, hsize, hcapacity, hcount, rfl⟩,
        fun ⟨_, _, _, hsize, hcapacity, hcount, heq⟩ => heq ▸ .linearRecord hsize hcapacity hcount⟩
  | cyclicRecord file =>
      rw [narrowNumbers, Bytes.spellsU24s_three_iff]
      exact ⟨fun | .cyclicRecord hsize hcapacity hcount => ⟨_, _, _, hsize, hcapacity, hcount, rfl⟩,
        fun ⟨_, _, _, hsize, hcapacity, hcount, heq⟩ => heq ▸ .cyclicRecord hsize hcapacity hcount⟩

theorem spells_value_iff {file : ValueFile} :
    (value file).Spells particulars ↔ ∃ flag : UInt8, file.limitedCreditEnabled = (flag != 0) ∧
      particulars = Bytes.leBytes 4 file.lowerLimit.toNat ++ Bytes.leBytes 4 file.upperLimit.toNat
        ++ Bytes.leBytes 4 file.limitedCredit.toNat ++ [flag] := by
  refine ⟨?_, ?_⟩
  · intro h
    cases h
    exact ⟨_, ‹_›, rfl⟩
  · intro h
    obtain ⟨flag, hflag, rfl⟩ := h
    exact .value hflag

end Spells

/-! ### The three layouts

Two kinds share each of the layouts with sizes and counts, so those two are read once for
every kind whose particulars are spelled that way.
-/

theorem readBy_dataFile {kind : DataFile → FileKind}
    (hspells : ∀ file particulars,
      (kind file).Spells particulars ↔ Bytes.SpellsU24s [file.size] particulars) :
    ReadBy DataFile.recordLength DataFile.decode kind := by
  refine .of_numbers 1 (fun file => [file.size]) hspells (fun _ => rfl) ?_ ?_
  · intro file other h
    exact DataFile.ext (List.singleton_inj.mp h)
  · intro data fields h
    obtain ⟨size, rfl⟩ := List.length_eq_one_iff.mp h.length_fields
    have hsize : data.u24 4 = _ := h.u24 0 rfl rfl
    rw [hsize]
    exact ⟨_, rfl, rfl⟩

theorem readBy_recordFile {kind : RecordFile → FileKind}
    (hspells : ∀ file particulars, (kind file).Spells particulars ↔
      Bytes.SpellsU24s [file.recordSize, file.capacity, file.count] particulars) :
    ReadBy RecordFile.recordLength RecordFile.decode kind := by
  refine .of_numbers 3 (fun file => [file.recordSize, file.capacity, file.count]) hspells
    (fun _ => rfl) ?_ ?_
  · intro file other h
    simp only [List.cons.injEq, and_true] at h
    exact RecordFile.ext h.1 h.2.1 h.2.2
  · intro data fields h
    obtain ⟨size, capacity, count, rfl⟩ := List.length_eq_three.mp h.length_fields
    have hsize : data.u24 4 = _ := h.u24 0 rfl rfl
    have hcapacity : data.u24 7 = _ := h.u24 1 rfl rfl
    have hcount : data.u24 10 = _ := h.u24 2 rfl rfl
    rw [hsize, hcapacity, hcount]
    exact ⟨_, rfl, rfl⟩

theorem readBy_valueFile : ReadBy ValueFile.recordLength ValueFile.decode .value := by
  refine .of_fields [4, 4, 4, 1] ?_ ?_ ?_
  · intro file particulars h
    obtain ⟨flag, -, rfl⟩ := spells_value_iff.mp h
    simp
  · intro file other particulars h h'
    obtain ⟨flag, hflag, rfl⟩ := spells_value_iff.mp h
    obtain ⟨flag', hflag', heq⟩ := spells_value_iff.mp h'
    obtain ⟨hfront, hlast⟩ := List.append_inj' heq rfl
    obtain ⟨hfront, hcredit⟩ := List.append_inj' hfront (by simp)
    obtain ⟨hlower, hupper⟩ := List.append_inj' hfront (by simp)
    rw [List.singleton_inj] at hlast
    exact ValueFile.ext (Bytes.leBytes_four_inj hlower) (Bytes.leBytes_four_inj hupper)
      (Bytes.leBytes_four_inj hcredit) (by rw [hflag, hflag', hlast])
  · intro data fields h
    obtain ⟨lower, upper, credit, last, rfl⟩ := Bytes.exists_four h.length_fields
    obtain ⟨flag, rfl⟩ := List.length_eq_one_iff.mp (h.length_field 3 rfl rfl)
    have hlower : data.u32 4 = _ := h.u32 0 rfl rfl
    have hupper : data.u32 8 = _ := h.u32 1 rfl rfl
    have hcredit : data.u32 12 = _ := h.u32 2 rfl rfl
    have hflag : data.byte 16 = .ok flag := h.byte 3 rfl
    rw [hlower, hupper, hcredit, hflag]
    refine ⟨_, rfl, spells_value_iff.mpr ⟨flag, rfl, ?_⟩⟩
    simp only [Bytes.leBytes_ofNat_leNat (h.length_field 0 rfl rfl),
      Bytes.leBytes_ofNat_leNat (h.length_field 1 rfl rfl),
      Bytes.leBytes_ofNat_leNat (h.length_field 2 rfl rfl), List.flatten_cons, List.flatten_nil,
      List.append_nil, List.append_assoc]

/-! ### Every kind with its layout -/

theorem readBy_standardData : ReadBy DataFile.recordLength DataFile.decode standardData :=
  readBy_dataFile fun _ _ => spells_iff_of_ne_value nofun

theorem readBy_backupData : ReadBy DataFile.recordLength DataFile.decode backupData :=
  readBy_dataFile fun _ _ => spells_iff_of_ne_value nofun

theorem readBy_linearRecord : ReadBy RecordFile.recordLength RecordFile.decode linearRecord :=
  readBy_recordFile fun _ _ => spells_iff_of_ne_value nofun

theorem readBy_cyclicRecord : ReadBy RecordFile.recordLength RecordFile.decode cyclicRecord :=
  readBy_recordFile fun _ _ => spells_iff_of_ne_value nofun

/-! ### The type byte in front -/

theorem decode_cons (code : UInt8) (rest : Bytes) :
    decode (code :: rest) =
      match FileType.ofCode? code with
      | some .standardData => (DataFile.decode (code :: rest)).map standardData
      | some .backupData => (DataFile.decode (code :: rest)).map backupData
      | some .value => (ValueFile.decode (code :: rest)).map value
      | some .linearRecord => (RecordFile.decode (code :: rest)).map linearRecord
      | some .cyclicRecord => (RecordFile.decode (code :: rest)).map cyclicRecord
      | some .transactionMac | none => .error (.fileType code) := by
  have hcode : Bytes.byte (code :: rest) 0 = .ok code := by
    show Bytes.byte ([] ++ code :: rest) 0 = .ok code
    exact Bytes.byte_append code rfl
  rw [decode, hcode]
  rfl

/-- A kind in the bytes of a record: its type byte, three bytes that other readers look
at, and its particulars. -/
def In (kind : FileKind) (data : Bytes) : Prop :=
  ∃ mode first second particulars rest, kind.Spells particulars ∧
    data = kind.type.code :: mode :: first :: second :: (particulars ++ rest)

private theorem In.type_code {kind : FileKind} {code : UInt8} {rest : Bytes}
    (h : kind.In (code :: rest)) : FileType.ofCode? code = some kind.type := by
  obtain ⟨mode, first, second, particulars, after, -, hdata⟩ := h
  rw [List.cons.injEq] at hdata
  rw [hdata.1, FileType.ofCode?_code]

/-- One arm of the decoder: the particulars of the type in front, made into a kind. -/
theorem ReadBy.map_eq_ok_iff {α : Type} {length : Nat} {decode : Bytes → Except Error α}
    {kind : α → FileKind} (h : ReadBy length decode kind) {t : FileType}
    (htype : ∀ k : FileKind, k.type = t ↔ ∃ file, k = kind file) {rest : Bytes} {k : FileKind} :
    (decode (t.code :: rest)).map kind = .ok k ↔ k.In (t.code :: rest) := by
  have hcode : ∀ file, (kind file).type = t := fun file => (htype _).mpr ⟨file, rfl⟩
  refine ⟨?_, ?_⟩
  · intro hk
    obtain ⟨file, hfile, rfl⟩ : ∃ file, decode (t.code :: rest) = .ok file ∧ kind file = k := by
      cases hd : decode (t.code :: rest) with
      | error cause =>
          rw [hd] at hk
          contradiction
      | ok file =>
          rw [hd] at hk
          exact ⟨file, rfl, Except.ok.inj hk⟩
    obtain ⟨header, particulars, after, hheader, hspells, hdata⟩ := (h.ok_iff _ _).mp hfile
    obtain ⟨code, mode, first, second, rfl⟩ := Bytes.exists_four hheader
    simp only [List.cons_append, List.nil_append, List.cons.injEq] at hdata
    refine ⟨mode, first, second, particulars, after, hspells, ?_⟩
    rw [hcode, hdata.2]
  · intro hk
    obtain ⟨file, rfl⟩ : ∃ file, k = kind file := by
      rw [← htype]
      have := hk.type_code
      rw [FileType.ofCode?_code, Option.some.injEq] at this
      exact this.symm
    obtain ⟨mode, first, second, particulars, after, hspells, hdata⟩ := hk
    have hfile : decode (t.code :: rest) = .ok file :=
      (h.ok_iff _ _).mpr
        ⟨[(kind file).type.code, mode, first, second], particulars, after, rfl, hspells, hdata⟩
    rw [hfile]
    rfl

theorem decode_eq_ok_iff {k : FileKind} {data : Bytes} : decode data = .ok k ↔ k.In data := by
  cases data with
  | nil =>
      refine ⟨?_, ?_⟩
      · intro h
        contradiction
      · intro h
        obtain ⟨mode, first, second, particulars, rest, -, hdata⟩ := h
        contradiction
  | cons code rest =>
      rw [decode_cons]
      cases ht : FileType.ofCode? code with
      | none =>
          refine ⟨fun h => by contradiction, fun h => ?_⟩
          rw [h.type_code] at ht
          contradiction
      | some t =>
          rw [FileType.ofCode?_eq_some_iff] at ht
          subst ht
          cases t with
          | standardData =>
              exact readBy_standardData.map_eq_ok_iff fun k => by cases k <;> simp [type]
          | backupData =>
              exact readBy_backupData.map_eq_ok_iff fun k => by cases k <;> simp [type]
          | value =>
              exact readBy_valueFile.map_eq_ok_iff fun k => by cases k <;> simp [type]
          | linearRecord =>
              exact readBy_linearRecord.map_eq_ok_iff fun k => by cases k <;> simp [type]
          | cyclicRecord =>
              exact readBy_cyclicRecord.map_eq_ok_iff fun k => by cases k <;> simp [type]
          | transactionMac =>
              refine ⟨fun h => by contradiction, fun h => ?_⟩
              have htype := h.type_code
              rw [FileType.ofCode?_code, Option.some.injEq] at htype
              cases k <;> contradiction

/-! ### Which kinds have particulars at all -/

/-- A kind can be spelled if and only if its numbers fit into the bytes there are for them. -/
theorem exists_spells_iff {kind : FileKind} :
    (∃ particulars, kind.Spells particulars) ↔ ∀ n ∈ kind.narrowNumbers, n.toNat < 2 ^ 24 := by
  by_cases hvalue : ∃ file, kind = value file
  · obtain ⟨file, rfl⟩ := hvalue
    simp only [narrowNumbers, List.not_mem_nil, false_implies, implies_true, iff_true]
    refine ⟨_, spells_value_iff.mpr ⟨if file.limitedCreditEnabled then 1 else 0, ?_, rfl⟩⟩
    cases file.limitedCreditEnabled <;> rfl
  · simp only [spells_iff_of_ne_value (not_exists.mp hvalue)]
    exact ⟨fun ⟨_, h⟩ => h.1, fun h => ⟨_, h, rfl⟩⟩

end FileKind

/-! ### The whole record -/

namespace FileSettings

theorem decode_of_kind_error {data : Bytes} {cause : Error}
    (h : FileKind.decode data = .error cause) : decode data = .error cause := by
  rw [decode, h]
  rfl

/-- Once the kind is read, nothing but the mode can be wrong. -/
theorem decode_of_kind {code mode first second : UInt8} {rest : Bytes} {kind : FileKind}
    (h : FileKind.decode (code :: mode :: first :: second :: rest) = .ok kind) :
    decode (code :: mode :: first :: second :: rest) =
      (CommunicationMode.ofCode mode).map fun mode =>
        { mode, rights := .ofBytes first second, kind } := by
  have hmode : Bytes.byte ([code] ++ mode :: first :: second :: rest) 1 = .ok mode :=
    Bytes.byte_append mode rfl
  have hrights : Bytes.vector ([code, mode] ++ ([first, second] ++ rest)) 2 2 = .ok _ :=
    Bytes.vector_append rfl rfl
  simp only [List.cons_append, List.nil_append] at hmode hrights
  rw [decode, h]
  simp only [bind, Except.bind, hmode, hrights]
  cases CommunicationMode.ofCode mode <;> rfl

/-- Decoding succeeds on the records of the grammar, whatever follows them, and on nothing
else. -/
theorem decode_eq_ok_iff {data : Bytes} {settings : FileSettings} :
    decode data = .ok settings ↔ ∃ record rest, settings.Spells record ∧ data = record ++ rest := by
  refine ⟨?_, ?_⟩
  · intro h
    cases hkind : FileKind.decode data with
    | error cause =>
        rw [decode_of_kind_error hkind] at h
        contradiction
    | ok kind =>
        obtain ⟨mode, first, second, particulars, rest, hspells, rfl⟩ :=
          FileKind.decode_eq_ok_iff.mp hkind
        rw [decode_of_kind hkind] at h
        cases hmode : CommunicationMode.ofCode mode with
        | error cause =>
            rw [hmode] at h
            contradiction
        | ok m =>
            rw [hmode] at h
            obtain rfl := Except.ok.inj h
            rw [CommunicationMode.ofCode_eq_ok_iff] at hmode
            refine ⟨_, rest, ⟨particulars, hspells, rfl⟩, ?_⟩
            simp [type, hmode, AccessRights.toBytes_ofBytes]
  · intro h
    obtain ⟨_, rest, ⟨particulars, hspells, rfl⟩, rfl⟩ := h
    obtain ⟨mode, rights, kind⟩ := settings
    have hkind : FileKind.decode (kind.type.code :: mode.code ::
        AccessRights.pack rights.change rights.readWrite ::
        AccessRights.pack rights.write rights.read :: (particulars ++ rest)) = .ok kind :=
      FileKind.decode_eq_ok_iff.mpr ⟨_, _, _, particulars, rest, hspells, rfl⟩
    have hmode := CommunicationMode.ofCode_eq_ok_iff.mpr (Eq.refl mode.code)
    have hdecode := decode_of_kind hkind
    rw [hmode, AccessRights.ofBytes_pack rights, Except.map] at hdecode
    simpa only [type, AccessRights.toBytes, List.append_assoc, List.cons_append, List.nil_append]
      using hdecode

/-- **A record decodes to the settings that the grammar spells that way, and every settings
whose numbers fit into their fields have a record.**  Only the flag of a value file has
more than one spelling. -/
theorem decode_iff_spells :
    (∀ (data : Bytes) (settings : FileSettings), decode data = .ok settings ↔
      ∃ record rest, settings.Spells record ∧ data = record ++ rest) ∧
    (∀ settings : FileSettings, (∃ data, decode data = .ok settings) ↔
      ∀ n ∈ settings.kind.narrowNumbers, n.toNat < 2 ^ 24) := by
  refine ⟨fun data settings => decode_eq_ok_iff, ?_⟩
  intro settings
  rw [← FileKind.exists_spells_iff]
  refine ⟨?_, ?_⟩
  · intro h
    obtain ⟨data, h⟩ := h
    obtain ⟨_, _, ⟨particulars, hspells, -⟩, -⟩ := decode_eq_ok_iff.mp h
    exact ⟨particulars, hspells⟩
  · intro h
    obtain ⟨particulars, hspells⟩ := h
    exact ⟨_, decode_eq_ok_iff.mpr ⟨_, [], ⟨particulars, hspells, rfl⟩, (List.append_nil _).symm⟩⟩

end FileSettings

end SmartCard
