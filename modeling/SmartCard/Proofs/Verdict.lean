/-
What decoding says of any bytes, read off the bytes.

`FileSettings.Fault` lists what can be wrong with a record in terms of types and modes.
Here the same is said of the bytes themselves.  `layouts` is the table of the type bytes
that have records, with the length of each, and every outcome of decoding is a condition on
the first byte, the number of bytes and the second byte, asked in this order.  Of any bytes
exactly one of the conditions holds.

The reads behind the length check come last.  None of them fails once the check has passed,
and each ends early enough for its end to be a 64-bit position, whatever the data is.
-/
import SmartCard.Bytes.Reader
import SmartCard.Proofs.Fault

namespace SmartCard

/-! ### Single reads -/

namespace Bytes

private theorem exists_byte {data : Bytes} {position : Nat} (h : position < data.length) :
    ∃ b, data.byte position = .ok b :=
  ⟨data[position], dif_pos h⟩

private theorem exists_vector {data : Bytes} {start count : Nat} (h : start + count ≤ data.length) :
    ∃ field, data.vector start count = .ok field :=
  ⟨_, dif_pos h⟩

/-- A read whose end is a 64-bit position has an outcome. -/
theorem within_eq_some {α : Type} {start count : UInt64} {read : Except Error α}
    (h : start.toNat + count.toNat < UInt64.size) : within start count read = some read := by
  rw [within, Word64.add?, if_pos h]
  rfl

end Bytes

/-- The spelling of a kind is as long as its type says. -/
theorem FileKind.Spells.recordLength? {kind : FileKind} {particulars : Bytes}
    (h : kind.Spells particulars) :
    kind.type.recordLength? = some (FileSettings.headerLength + particulars.length) := by
  cases h with
  | standardData hsize | backupData hsize =>
      rw [hsize.length]
      rfl
  | value hflag => simp [type, FileType.recordLength?, ValueFile.recordLength]
  | linearRecord hsize hcapacity hcount | cyclicRecord hsize hcapacity hcount =>
      simp [type, FileType.recordLength?, RecordFile.recordLength, hsize.length, hcapacity.length,
        hcount.length]

namespace FileSettings

/-! ### The type byte -/

/-- The type bytes that have records, each with the length of these records. -/
def layouts : List (UInt8 × Nat) :=
  [(0, 7), (1, 7), (2, 17), (3, 13), (4, 13)]

/-- The first byte is the type byte of records of this length. -/
def Announces (data : Bytes) (length : Nat) : Prop :=
  ∃ code, data[0]? = some code ∧ (code, length) ∈ layouts

variable {code mode : UInt8} {length needed actual : Nat} {data : Bytes} {cause : Error}

theorem mem_layouts_iff :
    (code, length) ∈ layouts ↔ ∃ t : FileType, code = t.code ∧ t.recordLength? = some length := by
  refine ⟨?_, ?_⟩
  · intro h
    simp only [layouts, List.mem_cons, Prod.mk.injEq, List.not_mem_nil, or_false] at h
    rcases h with ⟨rfl, rfl⟩ | ⟨rfl, rfl⟩ | ⟨rfl, rfl⟩ | ⟨rfl, rfl⟩ | ⟨rfl, rfl⟩
    · exact ⟨.standardData, rfl, rfl⟩
    · exact ⟨.backupData, rfl, rfl⟩
    · exact ⟨.value, rfl, rfl⟩
    · exact ⟨.linearRecord, rfl, rfl⟩
    · exact ⟨.cyclicRecord, rfl, rfl⟩
  · intro h
    obtain ⟨t, rfl, hlength⟩ := h
    cases t with
    | transactionMac => contradiction
    | _ =>
        obtain rfl := Option.some.inj hlength
        decide

/-- Bytes announce a record if and only if a type with a decoder stands in front. -/
theorem announces_iff :
    Announces data length ↔
      ∃ (t : FileType) (rest : Bytes), data = t.code :: rest ∧ t.recordLength? = some length := by
  refine ⟨?_, ?_⟩
  · intro h
    obtain ⟨code, hcode, hmem⟩ := h
    obtain ⟨t, rfl, ht⟩ := mem_layouts_iff.mp hmem
    obtain ⟨rest, rfl⟩ := List.head?_eq_some_iff.mp (List.head?_eq_getElem?.trans hcode)
    exact ⟨t, rest, rfl, ht⟩
  · intro h
    obtain ⟨t, rest, rfl, ht⟩ := h
    exact ⟨t.code, rfl, mem_layouts_iff.mpr ⟨t, rfl, ht⟩⟩

/-- Bytes announce records of one length only. -/
theorem Announces.unique {other : Nat} (h : Announces data length) (h' : Announces data other) :
    length = other := by
  have hunique : ∀ p ∈ layouts, ∀ q ∈ layouts, p.1 = q.1 → p.2 = q.2 := by decide
  obtain ⟨code, hcode, hmem⟩ := h
  obtain ⟨code', hcode', hmem'⟩ := h'
  exact hunique _ hmem _ hmem' (Option.some.inj (hcode.symm.trans hcode'))

/-- No record is longer than that of a value file. -/
theorem Announces.le (h : Announces data length) : length ≤ 17 := by
  obtain ⟨code, -, hmem⟩ := h
  have hlongest : ∀ p ∈ layouts, p.2 ≤ 17 := by decide
  exact hlongest _ hmem

theorem exists_mem_layouts_iff : (∃ length, (code, length) ∈ layouts) ↔ code.toNat < 5 := by
  refine ⟨?_, ?_⟩
  · intro h
    obtain ⟨length, h⟩ := h
    have hsmall : ∀ p ∈ layouts, p.1.toNat < 5 := by decide
    exact hsmall _ h
  · intro h
    have hcode : code = 0 ∨ code = 1 ∨ code = 2 ∨ code = 3 ∨ code = 4 := by
      simp only [← UInt8.toNat_inj, UInt8.reduceToNat]
      omega
    rcases hcode with rfl | rfl | rfl | rfl | rfl
    · exact ⟨7, by decide⟩
    · exact ⟨7, by decide⟩
    · exact ⟨17, by decide⟩
    · exact ⟨13, by decide⟩
    · exact ⟨13, by decide⟩

theorem no_decoder_iff :
    (∀ t, FileType.ofCode? code = some t → t.recordLength? = none) ↔ 5 ≤ code.toNat := by
  rw [← Nat.not_lt, ← exists_mem_layouts_iff, not_exists]
  refine ⟨?_, ?_⟩
  · intro h length hmem
    obtain ⟨t, rfl, hlength⟩ := mem_layouts_iff.mp hmem
    rw [h t (FileType.ofCode?_code t)] at hlength
    contradiction
  · intro h t ht
    rw [Option.eq_none_iff_forall_ne_some]
    intro length hlength
    exact h length (mem_layouts_iff.mpr ⟨t, FileType.ofCode?_eq_some_iff.mp ht, hlength⟩)

/-! ### The mode byte -/

private theorem mode_code_mem (m : CommunicationMode) : m.code ∈ [0, 1, 3] := by
  cases m <;> decide

theorem no_mode_iff : CommunicationMode.ofCode? mode = none ↔ mode ∉ [0, 1, 3] := by
  rw [Option.eq_none_iff_forall_ne_some]
  refine ⟨?_, ?_⟩
  · intro h hmem
    simp only [List.mem_cons, List.not_mem_nil, or_false] at hmem
    rcases hmem with rfl | rfl | rfl
    · exact h .plain rfl
    · exact h .mac rfl
    · exact h .encrypted rfl
  · intro h m hm
    rw [CommunicationMode.ofCode?_eq_some_iff] at hm
    exact h (hm ▸ mode_code_mem m)

/-! ### Each outcome by the bytes -/

theorem decode_tooShort_iff :
    decode data = .error (.tooShort needed actual) ↔
      (data = [] ∧ needed = 1 ∧ actual = 0) ∨
      (Announces data needed ∧ data.length < needed ∧ actual = data.length) := by
  rw [decode_eq_error_iff, announces_iff]
  refine ⟨?_, ?_⟩
  · intro h
    cases h with
    | empty => exact .inl ⟨rfl, rfl, rfl⟩
    | length ht hshort => exact .inr ⟨⟨_, _, rfl, ht⟩, hshort, rfl⟩
  · intro h
    rcases h with ⟨rfl, rfl, rfl⟩ | ⟨⟨t, rest, rfl, ht⟩, hshort, rfl⟩
    · exact .empty
    · exact .length ht hshort

theorem decode_fileType_iff :
    decode data = .error (.fileType code) ↔ data[0]? = some code ∧ 5 ≤ code.toNat := by
  rw [decode_eq_error_iff, ← no_decoder_iff]
  refine ⟨?_, ?_⟩
  · intro h
    cases h with
    | fileType hcode => exact ⟨rfl, hcode⟩
  · intro h
    obtain ⟨hfirst, hcode⟩ := h
    obtain ⟨rest, rfl⟩ := List.head?_eq_some_iff.mp (List.head?_eq_getElem?.trans hfirst)
    exact .fileType hcode

theorem decode_mode_iff :
    decode data = .error (.communicationMode mode) ↔
      ∃ length, Announces data length ∧ length ≤ data.length ∧ data[1]? = some mode ∧
        mode ∉ [0, 1, 3] := by
  simp only [decode_eq_error_iff, announces_iff, ← no_mode_iff]
  refine ⟨?_, ?_⟩
  · intro h
    cases h with
    | mode ht hlong hmode => exact ⟨_, ⟨_, _, rfl, ht⟩, hlong, rfl, hmode⟩
  · intro h
    obtain ⟨length, ⟨t, rest, rfl, ht⟩, hlong, hsecond, hmode⟩ := h
    obtain ⟨rest, rfl⟩ := List.head?_eq_some_iff.mp (List.head?_eq_getElem?.trans hsecond)
    exact .mode ht hlong hmode

/-- There are no other causes. -/
theorem cause_of_decode (h : decode data = .error cause) :
    (∃ needed actual, cause = .tooShort needed actual) ∨ (∃ code, cause = .fileType code) ∨
      ∃ mode, cause = .communicationMode mode := by
  cases fault_of_decode h with
  | empty => exact .inl ⟨_, _, rfl⟩
  | fileType hcode => exact .inr (.inl ⟨_, rfl⟩)
  | length ht hshort => exact .inl ⟨_, _, rfl⟩
  | mode ht hlong hmode => exact .inr (.inr ⟨_, rfl⟩)

/-! ### Announced records -/

private theorem Announces.ne_nil (h : Announces data length) : data ≠ [] := by
  obtain ⟨code, hcode, -⟩ := h
  intro hnil
  rw [hnil] at hcode
  contradiction

/-- As many bytes as were announced are enough. -/
theorem Announces.ne_tooShort (h : Announces data length) (hlong : length ≤ data.length)
    (needed actual : Nat) : decode data ≠ .error (.tooShort needed actual) := by
  intro hdecode
  obtain ⟨hnil, -⟩ | ⟨h', hshort, -⟩ := decode_tooShort_iff.mp hdecode
  · exact h.ne_nil hnil
  · rw [h.unique h'] at hlong
    omega

private theorem Announces.ne_fileType (h : Announces data length) (code : UInt8) :
    decode data ≠ .error (.fileType code) := by
  intro hdecode
  obtain ⟨hfirst, hlarge⟩ := decode_fileType_iff.mp hdecode
  obtain ⟨code', hfirst', hmem⟩ := h
  obtain rfl : code = code' := Option.some.inj (hfirst.symm.trans hfirst')
  have hsmall := exists_mem_layouts_iff.mp ⟨length, hmem⟩
  omega

/-! ### Good records by the bytes -/

/-- A record announces its own length, whatever follows it. -/
theorem Spells.announces {settings : FileSettings} {record : Bytes} (h : settings.Spells record)
    (rest : Bytes) : Announces (record ++ rest) record.length := by
  obtain ⟨particulars, hspells, rfl⟩ := h
  have hlength : ([settings.type.code, settings.mode.code] ++ settings.rights.toBytes
      ++ particulars).length = headerLength + particulars.length := by
    simp only [AccessRights.toBytes, List.length_append, List.length_cons, List.length_nil,
      headerLength]
  rw [announces_iff, hlength]
  exact ⟨settings.type, _, rfl, hspells.recordLength?⟩

theorem exists_decode_iff :
    (∃ settings, decode data = .ok settings) ↔
      ∃ length mode, Announces data length ∧ length ≤ data.length ∧ data[1]? = some mode ∧
        mode ∈ [0, 1, 3] := by
  refine ⟨?_, ?_⟩
  · intro h
    obtain ⟨settings, h⟩ := h
    obtain ⟨record, rest, hspells, rfl⟩ := decode_eq_ok_iff.mp h
    refine ⟨record.length, settings.mode.code, hspells.announces rest, by simp, ?_,
      mode_code_mem settings.mode⟩
    obtain ⟨particulars, -, rfl⟩ := hspells
    rfl
  · intro h
    obtain ⟨length, mode, hannounces, hlong, hsecond, hmode⟩ := h
    cases hdecode : decode data with
    | ok settings => exact ⟨settings, rfl⟩
    | error cause =>
        exfalso
        obtain ⟨needed, actual, rfl⟩ | ⟨code, rfl⟩ | ⟨mode', rfl⟩ := cause_of_decode hdecode
        · exact hannounces.ne_tooShort hlong needed actual hdecode
        · exact hannounces.ne_fileType code hdecode
        · obtain ⟨_, -, -, hsecond', hno⟩ := decode_mode_iff.mp hdecode
          rw [hsecond, Option.some.injEq] at hsecond'
          exact hno (hsecond' ▸ hmode)

/-! ### The verdict -/

/-- **The first byte, the number of bytes and the second byte decide what decoding reports, in
this order.**  Nothing else is ever reported, and behind the check of the length no read of a
field fails, or has an end that is no 64-bit position. -/
theorem verdict_by_bytes (data : Bytes) :
    (decode data = .error (.tooShort 1 0) ↔ data = []) ∧
    (∀ code, decode data = .error (.fileType code) ↔ data[0]? = some code ∧ 5 ≤ code.toNat) ∧
    (∀ needed actual, decode data = .error (.tooShort needed actual) ↔
      (data = [] ∧ needed = 1 ∧ actual = 0) ∨
      (Announces data needed ∧ data.length < needed ∧ actual = data.length)) ∧
    (∀ mode, decode data = .error (.communicationMode mode) ↔
      ∃ length, Announces data length ∧ length ≤ data.length ∧ data[1]? = some mode ∧
        mode ∉ [0, 1, 3]) ∧
    ((∃ settings, decode data = .ok settings) ↔
      ∃ length mode, Announces data length ∧ length ≤ data.length ∧ data[1]? = some mode ∧
        mode ∈ [0, 1, 3]) ∧
    (∀ cause, decode data = .error cause →
      (∃ needed actual, cause = .tooShort needed actual) ∨ (∃ code, cause = .fileType code) ∨
        ∃ mode, cause = .communicationMode mode) ∧
    ((7 ≤ data.length → ∃ file, DataFile.decode data = .ok file) ∧
      (17 ≤ data.length → ∃ file, ValueFile.decode data = .ok file) ∧
      (13 ≤ data.length → ∃ file, RecordFile.decode data = .ok file) ∧
      (4 ≤ data.length → (∃ mode, data.byte 1 = .ok mode) ∧
        ∃ packed, data.vector 2 2 = .ok packed)) ∧
    data.byteAt? 0 = some (data.byte 0) ∧ data.byteAt? 1 = some (data.byte 1) ∧
      data.vectorAt? 2 2 = some (data.vector 2 2) ∧
      (∀ start ∈ [4, 7, 10], data.u24At? start = some (data.u24 start.toNat)) ∧
      (∀ start ∈ [4, 8, 12], data.u32At? start = some (data.u32 start.toNat)) ∧
      data.byteAt? 16 = some (data.byte 16) := by
  refine ⟨?_, fun _ => decode_fileType_iff, fun _ _ => decode_tooShort_iff,
    fun _ => decode_mode_iff, exists_decode_iff, fun _ => cause_of_decode, ⟨?_, ?_, ?_, ?_⟩,
    Bytes.within_eq_some (by decide), Bytes.within_eq_some (by decide),
    Bytes.within_eq_some (by decide), ?_, ?_, Bytes.within_eq_some (by decide)⟩
  · rw [decode_tooShort_iff]
    refine ⟨?_, fun h => .inl ⟨h, rfl, rfl⟩⟩
    intro h
    obtain ⟨h, -⟩ | ⟨-, -, h⟩ := h
    · exact h
    · exact List.eq_nil_of_length_eq_zero h.symm
  · exact FileKind.readBy_standardData.long data
  · exact FileKind.readBy_valueFile.long data
  · exact FileKind.readBy_linearRecord.long data
  · intro h
    exact ⟨Bytes.exists_byte (by omega), Bytes.exists_vector h⟩
  · intro start hstart
    simp only [List.mem_cons, List.not_mem_nil, or_false] at hstart
    rcases hstart with rfl | rfl | rfl <;> exact Bytes.within_eq_some (by decide)
  · intro start hstart
    simp only [List.mem_cons, List.not_mem_nil, or_false] at hstart
    rcases hstart with rfl | rfl | rfl <;> exact Bytes.within_eq_some (by decide)

-- A record that is too short and has no mode is reported as too short.
example : decode [0, 2, 0, 0, 1, 0] = .error (.tooShort 7 6) := by
  decide

end FileSettings

end SmartCard
