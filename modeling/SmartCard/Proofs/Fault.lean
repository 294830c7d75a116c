/-
What decoding reports of a bad record.

A record can be wrong in four ways: there is nothing at all, the type byte stands for no
kind, the bytes end before the record does, and the mode byte stands for no mode.
`FileSettings.Fault` lists them with the cause each is reported by, and
`FileSettings.fault_of_decode` says there are no others.  In particular the only lengths
a report ever asks for are one byte and the three record lengths: the check of the whole
length comes first, so no reader of a single field is ever the one that fails.
-/
import SmartCard.Proofs.Record

namespace SmartCard

/-- The causes that speak of records.  A length is one of them if a record, or a part of one
that is read for itself, has it. -/
def Error.OfRecord : Error → Prop
  | tooShort needed _ => needed ∈ [1, 7, 13, 17]
  | fileType _ | communicationMode _ => True
  | notOpen | transmit .. | statusWord .. | accessKey _ | tooLong .. | refused .. => False

/-- The length of the records of a type, for the types that have a decoder. -/
def FileType.recordLength? : FileType → Option Nat
  | standardData | backupData => some DataFile.recordLength
  | value => some ValueFile.recordLength
  | linearRecord | cyclicRecord => some RecordFile.recordLength
  | transactionMac => none

namespace FileKind

variable {α : Type} {length : Nat} {decode' : Bytes → Except Error α} {kind : α → FileKind}

private theorem ReadBy.map_of_short (h : ReadBy length decode' kind) {data : Bytes}
    (hshort : data.length < length) :
    (decode' data).map kind = .error (.tooShort length data.length) := by
  rw [h.short data hshort]
  rfl

private theorem ReadBy.map_of_long (h : ReadBy length decode' kind) {data : Bytes}
    (hlong : length ≤ data.length) : ∃ k, (decode' data).map kind = .ok k := by
  obtain ⟨file, hfile⟩ := h.long data hlong
  refine ⟨kind file, ?_⟩
  rw [hfile]
  rfl

/-- Behind a type byte that has a decoder, the number of bytes decides. -/
theorem decode_of_type {t : FileType} (ht : t.recordLength? = some length) (rest : Bytes) :
    ((t.code :: rest).length < length →
      decode (t.code :: rest) = .error (.tooShort length (t.code :: rest).length)) ∧
    (length ≤ (t.code :: rest).length → ∃ k, decode (t.code :: rest) = .ok k) := by
  rw [decode_cons, FileType.ofCode?_code]
  cases t with
  | standardData =>
      obtain rfl := Option.some.inj ht
      exact ⟨readBy_standardData.map_of_short, readBy_standardData.map_of_long⟩
  | backupData =>
      obtain rfl := Option.some.inj ht
      exact ⟨readBy_backupData.map_of_short, readBy_backupData.map_of_long⟩
  | value =>
      obtain rfl := Option.some.inj ht
      exact ⟨readBy_valueFile.map_of_short, readBy_valueFile.map_of_long⟩
  | linearRecord =>
      obtain rfl := Option.some.inj ht
      exact ⟨readBy_linearRecord.map_of_short, readBy_linearRecord.map_of_long⟩
  | cyclicRecord =>
      obtain rfl := Option.some.inj ht
      exact ⟨readBy_cyclicRecord.map_of_short, readBy_cyclicRecord.map_of_long⟩
  | transactionMac => contradiction

/-- A type byte without a decoder is refused whatever follows it. -/
theorem decode_of_no_type {code : UInt8}
    (hcode : ∀ t, FileType.ofCode? code = some t → t.recordLength? = none) (rest : Bytes) :
    decode (code :: rest) = .error (.fileType code) := by
  rw [decode_cons]
  cases ht : FileType.ofCode? code with
  | none => rfl
  | some t =>
      have hnone := hcode t ht
      cases t with
      | transactionMac => rfl
      | _ => contradiction

end FileKind

namespace FileSettings

/-- The ways in which a record can be wrong, and the cause that is reported of each. -/
inductive Fault : Bytes → Error → Prop
  | empty : Fault [] (.tooShort 1 0)
  | fileType {code : UInt8} {rest : Bytes}
      (hcode : ∀ t, FileType.ofCode? code = some t → t.recordLength? = none) :
      Fault (code :: rest) (.fileType code)
  | length {t : FileType} {length : Nat} {rest : Bytes} (ht : t.recordLength? = some length)
      (hshort : (t.code :: rest).length < length) :
      Fault (t.code :: rest) (.tooShort length (t.code :: rest).length)
  | mode {t : FileType} {length : Nat} {mode : UInt8} {rest : Bytes}
      (ht : t.recordLength? = some length) (hlong : length ≤ (t.code :: mode :: rest).length)
      (hmode : CommunicationMode.ofCode? mode = none) :
      Fault (t.code :: mode :: rest) (.communicationMode mode)

/-- Behind a kind that was read, only the mode byte is left to be wrong. -/
private theorem fault_of_mode {t : FileType} {length : Nat} {rest : Bytes} {k : FileKind}
    {cause : Error} (ht : t.recordLength? = some length)
    (hlong : length ≤ (t.code :: rest).length)
    (hkind : FileKind.decode (t.code :: rest) = .ok k)
    (h : decode (t.code :: rest) = .error cause) : Fault (t.code :: rest) cause := by
  obtain ⟨mode, first, second, particulars, after, -, hdata⟩ := FileKind.decode_eq_ok_iff.mp hkind
  obtain ⟨-, rfl⟩ := List.cons.inj hdata
  rw [decode_of_kind hkind] at h
  cases hmode : CommunicationMode.ofCode mode with
  | ok m =>
      rw [hmode] at h
      contradiction
  | error cause' =>
      rw [hmode] at h
      obtain rfl : cause' = cause := Except.error.inj h
      obtain ⟨hnone, rfl⟩ := CommunicationMode.ofCode_eq_error_iff.mp hmode
      exact .mode ht hlong hnone

/-- Every failure to decode is one of the four faults. -/
theorem fault_of_decode {data : Bytes} {cause : Error} (h : decode data = .error cause) :
    Fault data cause := by
  cases data with
  | nil =>
      obtain rfl : Error.tooShort 1 0 = cause := Except.error.inj h
      exact .empty
  | cons code rest =>
      by_cases hcode : ∃ t length, FileType.ofCode? code = some t ∧ t.recordLength? = some length
      · obtain ⟨t, length, ht, hlength⟩ := hcode
        obtain rfl := FileType.ofCode?_eq_some_iff.mp ht
        obtain ⟨hshort, hlong⟩ := FileKind.decode_of_type hlength rest
        by_cases hlen : (t.code :: rest).length < length
        · rw [decode_of_kind_error (hshort hlen)] at h
          obtain rfl := Except.error.inj h
          exact .length hlength hlen
        · obtain ⟨k, hk⟩ := hlong (Nat.le_of_not_lt hlen)
          exact fault_of_mode hlength (Nat.le_of_not_lt hlen) hk h
      · have hnone : ∀ t, FileType.ofCode? code = some t → t.recordLength? = none := by
          intro t ht
          rw [Option.eq_none_iff_forall_not_mem]
          intro length hlength
          exact hcode ⟨t, length, ht, hlength⟩
        rw [decode_of_kind_error (FileKind.decode_of_no_type hnone rest)] at h
        obtain rfl := Except.error.inj h
        exact .fileType hnone

/-- Every fault is reported as such, whatever else is wrong with the record. -/
theorem decode_of_fault {data : Bytes} {cause : Error} (h : Fault data cause) :
    decode data = .error cause := by
  cases h with
  | empty => rfl
  | fileType hcode => exact decode_of_kind_error (FileKind.decode_of_no_type hcode _)
  | length ht hshort => exact decode_of_kind_error ((FileKind.decode_of_type ht _).1 hshort)
  | @mode t _ mode rest ht hlong hmode =>
      obtain ⟨k, hkind⟩ := (FileKind.decode_of_type ht _).2 hlong
      obtain ⟨_, first, second, particulars, after, -, hdata⟩ := FileKind.decode_eq_ok_iff.mp hkind
      obtain ⟨-, rfl, rfl⟩ : _ ∧ _ ∧ rest = _ := by simpa only [List.cons.injEq] using hdata
      rw [decode_of_kind hkind, CommunicationMode.ofCode_eq_error_iff.mpr ⟨hmode, rfl⟩]
      rfl

theorem decode_eq_error_iff {data : Bytes} {cause : Error} :
    decode data = .error cause ↔ Fault data cause :=
  ⟨fault_of_decode, decode_of_fault⟩

/-- A fault is reported by a cause that speaks of records. -/
theorem Fault.ofRecord {data : Bytes} {cause : Error} (h : Fault data cause) :
    cause.OfRecord := by
  cases h with
  | empty => simp [Error.OfRecord]
  | fileType hcode => exact trivial
  | @length t _ _ ht =>
      cases t with
      | transactionMac => contradiction
      | _ =>
          obtain rfl := Option.some.inj ht
          simp [Error.OfRecord, DataFile.recordLength, ValueFile.recordLength,
            RecordFile.recordLength, headerLength]
  | mode ht hlong hmode => exact trivial

end FileSettings

end SmartCard
