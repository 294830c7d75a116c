/-
The record in which a card reports the settings of a file.

    type  mode  rights rights  particulars...

The type byte says how the particulars are laid out and thus how long the record has
to be: a data file has a three-byte size; a value file has three four-byte numbers
and a flag byte, in which any value but zero means yes; a record file has three
three-byte numbers.  Bytes beyond the record are not looked at.

Decoding looks at the type first, then at the length, and at the mode last, so a
record with several faults is reported by the first of them in this order.

The grammar of the records is the other direction of `FileSettings.decode`, said
without it: which byte strings are the particulars of a kind of file, and which are
the record of some settings.  A size or count of three bytes has to be below
`Bytes.u24Size`, so some settings have no record, and the flag of a value file has one
spelling for no and many for yes, so some have many.  That is why the grammar is a
relation.
-/
import SmartCard.Bytes.Reader
import SmartCard.File.Settings

namespace SmartCard

/-! ### Decoding -/

/-- The number of bytes that every record starts with: type, mode and rights. -/
def FileSettings.headerLength : Nat := 4

namespace DataFile

/-- The length of the record of a data file. -/
def recordLength : Nat := FileSettings.headerLength + 3

/-- The particulars of a data file. -/
def decode (data : Bytes) : Except Error DataFile := do
  data.require recordLength
  return { size := ← data.u24 4 }

end DataFile

namespace ValueFile

/-- The length of the record of a value file. -/
def recordLength : Nat := FileSettings.headerLength + 13

/-- The particulars of a value file. -/
def decode (data : Bytes) : Except Error ValueFile := do
  data.require recordLength
  return {
    lowerLimit := ← data.u32 4
    upperLimit := ← data.u32 8
    limitedCredit := ← data.u32 12
    limitedCreditEnabled := (← data.byte 16) != 0 }

end ValueFile

namespace RecordFile

/-- The length of the record of a record file. -/
def recordLength : Nat := FileSettings.headerLength + 9

/-- The particulars of a record file. -/
def decode (data : Bytes) : Except Error RecordFile := do
  data.require recordLength
  return {
    recordSize := ← data.u24 4
    capacity := ← data.u24 7
    count := ← data.u24 10 }

end RecordFile

namespace FileKind

/-- The kind of the file a record is about. -/
def decode (data : Bytes) : Except Error FileKind := do
  let code ← data.byte 0
  match FileType.ofCode? code with
  | some .standardData => return .standardData (← DataFile.decode data)
  | some .backupData => return .backupData (← DataFile.decode data)
  | some .value => return .value (← ValueFile.decode data)
  | some .linearRecord => return .linearRecord (← RecordFile.decode data)
  | some .cyclicRecord => return .cyclicRecord (← RecordFile.decode data)
  | some .transactionMac | none => .error (.fileType code)

end FileKind

namespace FileSettings

/-- The settings that a record reports. -/
def decode (data : Bytes) : Except Error FileSettings := do
  let kind ← FileKind.decode data
  let mode ← CommunicationMode.ofCode (← data.byte 1)
  let packed ← data.vector 2 2
  return { mode, rights := .ofBytes packed[0] packed[1], kind }

end FileSettings

/-! ### The grammar -/

/-- How many numbers fit into three bytes. -/
def Bytes.u24Size : Nat := 256 * 256 * 256

/-- A number of three bytes and its spelling. -/
def Bytes.SpellsU24 (n : UInt32) (field : Bytes) : Prop :=
  n.toNat < u24Size ∧ field = leBytes 3 n.toNat

/-- The particulars of a kind and their spellings. -/
inductive FileKind.Spells : FileKind → Bytes → Prop
  | standardData {file : DataFile} {size : Bytes} (hsize : Bytes.SpellsU24 file.size size) :
      Spells (.standardData file) size
  | backupData {file : DataFile} {size : Bytes} (hsize : Bytes.SpellsU24 file.size size) :
      Spells (.backupData file) size
  | value {file : ValueFile} {flag : UInt8} (hflag : file.limitedCreditEnabled = (flag != 0)) :
      Spells (.value file)
        (Bytes.leBytes 4 file.lowerLimit.toNat ++ Bytes.leBytes 4 file.upperLimit.toNat
          ++ Bytes.leBytes 4 file.limitedCredit.toNat ++ [flag])
  | linearRecord {file : RecordFile} {size capacity count : Bytes}
      (hsize : Bytes.SpellsU24 file.recordSize size)
      (hcapacity : Bytes.SpellsU24 file.capacity capacity)
      (hcount : Bytes.SpellsU24 file.count count) :
      Spells (.linearRecord file) (size ++ capacity ++ count)
  | cyclicRecord {file : RecordFile} {size capacity count : Bytes}
      (hsize : Bytes.SpellsU24 file.recordSize size)
      (hcapacity : Bytes.SpellsU24 file.capacity capacity)
      (hcount : Bytes.SpellsU24 file.count count) :
      Spells (.cyclicRecord file) (size ++ capacity ++ count)

/-- The numbers that the particulars of a kind have only three bytes for. -/
def FileKind.narrowNumbers : FileKind → List UInt32
  | standardData file | backupData file => [file.size]
  | value _ => []
  | linearRecord file | cyclicRecord file => [file.recordSize, file.capacity, file.count]

/-- A byte string that is the record of some settings, with nothing after it. -/
def FileSettings.Spells (settings : FileSettings) (record : Bytes) : Prop :=
  ∃ particulars, settings.kind.Spells particulars ∧
    record = [settings.type.code, settings.mode.code] ++ settings.rights.toBytes ++ particulars

end SmartCard
