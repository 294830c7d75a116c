/-
The JSON form of what a card reports.

`toJson` writes a value as an object of named fields, a name, or a number; `ofJson?`
reads it back and takes nothing that has a field missing, given twice or out of its
range.  Reading is more generous than writing in three ways: an object may have
members of other names, an array of the fields in their order may stand for the
object, and an alternative that carries nothing may be written as an object whose one
member is null.
-/
import SmartCard.File.Settings
import SmartCard.Command
import SmartCard.Json

namespace SmartCard

namespace AccessKey

/-- A key is its number. -/
def toJson (key : AccessKey) : Json :=
  .nat key.number.val

/-- An integer that is the number of a key. -/
def ofJson? (json : Json) : Option AccessKey := do
  let b ← json.u8?
  (ofByte b).toOption

end AccessKey

namespace AccessRights

/-- The names of the four rights. -/
def fieldNames : List String :=
  ["read_key", "write_key", "read_write_key", "change_key"]

/-- Rights are an object of four keys. -/
def toJson (rights : AccessRights) : Json :=
  .record fieldNames
    [rights.read.toJson, rights.write.toJson, rights.readWrite.toJson, rights.change.toJson]

/-- Four fields that are keys. -/
def ofJson? (json : Json) : Option AccessRights := do
  let [read, write, readWrite, change] ← json.fields? fieldNames | none
  return {
    read := ← AccessKey.ofJson? read
    write := ← AccessKey.ofJson? write
    readWrite := ← AccessKey.ofJson? readWrite
    change := ← AccessKey.ofJson? change }

end AccessRights

namespace FileType

/-- A file type is its name. -/
def toJson (type : FileType) : Json :=
  .str type.name

/-- The name of a file type. -/
def ofJson? (json : Json) : Option FileType := do
  ofName? (← json.alternative?)

end FileType

namespace CommunicationMode

/-- A mode is its name. -/
def toJson (mode : CommunicationMode) : Json :=
  .str mode.name

/-- The name of a mode. -/
def ofJson? (json : Json) : Option CommunicationMode := do
  ofName? (← json.alternative?)

end CommunicationMode

namespace DataFile

/-- The name of the only field. -/
def fieldNames : List String :=
  ["file_size"]

/-- An object of one number. -/
def toJson (file : DataFile) : Json :=
  .record fieldNames [.nat file.size.toNat]

/-- One field that is a number of four bytes. -/
def ofJson? (json : Json) : Option DataFile := do
  let [size] ← json.fields? fieldNames | none
  return { size := ← size.u32? }

end DataFile

namespace ValueFile

/-- The names of the fields. -/
def fieldNames : List String :=
  ["lower_limit", "upper_limit", "limited_credit_value", "limited_credit_enabled"]

/-- An object of three numbers and a truth value. -/
def toJson (file : ValueFile) : Json :=
  .record fieldNames
    [.nat file.lowerLimit.toNat, .nat file.upperLimit.toNat, .nat file.limitedCredit.toNat,
     .bool file.limitedCreditEnabled]

/-- Three fields that are numbers of four bytes, and a truth value. -/
def ofJson? (json : Json) : Option ValueFile := do
  let [lower, upper, credit, enabled] ← json.fields? fieldNames | none
  return {
    lowerLimit := ← lower.u32?
    upperLimit := ← upper.u32?
    limitedCredit := ← credit.u32?
    limitedCreditEnabled := ← enabled.bool? }

end ValueFile

namespace RecordFile

/-- The names of the fields. -/
def fieldNames : List String :=
  ["record_size", "max_record_count", "record_count"]

/-- An object of three numbers. -/
def toJson (file : RecordFile) : Json :=
  .record fieldNames
    [.nat file.recordSize.toNat, .nat file.capacity.toNat, .nat file.count.toNat]

/-- Three fields that are numbers of four bytes. -/
def ofJson? (json : Json) : Option RecordFile := do
  let [size, capacity, count] ← json.fields? fieldNames | none
  return { recordSize := ← size.u32?, capacity := ← capacity.u32?, count := ← count.u32? }

end RecordFile

namespace FileKind

/-- What is particular to the kind, as JSON. -/
def particularsToJson : FileKind → Json
  | standardData file | backupData file => file.toJson
  | value file => file.toJson
  | linearRecord file | cyclicRecord file => file.toJson

/-- An object with one member, named for the file type. -/
def toJson (kind : FileKind) : Json :=
  .obj [(kind.type.name, kind.particularsToJson)]

/-- The name of a file type that has particulars, with the particulars. -/
def ofJson? (json : Json) : Option FileKind := do
  let (name, particulars) ← json.tagged?
  match ← FileType.ofName? name with
  | .standardData => return .standardData (← DataFile.ofJson? particulars)
  | .backupData => return .backupData (← DataFile.ofJson? particulars)
  | .value => return .value (← ValueFile.ofJson? particulars)
  | .linearRecord => return .linearRecord (← RecordFile.ofJson? particulars)
  | .cyclicRecord => return .cyclicRecord (← RecordFile.ofJson? particulars)
  | .transactionMac => none

end FileKind

namespace FileSettings

/-- The names of the fields. -/
def fieldNames : List String :=
  ["communication_mode", "permissions", "kind"]

/-- An object of the mode, the rights and the kind. -/
def toJson (settings : FileSettings) : Json :=
  .record fieldNames [settings.mode.toJson, settings.rights.toJson, settings.kind.toJson]

/-- Three fields that are a mode, rights and a kind. -/
def ofJson? (json : Json) : Option FileSettings := do
  let [mode, rights, kind] ← json.fields? fieldNames | none
  return {
    mode := ← CommunicationMode.ofJson? mode
    rights := ← AccessRights.ofJson? rights
    kind := ← FileKind.ofJson? kind }

end FileSettings

namespace Response

/-- The names of the fields. -/
def fieldNames : List String :=
  ["status", "payload"]

/-- An object of the status and the bytes of the payload. -/
def toJson (response : Response) : Json :=
  .record fieldNames
    [.nat response.status.toNat, .arr (response.payload.map fun b => .nat b.toNat)]

/-- Two fields that are a byte and an array of bytes. -/
def ofJson? (json : Json) : Option Response := do
  let [status, payload] ← json.fields? fieldNames | none
  return { status := ← status.u8?, payload := ← (← payload.elements?).mapM (·.u8?) }

end Response

end SmartCard
