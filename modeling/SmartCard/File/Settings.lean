/-
The settings of a file.

What the card tells about a file: how its contents travel, which keys it asks for,
and what is particular to its kind.  Two kinds hold plain data and have a size; one
holds a value between two limits; two hold records and know the size of a record,
how many there may be and how many there are.  The card has one more file type,
`FileType.transactionMac`, whose settings are not modelled: a `FileKind` is what the
other five have.

For people, settings are one line per fact, a name and a value with a colon between
them: the type, the mode and the rights, and then what is particular to the kind of
file.  Every line is ended, the last one too.
-/
import SmartCard.Access
import SmartCard.File.Code

namespace SmartCard

/-- What is particular to a file of plain data. -/
@[ext] structure DataFile where
  /-- The size of the file in bytes. -/
  size : UInt32
deriving DecidableEq, Repr

/-- What is particular to a file that holds a value. -/
@[ext] structure ValueFile where
  /-- The least value allowed. -/
  lowerLimit : UInt32
  /-- The greatest value allowed. -/
  upperLimit : UInt32
  /-- The amount that may be credited without full rights. -/
  limitedCredit : UInt32
  /-- Crediting that amount is switched on. -/
  limitedCreditEnabled : Bool
deriving DecidableEq, Repr

/-- What is particular to a file of records. -/
@[ext] structure RecordFile where
  /-- The size of one record in bytes. -/
  recordSize : UInt32
  /-- How many records there may be. -/
  capacity : UInt32
  /-- How many records there are. -/
  count : UInt32
deriving DecidableEq, Repr

/-- The kind of a file, with what is particular to it. -/
inductive FileKind
  | standardData (file : DataFile)
  | backupData (file : DataFile)
  | value (file : ValueFile)
  | linearRecord (file : RecordFile)
  | cyclicRecord (file : RecordFile)
deriving DecidableEq, Repr

/-- The file type that a kind belongs to. -/
def FileKind.type : FileKind → FileType
  | standardData _ => .standardData
  | backupData _ => .backupData
  | value _ => .value
  | linearRecord _ => .linearRecord
  | cyclicRecord _ => .cyclicRecord

/-- The settings of a file. -/
@[ext] structure FileSettings where
  /-- How the contents travel between reader and card. -/
  mode : CommunicationMode
  /-- The keys the file asks for. -/
  rights : AccessRights
  /-- The kind of the file, with what is particular to it. -/
  kind : FileKind
deriving DecidableEq, Repr

/-- The type of the file. -/
def FileSettings.type (settings : FileSettings) : FileType :=
  settings.kind.type

/-! ### In words -/

/-- What is particular to a kind of file, as names and values. -/
def FileKind.facts : FileKind → List (String × String)
  | standardData file | backupData file =>
      [("File size", toString file.size.toNat)]
  | value file =>
      [("Lower limit", toString file.lowerLimit.toNat),
       ("Upper limit", toString file.upperLimit.toNat),
       ("Limited credit value", toString file.limitedCredit.toNat),
       ("Limited credit enabled", toString file.limitedCreditEnabled)]
  | linearRecord file | cyclicRecord file =>
      [("Record size", toString file.recordSize.toNat),
       ("Current record count", toString file.count.toNat),
       ("Max record count", toString file.capacity.toNat)]

namespace FileSettings

/-- The settings as names and values, in the order of the summary. -/
def facts (settings : FileSettings) : List (String × String) :=
  [("File type", settings.type.name),
   ("Communication mode", settings.mode.text),
   ("Permissions", settings.rights.text)] ++ settings.kind.facts

/-- One line for each fact. -/
def summary (settings : FileSettings) : String :=
  String.join (settings.facts.map fun fact => fact.1 ++ ": " ++ fact.2 ++ "\n")

instance : ToString FileSettings := ⟨summary⟩

end FileSettings

end SmartCard
