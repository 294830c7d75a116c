/-
The codes that describe a file.

The first two bytes of a file's settings are codes from two small tables: the type
of the file, and the mode in which its contents travel between reader and card.
Each table has gaps, so a code may stand for nothing.
-/
import SmartCard.Error

namespace SmartCard

/-- What kind of file the card keeps. -/
inductive FileType
  | standardData
  | backupData
  | value
  | linearRecord
  | cyclicRecord
  | transactionMac
deriving DecidableEq, Repr

namespace FileType

/-- Every file type, in the order of the codes. -/
def all : List FileType :=
  [standardData, backupData, value, linearRecord, cyclicRecord, transactionMac]

/-- The code of the file type. -/
def code : FileType → UInt8
  | standardData => 0
  | backupData => 1
  | value => 2
  | linearRecord => 3
  | cyclicRecord => 4
  | transactionMac => 5

/-- The file type of a code. -/
def ofCode? (c : UInt8) : Option FileType :=
  match c with
  | 0 => some standardData
  | 1 => some backupData
  | 2 => some value
  | 3 => some linearRecord
  | 4 => some cyclicRecord
  | 5 => some transactionMac
  | _ => none

/-- The name of the file type. -/
def name : FileType → String
  | standardData => "StandardData"
  | backupData => "BackupData"
  | value => "ValueWithBackup"
  | linearRecord => "LinearRecordWithBackup"
  | cyclicRecord => "CyclicRecordWithBackup"
  | transactionMac => "TransactionMac"

/-- The file type of a name. -/
def ofName? (text : String) : Option FileType :=
  all.find? (·.name == text)

instance : ToString FileType := ⟨name⟩

theorem ofCode?_code (t : FileType) : ofCode? t.code = some t := by
  cases t <;> rfl

/-- The two tables of codes are inverse to each other. -/
theorem ofCode?_eq_some_iff {c : UInt8} {t : FileType} : ofCode? c = some t ↔ c = t.code := by
  refine ⟨?_, ?_⟩
  · intro h
    unfold ofCode? at h
    split at h <;> cases h <;> rfl
  · intro h
    rw [h, ofCode?_code]

theorem ofName?_name (t : FileType) : ofName? t.name = some t := by
  cases t <;> decide

theorem ofName?_eq_some_iff {text : String} {t : FileType} :
    ofName? text = some t ↔ text = t.name := by
  refine ⟨?_, ?_⟩
  · intro h
    have hname : (t.name == text) = true := List.find?_some (p := fun t => name t == text) h
    exact (beq_iff_eq.mp hname).symm
  · intro h
    rw [h, ofName?_name]

end FileType

/-- How the contents of a file travel between reader and card. -/
inductive CommunicationMode
  | plain
  | mac
  | encrypted
deriving DecidableEq, Repr

namespace CommunicationMode

/-- Every mode, in the order of the codes. -/
def all : List CommunicationMode :=
  [plain, mac, encrypted]

/-- The code of the mode.  Two is no mode. -/
def code : CommunicationMode → UInt8
  | plain => 0
  | mac => 1
  | encrypted => 3

/-- The mode of a code. -/
def ofCode? (c : UInt8) : Option CommunicationMode :=
  match c with
  | 0 => some plain
  | 1 => some mac
  | 3 => some encrypted
  | _ => none

/-- The mode of a code that has to have one. -/
def ofCode (c : UInt8) : Except Error CommunicationMode :=
  match ofCode? c with
  | some mode => .ok mode
  | none => .error (.communicationMode c)

/-- The mode in words. -/
def text : CommunicationMode → String
  | plain => "Plain"
  | mac => "MAC"
  | encrypted => "Encrypted"

/-- The name of the mode in data, where only the first letter is a capital. -/
def name : CommunicationMode → String
  | plain => "Plain"
  | mac => "Mac"
  | encrypted => "Encrypted"

/-- The mode of a name. -/
def ofName? (text : String) : Option CommunicationMode :=
  all.find? (·.name == text)

instance : ToString CommunicationMode := ⟨text⟩

theorem ofCode?_code (m : CommunicationMode) : ofCode? m.code = some m := by
  cases m <;> rfl

/-- The two tables of codes are inverse to each other. -/
theorem ofCode?_eq_some_iff {c : UInt8} {m : CommunicationMode} :
    ofCode? c = some m ↔ c = m.code := by
  refine ⟨?_, ?_⟩
  · intro h
    unfold ofCode? at h
    split at h <;> cases h <;> rfl
  · intro h
    rw [h, ofCode?_code]

theorem ofCode_eq_ok_iff {c : UInt8} {m : CommunicationMode} : ofCode c = .ok m ↔ c = m.code := by
  rw [← ofCode?_eq_some_iff, ofCode]
  cases ofCode? c <;> simp

theorem ofCode_eq_error_iff {c : UInt8} {cause : Error} :
    ofCode c = .error cause ↔ ofCode? c = none ∧ cause = .communicationMode c := by
  rw [ofCode]
  cases ofCode? c <;> simp [eq_comm]

theorem ofName?_name (m : CommunicationMode) : ofName? m.name = some m := by
  cases m <;> decide

theorem ofName?_eq_some_iff {text : String} {m : CommunicationMode} :
    ofName? text = some m ↔ text = m.name := by
  refine ⟨?_, ?_⟩
  · intro h
    have hname : (m.name == text) = true := List.find?_some (p := fun m => name m == text) h
    exact (beq_iff_eq.mp hname).symm
  · intro h
    rw [h, ofName?_name]

end CommunicationMode

end SmartCard
