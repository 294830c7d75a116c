/-
What a reader and its driver speak of.

Reader and card agree on a low-level protocol when the connection is made.  Every
frame handed to the driver is accompanied by a protocol control information block
that names this protocol by the driver's number for it, and a driver that fails
answers with a result code and a description.
-/
import SmartCard.Bytes

namespace SmartCard

/-- The low-level protocol between reader and card. -/
inductive Protocol
  | t0
  | t1
  | raw
deriving DecidableEq, Repr

namespace Protocol

/-- The protocol's name in messages. -/
def name : Protocol → String
  | t0 => "T0"
  | t1 => "T1"
  | raw => "RAW"

/-- The protocol of a given name. -/
def ofName? (text : String) : Option Protocol :=
  [t0, t1, raw].find? (·.name == text)

/-- The driver's number for the protocol. -/
def code : Protocol → UInt32
  | t0 => 1
  | t1 => 2
  | raw => 4

theorem ofName?_name (p : Protocol) : ofName? p.name = some p := by
  cases p <;> decide

end Protocol

/-- Protocol control information, handed to the driver with each frame. -/
structure Pci where
  /-- The protocol in force. -/
  protocol : Protocol
  /-- The driver's number for the protocol. -/
  code : UInt32
  /-- The length of the control block itself. -/
  length : UInt32
deriving DecidableEq, Repr

namespace Pci

/-- The length of a control block that carries nothing but its two numbers. -/
def plainLength : UInt32 := 8

/-- The control information of a negotiated protocol. -/
def ofProtocol (p : Protocol) : Pci :=
  { protocol := p, code := p.code, length := plainLength }

theorem ofProtocol_mem (p : Protocol) :
    ofProtocol p ∈ ([⟨.t0, 1, 8⟩, ⟨.t1, 2, 8⟩, ⟨.raw, 4, 8⟩] : List Pci) := by
  cases p <;> decide

/-- The control information in one phrase. -/
def text (pci : Pci) : String :=
  pci.protocol.name ++ " (pci " ++ Hex.number 4 pci.code.toNat ++ "/" ++ toString pci.length.toNat
    ++ ")"

end Pci

/-- A failure reported by the reader's driver. -/
structure DriverFault where
  /-- The driver's result code. -/
  code : UInt32
  /-- The driver's description. -/
  message : String
deriving DecidableEq, Repr

/-- The description followed by the code. -/
def DriverFault.text (fault : DriverFault) : String :=
  fault.message ++ " (code " ++ Hex.number 8 fault.code.toNat ++ ")"

end SmartCard
