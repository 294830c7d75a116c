/-
Why talking to a card can fail.

Each constructor is one cause and carries what a report of it needs.  The channel
can be closed or its driver can fail; an answer can be too short or can carry the
wrong marker; a decoded field can have a value that means nothing; a command can be
too long to frame; and the card itself can refuse.  `kind` names the cause for
programs and `message` states it for people.
-/
import SmartCard.Transport

namespace SmartCard

/-- A cause of failure. -/
inductive Error
  /-- The channel to the card is not open. -/
  | notOpen
  /-- The driver failed to transmit a frame sent with this control information. -/
  | transmit (pci : Pci) (fault : DriverFault)
  /-- A byte string ends before the bytes that are needed. -/
  | tooShort (needed actual : Nat)
  /-- The marker before the status byte is not the expected one. -/
  | statusWord (expected actual : UInt8)
  /-- The file type is unknown or has no decoder. -/
  | fileType (code : UInt8)
  /-- No communication mode has this code. -/
  | communicationMode (code : UInt8)
  /-- No access key has this number. -/
  | accessKey (number : UInt8)
  /-- A command carries more bytes than a frame can hold. -/
  | tooLong (limit actual : Nat)
  /-- The card answered the instruction with a status other than success. -/
  | refused (instruction status : UInt8)
deriving DecidableEq, Repr

namespace Error

/-- The name of the cause. -/
def kind : Error → String
  | notOpen => "ChannelNotOpen"
  | transmit .. => "TransmitFailure"
  | tooShort .. => "MalformedResponse"
  | statusWord .. => "UnexpectedStatusWord"
  | fileType _ => "UnsupportedFileType"
  | communicationMode _ => "UnknownCommunicationMode"
  | accessKey _ => "InvalidAccessKey"
  | tooLong .. => "PayloadTooLong"
  | refused .. => "CardStatus"

/-- The cause in one sentence.  Bytes are given in hexadecimal, lengths in decimal. -/
def message : Error → String
  | notOpen => "tried to transmit over a channel that is not open"
  | transmit pci fault => "failed to transmit with protocol " ++ pci.text ++ ": " ++ fault.text
  | tooShort needed actual =>
      "malformed response: expected at least " ++ toString needed ++ " bytes, got "
        ++ toString actual
  | statusWord expected actual =>
      "unexpected SW1: expected " ++ Hex.code expected ++ ", got " ++ Hex.code actual
  | fileType code => "file type " ++ Hex.code code ++ " is not supported"
  | communicationMode code => "unknown communication mode " ++ Hex.code code
  | accessKey number => "access key number " ++ Hex.code number ++ " is out of range (0x00-0x0f)"
  | tooLong limit actual =>
      "command payload too long: max " ++ toString limit ++ ", got " ++ toString actual
  | refused instruction status =>
      "card rejected command " ++ Hex.code instruction ++ ": status=" ++ Hex.code status

end Error

/-- Whether two outcomes are the same can be decided when it can be for what they carry. -/
instance decEqExcept {ε α : Type} [DecidableEq ε] [DecidableEq α] : DecidableEq (Except ε α)
  | .ok a, .ok b => decidable_of_iff (a = b) (by simp)
  | .error a, .error b => decidable_of_iff (a = b) (by simp)
  | .ok _, .error _ => isFalse (by simp)
  | .error _, .ok _ => isFalse (by simp)

end SmartCard
