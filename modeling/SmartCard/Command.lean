/-
Native commands and responses.

A command to the card is an instruction byte with a payload of parameters; as a
byte string the instruction comes first.  The card answers with a status byte and a
payload; as a byte string the status comes first.  Two statuses have a meaning of
their own: the command was completed, and the card has more to send.
-/
import SmartCard.Error

namespace SmartCard

/-- A native command: an instruction and its parameters. -/
structure Command where
  /-- The instruction byte. -/
  instruction : UInt8
  /-- The parameters. -/
  payload : Bytes
deriving DecidableEq, Repr

namespace Command

/-- A command without parameters. -/
def bare (instruction : UInt8) : Command :=
  { instruction, payload := [] }

/-- The command as a byte string, instruction first. -/
def toBytes (command : Command) : Bytes :=
  command.instruction :: command.payload

/-- The command a byte string spells; only the empty string spells none. -/
def ofBytes : Bytes → Except Error Command
  | [] => .error (.tooShort 1 0)
  | instruction :: payload => .ok { instruction, payload }

theorem ofBytes_toBytes (command : Command) : ofBytes command.toBytes = .ok command := rfl

end Command

/-- A native response: a status and what the card has to say. -/
structure Response where
  /-- The status byte. -/
  status : UInt8
  /-- The data that came with it. -/
  payload : Bytes
deriving DecidableEq, Repr

namespace Response

/-- The status of a completed command. -/
def completed : UInt8 := 0x00

/-- The status that announces a further frame. -/
def additionalFrame : UInt8 := 0xAF

/-- The command was completed. -/
def isOk (response : Response) : Bool :=
  response.status == completed

/-- The card has more data and waits to be asked for it. -/
def hasMore (response : Response) : Bool :=
  response.status == additionalFrame

/-- The response as a byte string, status first. -/
def toBytes (response : Response) : Bytes :=
  response.status :: response.payload

/-- The status followed by the payload in brackets. -/
def text (response : Response) : String :=
  String.ofList (Hex.byte response.status) ++ " [" ++ Hex.spaced response.payload ++ "]"

end Response

end SmartCard
