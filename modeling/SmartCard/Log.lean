/-
The log of an exchange with a card.

Each record is one event: a frame went out, an answer came in, or one of them was
not as it should be.  Frames and answers are traced with all their bytes; what went
wrong is noted for whoever debugs it.
-/
import SmartCard.Error

namespace SmartCard

/-- How important a log record is. -/
inductive LogLevel
  | trace
  | debug
deriving DecidableEq, Repr

/-- The level's name in a log. -/
def LogLevel.name : LogLevel → String
  | trace => "TRACE"
  | debug => "DEBUG"

/-- An event of an exchange. -/
inductive LogRecord
  /-- A frame was handed to the driver. -/
  | sent (frame : Bytes)
  /-- The driver handed an answer back. -/
  | received (answer : Bytes)
  /-- The driver failed to transmit a command. -/
  | transmitFailed (instruction : UInt8) (fault : DriverFault)
  /-- The answer to a command could not be opened. -/
  | badResponse (instruction : UInt8) (cause : Error)
  /-- The card refused to report the settings of a file. -/
  | settingsRefused (file status : UInt8)
deriving DecidableEq, Repr

namespace LogRecord

/-- Traffic is traced, trouble is for debugging. -/
def level : LogRecord → LogLevel
  | sent _ | received _ => .trace
  | transmitFailed .. | badResponse .. | settingsRefused .. => .debug

/-- The event in words. -/
def message : LogRecord → String
  | sent frame => ">> " ++ Hex.spaced frame
  | received answer => "<< " ++ Hex.spaced answer
  | transmitFailed instruction fault =>
      "transmit of ins " ++ Hex.code instruction ++ " failed: " ++ fault.text
  | badResponse instruction cause =>
      "bad response to ins " ++ Hex.code instruction ++ ": " ++ cause.message
  | settingsRefused file status =>
      "GetFileSettings(" ++ toString file.toNat ++ ") rejected with status " ++ Hex.code status

/-- The record as a line of a log. -/
def text (record : LogRecord) : String :=
  record.level.name ++ " " ++ record.message

end LogRecord

end SmartCard
