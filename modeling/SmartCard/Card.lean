/-
Cards and what can be asked of them.

A card is spoken to through the channel that leads to it.  Any command can be sent
as it is; asking for the settings of a file is a command whose response is looked
into as well.  The card refuses by a status other than success, and then its
payload, whatever it may be, is not looked at.

A request is either of the two, and the reply to it is what the card answered or why
it did not.

A builder puts a card together.  It waits for a channel; of several channels given to
it the last one counts, and a card comes of it only if that channel is open when the
card is asked for.
-/
import SmartCard.Exchange
import SmartCard.File.Record

namespace SmartCard

/-- The instruction that asks for the settings of a file. -/
def Command.fileSettingsInstruction : UInt8 := 0xF5

/-- The command that asks for the settings of a file. -/
def Command.fileSettings (file : UInt8) : Command :=
  { instruction := fileSettingsInstruction, payload := [file] }

/-- A card at the other end of a channel. -/
structure Card (W : Type) where
  /-- The channel that leads to the card. -/
  channel : Channel W

namespace Card

variable {W : Type}

/-- Sends a command to the card. -/
def exchange (card : Card W) (command : Command) (w : W) : Outcome W (Except Error Response) :=
  card.channel.exchange command w

/-- Asks the card for the settings of a file. -/
def fileSettings (card : Card W) (file : UInt8) (w : W) :
    Outcome W (Except Error FileSettings) :=
  let outcome := card.exchange (Command.fileSettings file) w
  match outcome.result with
  | .error cause => { outcome with result := .error cause }
  | .ok response =>
      if response.isOk then { outcome with result := FileSettings.decode response.payload }
      else
        { result := .error (.refused Command.fileSettingsInstruction response.status)
          log := outcome.log ++ [.settingsRefused file response.status]
          state := outcome.state }

end Card

/-! ### Requests -/

/-- Something asked of a card. -/
inductive Request
  /-- A command, sent as it is. -/
  | command (command : Command)
  /-- The question for the settings of a file. -/
  | fileSettings (file : UInt8)
deriving DecidableEq, Repr

/-- What came of a request. -/
inductive Reply
  /-- The response to a command. -/
  | response (outcome : Except Error Response)
  /-- The settings of a file. -/
  | settings (outcome : Except Error FileSettings)
deriving DecidableEq, Repr

/-- The command that carries a request to the card. -/
def Request.toCommand : Request → Command
  | command c => c
  | fileSettings file => Command.fileSettings file

/-- Why a request failed, if it did. -/
def Reply.error? : Reply → Option Error
  | response (.error cause) | settings (.error cause) => some cause
  | response (.ok _) | settings (.ok _) => none

/-- Puts a request to the card. -/
def Card.ask {W : Type} (card : Card W) (request : Request) (w : W) : Outcome W Reply :=
  match request with
  | .command c => (card.exchange c w).map .response
  | .fileSettings file => (card.fileSettings file w).map .settings

/-! ### Putting a card together -/

/-- A card to be, with the channel it has so far. -/
structure CardBuilder (W : Type) where
  /-- The channel given last. -/
  channel : Option (Channel W) := none

namespace CardBuilder

variable {W : Type}

/-- A builder without a channel. -/
def empty : CardBuilder W := {}

/-- Gives the builder a channel, in place of any it had. -/
def withChannel (_ : CardBuilder W) (channel : Channel W) : CardBuilder W :=
  { channel := some channel }

/-- The card, if there is a channel and it is open. -/
def build (builder : CardBuilder W) (w : W) : Except Error (Card W) :=
  match builder.channel with
  | none => .error .notOpen
  | some channel => if channel.isOpen w then .ok { channel } else .error .notOpen

end CardBuilder

end SmartCard
