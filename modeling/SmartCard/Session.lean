/-
Sessions with a scripted channel.

A session is a list of steps taken one after another: answers are prepared, the
channel is closed, opened again or given another protocol, frames are taken back out
of the record or transmitted by hand, and requests are made.  A step that fails does
not end the session.

A session needs to know two things.  One is where in the state the script is, which
some steps act on directly.  The other is the way requests take: straight over a
channel, or to a card.  Neither way is told from the other by anything a session
shows.
-/
import SmartCard.Card
import SmartCard.Script

namespace SmartCard

/-- A step of a session. -/
inductive Step
  /-- Prepares an answer of the channel. -/
  | push (answer : Except DriverFault Bytes)
  /-- Prepares the frame of a response. -/
  | pushResponse (response : Response)
  /-- Closes the channel. -/
  | close
  /-- Opens the channel. -/
  | reopen
  /-- Gives the channel a protocol. -/
  | setProtocol (protocol : Protocol)
  /-- Takes back the frame transmitted last. -/
  | popSent
  /-- Transmits a frame as it is, under any control information. -/
  | transmit (pci : Pci) (frame : Bytes)
  /-- Makes a request. -/
  | ask (request : Request)
deriving DecidableEq, Repr

/-- What a step answers. -/
inductive StepResult
  /-- Nothing but that it was done. -/
  | done
  /-- The frame that was taken back, if there was one. -/
  | popped (frame : Option Bytes)
  /-- The answer to a frame that was transmitted as it is. -/
  | answer (answer : Except DriverFault Bytes)
  /-- The reply to a request. -/
  | reply (reply : Reply)
deriving DecidableEq, Repr

/-- The way that requests take. -/
inductive Route (W : Type)
  /-- Straight over a channel. -/
  | channel (channel : Channel W)
  /-- To a card. -/
  | card (card : Card W)

namespace Route

variable {W : Type}

/-- The channel that the way leads over. -/
def toChannel : Route W → Channel W
  | channel c => c
  | card c => c.channel

/-- Makes a request.  A question that only a card can be asked is put to the card at
the other end of the channel. -/
def ask (route : Route W) (request : Request) (w : W) : Outcome W Reply :=
  match route, request with
  | .channel c, .command command => (c.exchange command w).map .response
  | .channel c, .fileSettings file => (Card.fileSettings { channel := c } file w).map .settings
  | .card c, request => c.ask request w

end Route

/-- Where a session finds its script, and the way its requests take. -/
structure Session (W : Type) where
  /-- The script as a part of the state. -/
  script : Lens W Script
  /-- The way that requests take. -/
  route : Route W

namespace Session

variable {W : Type}

/-- A session over the scripted channel itself. -/
def onChannel : Session Script where
  script := .id
  route := .channel Script.channel

/-- A session over the scripted channel in a box. -/
def onBox : Session (Boxed Script) where
  script := Boxed.inside
  route := .channel Script.channel.boxed

/-- A session with a card at the other end of the scripted channel. -/
def onCard : Session Script where
  script := .id
  route := .card { channel := Script.channel }

/-- A session with the card that a builder makes of its channel, if it makes one. -/
def onBuilder (builder : CardBuilder W) (script : Lens W Script) (w : W) :
    Except Error (Session W) :=
  (builder.build w).map fun card => { script, route := .card card }

/-- A step that only changes the script. -/
def change (session : Session W) (f : Script → Script) (w : W) : Outcome W StepResult :=
  .silent .done (session.script.modify f w)

/-- Takes a step. -/
def step (session : Session W) (s : Step) (w : W) : Outcome W StepResult :=
  match s with
  | .push answer => session.change (·.push answer) w
  | .pushResponse response => session.change (·.push (.ok response.toApdu)) w
  | .close => session.change ({ · with isOpen := false }) w
  | .reopen => session.change ({ · with isOpen := true }) w
  | .setProtocol protocol => session.change ({ · with protocol }) w
  | .popSent =>
      .silent (.popped (session.script.get w).lastSent?) (session.script.modify Script.dropSent w)
  | .transmit pci frame =>
      let (answer, after) := session.route.toChannel.transmit pci frame w
      .silent (.answer answer) after
  | .ask request => (session.route.ask request w).map .reply

/-- Takes steps one after another. -/
def run (session : Session W) (steps : List Step) (w : W) : List (Outcome W StepResult) :=
  Outcome.run session.step steps w

/-- The state after some steps. -/
def after (session : Session W) (steps : List Step) (w : W) : W :=
  Outcome.after session.step steps w

end Session

end SmartCard
