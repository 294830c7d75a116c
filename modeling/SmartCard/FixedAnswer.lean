/-
A channel that always answers the same.

Every frame is answered with one response, whatever the frame says, and counted.
The response may be changed between two requests.
-/
import SmartCard.Card

namespace SmartCard

/-- The state of a channel that always answers the same. -/
structure FixedAnswer where
  /-- The response to every command. -/
  response : Response
  /-- How many frames were transmitted. -/
  transmits : Nat := 0
deriving DecidableEq, Repr

namespace FixedAnswer

/-- The channel itself: always open, over protocol T1. -/
def channel : Channel FixedAnswer where
  isOpen _ := true
  protocol _ := .ok .t1
  transmit _ _ state :=
    (.ok state.response.toApdu, { state with transmits := state.transmits + 1 })

/-- The card at the other end of it. -/
def card : Card FixedAnswer :=
  { channel }

/-- A request, with what is to be changed before it is made. -/
structure Step where
  /-- The status to answer with from here on. -/
  status : Option UInt8 := none
  /-- The payload to answer with from here on. -/
  payload : Option Bytes := none
  /-- The request. -/
  request : Request
deriving DecidableEq, Repr

/-- The state with the changes of a step made. -/
def prepare (step : Step) (state : FixedAnswer) : FixedAnswer :=
  { state with
    response :=
      { status := step.status.getD state.response.status
        payload := step.payload.getD state.response.payload } }

/-- Makes the changes of a step and then its request. -/
def step (s : Step) (state : FixedAnswer) : Outcome FixedAnswer Reply :=
  card.ask s.request (state.prepare s)

/-- Takes steps one after another. -/
def run (steps : List Step) (state : FixedAnswer) : List (Outcome FixedAnswer Reply) :=
  Outcome.run step steps state

/-- The state after some steps. -/
def after (steps : List Step) (state : FixedAnswer) : FixedAnswer :=
  Outcome.after step steps state

end FixedAnswer

end SmartCard
