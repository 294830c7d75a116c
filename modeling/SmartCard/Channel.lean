/-
Channels to a card.

A channel is a connection that a reader keeps to a card: it is open or not, it has
negotiated a protocol or has to refuse to say which, and it transmits one frame at a
time and waits for the answer.  What the channel is connected to is the state `W`
that the three operations work on; transmitting changes it and the two questions do
not.  Nothing here opens a channel or closes one.
-/
import SmartCard.Error
import SmartCard.Lens

namespace SmartCard

/-- A connection to a card that works on states of type `W`. -/
structure Channel (W : Type) where
  /-- The connection is established. -/
  isOpen : W → Bool
  /-- The protocol that was negotiated. -/
  protocol : W → Except Error Protocol
  /-- Sends a frame and waits for the answer. -/
  transmit : Pci → Bytes → W → Except DriverFault Bytes × W

namespace Channel

variable {W V : Type}

/-- The channel on a part of a larger state.  It asks and changes that part only. -/
def along (channel : Channel V) (part : Lens W V) : Channel W where
  isOpen w := channel.isOpen (part.get w)
  protocol w := channel.protocol (part.get w)
  transmit pci frame w :=
    let (answer, v) := channel.transmit pci frame (part.get w)
    (answer, part.set v w)

/-- The channel in a box.  The box hands every operation on to the channel inside. -/
def boxed (channel : Channel V) : Channel (Boxed V) where
  isOpen box := channel.isOpen box.content
  protocol box := channel.protocol box.content
  transmit pci frame box :=
    let (answer, content) := channel.transmit pci frame box.content
    (answer, { content })

/-- The channel, except that it refuses to name a protocol. -/
def withoutProtocol (channel : Channel W) : Channel W :=
  { channel with protocol := fun _ => .error .notOpen }

end Channel

/-- One transmit over a channel: what it found, what it was asked and what it answered. -/
structure Call (W : Type) where
  /-- The state before the transmit. -/
  before : W
  /-- The control information that went with the frame. -/
  pci : Pci
  /-- The frame. -/
  frame : Bytes
  /-- The driver's answer. -/
  answer : Except DriverFault Bytes
deriving DecidableEq, Repr

namespace Channel

variable {W : Type}

/-- The channel, keeping an account of every transmit, oldest first. -/
def recorded (channel : Channel W) : Channel (W × List (Call W)) where
  isOpen w := channel.isOpen w.1
  protocol w := channel.protocol w.1
  transmit pci frame w :=
    let (answer, after) := channel.transmit pci frame w.1
    (answer, after, w.2 ++ [{ before := w.1, pci, frame, answer }])

end Channel

end SmartCard
