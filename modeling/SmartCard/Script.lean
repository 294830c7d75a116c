/-
A channel with prepared answers.

To rehearse an exchange without a card, the answers are prepared: each transmit
takes the oldest of them, whether it is an answer or a failure of the driver.  A
transmit that finds none prepared fails with a time-out.  Every frame transmitted is
kept together with its control information.

Whether the channel is open and which protocol it has are settings that can be
changed at any time.  Transmitting looks at neither; it is up to whoever transmits
to ask first.
-/
import SmartCard.Apdu
import SmartCard.Channel

namespace SmartCard

/-- The state of a channel with prepared answers. -/
structure Script where
  /-- The frames transmitted, oldest first, with their control information. -/
  sent : List (Pci × Bytes) := []
  /-- The answers prepared, the next one first. -/
  queue : List (Except DriverFault Bytes) := []
  /-- The protocol in force. -/
  protocol : Protocol := .t1
  /-- The channel is open. -/
  isOpen : Bool := true
deriving DecidableEq, Repr

namespace Script

/-- The driver's code for a time-out. -/
def timeoutCode : UInt32 := 0x8010000A

/-- The failure of a transmit that finds no answer prepared. -/
def timeout : DriverFault :=
  { code := timeoutCode, message := "no queued response" }

/-- A script of raw answers, in order. -/
def ofRaw (protocol : Protocol) (answers : List Bytes) : Script :=
  { protocol, queue := answers.map .ok }

/-- A script that answers with the given responses, in order. -/
def ofResponses (responses : List Response) : Script :=
  ofRaw .t1 (responses.map Response.toApdu)

/-- Prepares a further answer. -/
def push (answer : Except DriverFault Bytes) (script : Script) : Script :=
  { script with queue := script.queue ++ [answer] }

/-- The frame transmitted last, if any. -/
def lastSent? (script : Script) : Option Bytes :=
  script.sent.getLast?.map (·.2)

/-- Forgets the frame transmitted last. -/
def dropSent (script : Script) : Script :=
  { script with sent := script.sent.dropLast }

/-- Transmits a frame: keeps it and takes the next answer. -/
def transmit (pci : Pci) (frame : Bytes) (script : Script) :
    Except DriverFault Bytes × Script :=
  let kept := { script with sent := script.sent ++ [(pci, frame)] }
  match script.queue with
  | [] => (.error timeout, kept)
  | answer :: rest => (answer, { kept with queue := rest })

@[simp] theorem transmit_sent (pci : Pci) (frame : Bytes) (script : Script) :
    (script.transmit pci frame).2.sent = script.sent ++ [(pci, frame)] := by
  unfold transmit
  split <;> rfl

@[simp] theorem transmit_queue (pci : Pci) (frame : Bytes) (script : Script) :
    (script.transmit pci frame).2.queue = script.queue.tail := by
  unfold transmit
  split <;> rename_i h <;> simp [h]

theorem transmit_answer (pci : Pci) (frame : Bytes) (script : Script) :
    (script.transmit pci frame).1 = script.queue.head?.getD (.error timeout) := by
  unfold transmit
  split <;> rename_i h <;> simp [h]

/-- The channel that plays a script. -/
def channel : Channel Script where
  isOpen script := script.isOpen
  protocol script := .ok script.protocol
  transmit := transmit

end Script

end SmartCard
