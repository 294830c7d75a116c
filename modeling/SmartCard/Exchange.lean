/-
One exchange with a card.

A command goes out and a response comes back, over a channel that is open.  Three
things can stop the command before anything is sent, and they are looked at in this
order: the channel is not open, it does not name its protocol, and the command is
too long for a frame.  After that the frame is transmitted once, whatever happens,
and the answer is opened.

What comes of an operation is an `Outcome`.  Operations in a row are each taken in the
state that the one before left, so `Outcome.run_getElem?` is all there is to say of
where an outcome in a run comes from.
-/
import SmartCard.Apdu
import SmartCard.Channel
import SmartCard.Log

namespace SmartCard

/-- What an operation leads to: its result, what it logged, and the state it left. -/
structure Outcome (W α : Type) where
  /-- What the operation answers. -/
  result : α
  /-- What it logged, in order. -/
  log : List LogRecord
  /-- The state afterwards. -/
  state : W
deriving DecidableEq, Repr

namespace Outcome

variable {W S α β : Type}

/-- The outcome of an operation that does nothing but answer. -/
def silent (result : α) (w : W) : Outcome W α :=
  { result, log := [], state := w }

/-- The outcome with another result. -/
def map (f : α → β) (outcome : Outcome W α) : Outcome W β :=
  { outcome with result := f outcome.result }

/-! ### Several operations in a row -/

/-- Takes steps one after another, each in the state that the one before it left. -/
def run (step : S → W → Outcome W α) : List S → W → List (Outcome W α)
  | [], _ => []
  | s :: rest, w =>
      let outcome := step s w
      outcome :: run step rest outcome.state

/-- The state after some steps. -/
def after (step : S → W → Outcome W α) (steps : List S) (w : W) : W :=
  steps.foldl (fun w s => (step s w).state) w

variable (step : S → W → Outcome W α)

theorem after_append (steps more : List S) (w : W) :
    after step (steps ++ more) w = after step more (after step steps w) :=
  List.foldl_append

theorem after_take_succ {steps : List S} {k : Nat} {s : S} (h : steps[k]? = some s) (w : W) :
    after step (steps.take (k + 1)) w = (step s (after step (steps.take k) w)).state := by
  rw [List.take_add_one, h, after_append]
  rfl

/-- A step of a run is that step taken after the steps before it. -/
theorem run_getElem? (steps : List S) (w : W) (k : Nat) :
    (run step steps w)[k]? = steps[k]?.map fun s => step s (after step (steps.take k) w) := by
  induction steps generalizing w k with
  | nil => rfl
  | cons s rest ih =>
      cases k with
      | zero => rfl
      | succ k => exact ih _ k

end Outcome

namespace Channel

variable {W : Type}

/-- Transmits the frame of a command and opens the answer. -/
def transmitFrame (channel : Channel W) (instruction : UInt8) (pci : Pci) (frame : Bytes) (w : W) :
    Outcome W (Except Error Response) :=
  match channel.transmit pci frame w with
  | (.error fault, after) =>
      { result := .error (.transmit pci fault)
        log := [.sent frame, .transmitFailed instruction fault]
        state := after }
  | (.ok raw, after) =>
      match Response.ofApdu raw with
      | .error cause =>
          { result := .error cause
            log := [.sent frame, .received raw, .badResponse instruction cause]
            state := after }
      | .ok response =>
          { result := .ok response
            log := [.sent frame, .received raw]
            state := after }

/-- Sends a command and waits for the response. -/
def exchange (channel : Channel W) (command : Command) (w : W) :
    Outcome W (Except Error Response) :=
  if channel.isOpen w then
    match channel.protocol w with
    | .error cause => .silent (.error cause) w
    | .ok protocol =>
        match command.toApdu with
        | .error cause => .silent (.error cause) w
        | .ok frame => channel.transmitFrame command.instruction (.ofProtocol protocol) frame w
  else .silent (.error .notOpen) w

/-! ### The four ways an exchange can go -/

variable {channel : Channel W} {command : Command} {w : W}

theorem exchange_of_closed (hopen : channel.isOpen w = false) :
    channel.exchange command w = .silent (.error .notOpen) w := by
  simp [exchange, hopen]

theorem exchange_of_refusal {cause : Error} (hopen : channel.isOpen w = true)
    (hprotocol : channel.protocol w = .error cause) :
    channel.exchange command w = .silent (.error cause) w := by
  simp [exchange, hopen, hprotocol]

theorem exchange_of_tooLong {protocol : Protocol} (hopen : channel.isOpen w = true)
    (hprotocol : channel.protocol w = .ok protocol)
    (hlength : Apdu.payloadLimit < command.payload.length) :
    channel.exchange command w =
      .silent (.error (.tooLong Apdu.payloadLimit command.payload.length)) w := by
  simp [exchange, hopen, hprotocol, Command.toApdu, Nat.not_le.mpr hlength]

theorem exchange_of_ready {protocol : Protocol} (hopen : channel.isOpen w = true)
    (hprotocol : channel.protocol w = .ok protocol)
    (hlength : command.payload.length ≤ Apdu.payloadLimit) :
    channel.exchange command w =
      channel.transmitFrame command.instruction (.ofProtocol protocol) command.frame w := by
  simp [exchange, hopen, hprotocol, Command.toApdu, hlength]

end Channel

end SmartCard
