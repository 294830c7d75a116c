/-
The same exchange from another state.

An exchange learns about its channel from three answers: whether it is open, which protocol
it has, and what came back for the frame.  If another channel, in a state that corresponds
to this one, gives the same three answers, then the exchange over it has the same result and
the same log, and it ends in the state that corresponds to the one this exchange ends in.

`Channel.Alike` says when the answers are the same.  It asks about the frame only if the
command is ready to be sent, since the channel is not asked otherwise.  From exchanges the
correspondence is carried to whatever is made of them.
-/
import SmartCard.Proofs.Account
import SmartCard.Proofs.Request

namespace SmartCard

variable {W V α : Type}

/-- The outcome carried over to another state. -/
def Outcome.moved (f : W → V) (outcome : Outcome W α) : Outcome V α :=
  { outcome with state := f outcome.state }

@[simp] theorem Outcome.moved_silent (f : W → V) (result : α) (w : W) :
    (silent result w).moved f = silent result (f w) := rfl

namespace Channel

/-- Another channel answers in a corresponding state as this one does. -/
structure Alike (channel : Channel W) (command : Command) (w : W) (other : Channel V)
    (f : W → V) : Prop where
  isOpen : other.isOpen (f w) = channel.isOpen w
  protocol : other.protocol (f w) = channel.protocol w
  transmit : ∀ protocol, channel.Ready command w protocol →
    other.transmit (.ofProtocol protocol) command.frame (f w) =
      ((channel.transmit (.ofProtocol protocol) command.frame w).1,
        f (channel.transmit (.ofProtocol protocol) command.frame w).2)

variable {channel : Channel W} {other : Channel V} {command : Command} {w : W} {f : W → V}

private theorem transmitFrame_moved {instruction : UInt8} {pci : Pci} {frame : Bytes}
    (htransmit : other.transmit pci frame (f w) =
      ((channel.transmit pci frame w).1, f (channel.transmit pci frame w).2)) :
    other.transmitFrame instruction pci frame (f w) =
      (channel.transmitFrame instruction pci frame w).moved f := by
  unfold transmitFrame
  rw [htransmit]
  obtain ⟨answer, after⟩ := channel.transmit pci frame w
  cases answer with
  | error fault => rfl
  | ok raw => cases hopened : Response.ofApdu raw <;> simp [hopened, Outcome.moved]

/-- Channels that answer alike make for the same exchange. -/
theorem exchange_moved (h : channel.Alike command w other f) :
    other.exchange command (f w) = (channel.exchange command w).moved f := by
  cases hopen : channel.isOpen w with
  | false =>
      rw [exchange_of_closed hopen, exchange_of_closed (h.isOpen.trans hopen),
        Outcome.moved_silent]
  | true =>
      have hopen' := h.isOpen.trans hopen
      cases hprotocol : channel.protocol w with
      | error cause =>
          rw [exchange_of_refusal hopen hprotocol,
            exchange_of_refusal hopen' (h.protocol.trans hprotocol), Outcome.moved_silent]
      | ok protocol =>
          have hprotocol' := h.protocol.trans hprotocol
          by_cases hfits : command.payload.length ≤ Apdu.payloadLimit
          · rw [exchange_of_ready hopen hprotocol hfits, exchange_of_ready hopen' hprotocol' hfits]
            exact transmitFrame_moved (h.transmit protocol ⟨hopen, hprotocol, hfits⟩)
          · have hlong := Nat.lt_of_not_le hfits
            rw [exchange_of_tooLong hopen hprotocol hlong,
              exchange_of_tooLong hopen' hprotocol' hlong, Outcome.moved_silent]

end Channel

/-- What a card is asked comes to the same over channels that answer alike. -/
theorem Card.ask_moved {card : Card W} {other : Card V} {w : W} {f : W → V} {request : Request}
    (h : card.channel.Alike request.toCommand w other.channel f) :
    other.ask request (f w) = (card.ask request w).moved f := by
  rw [ask_eq, ask_eq, Channel.exchange_moved h]
  rfl

end SmartCard
