/-
The account of an exchange.

How often the driver was asked, and what for, cannot be read off the result of an
exchange.  It can be read off an exchange over `Channel.recorded`, which keeps an account
of every transmit, provided that watching changes nothing: `exchange_recorded` says that
the watched exchange has the same result, log and state, and only adds to the account.

`Channel.Exchanged` then lists the six ways an exchange can go, each with its outcome and
its account.  Three stop before the driver is asked and leave an empty account, three ask
it once.  Everything else about an exchange is read off this list by cases.
-/
import SmartCard.Exchange

namespace SmartCard

variable {W α : Type}

/-- The outcome with an account of transmits kept beside its state. -/
def Outcome.beside (outcome : Outcome W α) (calls : List (Call W)) :
    Outcome (W × List (Call W)) α :=
  { outcome with state := (outcome.state, calls) }

private theorem Outcome.beside_silent (result : α) (w : W) (calls : List (Call W)) :
    (silent result w).beside calls = silent result (w, calls) := rfl

namespace Channel

/-! ### Watching changes nothing -/

private theorem transmitFrame_recorded (channel : Channel W) (instruction : UInt8) (pci : Pci)
    (frame : Bytes) (w : W) (earlier : List (Call W)) :
    channel.recorded.transmitFrame instruction pci frame (w, earlier) =
      (channel.transmitFrame instruction pci frame w).beside
        (earlier ++ [{ before := w, pci, frame, answer := (channel.transmit pci frame w).1 }]) := by
  unfold transmitFrame
  rcases htransmit : channel.transmit pci frame w with ⟨answer, after⟩
  cases answer with
  | error fault => simp [recorded, htransmit, Outcome.beside]
  | ok raw =>
      cases hopened : Response.ofApdu raw <;>
        simp [recorded, htransmit, hopened, Outcome.beside]

/-- The transmits that an exchange makes. -/
def exchangeCalls (channel : Channel W) (command : Command) (w : W) : List (Call W) :=
  (channel.recorded.exchange command (w, [])).state.2

/-! ### The six ways an exchange can go -/

/-- Nothing stands in the way of asking the driver. -/
structure Ready (channel : Channel W) (command : Command) (w : W) (protocol : Protocol) : Prop where
  isOpen : channel.isOpen w = true
  named : channel.protocol w = .ok protocol
  fits : command.payload.length ≤ Apdu.payloadLimit

/-- The ways an exchange can go, each with its outcome and its account. -/
inductive Exchanged (channel : Channel W) (command : Command) (w : W) :
    Outcome W (Except Error Response) → List (Call W) → Prop
  /-- The channel is closed. -/
  | closed (hopen : channel.isOpen w = false) :
      Exchanged channel command w (.silent (.error .notOpen) w) []
  /-- The channel does not name its protocol. -/
  | unnamed {cause : Error} (hopen : channel.isOpen w = true)
      (hprotocol : channel.protocol w = .error cause) :
      Exchanged channel command w (.silent (.error cause) w) []
  /-- The command is too long for a frame. -/
  | tooLong {protocol : Protocol} (hopen : channel.isOpen w = true)
      (hprotocol : channel.protocol w = .ok protocol)
      (hlength : Apdu.payloadLimit < command.payload.length) :
      Exchanged channel command w
        (.silent (.error (.tooLong Apdu.payloadLimit command.payload.length)) w) []
  /-- The driver fails. -/
  | failed {protocol : Protocol} {fault : DriverFault} {after : W}
      (hready : channel.Ready command w protocol)
      (htransmit : channel.transmit (.ofProtocol protocol) command.frame w =
        (.error fault, after)) :
      Exchanged channel command w
        { result := .error (.transmit (.ofProtocol protocol) fault)
          log := [.sent command.frame, .transmitFailed command.instruction fault]
          state := after }
        [{ before := w, pci := .ofProtocol protocol, frame := command.frame,
           answer := .error fault }]
  /-- The answer cannot be opened. -/
  | unopened {protocol : Protocol} {raw : Bytes} {cause : Error} {after : W}
      (hready : channel.Ready command w protocol)
      (htransmit : channel.transmit (.ofProtocol protocol) command.frame w = (.ok raw, after))
      (hopened : Response.ofApdu raw = .error cause) :
      Exchanged channel command w
        { result := .error cause
          log := [.sent command.frame, .received raw, .badResponse command.instruction cause]
          state := after }
        [{ before := w, pci := .ofProtocol protocol, frame := command.frame, answer := .ok raw }]
  /-- The answer is a response. -/
  | answered {protocol : Protocol} {raw : Bytes} {response : Response} {after : W}
      (hready : channel.Ready command w protocol)
      (htransmit : channel.transmit (.ofProtocol protocol) command.frame w = (.ok raw, after))
      (hopened : Response.ofApdu raw = .ok response) :
      Exchanged channel command w
        { result := .ok response
          log := [.sent command.frame, .received raw]
          state := after }
        [{ before := w, pci := .ofProtocol protocol, frame := command.frame, answer := .ok raw }]

/-- Once nothing stands in the way, the driver's answer decides between the last three. -/
private theorem Ready.exchanged {channel : Channel W} {command : Command} {w : W}
    {protocol : Protocol} (hready : channel.Ready command w protocol) :
    channel.Exchanged command w
      (channel.transmitFrame command.instruction (.ofProtocol protocol) command.frame w)
      [{ before := w, pci := .ofProtocol protocol, frame := command.frame,
         answer := (channel.transmit (.ofProtocol protocol) command.frame w).1 }] := by
  unfold transmitFrame
  rcases htransmit : channel.transmit (.ofProtocol protocol) command.frame w with ⟨answer, after⟩
  cases answer with
  | error fault => exact .failed hready htransmit
  | ok raw =>
      cases hopened : Response.ofApdu raw with
      | error cause =>
          simp only [hopened]
          exact .unopened hready htransmit hopened
      | ok response =>
          simp only [hopened]
          exact .answered hready htransmit hopened

/-- Watched or not, an exchange goes one of the six ways, and the same one. -/
private theorem exists_exchanged (channel : Channel W) (command : Command) (w : W) :
    ∃ calls, channel.Exchanged command w (channel.exchange command w) calls ∧
      ∀ earlier, channel.recorded.exchange command (w, earlier) =
        (channel.exchange command w).beside (earlier ++ calls) := by
  have hwatched : ∀ earlier, channel.recorded.isOpen (w, earlier) = channel.isOpen w :=
    fun _ => rfl
  have hnamed : ∀ earlier, channel.recorded.protocol (w, earlier) = channel.protocol w :=
    fun _ => rfl
  cases hopen : channel.isOpen w with
  | false =>
      rw [exchange_of_closed hopen]
      refine ⟨[], .closed hopen, ?_⟩
      intro earlier
      rw [exchange_of_closed ((hwatched earlier).trans hopen), Outcome.beside_silent,
        List.append_nil]
  | true =>
      cases hprotocol : channel.protocol w with
      | error cause =>
          rw [exchange_of_refusal hopen hprotocol]
          refine ⟨[], .unnamed hopen hprotocol, ?_⟩
          intro earlier
          rw [exchange_of_refusal ((hwatched earlier).trans hopen)
            ((hnamed earlier).trans hprotocol), Outcome.beside_silent, List.append_nil]
      | ok protocol =>
          by_cases hlength : command.payload.length ≤ Apdu.payloadLimit
          · rw [exchange_of_ready hopen hprotocol hlength]
            refine ⟨_, Ready.exchanged ⟨hopen, hprotocol, hlength⟩, ?_⟩
            intro earlier
            rw [exchange_of_ready ((hwatched earlier).trans hopen)
              ((hnamed earlier).trans hprotocol) hlength, transmitFrame_recorded]
          · have hlong := Nat.lt_of_not_le hlength
            rw [exchange_of_tooLong hopen hprotocol hlong]
            refine ⟨[], .tooLong hopen hprotocol hlong, ?_⟩
            intro earlier
            rw [exchange_of_tooLong ((hwatched earlier).trans hopen)
              ((hnamed earlier).trans hprotocol) hlong, Outcome.beside_silent, List.append_nil]

/-- **Watching an exchange changes nothing but the account.** -/
theorem exchange_recorded (channel : Channel W) (command : Command) (w : W)
    (earlier : List (Call W)) :
    channel.recorded.exchange command (w, earlier) =
      (channel.exchange command w).beside (earlier ++ channel.exchangeCalls command w) := by
  obtain ⟨calls, -, hrecorded⟩ := exists_exchanged channel command w
  have hcalls : channel.exchangeCalls command w = calls := by
    rw [exchangeCalls, hrecorded []]
    rfl
  rw [hcalls, hrecorded earlier]

theorem exchanged (channel : Channel W) (command : Command) (w : W) :
    channel.Exchanged command w (channel.exchange command w)
      (channel.exchangeCalls command w) := by
  obtain ⟨calls, hexchanged, hrecorded⟩ := exists_exchanged channel command w
  rw [exchangeCalls, hrecorded []]
  exact hexchanged

/-! ### What the account says -/

/-- What an account of at most one transmit says of the state. -/
inductive Sends (channel : Channel W) (w : W) : List (Call W) → W → Prop
  /-- Nothing is transmitted, and the state is as before. -/
  | nothing : Sends channel w [] w
  /-- A frame is transmitted, and the state is the one that the driver left. -/
  | once {pci : Pci} {frame : Bytes} {answer : Except DriverFault Bytes} {after : W}
      (htransmit : channel.transmit pci frame w = (answer, after)) :
      Sends channel w [{ before := w, pci, frame, answer }] after

section Exchanged

variable {channel : Channel W} {command : Command} {w : W}
  {outcome : Outcome W (Except Error Response)} {calls : List (Call W)}

theorem Exchanged.sends (h : channel.Exchanged command w outcome calls) :
    channel.Sends w calls outcome.state := by
  cases h with
  | closed hopen => exact .nothing
  | unnamed hopen hprotocol => exact .nothing
  | tooLong hopen hprotocol hlength => exact .nothing
  | failed hready htransmit => exact .once htransmit
  | unopened hready htransmit hopened => exact .once htransmit
  | answered hready htransmit hopened => exact .once htransmit

theorem Exchanged.length_le (h : channel.Exchanged command w outcome calls) :
    calls.length ≤ 1 := by
  cases h.sends with
  | nothing => exact Nat.zero_le 1
  | once htransmit => exact Nat.le_refl 1

/-- An exchange stops without a trace, or the driver is asked for the frame of the command. -/
theorem Exchanged.stopped_or_sent (h : channel.Exchanged command w outcome calls) :
    ((∀ protocol, ¬ channel.Ready command w protocol) ∧ calls = [] ∧
      ∃ cause, outcome = .silent (.error cause) w) ∨
    ∃ protocol answer, channel.Ready command w protocol ∧
      calls = [{ before := w, pci := .ofProtocol protocol, frame := command.frame, answer }] := by
  cases h with
  | closed hopen =>
      refine .inl ⟨fun protocol hready => ?_, rfl, _, rfl⟩
      exact Bool.false_ne_true (hopen.symm.trans hready.isOpen)
  | unnamed hopen hprotocol =>
      refine .inl ⟨fun protocol hready => ?_, rfl, _, rfl⟩
      have hnamed := hprotocol.symm.trans hready.named
      contradiction
  | tooLong hopen hprotocol hlength =>
      refine .inl ⟨fun protocol hready => ?_, rfl, _, rfl⟩
      exact Nat.not_lt.mpr hready.fits hlength
  | failed hready htransmit => exact .inr ⟨_, _, hready, rfl⟩
  | unopened hready htransmit hopened => exact .inr ⟨_, _, hready, rfl⟩
  | answered hready htransmit hopened => exact .inr ⟨_, _, hready, rfl⟩

theorem Exchanged.frame (h : channel.Exchanged command w outcome calls) :
    ∀ call ∈ calls, call.frame = command.frame := by
  cases h <;> simp

/-- A response comes of the driver's answer, which is its frame. -/
theorem Exchanged.answer_of_ok {response : Response}
    (h : channel.Exchanged command w outcome calls) (hok : outcome.result = .ok response) :
    ∃ protocol, channel.protocol w = .ok protocol ∧
      (channel.transmit (.ofProtocol protocol) command.frame w).1 = .ok response.toApdu := by
  cases h with
  | answered hready htransmit hopened =>
      obtain rfl := Except.ok.inj hok
      refine ⟨_, hready.named, ?_⟩
      rw [htransmit, Response.ofApdu_eq_ok_iff.mp hopened]
  | _ => nomatch hok

/-- A command that is ready has its frame, which is the one to transmit. -/
private theorem Ready.toApdu {protocol : Protocol} (hready : channel.Ready command w protocol) :
    command.toApdu = .ok command.frame :=
  if_pos hready.fits

end Exchanged

/-- **The driver is asked at most once, and if and only if the channel is open, names its
protocol and the command fits into a frame.**  If it is not asked, the state is as before
and the first of these three that fails is the result; if it is, the state is the one it
left and the result is made from its answer alone. -/
theorem exchange_asks_once (channel : Channel W) (command : Command) (w : W)
    (earlier : List (Call W)) :
    ∃ calls : List (Call W),
      channel.recorded.exchange command (w, earlier) =
        (channel.exchange command w).beside (earlier ++ calls) ∧
      calls.length ≤ 1 ∧
      (calls ≠ [] ↔ channel.isOpen w = true ∧ (∃ protocol, channel.protocol w = .ok protocol) ∧
        command.payload.length ≤ 255) ∧
      (∀ call ∈ calls,
        call.before = w ∧
        (∃ protocol, channel.protocol w = .ok protocol ∧ call.pci = .ofProtocol protocol) ∧
        command.toApdu = .ok call.frame ∧
        channel.transmit call.pci call.frame w =
          (call.answer, (channel.exchange command w).state) ∧
        (∀ fault, call.answer = .error fault →
          (channel.exchange command w).result = .error (.transmit call.pci fault)) ∧
        (∀ raw, call.answer = .ok raw →
          (channel.exchange command w).result = Response.ofApdu raw)) ∧
      (calls = [] →
        (channel.exchange command w).state = w ∧
        (channel.isOpen w = false → (channel.exchange command w).result = .error .notOpen) ∧
        (∀ cause, channel.isOpen w = true → channel.protocol w = .error cause →
          (channel.exchange command w).result = .error cause) ∧
        (∀ protocol, channel.isOpen w = true → channel.protocol w = .ok protocol →
          (channel.exchange command w).result =
            .error (.tooLong 255 command.payload.length))) := by
  refine ⟨channel.exchangeCalls command w, exchange_recorded .., ?_⟩
  have h := exchanged channel command w
  generalize channel.exchange command w = outcome at h ⊢
  generalize channel.exchangeCalls command w = calls at h ⊢
  cases h with
  | closed hopen => simp [hopen, Outcome.silent]
  | unnamed hopen hprotocol => simp [hopen, hprotocol, Outcome.silent]
  | tooLong hopen hprotocol hlength =>
      have hlong : ¬ command.payload.length ≤ 255 := Nat.not_le.mpr hlength
      simp [hopen, hprotocol, hlong, Outcome.silent, Apdu.payloadLimit]
  | failed hready htransmit =>
      have hfits : command.payload.length ≤ 255 := hready.fits
      simp [hready.isOpen, hready.named, hready.toApdu, hfits, htransmit]
  | unopened hready htransmit hopened =>
      have hfits : command.payload.length ≤ 255 := hready.fits
      simp [hready.isOpen, hready.named, hready.toApdu, hfits, htransmit, hopened]
  | answered hready htransmit hopened =>
      have hfits : command.payload.length ≤ 255 := hready.fits
      simp [hready.isOpen, hready.named, hready.toApdu, hfits, htransmit, hopened]

end Channel

end SmartCard
