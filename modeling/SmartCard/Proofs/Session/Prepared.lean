/-
Responses prepared in advance.

A script made of responses answers the requests put to it in order, one response each.  What
has to be kept straight is who uses up a response: every request that is sent does, also one
whose response is refused or makes no sense, and a command too long for a frame does not.  So
the response that belongs to a request is found by counting the requests before it that a
frame can hold.

`Script.Holds.ask` says this of one request and `after_holds` of a run.  `Outcome.run_getElem?` is
the bridge to the results of a run: each is that of a step taken after the steps before it.
-/
import SmartCard.Proofs.Request
import SmartCard.Proofs.Session.Account

namespace SmartCard

variable {W : Type}

/-! ### The response that is next in line -/

/-- A frame can hold the command of the request. -/
def Request.fits (request : Request) : Bool :=
  request.toCommand.payload.length ≤ 255

/-- How many prepared responses the request uses up. -/
def Request.uses (request : Request) : Nat :=
  if request.fits then 1 else 0

/-- What the exchange of a command has to come to, given the response that is next in line. -/
def Command.due (command : Command) (next : Option Response) : Except Error Response :=
  if command.payload.length ≤ 255 then
    match next with
    | some response => .ok response
    | none =>
        .error (.transmit { protocol := .t1, code := 2, length := 8 }
          { code := 0x8010000A, message := "no queued response" })
  else .error (.tooLong 255 command.payload.length)

/-- The script is open under T1, and what it has prepared is these responses. -/
structure Script.Holds (script : Script) (responses : List Response) : Prop where
  isOpen : script.isOpen = true
  protocol : script.protocol = .t1
  queue : script.queue = responses.map fun response => .ok response.toApdu

theorem Script.holds_ofResponses (responses : List Response) :
    (ofResponses responses).Holds responses where
  isOpen := rfl
  protocol := rfl
  queue := by simp [ofResponses, ofRaw]

namespace Script.Holds

variable {script : Script} {responses : List Response} (h : script.Holds responses)
include h

/-- A transmit takes the next response, or fails for want of one. -/
private theorem transmitFrame (instruction : UInt8) (frame : Bytes) :
    (Script.channel.transmitFrame instruction (.ofProtocol .t1) frame script).result =
        (match responses.head? with
          | some response => .ok response
          | none => .error (.transmit (.ofProtocol .t1) timeout)) ∧
      (Script.channel.transmitFrame instruction (.ofProtocol .t1) frame script).state.Holds
        (responses.drop 1) := by
  have hqueue := h.queue
  cases responses with
  | nil =>
      have htransmit : Script.channel.transmit (.ofProtocol .t1) frame script =
          (.error timeout, { script with sent := script.sent ++ [(.ofProtocol .t1, frame)] }) := by
        simp [Script.channel, transmit, hqueue]
      rw [Channel.transmitFrame, htransmit]
      exact ⟨rfl, h.isOpen, h.protocol, hqueue⟩
  | cons response rest =>
      have htransmit : Script.channel.transmit (.ofProtocol .t1) frame script =
          (.ok response.toApdu,
            { script with
              sent := script.sent ++ [(.ofProtocol .t1, frame)]
              queue := rest.map fun response => .ok response.toApdu }) := by
        simp [Script.channel, transmit, hqueue]
      rw [Channel.transmitFrame, htransmit]
      simp only [Response.ofApdu_toApdu]
      exact ⟨rfl, h.isOpen, h.protocol, rfl⟩

/-- A request is answered with the next response, which it uses up, unless its command is too
long for a frame. -/
theorem ask (request : Request) :
    (Script.channel.exchange request.toCommand script).result =
        request.toCommand.due responses.head? ∧
      (Script.channel.exchange request.toCommand script).state.Holds
        (responses.drop request.uses) := by
  have hopen : Script.channel.isOpen script = true := h.isOpen
  have hprotocol : Script.channel.protocol script = .ok .t1 := congrArg Except.ok h.protocol
  unfold Request.uses Request.fits Command.due
  by_cases hfits : request.toCommand.payload.length ≤ 255
  · rw [Channel.exchange_of_ready hopen hprotocol hfits, if_pos hfits,
      if_pos (decide_eq_true hfits)]
    exact h.transmitFrame _ _
  · rw [Channel.exchange_of_tooLong hopen hprotocol (Nat.lt_of_not_le hfits), if_neg hfits,
      if_neg (by simpa using hfits)]
    exact ⟨rfl, h⟩

end Script.Holds

namespace Session

/-! ### A run of requests -/

/-- A run uses up one response for each request that a frame can hold. -/
theorem after_holds {script : Script} {responses : List Response} (h : script.Holds responses)
    (requests : List Request) :
    (onCard.after (requests.map .ask) script).Holds
      (responses.drop (requests.countP Request.fits)) := by
  induction requests generalizing script responses with
  | nil => exact h
  | cons request rest ih =>
      have hstep : (onCard.step (.ask request) script).state.Holds
          (responses.drop request.uses) := by
        rw [step_ask, Outcome.map, Card.ask_eq]
        exact (h.ask request).2
      have hrest := ih hstep
      rw [List.drop_drop] at hrest
      rw [List.countP_cons, Nat.add_comm]
      exact hrest

/-- **A card made of responses answers requests with them in order.**  Each request is replied
to with the response whose number is that of the requests before it that were sent, and with a
time-out if there is none left.  A command too long for a frame is turned away, and all
responses not yet used up stay in line. -/
theorem ofResponses_answers_in_order (responses : List Response) (requests : List Request)
    (k : Nat) :
    ((onCard.run (requests.map .ask) (.ofResponses responses))[k]?).map (·.result) =
        requests[k]?.map (fun request =>
          .reply (request.reply (request.toCommand.due
            responses[(requests.take k).countP Request.fits]?))) ∧
      (onCard.after ((requests.take k).map .ask) (.ofResponses responses)).queue =
        (responses.drop ((requests.take k).countP Request.fits)).map
          (fun response => .ok response.toApdu) := by
  have h := after_holds (Script.holds_ofResponses responses) (requests.take k)
  refine ⟨?_, h.queue⟩
  rw [run, Outcome.run_getElem?, ← List.map_take, List.getElem?_map, Option.map_map, Option.map_map]
  congr 1
  funext request
  have hdue := (h.ask request).1
  rw [List.head?_drop] at hdue
  rw [← hdue, Function.comp_apply, Function.comp_apply, step_ask, Outcome.map, Card.ask_eq]
  rfl

end Session

end SmartCard
