/-
Requests to a channel that always answers the same.

A step sets the status or the payload of the answer, or both, or neither, and then makes a
request.  What is in force at a request is therefore what was set last, up to that request and
with it, or what there was to begin with: `FixedAnswer.inForce`.  Nothing else of the earlier
steps can be seen in a reply, and nothing of the command but whether a frame can hold it.

Two things are kept along a run, and `after_eq` says both at once: the response is the one in
force, and every request that a frame can hold has been counted, whatever its reply was.
-/
import SmartCard.FixedAnswer
import SmartCard.Proofs.Session.Prepared

namespace SmartCard.FixedAnswer

/-! ### What is in force -/

/-- What a part of the answer is set to after some steps: what they set it to last, or what it
was before. -/
def lastSet {α : Type} (part : Step → Option α) (steps : List Step) (before : α) : α :=
  (steps.filterMap part).getLast?.getD before

/-- The response in force after some steps. -/
def inForce (steps : List Step) (before : Response) : Response :=
  { status := lastSet (·.status) steps before.status
    payload := lastSet (·.payload) steps before.payload }

private theorem lastSet_cons {α : Type} (part : Step → Option α) (s : Step) (rest : List Step)
    (before : α) : lastSet part (s :: rest) before = lastSet part rest ((part s).getD before) := by
  unfold lastSet
  cases hpart : part s with
  | none => rw [List.filterMap_cons_none hpart, Option.getD_none]
  | some value =>
      rw [List.filterMap_cons_some hpart, List.getLast?_cons, Option.getD_some, Option.getD_some]

/-- The first step is prepared for first. -/
private theorem inForce_cons (s : Step) (rest : List Step) (state : FixedAnswer) :
    inForce (s :: rest) state.response = inForce rest (state.prepare s).response := by
  rw [inForce, lastSet_cons, lastSet_cons]
  rfl

/-! ### One step -/

/-- The reply to a request whose frame, if it has one, is answered with this response. -/
def replyWith (response : Response) : Request → Reply
  | .command c =>
      .response
        (if c.payload.length ≤ 255 then .ok response else .error (.tooLong 255 c.payload.length))
  | .fileSettings _ =>
      .settings
        (if response.status = 0x00 then FileSettings.decode response.payload
          else .error (.refused 0xF5 response.status))

/-- A frame can hold the command that asks for settings, so there is no third case for it. -/
private theorem reply_due (request : Request) (response : Response) :
    request.reply (request.toCommand.due (some response)) = replyWith response request := by
  cases request with
  | command c => rfl
  | fileSettings file =>
      have hdue : (Command.fileSettings file).due (some response) = .ok response := rfl
      rw [Request.toCommand, hdue, Request.reply, replyWith]
      split <;> rfl

/-- The exchange of a request comes to the response and is counted, if a frame can hold it. -/
theorem exchange_due (request : Request) (state : FixedAnswer) :
    (channel.exchange request.toCommand state).result =
        request.toCommand.due (some state.response) ∧
      (channel.exchange request.toCommand state).state =
        { state with transmits := state.transmits + request.uses } := by
  have hopen : channel.isOpen state = true := rfl
  have hprotocol : channel.protocol state = .ok .t1 := rfl
  unfold Request.uses Request.fits Command.due
  by_cases hfits : request.toCommand.payload.length ≤ 255
  · have htransmit : ∀ pci frame, channel.transmit pci frame state =
        (.ok state.response.toApdu, { state with transmits := state.transmits + 1 }) :=
      fun _ _ => rfl
    rw [Channel.exchange_of_ready hopen hprotocol hfits, if_pos hfits,
      if_pos (decide_eq_true hfits), Channel.transmitFrame, htransmit]
    simp only [Response.ofApdu_toApdu, and_self]
  · rw [Channel.exchange_of_tooLong hopen hprotocol (Nat.lt_of_not_le hfits), if_neg hfits,
      if_neg (by simpa using hfits)]
    exact ⟨rfl, rfl⟩

theorem step_result (s : Step) (state : FixedAnswer) :
    (state.step s).result = replyWith (state.prepare s).response s.request := by
  rw [step, Card.ask_eq, ← reply_due]
  exact congrArg s.request.reply (exchange_due s.request (state.prepare s)).1

theorem step_state (s : Step) (state : FixedAnswer) :
    (state.step s).state =
      { response := (state.prepare s).response
        transmits := state.transmits + s.request.uses } := by
  rw [step, Card.ask_eq]
  exact (exchange_due s.request (state.prepare s)).2

/-! ### A run -/

/-- After some steps the response is the one in force, and every request that a frame can hold
has been counted. -/
theorem after_eq (steps : List Step) (state : FixedAnswer) :
    after steps state =
      { response := inForce steps state.response
        transmits := state.transmits + steps.countP (·.request.fits) } := by
  induction steps generalizing state with
  | nil => rfl
  | cons s rest ih =>
      have hcount : state.transmits + (s :: rest).countP (·.request.fits) =
          state.transmits + s.request.uses + rest.countP (·.request.fits) := by
        rw [List.countP_cons, Request.uses]
        omega
      calc after (s :: rest) state
          = after rest (state.step s).state := rfl
        _ = _ := ih _
        _ = _ := by rw [step_state, inForce_cons, hcount]

/-- What a step answers with is what is in force after it. -/
private theorem prepare_after {steps : List Step} {k : Nat} {s : Step} (h : steps[k]? = some s)
    (state : FixedAnswer) :
    ((after (steps.take k) state).prepare s).response =
      inForce (steps.take (k + 1)) state.response := by
  have hafter := after_eq (steps.take (k + 1)) state
  rw [after, Outcome.after_take_succ _ h, step_state] at hafter
  exact (FixedAnswer.mk.inj hafter).1

/-- **Every request is replied to with what is in force when it is made, and counted if a frame
can hold it.**  It makes no difference what was requested before, how it was replied to, or which
command it was. -/
theorem replies_by_response_in_force (steps : List Step) (state : FixedAnswer) (k : Nat) :
    ((run steps state)[k]?).map (·.result) =
        steps[k]?.map (fun s =>
          replyWith (inForce (steps.take (k + 1)) state.response) s.request) ∧
      ((run steps state)[k]?).map (·.state.transmits) =
        steps[k]?.map (fun _ =>
          state.transmits + (steps.take (k + 1)).countP (·.request.fits)) ∧
      (after steps state).transmits = state.transmits + steps.countP (·.request.fits) := by
  rw [run, Outcome.run_getElem?]
  cases h : steps[k]? with
  | none => exact ⟨rfl, rfl, by rw [after_eq]⟩
  | some s =>
      refine ⟨?_, ?_, by rw [after_eq]⟩
      · rw [Option.map_some, Option.map_some, Option.map_some, step_result]
        exact congrArg (fun response => some (replyWith response s.request)) (prepare_after h state)
      · have hafter := after_eq (steps.take (k + 1)) state
        rw [after, Outcome.after_take_succ _ h] at hafter
        rw [Option.map_some, Option.map_some, Option.map_some, hafter]

-- A question for settings that is refused leaves everything in force.
example :
    (run
      [{ status := some 0xAF, request := .fileSettings 1 }, { request := .command (.bare 0x60) }]
      { response := { status := 0x00, payload := [0x01] } }).map (·.result) =
    [.settings (.error (.refused 0xF5 0xAF)),
      .response (.ok { status := 0xAF, payload := [0x01] })] := by
  decide

end SmartCard.FixedAnswer
