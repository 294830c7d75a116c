/-
Requests that are turned away.

A request can fail before anything is sent: the channel is not open, or the command is too
long for a frame.  `Reply.Unsent` picks out the replies that say so, and `Card.ask_unsent_iff`
says that they can be trusted, in both directions: such a reply is given if and only if the
driver was not asked.  The direction that is easy to miss is that nothing that goes wrong
later, in the frame of the answer or in the record inside it, is reported by one of these two
causes.

A request that was turned away changes nothing and logs nothing, so a session without it goes
on as the one with it did.  `transcript_of_omits` says this of any choice of such requests.
-/
import SmartCard.Proofs.Session.Sent

namespace SmartCard

variable {W : Type}

/-! ### Replies to requests that were not sent -/

/-- The causes reported of a command that is not sent. -/
def Error.Unsent : Error → Prop
  | notOpen | tooLong .. => True
  | transmit .. | tooShort .. | statusWord .. | fileType _ | communicationMode _ | accessKey _
  | refused .. => False

private theorem Error.OfFrame.not_unsent {cause : Error} (hframe : cause.OfFrame) :
    ¬ cause.Unsent := by
  intro hunsent
  cases cause with
  | notOpen | tooLong limit actual => exact hframe
  | _ => exact hunsent

private theorem Error.OfRecord.not_unsent {cause : Error} (hrecord : cause.OfRecord) :
    ¬ cause.Unsent := by
  intro hunsent
  cases cause with
  | notOpen | tooLong limit actual => exact hrecord
  | _ => exact hunsent

/-- The reply says that the request was not sent. -/
def Reply.Unsent : Reply → Prop
  | response (.error cause) | settings (.error cause) => cause.Unsent
  | response (.ok _) | settings (.ok _) => False

/-- Over a channel that refuses only by not being open, an exchange says that its command was
not sent if and only if it was not. -/
theorem Channel.Exchanged.unsent_iff {channel : Channel W} {command : Command} {w : W}
    {outcome : Outcome W (Except Error Response)} {calls : List (Call W)}
    (h : channel.Exchanged command w outcome calls)
    (hrefusal : ∀ cause, channel.protocol w = .error cause → cause = .notOpen) :
    (Reply.response outcome.result).Unsent ↔ calls = [] := by
  cases h with
  | closed hopen => exact iff_of_true trivial rfl
  | unnamed hopen hprotocol =>
      obtain rfl := hrefusal _ hprotocol
      exact iff_of_true trivial rfl
  | tooLong hopen hprotocol hlength => exact iff_of_true trivial rfl
  | failed hready htransmit => exact iff_of_false not_false (List.cons_ne_nil _ _)
  | unopened hready htransmit hopened =>
      have hframe := Response.ofFrame_of_ofApdu hopened
      exact iff_of_false hframe.not_unsent (List.cons_ne_nil _ _)
  | answered hready htransmit hopened => exact iff_of_false not_false (List.cons_ne_nil _ _)

namespace Card

/-- A question for settings says that it was not sent if and only if it was not. -/
theorem Enquired.unsent_iff {calls : List (Call W)} {result : Except Error FileSettings}
    (h : Enquired calls result) : (Reply.settings result).Unsent ↔ calls = [] := by
  cases h with
  | unasked => exact iff_of_true trivial rfl
  | failed hanswer => exact iff_of_false not_false (List.cons_ne_nil _ _)
  | unopened hanswer hopened =>
      have hframe := Response.ofFrame_of_ofApdu hopened
      exact iff_of_false hframe.not_unsent (List.cons_ne_nil _ _)
  | rejected hanswer hopened hstatus => exact iff_of_false not_false (List.cons_ne_nil _ _)
  | misread hanswer hopened hstatus hdecode =>
      have hrecord := (FileSettings.fault_of_decode hdecode).ofRecord
      exact iff_of_false hrecord.not_unsent (List.cons_ne_nil _ _)
  | found hanswer hopened hstatus hdecode =>
      exact iff_of_false not_false (List.cons_ne_nil _ _)

variable (card : Card W) {request : Request} {w : W}

/-- A reply says that its request was not sent if and only if the driver was not asked. -/
theorem ask_unsent_iff
    (hrefusal : ∀ cause, card.channel.protocol w = .error cause → cause = .notOpen) :
    (card.ask request w).result.Unsent ↔
      card.channel.exchangeCalls request.toCommand w = [] := by
  cases request with
  | command command => exact (card.channel.exchanged command w).unsent_iff hrefusal
  | fileSettings file => exact (card.enquired file w hrefusal).unsent_iff

/-- A request that leads to no transmit leaves no trace at all. -/
theorem ask_of_no_calls (h : card.channel.exchangeCalls request.toCommand w = []) :
    ∃ reply, card.ask request w = .silent reply w := by
  obtain ⟨-, -, cause, hexchange⟩ | ⟨protocol, answer, -, hcalls⟩ :=
    (card.channel.exchanged request.toCommand w).stopped_or_sent
  · rw [ask_eq, hexchange]
    exact ⟨_, rfl⟩
  · rw [h] at hcalls
    contradiction

end Card

/-! ### Steps that were turned away -/

/-- The result says that a request was not sent. -/
def StepResult.Unsent : StepResult → Prop
  | reply r => r.Unsent
  | done | popped _ | answer _ => False

/-- The steps, each with what it led to. -/
def Session.transcript (session : Session W) (steps : List Step) (w : W) :
    List (Step × Outcome W StepResult) :=
  steps.zip (session.run steps w)

private theorem Session.transcript_cons (session : Session W) (s : Step) (rest : List Step)
    (w : W) : session.transcript (s :: rest) w =
      (s, session.step s w) :: session.transcript rest (session.step s w).state := rfl

/-- What is left of a list when entries that have a property may be left out. -/
inductive Omits {α : Type} (P : α → Prop) : List α → List α → Prop
  /-- Nothing is left of nothing. -/
  | nil : Omits P [] []
  /-- The first entry is kept. -/
  | keep {all left : List α} (a : α) (h : Omits P all left) : Omits P (a :: all) (a :: left)
  /-- The first entry has the property and is left out. -/
  | skip {all left : List α} {a : α} (ha : P a) (h : Omits P all left) : Omits P (a :: all) left

namespace Session

variable {session : Session W} (hplays : session.Plays)
include hplays

/-- A channel that plays a script refuses only by not being open. -/
theorem Plays.refusal {w : W} {cause : Error}
    (h : session.route.toChannel.protocol w = .error cause) : cause = .notOpen := by
  rcases hplays.protocol w with hnamed | hrefused
  · rw [hnamed] at h
    contradiction
  · rw [hrefused] at h
    exact (Except.error.inj h).symm

theorem Plays.ask_unsent_iff (request : Request) (w : W) :
    (session.step (.ask request) w).result.Unsent ↔ session.calls [.ask request] w = [] := by
  rw [session.step_ask, session.calls_ask]
  exact Card.ask_unsent_iff { channel := session.route.toChannel } fun _ => hplays.refusal

/-- A step that was turned away leaves no trace at all. -/
theorem Plays.step_of_unsent {s : Step} {w : W} (h : (session.step s w).result.Unsent) :
    (session.step s w).state = w ∧ (session.step s w).log = [] := by
  cases s with
  | ask request =>
      have hcalls := (hplays.ask_unsent_iff request w).mp h
      rw [session.calls_ask] at hcalls
      obtain ⟨reply, hreply⟩ :=
        Card.ask_of_no_calls { channel := session.route.toChannel } hcalls
      rw [session.step_ask, hreply]
      exact ⟨rfl, rfl⟩
  | _ => exact h.elim

/-- A request that was not turned away was transmitted, once, in the frame of its command. -/
theorem Plays.calls_of_not_unsent {request : Request} {w : W}
    (h : ¬ (session.step (.ask request) w).result.Unsent) :
    ∃ call : Call W, session.calls [.ask request] w = [call] ∧
      call.kept = (.ofProtocol (session.script.get w).protocol, request.toCommand.frame) := by
  rw [hplays.ask_unsent_iff] at h
  rw [session.calls_ask] at h ⊢
  obtain ⟨-, hcalls, -⟩ | ⟨protocol, answer, hready, hcalls⟩ :=
    (session.route.toChannel.exchanged request.toCommand w).stopped_or_sent
  · contradiction
  · refine ⟨_, hcalls, ?_⟩
    rcases hplays.protocol w with hnamed | hrefused
    · rw [Except.ok.inj (hnamed.symm.trans hready.named)]
      rfl
    · have hnamed := hrefused.symm.trans hready.named
      contradiction

/-- A transmit uses up one prepared answer, or none if there is none. -/
private theorem Plays.sends_tail {w after : W} {call : Call W}
    (h : session.route.toChannel.Sends w [call] after) :
    (session.script.get after).queue = (session.script.get w).queue.tail := by
  cases h with
  | once htransmit =>
      rw [hplays.transmit] at htransmit
      obtain ⟨-, rfl⟩ := Prod.mk.inj htransmit
      rw [Lens.get_set, Script.transmit_queue]

/-! ### Sessions without the steps that were turned away -/

/-- Leaving out steps that were turned away leaves the rest of a session as it was. -/
theorem Plays.transcript_of_omits {steps : List Step} {w : W}
    {left : List (Step × Outcome W StepResult)}
    (h : Omits (fun entry => entry.2.result.Unsent) (session.transcript steps w) left) :
    session.transcript (left.map Prod.fst) w = left ∧
      session.after (left.map Prod.fst) w = session.after steps w := by
  induction steps generalizing w left with
  | nil =>
      cases h with
      | nil => exact ⟨rfl, rfl⟩
  | cons s rest ih =>
      rw [session.transcript_cons] at h
      cases h with
      | keep _ hrest =>
          obtain ⟨htranscript, hafter⟩ := ih hrest
          exact ⟨congrArg _ htranscript, hafter⟩
      | skip hunsent hrest =>
          -- the step is not there in the shorter session, and it left the state as it was
          obtain ⟨hstate, -⟩ := hplays.step_of_unsent hunsent
          rw [hstate] at hrest
          rw [session.after_cons, hstate]
          exact ih hrest

/-- **A reply tells whether the card could have seen the request.**  One that says the request
was not sent comes with the state as it was and an empty log.  Any other comes with exactly
one more frame on record, and at most one prepared answer used up.  Hence requests that were
turned away can be left out of a session, any of them, and every other step still leads to
the same result, log and state, and so does the session as a whole. -/
theorem reply_tells_if_sent :
    (∀ request w, ∃ reply, (session.step (.ask request) w).result = .reply reply ∧
      (reply.Unsent →
        (session.step (.ask request) w).state = w ∧ (session.step (.ask request) w).log = []) ∧
      (¬ reply.Unsent →
        session.sent (session.step (.ask request) w).state =
            session.sent w ++
              [(.ofProtocol (session.script.get w).protocol, request.toCommand.frame)] ∧
          ∃ drawn, drawn.length ≤ 1 ∧
            (session.script.get w).queue =
              drawn ++ (session.script.get (session.step (.ask request) w).state).queue)) ∧
    ∀ steps w left,
      Omits (fun entry => entry.2.result.Unsent) (session.transcript steps w) left →
      session.transcript (left.map Prod.fst) w = left ∧
        session.after (left.map Prod.fst) w = session.after steps w := by
  refine ⟨?_, fun steps w left => hplays.transcript_of_omits⟩
  intro request w
  refine ⟨(session.route.ask request w).result, rfl, ?_, ?_⟩
  · intro hunsent
    exact hplays.step_of_unsent (s := .ask request) hunsent
  · intro hsent
    obtain ⟨call, hcalls, hkept⟩ := hplays.calls_of_not_unsent hsent
    have hsends := session.sends_of_no_edit (s := .ask request) rfl w
    rw [hcalls] at hsends
    refine ⟨?_, (session.script.get w).queue.take 1, List.length_take_le 1 _, ?_⟩
    · rw [hplays.sends_sent hsends, List.map_singleton, hkept]
    · rw [hplays.sends_tail hsends, ← List.drop_one, List.take_append_drop]

omit hplays in
/-- A question put to a closed channel can be left out. -/
theorem reply_tells_if_sent_closed :
    onCard.Plays ∧
      Omits (fun entry => entry.2.result.Unsent)
        (onCard.transcript [.close, .ask (.fileSettings 1), .reopen, .ask (.fileSettings 2)] {})
        (onCard.transcript [.close, .reopen, .ask (.fileSettings 2)] {}) ∧
      onCard.after [.close, .reopen, .ask (.fileSettings 2)] {} =
        onCard.after [.close, .ask (.fileSettings 1), .reopen, .ask (.fileSettings 2)] {} := by
  have hplays : onCard.Plays := plays_along rfl
  have homits : Omits (fun entry => entry.2.result.Unsent)
      (onCard.transcript [.close, .ask (.fileSettings 1), .reopen, .ask (.fileSettings 2)] {})
      (onCard.transcript [.close, .reopen, .ask (.fileSettings 2)] {}) :=
    .keep _ (.skip trivial (.keep _ (.keep _ .nil)))
  exact ⟨hplays, homits, ((reply_tells_if_sent hplays).2 _ _ _ homits).2⟩

end Session

end SmartCard
