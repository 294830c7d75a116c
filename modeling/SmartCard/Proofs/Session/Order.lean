/-
The order of preparing and asking.

While requests are made, answers to them are still being prepared, and the two can be
interleaved in many ways.  Preparing adds to one end of the queue and transmitting takes from
the other, so as long as no transmit finds the queue empty, it makes no difference how far
ahead an answer was prepared.  `step_stocked` says this of one request: more answers in stock
change nothing about it, and they are still there afterwards.

`run_of_interleaves` then brings every run into the one form in which all answers are prepared
before the first request is made.  That form knows the requests and the answers, but not how
they were interleaved.
-/
import SmartCard.Proofs.Session.Queue
import SmartCard.Proofs.Simulation

namespace SmartCard

variable {W : Type}

/-! ### Answers in stock -/

namespace Script

variable (script : Script) (answers : List (Except DriverFault Bytes))

/-- Prepares several answers. -/
def stock (answers : List (Except DriverFault Bytes)) (script : Script) : Script :=
  { script with queue := script.queue ++ answers }

@[simp] theorem stock_nil : script.stock [] = script := by
  simp [stock]

private theorem stock_push (answer : Except DriverFault Bytes) :
    (script.push answer).stock answers = script.stock (answer :: answers) := by
  simp [stock, push]

/-- A transmit that finds an answer does not notice what is prepared behind it. -/
theorem transmit_stock {script : Script} (hqueue : script.queue ≠ []) (pci : Pci)
    (frame : Bytes) :
    (script.stock answers).transmit pci frame =
      ((script.transmit pci frame).1, (script.transmit pci frame).2.stock answers) := by
  obtain ⟨answer, rest, hqueue⟩ := List.exists_cons_of_ne_nil hqueue
  simp [transmit, stock, hqueue]

end Script

/-! ### What requests come to -/

/-- The reply that a step led to, with its log, if the step was a request. -/
def Outcome.reply? (outcome : Outcome W StepResult) : Option (Reply × List LogRecord) :=
  match outcome.result with
  | .reply reply => some (reply, outcome.log)
  | .done | .popped _ | .answer _ => none

/-- The replies that steps lead to, each with its log. -/
def Session.replies (session : Session W) (steps : List Step) (w : W) :
    List (Reply × List LogRecord) :=
  (session.run steps w).filterMap Outcome.reply?

private theorem Session.replies_cons (session : Session W) (s : Step) (rest : List Step) (w : W) :
    session.replies (s :: rest) w =
      (session.step s w).reply?.toList ++ session.replies rest (session.step s w).state := by
  unfold replies
  rw [run_cons, List.filterMap_cons]
  cases (session.step s w).reply? <;> rfl

/-- The steps make the requests and prepare the answers, each in order and nothing else. -/
inductive Interleaves : List Request → List (Except DriverFault Bytes) → List Step → Prop
  /-- There is nothing to do. -/
  | nil : Interleaves [] [] []
  /-- The next request is made. -/
  | ask {requests : List Request} {answers : List (Except DriverFault Bytes)}
      {steps : List Step} (request : Request) (h : Interleaves requests answers steps) :
      Interleaves (request :: requests) answers (.ask request :: steps)
  /-- The next answer is prepared. -/
  | prepare {requests : List Request} {answers : List (Except DriverFault Bytes)}
      {steps : List Step} {s : Step} {answer : Except DriverFault Bytes}
      (hs : s.pushed = [answer]) (h : Interleaves requests answers steps) :
      Interleaves requests (answer :: answers) (s :: steps)

/-- A step that prepares an answer does nothing else. -/
private theorem Step.edit?_of_pushed {s : Step} {answer : Except DriverFault Bytes}
    (hs : s.pushed = [answer]) : s.edit? = some (·.push answer) := by
  cases s with
  | push other =>
      obtain rfl := List.singleton_inj.mp hs
      rfl
  | pushResponse response =>
      obtain rfl := List.singleton_inj.mp hs
      rfl
  | _ => contradiction

private theorem Session.reply?_of_edit (session : Session W) {s : Step} {f : Script → Script}
    (hedit : s.edit? = some f) (w : W) : (session.step s w).reply? = none := by
  cases s with
  | transmit pci frame => contradiction
  | ask request => contradiction
  | _ => rfl

namespace ScriptedSession

variable (session : ScriptedSession W) (answers : List (Except DriverFault Bytes))

/-- The state with more answers in stock. -/
def stocked (w : W) : W :=
  session.script.modify (Script.stock answers) w

@[simp] theorem stocked_nil (w : W) : session.stocked [] w = w := by
  simp [stocked, Lens.modify]

private theorem stocked_push (answer : Except DriverFault Bytes) (w : W) :
    session.stocked answers (session.script.modify (·.push answer) w) =
      session.stocked (answer :: answers) w := by
  simp [stocked, Lens.modify, Script.stock_push]

/-- No transmit finds the queue empty. -/
def Fed (steps : List Step) (w : W) : Prop :=
  ∀ call ∈ session.calls steps w, session.queue call.before ≠ []

variable {session}

theorem Fed.first {s : Step} {rest : List Step} {w : W} (h : session.Fed (s :: rest) w) :
    session.Fed [s] w := by
  intro call hcall
  refine h call ?_
  rw [session.calls_cons]
  exact List.mem_append_left _ hcall

theorem Fed.rest {s : Step} {rest : List Step} {w : W} (h : session.Fed (s :: rest) w) :
    session.Fed rest (session.step s w).state := by
  intro call hcall
  refine h call ?_
  rw [session.calls_cons]
  exact List.mem_append_right _ hcall

/-! ### One request -/

/-- The scripted channel answers alike however many answers are in stock behind the next. -/
theorem alike_stocked {request : Request} {w : W} (hfed : session.Fed [.ask request] w) :
    session.route.toChannel.Alike request.toCommand w session.route.toChannel
      (session.stocked answers) where
  isOpen := by
    rcases session.plays with hplays | hplays <;> rw [hplays] <;>
      simp [Channel.along, Channel.withoutProtocol, Script.channel, stocked, Script.stock]
  protocol := by
    rcases session.plays with hplays | hplays <;> rw [hplays] <;>
      simp [Channel.along, Channel.withoutProtocol, Script.channel, stocked, Script.stock]
  transmit := by
    intro protocol hready
    have hqueue : session.queue w ≠ [] := by
      obtain ⟨hstopped, -⟩ | ⟨_, answer, -, hcalls⟩ :=
        (session.route.toChannel.exchanged request.toCommand w).stopped_or_sent
      · exact absurd hready (hstopped protocol)
      · rw [← session.calls_ask] at hcalls
        exact hfed _ (hcalls ▸ List.mem_singleton_self _)
    rw [transmit_eq, transmit_eq, stocked, Lens.get_modify,
      Script.transmit_stock answers hqueue]
    simp [stocked, Lens.modify]

/-- A request that is not starved comes to the same with more answers in stock, and leaves
them there. -/
theorem step_stocked {request : Request} {w : W} (hfed : session.Fed [.ask request] w) :
    session.step (.ask request) (session.stocked answers w) =
      (session.step (.ask request) w).moved (session.stocked answers) := by
  have hask : Card.ask { channel := session.route.toChannel } request
        (session.stocked answers w) =
      (Card.ask { channel := session.route.toChannel } request w).moved
        (session.stocked answers) :=
    Card.ask_moved (alike_stocked answers hfed)
  rw [session.step_ask, session.step_ask, hask]
  rfl

/-! ### A run -/

/-- A run that is never starved comes to the same as making its requests with all its answers
in stock. -/
theorem run_of_interleaves {requests : List Request}
    {answers : List (Except DriverFault Bytes)} {steps : List Step}
    (h : Interleaves requests answers steps) {w : W} (hfed : session.Fed steps w) :
    session.replies steps w =
        session.replies (requests.map .ask) (session.stocked answers w) ∧
      session.after steps w =
        session.after (requests.map .ask) (session.stocked answers w) := by
  induction h generalizing w with
  | nil =>
      rw [stocked_nil]
      exact ⟨rfl, rfl⟩
  | @ask requests answers steps request _ ih =>
      obtain ⟨hreplies, hafter⟩ := ih hfed.rest
      have hstep := step_stocked answers hfed.first
      rw [List.map_cons, session.replies_cons, session.replies_cons, session.after_cons,
        session.after_cons, hstep, hreplies, hafter]
      exact ⟨rfl, rfl⟩
  | @prepare requests answers steps s answer hs _ ih =>
      have hedit := Step.edit?_of_pushed hs
      obtain ⟨hreplies, hafter⟩ := ih hfed.rest
      rw [session.step_of_edit hedit, stocked_push] at hreplies hafter
      rw [session.replies_cons, session.after_cons, session.reply?_of_edit hedit,
        session.step_of_edit hedit, hreplies, hafter]
      exact ⟨rfl, rfl⟩

variable (session)

/-- **Two interleavings of the same requests with the same answers come to the same, if neither
is ever starved.**  Every request has the same reply and the same log in both, and both leave
the same state: the same frames on record and the same answers prepared. -/
theorem interleavings_agree {requests : List Request}
    {answers : List (Except DriverFault Bytes)} {steps steps' : List Step}
    (h : Interleaves requests answers steps) (h' : Interleaves requests answers steps') (w : W)
    (hfed : session.Fed steps w) (hfed' : session.Fed steps' w) :
    session.replies steps w = session.replies steps' w ∧
      session.after steps w = session.after steps' w := by
  obtain ⟨hreplies, hafter⟩ := run_of_interleaves h hfed
  obtain ⟨hreplies', hafter'⟩ := run_of_interleaves h' hfed'
  exact ⟨hreplies.trans hreplies'.symm, hafter.trans hafter'.symm⟩

/-- Each request uses up the last prepared answer, or both are prepared before the first. -/
theorem interleavings_agree_exhausted :
    onChannel.Fed
        [.push (.ok [0x91, 0xF0]), .ask (.fileSettings 1), .push (.error Script.timeout),
          .ask (.fileSettings 2)] {} ∧
      onChannel.Fed
        [.push (.ok [0x91, 0xF0]), .push (.error Script.timeout), .ask (.fileSettings 1),
          .ask (.fileSettings 2)] {} ∧
      onChannel.replies
          [.push (.ok [0x91, 0xF0]), .ask (.fileSettings 1), .push (.error Script.timeout),
            .ask (.fileSettings 2)] {} =
        onChannel.replies
          [.push (.ok [0x91, 0xF0]), .push (.error Script.timeout), .ask (.fileSettings 1),
            .ask (.fileSettings 2)] {} := by
  have hfed : onChannel.Fed
      [.push (.ok [0x91, 0xF0]), .ask (.fileSettings 1), .push (.error Script.timeout),
        .ask (.fileSettings 2)] {} := by
    unfold Fed
    decide
  have hfed' : onChannel.Fed
      [.push (.ok [0x91, 0xF0]), .push (.error Script.timeout), .ask (.fileSettings 1),
        .ask (.fileSettings 2)] {} := by
    unfold Fed
    decide
  have h : Interleaves [.fileSettings 1, .fileSettings 2] [.ok [0x91, 0xF0], .error Script.timeout]
      [.push (.ok [0x91, 0xF0]), .ask (.fileSettings 1), .push (.error Script.timeout),
        .ask (.fileSettings 2)] :=
    .prepare rfl (.ask _ (.prepare rfl (.ask _ .nil)))
  have h' : Interleaves [.fileSettings 1, .fileSettings 2]
      [.ok [0x91, 0xF0], .error Script.timeout]
      [.push (.ok [0x91, 0xF0]), .push (.error Script.timeout), .ask (.fileSettings 1),
        .ask (.fileSettings 2)] :=
    .prepare rfl (.prepare rfl (.ask _ (.ask _ .nil)))
  exact ⟨hfed, hfed', (onChannel.interleavings_agree h h' {} hfed hfed').1⟩

/-- A request that is starved has another reply, so the condition is needed. -/
example :
    onChannel.replies [.ask (.fileSettings 1), .push (.ok [0x91, 0xF0])] {} ≠
      onChannel.replies [.push (.ok [0x91, 0xF0]), .ask (.fileSettings 1)] {} := by
  decide

end ScriptedSession

end SmartCard
