/-
What becomes of the prepared answers.

Answers are prepared by pushing them and used up by transmitting.  Nothing else touches
them, so they are conserved: what was there at first together with what was pushed, in
order, is what was drawn together with what is left.  `step_queue` says this of one step
and `queue_conserved` of a run.

A prepared answer can be the very failure that a transmit reports when it finds none, so
results alone do not tell a draw from a starved transmit.  The account does, since it keeps
the state before each transmit.
-/
import SmartCard.Proofs.Session.Account

namespace SmartCard

variable {W : Type}

/-- The answers that a step prepares. -/
def Step.pushed : Step → List (Except DriverFault Bytes)
  | push answer => [answer]
  | pushResponse response => [.ok response.toApdu]
  | close | reopen | setProtocol _ | popSent | transmit .. | ask _ => []

/-- The prepared answer that a transmit used up: the one it gave, if one was there. -/
def Call.drawn (script : Lens W Script) (call : Call W) : List (Except DriverFault Bytes) :=
  if (script.get call.before).queue = [] then [] else [call.answer]

/-- A session whose requests go over the channel that plays its own script. -/
structure ScriptedSession (W : Type) extends Session W where
  /-- The channel is the scripted one, which may refuse to name its protocol. -/
  plays : route.toChannel = Script.channel.along script ∨
    route.toChannel = (Script.channel.along script).withoutProtocol

namespace ScriptedSession

/-- A session over the scripted channel itself. -/
def onChannel : ScriptedSession Script :=
  { Session.onChannel with plays := .inl rfl }

/-- A session with a card at the other end of the scripted channel. -/
def onCard : ScriptedSession Script :=
  { Session.onCard with plays := .inl rfl }

variable (session : ScriptedSession W)

/-- The answers prepared in a state. -/
def queue (w : W) : List (Except DriverFault Bytes) :=
  (session.script.get w).queue

/-- The prepared answers that steps use up. -/
def drawn (steps : List Step) (w : W) : List (Except DriverFault Bytes) :=
  (session.calls steps w).flatMap (Call.drawn session.script)

/-- Transmitting is playing the script. -/
theorem transmit_eq (pci : Pci) (frame : Bytes) (w : W) :
    session.route.toChannel.transmit pci frame w =
      (((session.script.get w).transmit pci frame).1,
        session.script.set ((session.script.get w).transmit pci frame).2 w) := by
  rcases session.plays with hplays | hplays <;> rw [hplays] <;> rfl

/-! ### One step -/

/-- A transmit draws one prepared answer if there is any. -/
private theorem sends_queue {w after : W} {calls : List (Call W)}
    (h : session.route.toChannel.Sends w calls after) :
    session.queue w = calls.flatMap (Call.drawn session.script) ++ session.queue after := by
  cases h with
  | nothing => rfl
  | once htransmit =>
      rw [transmit_eq] at htransmit
      obtain ⟨rfl, rfl⟩ := Prod.mk.inj htransmit
      rw [List.flatMap_singleton, Call.drawn, queue, queue, Lens.get_set, Script.transmit_queue,
        Script.transmit_answer]
      cases (session.script.get w).queue with
      | nil => rfl
      | cons answer rest => rfl

/-- A change of the script can only add to the prepared answers. -/
private theorem edit_queue {s : Step} {f : Script → Script} (hedit : s.edit? = some f)
    (script : Script) : (f script).queue = script.queue ++ s.pushed := by
  cases s with
  | transmit pci frame => contradiction
  | ask request => contradiction
  | _ =>
      obtain rfl := Option.some.inj hedit
      simp [Step.pushed, Script.push, Script.dropSent]

private theorem pushed_of_no_edit {s : Step} (hedit : s.edit? = none) : s.pushed = [] := by
  cases s with
  | transmit pci frame => rfl
  | ask request => rfl
  | _ => contradiction

/-- One step conserves the prepared answers. -/
theorem step_queue (s : Step) (w : W) :
    session.queue w ++ s.pushed =
      session.drawn [s] w ++ session.queue (session.step s w).state := by
  cases hedit : s.edit? with
  | none =>
      rw [pushed_of_no_edit hedit, List.append_nil]
      exact session.sends_queue (session.sends_of_no_edit hedit w)
  | some f =>
      rw [drawn, session.calls_of_edit hedit, session.step_of_edit hedit, queue, queue,
        Lens.get_modify, edit_queue hedit]
      rfl

/-! ### A run -/

private theorem drawn_append (steps more : List Step) (w : W) :
    session.drawn (steps ++ more) w =
      session.drawn steps w ++ session.drawn more (session.after steps w) := by
  rw [drawn, session.calls_append, List.flatMap_append]
  rfl

/-- A run conserves the prepared answers. -/
theorem queue_conserved (steps : List Step) (w : W) :
    session.queue w ++ steps.flatMap Step.pushed =
      session.drawn steps w ++ session.queue (session.after steps w) := by
  induction steps generalizing w with
  | nil => exact List.append_nil _
  | cons s rest ih =>
      have hdrawn := session.drawn_append [s] rest w
      calc session.queue w ++ (s :: rest).flatMap Step.pushed
          = (session.queue w ++ s.pushed) ++ rest.flatMap Step.pushed := by
            rw [List.flatMap_cons, List.append_assoc]
        _ = session.drawn [s] w ++
              (session.queue (session.step s w).state ++ rest.flatMap Step.pushed) := by
            rw [step_queue, List.append_assoc]
        _ = session.drawn [s] w ++ (session.drawn rest (session.step s w).state ++
              session.queue (session.after rest (session.step s w).state)) := by
            rw [ih]
        _ = session.drawn (s :: rest) w ++ session.queue (session.after (s :: rest) w) := by
            rw [← List.append_assoc]
            exact congrArg (· ++ _) hdrawn.symm

/-- Everything available was drawn if and only if nothing is left. -/
theorem drawn_eq_iff (steps : List Step) (w : W) :
    session.drawn steps w = session.queue w ++ steps.flatMap Step.pushed ↔
      session.queue (session.after steps w) = [] := by
  rw [queue_conserved, List.self_eq_append_right]

/-- A transmit is starved if and only if nothing is left for it. -/
theorem starved_iff {s : Step} {w : W} {call : Call W} (hcall : call ∈ session.calls [s] w) :
    call.answer = .error Script.timeout ∧ call.drawn session.script = [] ↔
      session.queue w = [] := by
  cases hedit : s.edit? with
  | some f =>
      rw [session.calls_of_edit hedit] at hcall
      contradiction
  | none =>
      have hsends := session.sends_of_no_edit hedit w
      generalize session.calls [s] w = calls at hcall hsends
      generalize (session.step s w).state = after at hsends
      cases hsends with
      | nothing => contradiction
      | once htransmit =>
          obtain rfl := List.mem_singleton.mp hcall
          rw [transmit_eq] at htransmit
          obtain ⟨rfl, rfl⟩ := Prod.mk.inj htransmit
          rw [Call.drawn, Script.transmit_answer, queue]
          cases (session.script.get w).queue with
          | nil => simp
          | cons answer rest => simp

/-- **In any session, what was prepared at first and since, in order, is what the transmits
drew, in order, and what is left.**  A transmit times out without drawing anything if and
only if everything available so far was drawn, and a step that neither prepares an answer nor
transmits leaves the prepared answers as they are. -/
theorem prepared_answers_conserved (steps : List Step) (w : W) :
    session.queue w ++ steps.flatMap Step.pushed =
        session.drawn steps w ++ session.queue (session.after steps w) ∧
      (∀ s, ∀ call ∈ session.calls [s] (session.after steps w),
        call.answer = .error { code := 0x8010000A, message := "no queued response" } ∧
            call.drawn session.script = [] ↔
          session.drawn steps w = session.queue w ++ steps.flatMap Step.pushed) ∧
      ∀ s, s.pushed = [] → session.calls [s] (session.after steps w) = [] →
        session.queue (session.after (steps ++ [s]) w) = session.queue (session.after steps w) := by
  refine ⟨session.queue_conserved steps w, ?_, ?_⟩
  · intro s call hcall
    rw [drawn_eq_iff]
    exact session.starved_iff hcall
  · intro s hpushed hcalls
    have hstep := session.step_queue s (session.after steps w)
    rw [hpushed, drawn, hcalls, List.append_nil] at hstep
    rw [session.after_append]
    exact hstep.symm

end ScriptedSession

end SmartCard
