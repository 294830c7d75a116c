/-
The account of a session.

A session is watched by watching the channel that its requests go over.  Again nothing but
the account changes, step by step and hence over a whole run: `after_recorded`.  The account
of a run is put together from those of its parts, `calls_append`, so what is said of one
step can be carried along a run.

A step acts on the state in one of two ways.  Either it transmits, once or not at all, or
it changes the script directly.  The second kind is told apart by `Step.edit?`.
-/
import SmartCard.Proofs.Card
import SmartCard.Proofs.Request
import SmartCard.Session

namespace SmartCard

variable {W : Type}

/-! ### Watching a request -/

theorem Card.ask_recorded (card : Card W) (request : Request) (w : W)
    (earlier : List (Call W)) :
    card.recorded.ask request (w, earlier) =
      (card.ask request w).beside
        (earlier ++ card.channel.exchangeCalls request.toCommand w) := by
  rw [ask_eq, ask_eq, recorded, Channel.exchange_recorded]
  rfl

/-- A request leaves the state that the exchange of its command leaves. -/
theorem Card.ask_state (card : Card W) (request : Request) (w : W) :
    (card.ask request w).state = (card.channel.exchange request.toCommand w).state := by
  rw [ask_eq]

namespace Route

/-- Any way is as good as the one to a card at the other end of its channel. -/
theorem ask_eq (route : Route W) (request : Request) (w : W) :
    route.ask request w = Card.ask { channel := route.toChannel } request w := by
  cases route with
  | channel c => cases request <;> rfl
  | card c => cases request <;> rfl

/-- The way, with an account of every transmit. -/
def recorded : Route W → Route (W × List (Call W))
  | channel c => .channel c.recorded
  | card c => .card c.recorded

private theorem toChannel_recorded (route : Route W) :
    route.recorded.toChannel = route.toChannel.recorded := by
  cases route <;> rfl

theorem ask_recorded (route : Route W) (request : Request) (w : W) (earlier : List (Call W)) :
    route.recorded.ask request (w, earlier) =
      (route.ask request w).beside
        (earlier ++ route.toChannel.exchangeCalls request.toCommand w) := by
  rw [ask_eq, toChannel_recorded, ask_eq]
  exact Card.ask_recorded { channel := route.toChannel } request w earlier

end Route

/-! ### Watching a session -/

/-- The change that a step makes to the script without transmitting, if it is one that does. -/
def Step.edit? : Step → Option (Script → Script)
  | push answer => some (·.push answer)
  | pushResponse response => some (·.push (.ok response.toApdu))
  | close => some ({ · with isOpen := false })
  | reopen => some ({ · with isOpen := true })
  | setProtocol protocol => some ({ · with protocol })
  | popSent => some Script.dropSent
  | transmit .. | ask _ => none

namespace Session

/-- The session, with an account of every transmit. -/
def recorded (session : Session W) : Session (W × List (Call W)) where
  script := Lens.first.within session.script
  route := session.route.recorded

/-- The transmits that steps make. -/
def calls (session : Session W) (steps : List Step) (w : W) : List (Call W) :=
  (session.recorded.after steps (w, [])).2

variable (session : Session W)

theorem run_cons (s : Step) (rest : List Step) (w : W) :
    session.run (s :: rest) w =
      session.step s w :: session.run rest (session.step s w).state := rfl

theorem after_cons (s : Step) (rest : List Step) (w : W) :
    session.after (s :: rest) w = session.after rest (session.step s w).state := rfl

theorem after_append (steps more : List Step) (w : W) :
    session.after (steps ++ more) w = session.after more (session.after steps w) :=
  Outcome.after_append session.step steps more w

/-- A request is put to the card at the other end of the channel, whatever way it takes. -/
theorem step_ask (request : Request) (w : W) :
    session.step (.ask request) w =
      (Card.ask { channel := session.route.toChannel } request w).map .reply := by
  rw [step, Route.ask_eq]

theorem step_of_edit {s : Step} {f : Script → Script} (hedit : s.edit? = some f) (w : W) :
    (session.step s w).state = session.script.modify f w := by
  cases s with
  | transmit pci frame => contradiction
  | ask request => contradiction
  | _ =>
      obtain rfl := Option.some.inj hedit
      rfl

/-- A change of the script goes unnoticed. -/
theorem calls_of_edit {s : Step} {f : Script → Script} (hedit : s.edit? = some f) (w : W) :
    session.calls [s] w = [] := by
  cases s with
  | transmit pci frame => contradiction
  | ask request => contradiction
  | _ => rfl

private theorem calls_transmit (pci : Pci) (frame : Bytes) (w : W) :
    session.calls [.transmit pci frame] w =
      [{ before := w, pci, frame,
         answer := (session.route.toChannel.transmit pci frame w).1 }] := by
  simp [calls, after, Outcome.after, step, recorded, Route.toChannel_recorded, Channel.recorded,
    Outcome.silent]

theorem calls_ask (request : Request) (w : W) :
    session.calls [.ask request] w =
      session.route.toChannel.exchangeCalls request.toCommand w := by
  simp [calls, after, Outcome.after, step, recorded, Route.ask_recorded, Outcome.map,
    Outcome.beside]

/-- Watching a step changes nothing but the account. -/
theorem step_recorded (s : Step) (w : W) (earlier : List (Call W)) :
    session.recorded.step s (w, earlier) =
      (session.step s w).beside (earlier ++ session.calls [s] w) := by
  cases s with
  | transmit pci frame =>
      rw [calls_transmit]
      simp [step, recorded, Route.toChannel_recorded, Channel.recorded, Outcome.silent,
        Outcome.beside]
  | ask request =>
      rw [calls_ask]
      simp [step, recorded, Route.ask_recorded, Outcome.map, Outcome.beside]
  | _ =>
      rw [session.calls_of_edit rfl, List.append_nil]
      rfl

/-- **Watching a run changes nothing but the account.** -/
theorem after_recorded (steps : List Step) (w : W) (earlier : List (Call W)) :
    session.recorded.after steps (w, earlier) =
      (session.after steps w, earlier ++ session.calls steps w) := by
  induction steps generalizing w earlier with
  | nil =>
      have hcalls : session.calls [] w = [] := rfl
      rw [hcalls, List.append_nil]
      rfl
  | cons s rest ih =>
      have hcalls : session.calls (s :: rest) w =
          session.calls [s] w ++ session.calls rest (session.step s w).state := by
        rw [calls, after_cons, step_recorded]
        exact congrArg Prod.snd (ih (session.step s w).state (session.calls [s] w))
      rw [hcalls, after_cons, after_cons, step_recorded, ← List.append_assoc]
      exact ih (session.step s w).state (earlier ++ session.calls [s] w)

/-- The account of a run is that of its first part followed by that of the rest. -/
theorem calls_append (steps more : List Step) (w : W) :
    session.calls (steps ++ more) w =
      session.calls steps w ++ session.calls more (session.after steps w) := by
  rw [calls, after_append, after_recorded, after_recorded]
  rfl

theorem calls_cons (s : Step) (rest : List Step) (w : W) :
    session.calls (s :: rest) w =
      session.calls [s] w ++ session.calls rest (session.step s w).state :=
  session.calls_append [s] rest w

/-- A step that does not change the script by itself transmits, once or not at all. -/
theorem sends_of_no_edit {s : Step} (hedit : s.edit? = none) (w : W) :
    session.route.toChannel.Sends w (session.calls [s] w) (session.step s w).state := by
  cases s with
  | transmit pci frame =>
      rw [calls_transmit]
      exact .once rfl
  | ask request =>
      rw [calls_ask]
      have hstate : (session.step (.ask request) w).state =
          (session.route.toChannel.exchange request.toCommand w).state := by
        simp only [step, Outcome.map, Route.ask_eq, Card.ask_state]
      rw [hstate]
      exact (session.route.toChannel.exchanged request.toCommand w).sends
  | _ => contradiction

end Session

end SmartCard
