/-
Ways to the scripted channel.

A script can be reached directly, in a box, through a card, or through a card that a builder
made.  In each case the channel works on a part of the state, the script, and leaves the rest
alone.  `step_along` compares a step of such a session with the same step taken on the script
by itself: the result and the log are the same, and the script that the step leaves is put
back where it was found.  `run_along` carries this along a run.

A builder keeps the channel it was given last.  That the others are never used is said with
an account: they are watched, and nothing is ever added to it.
-/
import SmartCard.Proofs.Session.Queue
import SmartCard.Proofs.Simulation

namespace SmartCard

variable {W V : Type}

namespace Channel

/-- On a part of the state a channel answers as it does by itself. -/
theorem alike_along (channel : Channel V) (part : Lens W V) (command : Command) (v : V)
    (w : W) : channel.Alike command v (channel.along part) (part.set · w) where
  isOpen := by simp [along]
  protocol := by simp [along]
  transmit := by simp [along]

/-- A box is a state with one part. -/
theorem boxed_eq_along (channel : Channel V) : channel.boxed = channel.along Boxed.inside := rfl

end Channel

namespace Session

variable {session : Session W}

/-! ### On a part of the state as on the script by itself -/

private theorem change_along (f : Script → Script) (v : Script) (w : W) :
    session.change f (session.script.set v w) =
      (onChannel.change f v).moved (session.script.set · w) := by
  simp [change, Lens.modify, onChannel, Lens.id]

/-- One step over the channel on a part of the state is that step on the script. -/
theorem step_along (hplays : session.route.toChannel = Script.channel.along session.script)
    (s : Step) (v : Script) (w : W) :
    session.step s (session.script.set v w) =
      (onChannel.step s v).moved (session.script.set · w) := by
  cases s with
  | transmit pci frame =>
      rw [step, hplays]
      simp [step, onChannel, Route.toChannel, Channel.along, Script.channel, Outcome.moved,
        Outcome.silent]
  | ask request =>
      have halike : Script.channel.Alike request.toCommand v session.route.toChannel
          (session.script.set · w) := by
        rw [hplays]
        exact Script.channel.alike_along session.script request.toCommand v w
      have hask : Card.ask { channel := session.route.toChannel } request
            (session.script.set v w) =
          (Card.ask { channel := Script.channel } request v).moved (session.script.set · w) :=
        Card.ask_moved halike
      rw [step_ask, step_ask, hask]
      rfl
  | popSent => simp [step, Lens.modify, onChannel, Lens.id]
  | _ => exact change_along _ v w

/-- A run over the channel on a part of the state is that run on the script. -/
theorem run_along (hplays : session.route.toChannel = Script.channel.along session.script)
    (steps : List Step) (v : Script) (w : W) :
    session.run steps (session.script.set v w) =
        (onChannel.run steps v).map (Outcome.moved (session.script.set · w)) ∧
      session.after steps (session.script.set v w) =
        session.script.set (onChannel.after steps v) w := by
  induction steps generalizing v with
  | nil => exact ⟨rfl, rfl⟩
  | cons s rest ih =>
      obtain ⟨hrun, hafter⟩ := ih (onChannel.step s v).state
      have hstep := step_along hplays s v w
      rw [run_cons, after_cons, hstep]
      exact ⟨congrArg _ hrun, hafter⟩

end Session

/-! ### What a builder makes -/

namespace CardBuilder

/-- A builder that was given channels one after another. -/
def given (channels : List (Channel W)) : CardBuilder W :=
  channels.foldl withChannel empty

/-- The builder keeps the channel given last. -/
private theorem channel_given (channels : List (Channel W)) :
    (given channels).channel = channels.getLast? := by
  obtain rfl | ⟨earlier, last, rfl⟩ := List.eq_nil_or_concat channels
  · rfl
  · simp [given, withChannel]

private theorem build_given_of_open {channels : List (Channel W)} {last : Channel W} {w : W}
    (hlast : channels.getLast? = some last) (hopen : last.isOpen w = true) :
    (given channels).build w = .ok { channel := last } := by
  simp [build, channel_given, hlast, hopen]

private theorem build_given_of_not_open {channels : List (Channel W)} {w : W}
    (h : ¬ ∃ last, channels.getLast? = some last ∧ last.isOpen w = true) :
    (given channels).build w = .error .notOpen := by
  rw [build, channel_given]
  cases hlast : channels.getLast? with
  | none => rfl
  | some last =>
      have hclosed : ¬ last.isOpen w = true := fun hopen => h ⟨last, hlast, hopen⟩
      exact if_neg hclosed

/-- There is a card if and only if there is a channel given last and it is open. -/
theorem exists_build_given_iff {channels : List (Channel W)} {w : W} :
    (∃ card, (given channels).build w = .ok card) ↔
      ∃ last, channels.getLast? = some last ∧ last.isOpen w = true := by
  constructor
  · intro hcard
    obtain ⟨card, hcard⟩ := hcard
    by_contra hnone
    rw [build_given_of_not_open hnone] at hcard
    contradiction
  · intro hlast
    obtain ⟨last, hlast, hopen⟩ := hlast
    exact ⟨_, build_given_of_open hlast hopen⟩

end CardBuilder

/-- What a builder makes of the scripted channel is a session with that channel. -/
theorem Session.onBuilder_given {channels : List (Channel W)} {last : Channel W}
    (hlast : channels.getLast? = some last) (script : Lens W Script) {w : W}
    (hopen : last.isOpen w = true) :
    onBuilder (.given channels) script w =
      .ok { script, route := .card { channel := last } } := by
  rw [onBuilder, CardBuilder.build_given_of_open hlast hopen]
  rfl

/-- What a builder makes of the scripted channel is a scripted session, also if the channel
refuses to name its protocol. -/
theorem ScriptedSession.exists_onBuilder {channels : List (Channel W)} {last : Channel W}
    (hlast : channels.getLast? = some last) {script : Lens W Script}
    (hplays : last = Script.channel.along script ∨
      last = (Script.channel.along script).withoutProtocol)
    {w : W} (hopen : (script.get w).isOpen = true) :
    ∃ session : ScriptedSession W,
      Session.onBuilder (.given channels) script w = .ok session.toSession := by
  have hopen' : last.isOpen w = true := by
    rcases hplays with rfl | rfl
    · exact hopen
    · exact hopen
  exact ⟨{ script, route := .card { channel := last }, plays := hplays },
    Session.onBuilder_given hlast script hopen'⟩

/-! ### All ways are one -/

namespace Session

theorem onCard_along (steps : List Step) (v : Script) :
    onCard.run steps v = onChannel.run steps v ∧
      onCard.after steps v = onChannel.after steps v := by
  have hplays : onCard.route.toChannel = Script.channel.along onCard.script := rfl
  obtain ⟨hrun, hafter⟩ := run_along hplays steps v v
  have hmoved : Outcome.moved (onCard.script.set · v) = (id : Outcome Script StepResult → _) := rfl
  rw [hmoved, List.map_id] at hrun
  exact ⟨hrun, hafter⟩

theorem onBox_along (steps : List Step) (v : Script) :
    onBox.run steps { content := v } = (onChannel.run steps v).map (Outcome.moved Boxed.mk) ∧
      onBox.after steps { content := v } = { content := onChannel.after steps v } := by
  have hplays : onBox.route.toChannel = Script.channel.along onBox.script :=
    Script.channel.boxed_eq_along
  exact run_along hplays steps v { content := v }

/-- A builder that was given the scripted channel last makes a card of it. -/
theorem onBuilder_along {channels : List (Channel W)} {script : Lens W Script}
    (hlast : channels.getLast? = some (Script.channel.along script)) {w : W}
    (hopen : (script.get w).isOpen = true) :
    ∃ session, onBuilder (.given channels) script w = .ok session ∧
      ∀ steps,
        session.run steps w =
            (onChannel.run steps (script.get w)).map (Outcome.moved (script.set · w)) ∧
          session.after steps w = script.set (onChannel.after steps (script.get w)) w := by
  let session : Session W :=
    { script, route := .card { channel := Script.channel.along script } }
  have hplays : session.route.toChannel = Script.channel.along session.script := rfl
  refine ⟨session, onBuilder_given hlast script hopen, ?_⟩
  intro steps
  have hruns := run_along hplays steps (script.get w) w
  rwa [session.script.set_get w] at hruns

/-- **All ways to the scripted channel come to the same.**  Through a card, in a box, or
through the card that a builder made of it, every run has the results, the log and the states
that it has over the channel itself.  The channels that the builder was given before are
watched, and nothing is added to the account of them.  A builder makes a card if and only if
there is a channel given last and it is open, and reports a closed channel otherwise. -/
theorem routes_agree (earlier : List (Channel W)) (script : Lens W Script) (w : W)
    (account : List (Call W)) (hopen : (script.get w).isOpen = true) :
    (∀ steps v,
      onCard.run steps v = onChannel.run steps v ∧
        onCard.after steps v = onChannel.after steps v) ∧
    (∀ steps v,
      onBox.run steps { content := v } = (onChannel.run steps v).map (Outcome.moved Boxed.mk) ∧
        onBox.after steps { content := v } = { content := onChannel.after steps v }) ∧
    (∃ session,
      onBuilder
          (.given
            (earlier.map Channel.recorded ++ [Script.channel.along (Lens.first.within script)]))
          (Lens.first.within script) (w, account) = .ok session ∧
        ∀ steps,
          session.run steps (w, account) =
              (onChannel.run steps (script.get w)).map
                (Outcome.moved fun v => (script.set v w, account)) ∧
            session.after steps (w, account) =
              (script.set (onChannel.after steps (script.get w)) w, account)) ∧
    ∀ (channels : List (Channel W)) (w : W),
      ((∃ card, (CardBuilder.given channels).build w = .ok card) ↔
          ∃ last, channels.getLast? = some last ∧ last.isOpen w = true) ∧
        ((¬ ∃ card, (CardBuilder.given channels).build w = .ok card) →
          (CardBuilder.given channels).build w = .error .notOpen) := by
  refine ⟨onCard_along, onBox_along, onBuilder_along List.getLast?_concat hopen, ?_⟩
  intro channels w
  refine ⟨CardBuilder.exists_build_given_iff, ?_⟩
  intro hnone
  exact CardBuilder.build_given_of_not_open (mt CardBuilder.exists_build_given_iff.mpr hnone)

/-- A spare channel that a builder was given first stays as it was. -/
theorem routes_agree_spare :
    (Lens.first.get (({}, {}) : Script × Script)).isOpen = true ∧
      ∃ session,
        onBuilder
            (.given ([Script.channel.along .second].map Channel.recorded ++
              [Script.channel.along (Lens.first.within .first)]))
            (Lens.first.within .first) ((({}, {}) : Script × Script), []) = .ok session ∧
          session.after [.ask (.fileSettings 1), .close, .ask (.fileSettings 2)]
              (({}, {}), []) =
            ((onChannel.after [.ask (.fileSettings 1), .close, .ask (.fileSettings 2)] {}, {}),
              []) := by
  have hopen : (Lens.first.get (({}, {}) : Script × Script)).isOpen = true := rfl
  obtain ⟨-, -, ⟨session, hbuild, hruns⟩, -⟩ :=
    routes_agree [Script.channel.along .second] .first (({}, {}) : Script × Script) [] hopen
  exact ⟨hopen, session, hbuild, (hruns _).2⟩

end Session

end SmartCard
