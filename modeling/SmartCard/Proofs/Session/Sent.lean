/-
The record of what was sent.

A scripted channel keeps every frame it transmits, and the frame that is taken back is always
the last one kept: the record is a stack.  `step_sent` and `step_popSent` say what one step
does to it, and `sent_length` counts a whole run.

What the record means is read off the session alone, without looking at any channel:
`Step.issued?` is the command that a step sends on its way, and `Session.standing` is what is
left of the commands issued once the ones taken back are gone.  The record is made of exactly
these, each framed under the protocol that was in force when it was issued, so the commands
can be read out of it again.
-/
import SmartCard.Proofs.Session.Queue

namespace SmartCard

variable {W : Type}

/-- What the script keeps of a transmit. -/
def Call.kept (call : Call W) : Pci × Bytes :=
  (call.pci, call.frame)

/-- A frame was taken back. -/
def StepResult.tookBack : StepResult → Bool
  | popped frame => frame.isSome
  | done | answer _ | reply _ => false

namespace Session

/-- The requests of a session go over a channel that plays its script.  The channel may refuse
a command at any time, by being closed or by not naming its protocol. -/
structure Plays (session : Session W) : Prop where
  transmit : ∀ pci frame w, session.route.toChannel.transmit pci frame w =
    (((session.script.get w).transmit pci frame).1,
      session.script.set ((session.script.get w).transmit pci frame).2 w)
  protocol : ∀ w, session.route.toChannel.protocol w = .ok (session.script.get w).protocol ∨
    session.route.toChannel.protocol w = .error .notOpen

variable (session : Session W)

/-- The frames on record in a state. -/
def sent (w : W) : List (Pci × Bytes) :=
  (session.script.get w).sent

/-- How many frames steps take back. -/
def takenBack (steps : List Step) (w : W) : Nat :=
  (session.run steps w).countP (·.result.tookBack)

private theorem takenBack_cons (s : Step) (rest : List Step) (w : W) :
    session.takenBack (s :: rest) w =
      session.takenBack rest (session.step s w).state +
        (if (session.step s w).result.tookBack then 1 else 0) := by
  unfold takenBack
  rw [run_cons, List.countP_cons]

end Session

/-- The sessions with a scripted channel are among them. -/
theorem ScriptedSession.playsScript (session : ScriptedSession W) : session.toSession.Plays where
  transmit := session.transmit_eq
  protocol w := by
    rcases session.plays with hplays | hplays
    · rw [hplays]
      exact .inl rfl
    · rw [hplays]
      exact .inr rfl

namespace Session

variable {session : Session W}

/-! ### The record is a stack -/

/-- A transmit adds its frame at the end. -/
theorem Plays.sends_sent (hplays : session.Plays) {w after : W} {calls : List (Call W)}
    (h : session.route.toChannel.Sends w calls after) :
    session.sent after = session.sent w ++ calls.map Call.kept := by
  cases h with
  | nothing => simp
  | once htransmit =>
      rw [hplays.transmit] at htransmit
      obtain ⟨rfl, rfl⟩ := Prod.mk.inj htransmit
      simp [sent, Call.kept]

/-- Taking back a frame is the only change of the script that the record notices. -/
private theorem edit_sent {s : Step} {f : Script → Script} (hedit : s.edit? = some f)
    (hs : s ≠ .popSent) (script : Script) : (f script).sent = script.sent := by
  cases s with
  | transmit pci frame => contradiction
  | ask request => contradiction
  | popSent => contradiction
  | _ =>
      obtain rfl := Option.some.inj hedit
      rfl

theorem Plays.step_sent (hplays : session.Plays) {s : Step} (hs : s ≠ .popSent) (w : W) :
    session.sent (session.step s w).state =
      session.sent w ++ (session.calls [s] w).map Call.kept := by
  cases hedit : s.edit? with
  | none => exact hplays.sends_sent (session.sends_of_no_edit hedit w)
  | some f =>
      rw [session.calls_of_edit hedit, session.step_of_edit hedit, sent, sent, Lens.get_modify,
        edit_sent hedit hs, List.map_nil, List.append_nil]

theorem step_popSent (w : W) :
    session.sent (session.step .popSent w).state = (session.sent w).dropLast := by
  rw [session.step_of_edit rfl, sent, Lens.get_modify]
  rfl

private theorem popSent_result (w : W) :
    (session.step .popSent w).result = .popped ((session.sent w).getLast?.map (·.2)) := rfl

/-- Only taking back a frame takes one back. -/
private theorem tookBack_of_ne_popSent {s : Step} (hs : s ≠ .popSent) (w : W) :
    (session.step s w).result.tookBack = false := by
  cases s with
  | popSent => contradiction
  | _ => rfl

theorem Plays.step_length (hplays : session.Plays) (s : Step) (w : W) :
    (session.sent (session.step s w).state).length +
        (if (session.step s w).result.tookBack then 1 else 0) =
      (session.sent w).length + (session.calls [s] w).length := by
  by_cases hs : s = .popSent
  · subst hs
    rw [step_popSent, popSent_result, session.calls_of_edit rfl]
    obtain hsent | ⟨kept, entry, hsent⟩ := List.eq_nil_or_concat (session.sent w)
    · simp [hsent, StepResult.tookBack]
    · simp [hsent, StepResult.tookBack]
  · rw [hplays.step_sent hs, tookBack_of_ne_popSent hs]
    simp

/-- What is on record is what was transmitted less what was taken back. -/
theorem Plays.sent_length (hplays : session.Plays) (steps : List Step) (w : W) :
    (session.sent (session.after steps w)).length + session.takenBack steps w =
      (session.sent w).length + (session.calls steps w).length := by
  induction steps generalizing w with
  | nil => rfl
  | cons s rest ih =>
      have hstep := hplays.step_length s w
      have hrest := ih (session.step s w).state
      rw [session.calls_cons, session.takenBack_cons, session.after_cons, List.length_append]
      omega

end Session

/-! ### What was issued -/

/-- A command, and the protocol it was issued under. -/
structure Issued where
  /-- The protocol in force when the command was issued. -/
  protocol : Protocol
  /-- The command. -/
  command : Command
deriving DecidableEq, Repr

namespace Issued

/-- How the command stands on record. -/
def kept (issued : Issued) : Pci × Bytes :=
  (.ofProtocol issued.protocol, issued.command.frame)

/-- A frame can hold the command. -/
def Fits (issued : Issued) : Prop :=
  issued.command.payload.length ≤ 255

/-- The command can be read out of its place on record. -/
theorem takeApdu?_kept {issued : Issued} (h : issued.Fits) :
    Command.takeApdu? issued.kept.2 = some (issued.command, []) := by
  have hread := Command.takeApdu?_frame_append issued.command [] h
  rwa [List.append_nil] at hread

end Issued

namespace Step

/-- The command that a step issues: a request issues its command if the channel is open and a
frame can hold it. -/
def issued? (script : Script) : Step → Option Issued
  | ask request =>
      if script.isOpen = true ∧ request.toCommand.payload.length ≤ 255 then
        some { protocol := script.protocol, command := request.toCommand }
      else none
  | push _ | pushResponse _ | close | reopen | setProtocol _ | popSent | transmit .. => none

/-- What stands of some commands after a step.  A command that is issued comes last, and the
last one goes when a frame is taken back. -/
def standing (script : Script) (before : List Issued) (s : Step) : List Issued :=
  match s with
  | popSent => before.dropLast
  | s => before ++ (s.issued? script).toList

variable {s : Step} {script : Script} {before : List Issued}

private theorem standing_of_ne_popSent (hs : s ≠ popSent) :
    s.standing script before = before ++ (s.issued? script).toList := by
  cases s with
  | popSent => contradiction
  | _ => rfl

theorem fits_of_issued? {issued : Issued} (h : issued ∈ s.issued? script) : issued.Fits := by
  cases s with
  | ask request =>
      obtain ⟨⟨-, hfits⟩, hissued⟩ := Option.ite_none_right_eq_some.mp h
      obtain rfl := Option.some.inj hissued
      exact hfits
  | _ => contradiction

/-- A frame can hold every command that stands. -/
theorem fits_standing (h : ∀ issued ∈ before, issued.Fits) :
    ∀ issued ∈ s.standing script before, issued.Fits := by
  intro issued hissued
  by_cases hs : s = .popSent
  · subst hs
    exact h issued (List.dropLast_subset before hissued)
  · rw [standing_of_ne_popSent hs, List.mem_append, Option.mem_toList] at hissued
    exact hissued.elim (h issued) fits_of_issued?

end Step

namespace Session

/-- The commands that steps issue, in order. -/
def issued (session : Session W) : List Step → W → List Issued
  | [], _ => []
  | s :: rest, w =>
      (s.issued? (session.script.get w)).toList ++ issued session rest (session.step s w).state

/-- What stands after some steps, of the commands that stood before and those issued since. -/
def standing (session : Session W) (before : List Issued) : List Step → W → List Issued
  | [], _ => before
  | s :: rest, w =>
      standing session (s.standing (session.script.get w) before) rest (session.step s w).state

variable {session : Session W}

/-- If nothing is taken back, everything stands. -/
theorem standing_of_no_popSent {steps : List Step} (hpop : .popSent ∉ steps)
    (before : List Issued) (w : W) :
    session.standing before steps w = before ++ session.issued steps w := by
  induction steps generalizing before w with
  | nil => exact (List.append_nil before).symm
  | cons s rest ih =>
      have hs : s ≠ .popSent := (List.ne_of_not_mem_cons hpop).symm
      rw [standing, Step.standing_of_ne_popSent hs, ih (List.not_mem_of_not_mem_cons hpop), issued,
        List.append_assoc]

theorem fits_standing {before : List Issued} (h : ∀ issued ∈ before, issued.Fits)
    (steps : List Step) (w : W) : ∀ issued ∈ session.standing before steps w, issued.Fits := by
  induction steps generalizing before w with
  | nil => exact h
  | cons s rest ih => exact ih (Step.fits_standing h) _

/-! ### What is on record was issued -/

section Along

variable (halong : session.route.toChannel = Script.channel.along session.script)
include halong

theorem plays_along : session.Plays :=
  ScriptedSession.playsScript { session with plays := .inl halong }

/-- Over the scripted channel a command is ready if the script is open and a frame can hold
it. -/
theorem ready_iff {command : Command} {w : W} {protocol : Protocol} :
    session.route.toChannel.Ready command w protocol ↔
      (session.script.get w).isOpen = true ∧ (session.script.get w).protocol = protocol ∧
        command.payload.length ≤ 255 := by
  rw [halong]
  constructor
  · intro h
    exact ⟨h.isOpen, Except.ok.inj h.named, h.fits⟩
  · intro h
    obtain ⟨hopen, hprotocol, hfits⟩ := h
    exact ⟨hopen, congrArg Except.ok hprotocol, hfits⟩

/-- A request transmits what it issues. -/
theorem kept_calls_ask (request : Request) (w : W) :
    (session.calls [.ask request] w).map Call.kept =
      ((Step.ask request).issued? (session.script.get w)).toList.map Issued.kept := by
  rw [session.calls_ask, Step.issued?]
  obtain ⟨hstopped, hcalls, -⟩ | ⟨protocol, answer, hready, hcalls⟩ :=
    (session.route.toChannel.exchanged request.toCommand w).stopped_or_sent
  · have hnot : ¬ ((session.script.get w).isOpen = true ∧
        request.toCommand.payload.length ≤ 255) := by
      intro h
      exact hstopped _ ((ready_iff halong).mpr ⟨h.1, rfl, h.2⟩)
    rw [hcalls, if_neg hnot]
    rfl
  · obtain ⟨hopen, rfl, hfits⟩ := (ready_iff halong).mp hready
    rw [hcalls, if_pos ⟨hopen, hfits⟩]
    rfl

/-- One step keeps the record in line with what stands. -/
theorem step_standing {s : Step} (hs : ∀ pci frame, s ≠ .transmit pci frame) {w : W}
    {before : List Issued} (h : session.sent w = before.map Issued.kept) :
    session.sent (session.step s w).state =
      (s.standing (session.script.get w) before).map Issued.kept := by
  by_cases hpop : s = .popSent
  · subst hpop
    rw [step_popSent, h, Step.standing, List.map_dropLast]
  rw [(plays_along halong).step_sent hpop, h, Step.standing_of_ne_popSent hpop, List.map_append]
  congr 1
  cases s with
  | ask request => exact kept_calls_ask halong request w
  | transmit pci frame => exact absurd rfl (hs pci frame)
  | _ =>
      rw [session.calls_of_edit rfl]
      rfl

/-- A run keeps the record in line with what stands. -/
theorem sent_after {steps : List Step}
    (hframed : ∀ pci frame, .transmit pci frame ∉ steps) {w : W}
    {before : List Issued} (h : session.sent w = before.map Issued.kept) :
    session.sent (session.after steps w) =
      (session.standing before steps w).map Issued.kept := by
  induction steps generalizing w before with
  | nil => exact h
  | cons s rest ih =>
      have hs : ∀ pci frame, s ≠ .transmit pci frame := by
        intro pci frame hs
        exact hframed pci frame (hs ▸ List.mem_cons_self)
      have hrest : ∀ pci frame, .transmit pci frame ∉ rest := by
        intro pci frame hmem
        exact hframed pci frame (List.mem_cons_of_mem s hmem)
      exact ih hrest (step_standing halong hs h)

/-- **The record of a session that sends nothing by hand is what stands of the commands it
issued, each framed under the protocol in force at the time.**  If no frame is taken back, the
commands read out of the record are the ones that were issued, in order.  The frame taken back
is that of the last command that stands, and what is on record is what was transmitted less
what was taken back.

Control information carries the driver's number for the protocol and its own length of eight,
and the command of a question for settings is `F5` with the number of the file. -/
theorem sent_tells_commands (steps : List Step) (w : W) (hempty : session.sent w = [])
    (hframed : ∀ pci frame, .transmit pci frame ∉ steps) :
    session.sent (session.after steps w) =
        (session.standing [] steps w).map
          (fun issued => (.ofProtocol issued.protocol, issued.command.frame)) ∧
      (∀ issued ∈ session.standing [] steps w,
        issued.command.toApdu = .ok issued.command.frame) ∧
      (.popSent ∉ steps →
        (session.sent (session.after steps w)).map (fun entry => Command.takeApdu? entry.2) =
          (session.issued steps w).map (fun issued => some (issued.command, []))) ∧
      (session.step .popSent (session.after steps w)).result =
        .popped ((session.standing [] steps w).getLast?.map (·.command.frame)) ∧
      (session.sent (session.after steps w)).length + session.takenBack steps w =
        (session.calls steps w).length ∧
      (∀ entry ∈ session.sent (session.after steps w),
        entry.1 ∈ ([⟨.t0, 1, 8⟩, ⟨.t1, 2, 8⟩, ⟨.raw, 4, 8⟩] : List Pci)) ∧
      ∀ file, (Request.fileSettings file).toCommand =
        { instruction := 0xF5, payload := [file] } := by
  have hsent : session.sent (session.after steps w) =
      (session.standing [] steps w).map Issued.kept :=
    sent_after halong hframed hempty
  have hfits : ∀ issued ∈ session.standing [] steps w, issued.Fits :=
    fits_standing (List.forall_mem_nil _) steps w
  refine ⟨hsent, ?_, ?_, ?_, ?_, ?_, fun _ => rfl⟩
  · intro issued hissued
    exact if_pos (hfits issued hissued)
  · intro hpop
    rw [standing_of_no_popSent hpop, List.nil_append] at hsent hfits
    rw [hsent, List.map_map]
    refine List.map_congr_left ?_
    intro issued hissued
    exact Issued.takeApdu?_kept (hfits issued hissued)
  · rw [popSent_result, hsent, List.getLast?_map, Option.map_map]
    rfl
  · rw [(plays_along halong).sent_length, hempty, List.length_nil, Nat.zero_add]
  · intro entry hentry
    rw [hsent] at hentry
    obtain ⟨issued, -, rfl⟩ := List.mem_map.mp hentry
    exact Pci.ofProtocol_mem issued.protocol

end Along

/-- A frame is taken back, and a command is refused while the channel is closed. -/
theorem sent_tells_commands_between :
    onChannel.sent {} = [] ∧
      (∀ pci frame, Step.transmit pci frame ∉
        [.ask (.fileSettings 2), .popSent, .ask (.command (.bare 0x60)), .close,
          .ask (.fileSettings 3), .reopen, .setProtocol .t0, .ask (.fileSettings 4)]) ∧
      onChannel.sent (onChannel.after
          [.ask (.fileSettings 2), .popSent, .ask (.command (.bare 0x60)), .close,
            .ask (.fileSettings 3), .reopen, .setProtocol .t0, .ask (.fileSettings 4)] {}) =
        [(.ofProtocol .t1, [0x90, 0x60, 0x00, 0x00, 0x00]),
          (.ofProtocol .t0, [0x90, 0xF5, 0x00, 0x00, 0x01, 0x04, 0x00])] := by
  have halong : onChannel.route.toChannel = Script.channel.along onChannel.script := rfl
  have hempty : onChannel.sent {} = [] := rfl
  have hframed : ∀ pci frame, Step.transmit pci frame ∉
      [.ask (.fileSettings 2), .popSent, .ask (.command (.bare 0x60)), .close,
        .ask (.fileSettings 3), .reopen, .setProtocol .t0, .ask (.fileSettings 4)] := by
    simp
  exact ⟨hempty, hframed, (sent_tells_commands halong _ {} hempty hframed).1⟩

end Session

end SmartCard
