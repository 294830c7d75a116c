/-
Asking a card for the settings of a file.

The question passes four layers on its way and back: the channel may refuse it, the
frame of the answer may be broken, the card may reject it, and the record in the answer may
be bad.  `Card.Enquired` lists how a question can end, each end with the account of the
transmits it took.  The account decides the end, and no two layers report the same cause:
a frame is too short for two bytes, which is a length no record is asked for.
-/
import SmartCard.Proofs.Account
import SmartCard.Proofs.Fault
import SmartCard.Card
import SmartCard.Script

namespace SmartCard

variable {W : Type}

private theorem Command.frame_fileSettings (file : UInt8) :
    (Command.fileSettings file).frame = [0x90, 0xF5, 0x00, 0x00, 0x01, file, 0x00] := rfl

/-- The causes that speak of frames. -/
def Error.OfFrame : Error → Prop
  | tooShort needed _ => needed = Apdu.trailerLength
  | statusWord .. => True
  | notOpen | transmit .. | fileType _ | communicationMode _ | accessKey _ | tooLong ..
  | refused .. => False

theorem Response.ofFrame_of_ofApdu {raw : Bytes} {cause : Error}
    (h : Response.ofApdu raw = .error cause) : cause.OfFrame := by
  obtain ⟨-, rfl⟩ | ⟨_, _, _, -, -, rfl⟩ := Response.ofApdu_eq_error_iff.mp h
  · rfl
  · trivial

/-- No cause speaks of both. -/
theorem Error.OfRecord.not_ofFrame {cause : Error} (hrecord : cause.OfRecord) :
    ¬ cause.OfFrame := by
  intro hframe
  cases cause with
  | tooShort needed actual =>
      have hneeded : needed = 2 := hframe
      subst hneeded
      simp [Error.OfRecord] at hrecord
  | statusWord expected actual => exact hrecord
  | _ => exact hframe

/-- The causes that a question for settings can fail with.  It is too short to be too long, and
no number of a key is read from the answer. -/
def Error.OfQuestion : Error → Prop
  | tooShort needed _ => needed ∈ [2, 1, 7, 13, 17]
  | notOpen | transmit .. | statusWord .. | fileType _ | communicationMode _ | refused .. => True
  | accessKey _ | tooLong .. => False

private theorem Error.OfFrame.ofQuestion {cause : Error} (hframe : cause.OfFrame) :
    cause.OfQuestion := by
  cases cause with
  | tooShort needed actual => exact List.mem_cons.mpr (.inl hframe)
  | statusWord expected actual => trivial
  | _ => exact hframe.elim

private theorem Error.OfRecord.ofQuestion {cause : Error} (hrecord : cause.OfRecord) :
    cause.OfQuestion := by
  cases cause with
  | tooShort needed actual => exact List.mem_cons_of_mem 2 hrecord
  | fileType code | communicationMode code => trivial
  | _ => exact hrecord.elim

namespace Card

/-- The card, with an account of every transmit. -/
def recorded (card : Card W) : Card (W × List (Call W)) :=
  { channel := card.channel.recorded }

/-- Watching a question for settings changes nothing but the account. -/
theorem fileSettings_recorded (card : Card W) (file : UInt8) (w : W) (earlier : List (Call W)) :
    card.recorded.fileSettings file (w, earlier) =
      (card.fileSettings file w).beside
        (earlier ++ card.channel.exchangeCalls (Command.fileSettings file) w) := by
  unfold fileSettings exchange recorded
  rw [Channel.exchange_recorded]
  obtain ⟨result, log, after⟩ := card.channel.exchange (Command.fileSettings file) w
  cases result with
  | error cause => rfl
  | ok response =>
      by_cases hok : response.isOk = true
      · simp [Outcome.beside, hok]
      · simp [Outcome.beside, hok]

/-! ### How a question can end -/

/-- The ends of a question for settings, each with its account and its result. -/
inductive Enquired : List (Call W) → Except Error FileSettings → Prop
  /-- The channel is not open, or refuses to name its protocol. -/
  | unasked : Enquired [] (.error .notOpen)
  /-- The driver fails. -/
  | failed {call : Call W} {fault : DriverFault} (hanswer : call.answer = .error fault) :
      Enquired [call] (.error (.transmit call.pci fault))
  /-- The answer cannot be opened. -/
  | unopened {call : Call W} {raw : Bytes} {cause : Error} (hanswer : call.answer = .ok raw)
      (hopened : Response.ofApdu raw = .error cause) : Enquired [call] (.error cause)
  /-- The card rejects the question. -/
  | rejected {call : Call W} {raw : Bytes} {response : Response} (hanswer : call.answer = .ok raw)
      (hopened : Response.ofApdu raw = .ok response)
      (hstatus : response.status ≠ Response.completed) :
      Enquired [call] (.error (.refused Command.fileSettingsInstruction response.status))
  /-- The card answers, and the record in the answer is bad. -/
  | misread {call : Call W} {raw : Bytes} {response : Response} {cause : Error}
      (hanswer : call.answer = .ok raw) (hopened : Response.ofApdu raw = .ok response)
      (hstatus : response.status = Response.completed)
      (hdecode : FileSettings.decode response.payload = .error cause) :
      Enquired [call] (.error cause)
  /-- The card answers, and there is a record in the answer. -/
  | found {call : Call W} {raw : Bytes} {response : Response} {settings : FileSettings}
      (hanswer : call.answer = .ok raw) (hopened : Response.ofApdu raw = .ok response)
      (hstatus : response.status = Response.completed)
      (hdecode : FileSettings.decode response.payload = .ok settings) :
      Enquired [call] (.ok settings)

/-- Over a channel that refuses only by not being open, every question ends in one of
these ways. -/
theorem enquired (card : Card W) (file : UInt8) (w : W)
    (hrefusal : ∀ cause, card.channel.protocol w = .error cause → cause = .notOpen) :
    Enquired (card.channel.exchangeCalls (Command.fileSettings file) w)
      (card.fileSettings file w).result := by
  have h := card.channel.exchanged (Command.fileSettings file) w
  unfold fileSettings exchange
  generalize card.channel.exchange (Command.fileSettings file) w = outcome at h ⊢
  generalize card.channel.exchangeCalls (Command.fileSettings file) w = calls at h ⊢
  cases h with
  | closed hopen => exact .unasked
  | unnamed hopen hprotocol =>
      obtain rfl := hrefusal _ hprotocol
      exact .unasked
  | tooLong hopen hprotocol hlength =>
      have hfits : (Command.fileSettings file).payload.length ≤ Apdu.payloadLimit :=
        show 1 ≤ 255 by decide
      exact absurd hlength (Nat.not_lt.mpr hfits)
  | failed hready htransmit => exact .failed rfl
  | unopened hready htransmit hopened => exact .unopened rfl hopened
  | @answered _ _ response _ hready htransmit hopened =>
      by_cases hstatus : response.status = Response.completed
      · simp only [Response.isOk, hstatus, beq_self_eq_true, if_true]
        cases hdecode : FileSettings.decode response.payload with
        | error cause => exact .misread rfl hopened hstatus hdecode
        | ok settings => exact .found rfl hopened hstatus hdecode
      · simp only [Response.isOk, beq_iff_eq, if_neg hstatus]
        exact .rejected rfl hopened hstatus

/-! ### Every cause has its layer -/

namespace Enquired

variable {calls : List (Call W)} {call : Call W} {result result' : Except Error FileSettings}

private theorem answer_of_opened {raw : Bytes} {response : Response}
    (hanswer : call.answer = .ok raw) (hopened : Response.ofApdu raw = .ok response) :
    call.answer = .ok (response.payload ++ [Apdu.marker, response.status]) := by
  rw [hanswer, Response.ofApdu_eq_ok_iff.mp hopened, Response.toApdu]

/-- The answer decides the end. -/
theorem unique (h : Enquired [call] result) (h' : Enquired [call] result') : result = result' := by
  cases h <;> cases h' <;> simp_all

/-- The account of a question is at most one transmit, so its answer decides the end. -/
private theorem of_mem (h : Enquired calls result) (hcall : call ∈ calls)
    (h' : Enquired [call] result') : result = result' := by
  have hcalls : calls = [call] := by
    cases h with
    | unasked => contradiction
    | _ => rw [List.mem_singleton.mp hcall]
  rw [hcalls] at h
  exact h.unique h'

theorem ok_iff (h : Enquired calls result) (settings : FileSettings) :
    result = .ok settings ↔ ∃ call ∈ calls, ∃ payload,
      call.answer = .ok (payload ++ [Apdu.marker, Response.completed]) ∧
      FileSettings.decode payload = .ok settings := by
  constructor
  · intro hresult
    subst hresult
    cases h with
    | @found call raw response _ hanswer hopened hstatus hdecode =>
        refine ⟨call, List.mem_singleton_self call, response.payload, ?_, hdecode⟩
        rw [answer_of_opened hanswer hopened, hstatus]
  · intro haccount
    obtain ⟨call, hcall, payload, hanswer, hdecode⟩ := haccount
    exact h.of_mem hcall (.found hanswer (Response.ofApdu_toApdu ⟨_, payload⟩) rfl hdecode)

theorem notOpen_iff (h : Enquired calls result) : result = .error .notOpen ↔ calls = [] := by
  constructor
  · intro hresult
    subst hresult
    cases h with
    | unasked => rfl
    | unopened hanswer hopened => exact (Response.ofFrame_of_ofApdu hopened).elim
    | misread hanswer hopened hstatus hdecode =>
        exact (FileSettings.fault_of_decode hdecode).ofRecord.elim
  · intro hresult
    subst hresult
    cases h with
    | unasked => rfl

theorem transmit_iff (h : Enquired calls result) (pci : Pci) (fault : DriverFault) :
    result = .error (.transmit pci fault) ↔
      ∃ call ∈ calls, call.pci = pci ∧ call.answer = .error fault := by
  constructor
  · intro hresult
    subst hresult
    cases h with
    | failed hanswer => exact ⟨_, List.mem_singleton_self _, rfl, hanswer⟩
    | unopened hanswer hopened => exact (Response.ofFrame_of_ofApdu hopened).elim
    | misread hanswer hopened hstatus hdecode =>
        exact (FileSettings.fault_of_decode hdecode).ofRecord.elim
  · intro haccount
    obtain ⟨call, hcall, rfl, hanswer⟩ := haccount
    exact h.of_mem hcall (.failed hanswer)

/-- The frame is at fault if and only if the answer cannot be opened. -/
theorem frame_iff (h : Enquired calls result) {cause : Error} (hcause : cause.OfFrame) :
    result = .error cause ↔
      ∃ call ∈ calls, ∃ raw, call.answer = .ok raw ∧ Response.ofApdu raw = .error cause := by
  constructor
  · intro hresult
    subst hresult
    cases h with
    | unasked => exact hcause.elim
    | failed hanswer => exact hcause.elim
    | unopened hanswer hopened => exact ⟨_, List.mem_singleton_self _, _, hanswer, hopened⟩
    | rejected hanswer hopened hstatus => exact hcause.elim
    | misread hanswer hopened hstatus hdecode =>
        exact ((FileSettings.fault_of_decode hdecode).ofRecord.not_ofFrame hcause).elim
  · intro haccount
    obtain ⟨call, hcall, raw, hanswer, hopened⟩ := haccount
    exact h.of_mem hcall (.unopened hanswer hopened)

theorem tooShort_iff (h : Enquired calls result) (actual : Nat) :
    result = .error (.tooShort Apdu.trailerLength actual) ↔
      ∃ call ∈ calls, ∃ raw, call.answer = .ok raw ∧ raw.length < Apdu.trailerLength ∧
        raw.length = actual := by
  have hcause : (Error.tooShort Apdu.trailerLength actual).OfFrame := rfl
  rw [h.frame_iff hcause]
  constructor
  · intro haccount
    obtain ⟨call, hcall, raw, hanswer, hopened⟩ := haccount
    obtain ⟨hraw, hlength⟩ | ⟨_, _, _, -, -, hmark⟩ := Response.ofApdu_eq_error_iff.mp hopened
    · exact ⟨call, hcall, raw, hanswer, hraw, (Error.tooShort.inj hlength).2.symm⟩
    · contradiction
  · intro haccount
    obtain ⟨call, hcall, raw, hanswer, hraw, rfl⟩ := haccount
    exact ⟨call, hcall, raw, hanswer, Response.ofApdu_of_short hraw⟩

theorem statusWord_iff (h : Enquired calls result) (expected actual : UInt8) :
    result = .error (.statusWord expected actual) ↔
      expected = Apdu.marker ∧ actual ≠ Apdu.marker ∧ ∃ call ∈ calls, ∃ payload status,
        call.answer = .ok (payload ++ [actual, status]) := by
  have hcause : (Error.statusWord expected actual).OfFrame := trivial
  rw [h.frame_iff hcause]
  constructor
  · intro haccount
    obtain ⟨call, hcall, raw, hanswer, hopened⟩ := haccount
    obtain ⟨-, hlength⟩ | ⟨payload, mark, status, rfl, hmark, heq⟩ :=
      Response.ofApdu_eq_error_iff.mp hopened
    · contradiction
    · obtain ⟨rfl, rfl⟩ := Error.statusWord.inj heq
      exact ⟨rfl, hmark, call, hcall, payload, status, hanswer⟩
  · intro haccount
    obtain ⟨rfl, hmark, call, hcall, payload, status, hanswer⟩ := haccount
    refine ⟨call, hcall, _, hanswer, ?_⟩
    rw [Response.ofApdu_append, if_neg hmark]

theorem refused_iff (h : Enquired calls result) (instruction status : UInt8) :
    result = .error (.refused instruction status) ↔
      instruction = Command.fileSettingsInstruction ∧ status ≠ Response.completed ∧
      ∃ call ∈ calls, ∃ payload, call.answer = .ok (payload ++ [Apdu.marker, status]) := by
  constructor
  · intro hresult
    subst hresult
    cases h with
    | unopened hanswer hopened => exact (Response.ofFrame_of_ofApdu hopened).elim
    | @rejected call raw response hanswer hopened hstatus =>
        exact ⟨rfl, hstatus, call, List.mem_singleton_self call, response.payload,
          answer_of_opened hanswer hopened⟩
    | misread hanswer hopened hstatus hdecode =>
        exact (FileSettings.fault_of_decode hdecode).ofRecord.elim
  · intro haccount
    obtain ⟨rfl, hstatus, call, hcall, payload, hanswer⟩ := haccount
    exact h.of_mem hcall (.rejected hanswer (Response.ofApdu_toApdu ⟨status, payload⟩) hstatus)

/-- The record is at fault if and only if the card answered and the record is bad. -/
theorem record_iff (h : Enquired calls result) (cause : Error) :
    (cause.OfRecord ∧ result = .error cause) ↔ ∃ call ∈ calls, ∃ payload,
      call.answer = .ok (payload ++ [Apdu.marker, Response.completed]) ∧
      FileSettings.decode payload = .error cause := by
  constructor
  · intro haccount
    obtain ⟨hcause, rfl⟩ := haccount
    cases h with
    | unasked => exact hcause.elim
    | failed hanswer => exact hcause.elim
    | unopened hanswer hopened =>
        exact (hcause.not_ofFrame (Response.ofFrame_of_ofApdu hopened)).elim
    | rejected hanswer hopened hstatus => exact hcause.elim
    | @misread call raw response _ hanswer hopened hstatus hdecode =>
        refine ⟨call, List.mem_singleton_self call, response.payload, ?_, hdecode⟩
        rw [answer_of_opened hanswer hopened, hstatus]
  · intro haccount
    obtain ⟨call, hcall, payload, hanswer, hdecode⟩ := haccount
    refine ⟨(FileSettings.fault_of_decode hdecode).ofRecord, ?_⟩
    exact h.of_mem hcall (.misread hanswer (Response.ofApdu_toApdu ⟨_, payload⟩) rfl hdecode)

/-- There are no other causes. -/
theorem cause_of_error (h : Enquired calls result) {cause : Error}
    (hresult : result = .error cause) :
    cause = .notOpen ∨ (∃ pci fault, cause = .transmit pci fault) ∨ cause.OfFrame ∨
      (∃ instruction status, cause = .refused instruction status) ∨ cause.OfRecord := by
  subst hresult
  cases h with
  | unasked => exact .inl rfl
  | failed hanswer => exact .inr (.inl ⟨_, _, rfl⟩)
  | unopened hanswer hopened => exact .inr (.inr (.inl (Response.ofFrame_of_ofApdu hopened)))
  | rejected hanswer hopened hstatus => exact .inr (.inr (.inr (.inl ⟨_, _, rfl⟩)))
  | misread hanswer hopened hstatus hdecode =>
      exact .inr (.inr (.inr (.inr (FileSettings.fault_of_decode hdecode).ofRecord)))

theorem ofQuestion (h : Enquired calls result) {cause : Error} (hresult : result = .error cause) :
    cause.OfQuestion := by
  rcases h.cause_of_error hresult with rfl | ⟨pci, fault, rfl⟩ | hframe |
    ⟨instruction, status, rfl⟩ | hrecord
  · trivial
  · trivial
  · exact hframe.ofQuestion
  · trivial
  · exact hrecord.ofQuestion

end Enquired

/-! ### What a question for settings comes to -/

/-- **A question for settings sends at most one frame, yields settings if and only if the card
answered with a record of them, and fails with a cause that names the layer at fault.**

A cause that speaks of frames is reported if and only if it is what is wrong with the frame of the
answer, and a cause that speaks of records if and only if the card agreed to answer and it is what
is wrong with the record.  No cause speaks of both, and whatever speaks of neither is a channel
that is not open, a driver that failed or a card that rejected the question. -/
theorem fileSettings_by_layer (card : Card W) (file : UInt8) (w : W) (earlier : List (Call W))
    (hrefusal : ∀ w cause, card.channel.protocol w = .error cause → cause = .notOpen) :
    ∃ calls : List (Call W),
      card.recorded.fileSettings file (w, earlier) =
        (card.fileSettings file w).beside (earlier ++ calls) ∧
      calls.length ≤ 1 ∧
      (∀ call ∈ calls, call.frame = [0x90, 0xF5, 0x00, 0x00, 0x01, file, 0x00]) ∧
      (∀ settings, (card.fileSettings file w).result = .ok settings ↔
        ∃ call ∈ calls, ∃ payload, call.answer = .ok (payload ++ [0x91, 0x00]) ∧
          FileSettings.decode payload = .ok settings) ∧
      ((card.fileSettings file w).result = .error .notOpen ↔ calls = []) ∧
      (∀ pci fault, (card.fileSettings file w).result = .error (.transmit pci fault) ↔
        ∃ call ∈ calls, call.pci = pci ∧ call.answer = .error fault) ∧
      (∀ actual, (card.fileSettings file w).result = .error (.tooShort 2 actual) ↔
        ∃ call ∈ calls, ∃ raw, call.answer = .ok raw ∧ raw.length < 2 ∧ raw.length = actual) ∧
      (∀ instruction status, (card.fileSettings file w).result =
          .error (.refused instruction status) ↔
        instruction = 0xF5 ∧ status ≠ 0 ∧
          ∃ call ∈ calls, ∃ payload, call.answer = .ok (payload ++ [0x91, status])) ∧
      (∀ needed actual, needed ∈ [1, 7, 13, 17] ∧
          (card.fileSettings file w).result = .error (.tooShort needed actual) ↔
        ∃ call ∈ calls, ∃ payload, call.answer = .ok (payload ++ [0x91, 0x00]) ∧
          FileSettings.decode payload = .error (.tooShort needed actual)) ∧
      (∀ needed actual, (card.fileSettings file w).result = .error (.tooShort needed actual) →
        needed ∈ [2, 1, 7, 13, 17]) ∧
      (∀ limit actual, (card.fileSettings file w).result ≠ .error (.tooLong limit actual)) ∧
      (∀ number, (card.fileSettings file w).result ≠ .error (.accessKey number)) ∧
      (∀ expected actual, (card.fileSettings file w).result =
          .error (.statusWord expected actual) ↔
        expected = 0x91 ∧ actual ≠ 0x91 ∧ ∃ call ∈ calls, ∃ payload status,
          call.answer = .ok (payload ++ [actual, status])) ∧
      (∀ cause, cause.OfFrame → ((card.fileSettings file w).result = .error cause ↔
        ∃ call ∈ calls, ∃ raw, call.answer = .ok raw ∧ Response.ofApdu raw = .error cause)) ∧
      (∀ cause, cause.OfRecord ∧ (card.fileSettings file w).result = .error cause ↔
        ∃ call ∈ calls, ∃ payload, call.answer = .ok (payload ++ [0x91, 0x00]) ∧
          FileSettings.decode payload = .error cause) ∧
      (∀ cause : Error, cause.OfRecord → ¬ cause.OfFrame) ∧
      ∀ cause, (card.fileSettings file w).result = .error cause →
        cause = .notOpen ∨ (∃ pci fault, cause = .transmit pci fault) ∨ cause.OfFrame ∨
          (∃ instruction status, cause = .refused instruction status) ∨ cause.OfRecord := by
  have hexchanged := card.channel.exchanged (Command.fileSettings file) w
  have h := card.enquired file w (hrefusal w)
  refine ⟨_, card.fileSettings_recorded file w earlier, hexchanged.length_le, ?_, h.ok_iff,
    h.notOpen_iff, h.transmit_iff, h.tooShort_iff, h.refused_iff, ?_, fun _ _ => h.ofQuestion,
    fun _ _ => h.ofQuestion, fun _ => h.ofQuestion, h.statusWord_iff,
    fun _ hcause => h.frame_iff hcause, h.record_iff, fun _ => Error.OfRecord.not_ofFrame,
    fun _ => h.cause_of_error⟩
  · intro call hcall
    rw [hexchanged.frame call hcall, Command.frame_fileSettings]
  · intro needed actual
    exact h.record_iff (.tooShort needed actual)

/-- A record of settings under a status other than success is not looked at. -/
theorem fileSettings_by_layer_rejected :
    (∀ script cause, Script.channel.protocol script = .error cause → cause = .notOpen) ∧
      (({ channel := Script.channel } : Card Script).fileSettings 2
          (Script.ofRaw .t1 [[0x00, 0x03, 0x00, 0x23, 0x08, 0x00, 0x00, 0x91, 0xAF]])).result =
        .error (.refused 0xF5 0xAF) := by
  have hrefusal : ∀ script cause, Script.channel.protocol script = .error cause →
      cause = .notOpen := by
    intro script cause h
    contradiction
  refine ⟨hrefusal, ?_⟩
  obtain ⟨calls, hcalls, -, -, -, -, -, -, hrefused, -⟩ :=
    fileSettings_by_layer { channel := Script.channel } 2
      (Script.ofRaw .t1 [[0x00, 0x03, 0x00, 0x23, 0x08, 0x00, 0x00, 0x91, 0xAF]]) [] hrefusal
  have haccount : calls.map (·.answer) =
      [.ok ([0x00, 0x03, 0x00, 0x23, 0x08, 0x00, 0x00] ++ [0x91, 0xAF])] :=
    (congrArg (fun outcome => outcome.state.2.map (·.answer)) hcalls).symm
  obtain ⟨call, hcall, hanswer⟩ := List.mem_map.mp (haccount ▸ List.mem_singleton_self _)
  exact (hrefused 0xF5 0xAF).mpr ⟨rfl, by decide, call, hcall, _, hanswer⟩

end Card

end SmartCard
