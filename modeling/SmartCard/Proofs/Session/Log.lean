/-
The log as an account of the traffic.

What a request logs is settled by the one transmit it makes, if it makes one: by the frame that
went out, by what the driver answered, and by whether the answer was good.  `Request.Logs` lists
the five ways this can go, `Card.ask_logs` says that every request goes one of them, and since
no two of them log alike, the log tells which way it was.

The log also keeps the traffic itself.  A line that starts with `TRACE >> ` spells out a frame
and one that starts with `TRACE << ` an answer.  No other line starts with either, so reading
these lines back, over a whole session, yields what the requests sent and what they got.
-/
import SmartCard.Proofs.Hex
import SmartCard.Proofs.Request
import SmartCard.Proofs.Session.Account

namespace SmartCard

variable {W : Type}

/-! ### Lines of the log -/

namespace LogRecord

/-- The bytes that a line spells out behind a mark, if the line starts with the mark. -/
def traced? (mark line : String) : Option Bytes :=
  (mark.toList.isPrefixOf? line.toList).bind Hex.ofChars?

/-- The frame that the record traces. -/
def frame? : LogRecord → Option Bytes
  | sent frame => some frame
  | received _ | transmitFailed .. | badResponse .. | settingsRefused .. => none

/-- The answer that the record traces. -/
def answer? : LogRecord → Option Bytes
  | received answer => some answer
  | sent _ | transmitFailed .. | badResponse .. | settingsRefused .. => none

/-- A line starts with its level and with whatever the message starts with. -/
theorem text_eq {record : LogRecord} (level : LogLevel) {mark start rest : String}
    (hlevel : record.level = level) (hmark : level.name ++ " " ++ start = mark)
    (hmessage : record.message = start ++ rest) : record.text = mark ++ rest := by
  rw [text, hlevel, hmessage, ← String.append_assoc, hmark]

theorem text_sent (frame : Bytes) : (sent frame).text = "TRACE >> " ++ Hex.spaced frame :=
  text_eq .trace rfl (by decide) rfl

theorem text_received (answer : Bytes) :
    (received answer).text = "TRACE << " ++ Hex.spaced answer :=
  text_eq .trace rfl (by decide) rfl

theorem text_transmitFailed (instruction : UInt8) (fault : DriverFault) :
    (transmitFailed instruction fault).text =
      "DEBUG transmit of ins " ++ Hex.code instruction ++ " failed: " ++ fault.text := by
  have hmessage : (transmitFailed instruction fault).message =
      "transmit of ins " ++ Hex.code instruction ++ " failed: " ++ fault.text := rfl
  rw [String.append_assoc, String.append_assoc] at hmessage ⊢
  exact text_eq .debug rfl (by decide) hmessage

theorem text_badResponse (instruction : UInt8) (cause : Error) :
    (badResponse instruction cause).text =
      "DEBUG bad response to ins " ++ Hex.code instruction ++ ": " ++ cause.message := by
  have hmessage : (badResponse instruction cause).message =
      "bad response to ins " ++ Hex.code instruction ++ ": " ++ cause.message := rfl
  rw [String.append_assoc, String.append_assoc] at hmessage ⊢
  exact text_eq .debug rfl (by decide) hmessage

theorem text_settingsRefused (file status : UInt8) :
    (settingsRefused file status).text =
      "DEBUG GetFileSettings(" ++ toString file.toNat ++ ") rejected with status " ++
        Hex.code status := by
  have hmessage : (settingsRefused file status).message =
      "GetFileSettings(" ++ toString file.toNat ++ ") rejected with status " ++
        Hex.code status := rfl
  rw [String.append_assoc, String.append_assoc] at hmessage ⊢
  exact text_eq .debug rfl (by decide) hmessage

private theorem text_of_debug {record : LogRecord} (h : record.level = .debug) :
    record.text = "DEBUG " ++ record.message := by
  have hmark : LogLevel.debug.name ++ " " = "DEBUG " := by decide
  rw [text, h, hmark]

/-- Bytes spelled out behind a mark are read back. -/
theorem traced?_spaced (mark : String) (bytes : Bytes) :
    traced? mark (mark ++ Hex.spaced bytes) = some bytes := by
  have hrest : mark.toList.isPrefixOf? (mark ++ Hex.spaced bytes).toList =
      some (Hex.spaced bytes).toList := by
    rw [List.isPrefixOf?_eq_some_iff_append_eq, String.toList_append]
  rw [traced?, hrest, Option.bind_some, Hex.ofChars?_spaced]

/-- A line that parts from the mark somewhere does not start with it. -/
private theorem traced?_of_parting {mark start rest : String} (common : List Char) (a b : Char)
    (hmark : common ++ [a] <+: mark.toList) (hstart : common ++ [b] <+: start.toList)
    (hne : a ≠ b) : traced? mark (start ++ rest) = none := by
  obtain ⟨restMark, hmark⟩ := hmark
  obtain ⟨restStart, hstart⟩ := hstart
  have hnone : mark.toList.isPrefixOf? (start ++ rest).toList = none := by
    rw [Option.eq_none_iff_forall_ne_some]
    intro behind hbehind
    rw [List.isPrefixOf?_eq_some_iff_append_eq, String.toList_append, ← hmark, ← hstart]
      at hbehind
    simp [hne] at hbehind
  rw [traced?, hnone, Option.bind_none]

/-- Notes for debugging trace nothing. -/
private theorem traced?_of_debug {record : LogRecord} (h : record.level = .debug) {mark : String}
    (hmark : ['T'] <+: mark.toList) : traced? mark record.text = none := by
  rw [text_of_debug h]
  exact traced?_of_parting [] 'T' 'D' hmark (by decide) (by decide)

theorem traced?_frame (record : LogRecord) : traced? "TRACE >> " record.text = record.frame? := by
  cases record with
  | sent frame => rw [text_sent, traced?_spaced, frame?]
  | received answer =>
      rw [text_received, frame?]
      exact traced?_of_parting "TRACE ".toList '>' '<' (by decide) (by decide) (by decide)
  | _ => exact traced?_of_debug rfl (by decide)

theorem traced?_answer (record : LogRecord) :
    traced? "TRACE << " record.text = record.answer? := by
  cases record with
  | received answer => rw [text_received, traced?_spaced, answer?]
  | sent frame =>
      rw [text_sent, answer?]
      exact traced?_of_parting "TRACE ".toList '<' '>' (by decide) (by decide) (by decide)
  | _ => exact traced?_of_debug rfl (by decide)

end LogRecord

/-! ### One request -/

/-- The frame of a transmit, and what the driver answered to it. -/
def Call.traffic (call : Call W) : Bytes × Except DriverFault Bytes :=
  (call.frame, call.answer)

/-- A response leaves nothing to note.  A command takes any response; a question for settings
takes one by which the card does not refuse it. -/
def Request.Accepts (request : Request) (response : Response) : Prop :=
  ∀ file, request = .fileSettings file → response.status = Response.completed

/-- What a request logs, by what came of its transmit. -/
inductive Request.Logs (request : Request) : List (Call W) → List LogRecord → Prop
  /-- There was no transmit. -/
  | unsent : Logs request [] []
  /-- The driver failed. -/
  | failed {call : Call W} {fault : DriverFault} (hanswer : call.answer = .error fault) :
      Logs request [call]
        [.sent call.frame, .transmitFailed request.toCommand.instruction fault]
  /-- The answer could not be opened. -/
  | unopened {call : Call W} {raw : Bytes} {cause : Error} (hanswer : call.answer = .ok raw)
      (hopened : Response.ofApdu raw = .error cause) :
      Logs request [call]
        [.sent call.frame, .received raw, .badResponse request.toCommand.instruction cause]
  /-- The card refused to report the settings of a file. -/
  | refused {call : Call W} {raw : Bytes} {response : Response} {file : UInt8}
      (hrequest : request = .fileSettings file) (hanswer : call.answer = .ok raw)
      (hopened : Response.ofApdu raw = .ok response)
      (hstatus : response.status ≠ Response.completed) :
      Logs request [call]
        [.sent call.frame, .received raw, .settingsRefused file response.status]
  /-- The response was accepted. -/
  | accepted {call : Call W} {raw : Bytes} {response : Response} (hanswer : call.answer = .ok raw)
      (hopened : Response.ofApdu raw = .ok response) (haccepts : request.Accepts response) :
      Logs request [call] [.sent call.frame, .received raw]

/-- Every request goes one of the five ways. -/
theorem Card.ask_logs (card : Card W) (request : Request) (w : W) :
    request.Logs (card.channel.exchangeCalls request.toCommand w) (card.ask request w).log := by
  rw [ask_eq]
  have h := card.channel.exchanged request.toCommand w
  generalize card.channel.exchange request.toCommand w = outcome at h ⊢
  generalize card.channel.exchangeCalls request.toCommand w = calls at h ⊢
  cases h with
  | closed hopen => exact .unsent
  | unnamed hopen hprotocol => exact .unsent
  | tooLong hopen hprotocol hlength => exact .unsent
  | failed hready htransmit => exact .failed rfl
  | unopened hready htransmit hopened => exact .unopened rfl hopened
  | @answered _ _ response _ hready htransmit hopened =>
      cases request with
      | command command => exact .accepted rfl hopened fun _ hfile => nomatch hfile
      | fileSettings file =>
          by_cases hstatus : response.status = 0x00
          · rw [Request.remark, if_pos hstatus]
            exact .accepted rfl hopened fun _ _ => hstatus
          · rw [Request.remark, if_neg hstatus]
            exact .refused rfl rfl hopened hstatus

namespace Request.Logs

variable {request : Request} {calls : List (Call W)} {log : List LogRecord}

theorem frames (h : request.Logs calls log) :
    log.filterMap LogRecord.frame? = calls.filterMap (some ·.frame) := by
  cases h <;> rfl

/-- A transmit that was answered gave one answer. -/
private theorem answers_of_answered {call : Call W} {raw : Bytes}
    (hanswer : call.answer = .ok raw) : [raw] = [call].filterMap (·.answer.toOption) := by
  simp [hanswer, Except.toOption]

theorem answers (h : request.Logs calls log) :
    log.filterMap LogRecord.answer? = calls.filterMap (·.answer.toOption) := by
  cases h with
  | unsent => rfl
  | failed hanswer => simp [LogRecord.answer?, Except.toOption, hanswer]
  | unopened hanswer hopened => exact answers_of_answered hanswer
  | refused hrequest hanswer hopened hstatus => exact answers_of_answered hanswer
  | accepted hanswer hopened haccepts => exact answers_of_answered hanswer

/-! ### The log tells which way it was -/

/-- The transmit decides what is logged. -/
theorem unique {call : Call W} {log' : List LogRecord} (h : request.Logs [call] log)
    (h' : request.Logs [call] log') : log = log' := by
  cases h <;> cases h' <;> simp_all [Request.Accepts]

private theorem of_traffic {frame : Bytes} {answer : Except DriverFault Bytes}
    (h : request.Logs calls log) (htraffic : calls.map Call.traffic = [(frame, answer)]) :
    ∃ call : Call W, call.frame = frame ∧ call.answer = answer ∧ request.Logs [call] log := by
  obtain ⟨call, rfl, hcall⟩ := List.map_eq_singleton_iff.mp htraffic
  obtain ⟨rfl, rfl⟩ := Prod.mk.inj hcall
  exact ⟨call, rfl, rfl, h⟩

theorem nil_iff (h : request.Logs calls log) : log = [] ↔ calls = [] := by
  cases h <;> simp

theorem failed_iff (h : request.Logs calls log) (frame : Bytes) (instruction : UInt8)
    (fault : DriverFault) :
    log = [.sent frame, .transmitFailed instruction fault] ↔
      instruction = request.toCommand.instruction ∧
        calls.map Call.traffic = [(frame, .error fault)] := by
  constructor
  · rintro rfl
    cases h with
    | failed hanswer => simp [Call.traffic, hanswer]
  · rintro ⟨rfl, htraffic⟩
    obtain ⟨call, rfl, hanswer, h⟩ := h.of_traffic htraffic
    exact h.unique (.failed hanswer)

theorem unopened_iff (h : request.Logs calls log) (frame raw : Bytes) (instruction : UInt8)
    (cause : Error) :
    log = [.sent frame, .received raw, .badResponse instruction cause] ↔
      instruction = request.toCommand.instruction ∧ calls.map Call.traffic = [(frame, .ok raw)] ∧
        Response.ofApdu raw = .error cause := by
  constructor
  · rintro rfl
    cases h with
    | unopened hanswer hopened => simp [Call.traffic, hanswer, hopened]
  · rintro ⟨rfl, htraffic, hopened⟩
    obtain ⟨call, rfl, hanswer, h⟩ := h.of_traffic htraffic
    exact h.unique (.unopened hanswer hopened)

theorem refused_iff (h : request.Logs calls log) (frame raw : Bytes) (file status : UInt8) :
    log = [.sent frame, .received raw, .settingsRefused file status] ↔
      request = .fileSettings file ∧ calls.map Call.traffic = [(frame, .ok raw)] ∧
        ∃ response, Response.ofApdu raw = .ok response ∧ response.status = status ∧
          status ≠ Response.completed := by
  constructor
  · rintro rfl
    cases h with
    | refused hrequest hanswer hopened hstatus =>
        exact ⟨hrequest, by simp [Call.traffic, hanswer], _, hopened, rfl, hstatus⟩
  · rintro ⟨hrequest, htraffic, response, hopened, rfl, hstatus⟩
    obtain ⟨call, rfl, hanswer, h⟩ := h.of_traffic htraffic
    exact h.unique (.refused hrequest hanswer hopened hstatus)

theorem accepted_iff (h : request.Logs calls log) (frame raw : Bytes) :
    log = [.sent frame, .received raw] ↔
      calls.map Call.traffic = [(frame, .ok raw)] ∧
        ∃ response, Response.ofApdu raw = .ok response ∧ request.Accepts response := by
  constructor
  · rintro rfl
    cases h with
    | accepted hanswer hopened haccepts =>
        exact ⟨by simp [Call.traffic, hanswer], _, hopened, haccepts⟩
  · rintro ⟨htraffic, response, hopened, haccepts⟩
    obtain ⟨call, rfl, hanswer, h⟩ := h.of_traffic htraffic
    exact h.unique (.accepted hanswer hopened haccepts)

/-- There is no sixth way. -/
theorem shape (h : request.Logs calls log) :
    log = [] ∨ (∃ frame instruction fault, log = [.sent frame, .transmitFailed instruction fault]) ∨
      (∃ frame raw, log = [.sent frame, .received raw]) ∨
      (∃ frame raw instruction cause,
        log = [.sent frame, .received raw, .badResponse instruction cause]) ∨
      ∃ frame raw file status,
        log = [.sent frame, .received raw, .settingsRefused file status] := by
  cases h <;> simp

end Request.Logs

/-! ### A session -/

namespace Session

/-- What steps log, in order. -/
def log (session : Session W) (steps : List Step) (w : W) : List LogRecord :=
  (session.run steps w).flatMap (·.log)

/-- The transmits that a step makes as a request. -/
def askedBy (session : Session W) (s : Step) (w : W) : List (Call W) :=
  match s with
  | .ask _ => session.calls [s] w
  | .push _ | .pushResponse _ | .close | .reopen | .setProtocol _ | .popSent | .transmit .. => []

/-- The transmits that the requests among some steps make. -/
def asked (session : Session W) : List Step → W → List (Call W)
  | [], _ => []
  | s :: rest, w => session.askedBy s w ++ asked session rest (session.step s w).state

variable (session : Session W)

private theorem log_cons (s : Step) (rest : List Step) (w : W) :
    session.log (s :: rest) w =
      (session.step s w).log ++ session.log rest (session.step s w).state := rfl

theorem step_logs (request : Request) (w : W) :
    request.Logs (session.calls [.ask request] w) (session.step (.ask request) w).log := by
  rw [session.calls_ask, session.step_ask]
  exact Card.ask_logs { channel := session.route.toChannel } request w

/-- What the log of each request tells of its transmit, the log of a session tells of the
transmits of all its requests. -/
theorem filterMap_log {read : LogRecord → Option Bytes} {part : Call W → Option Bytes}
    (h : ∀ {request : Request} {calls : List (Call W)} {log : List LogRecord},
      request.Logs calls log → log.filterMap read = calls.filterMap part)
    (steps : List Step) (w : W) :
    (session.log steps w).filterMap read = (session.asked steps w).filterMap part := by
  induction steps generalizing w with
  | nil => rfl
  | cons s rest ih =>
      have hstep : (session.step s w).log.filterMap read =
          (session.askedBy s w).filterMap part := by
        cases s with
        | ask request => exact h (session.step_logs request w)
        | _ => rfl
      rw [log_cons, asked, List.filterMap_append, List.filterMap_append, hstep, ih]

/-- **The log is a complete account of the traffic.**  What a request logs tells whether there
was a transmit, whether the driver failed, and whether the answer was good: there are five ways
to log and each belongs to one way the request went.  Over a session, the lines that trace
frames spell out the frames that the requests handed to the driver, and the lines that trace
answers spell out what the driver handed back, each in order and nothing else.  These lines, and
only these, are of the level of traces. -/
theorem log_accounts_for_traffic (session : Session W) :
    (∀ request w,
      let log := (session.step (.ask request) w).log
      let traffic := (session.calls [.ask request] w).map Call.traffic
      (log = [] ↔ traffic = []) ∧
      (∀ frame instruction fault,
        log = [.sent frame, .transmitFailed instruction fault] ↔
          instruction = request.toCommand.instruction ∧ traffic = [(frame, .error fault)]) ∧
      (∀ frame raw,
        log = [.sent frame, .received raw] ↔
          traffic = [(frame, .ok raw)] ∧ ∃ response, Response.ofApdu raw = .ok response ∧
            ∀ file, request = .fileSettings file → response.status = 0x00) ∧
      (∀ frame raw instruction cause,
        log = [.sent frame, .received raw, .badResponse instruction cause] ↔
          instruction = request.toCommand.instruction ∧ traffic = [(frame, .ok raw)] ∧
            Response.ofApdu raw = .error cause) ∧
      (∀ frame raw file status,
        log = [.sent frame, .received raw, .settingsRefused file status] ↔
          request = .fileSettings file ∧ traffic = [(frame, .ok raw)] ∧
            ∃ response, Response.ofApdu raw = .ok response ∧ response.status = status ∧
              status ≠ 0x00) ∧
      (log = [] ∨
        (∃ frame instruction fault, log = [.sent frame, .transmitFailed instruction fault]) ∨
        (∃ frame raw, log = [.sent frame, .received raw]) ∨
        (∃ frame raw instruction cause,
          log = [.sent frame, .received raw, .badResponse instruction cause]) ∨
        ∃ frame raw file status,
          log = [.sent frame, .received raw, .settingsRefused file status])) ∧
    (∀ steps w,
      let lines := (session.log steps w).map LogRecord.text
      lines.filterMap (LogRecord.traced? "TRACE >> ") =
          (session.asked steps w).map (·.frame) ∧
        lines.filterMap (LogRecord.traced? "TRACE << ") =
          (session.asked steps w).filterMap (·.answer.toOption)) ∧
    (∀ frame, (LogRecord.sent frame).text = "TRACE >> " ++ Hex.spaced frame) ∧
    (∀ answer, (LogRecord.received answer).text = "TRACE << " ++ Hex.spaced answer) ∧
    (∀ instruction fault, (LogRecord.transmitFailed instruction fault).text =
      "DEBUG transmit of ins " ++ Hex.code instruction ++ " failed: " ++ fault.text) ∧
    (∀ instruction cause, (LogRecord.badResponse instruction cause).text =
      "DEBUG bad response to ins " ++ Hex.code instruction ++ ": " ++ cause.message) ∧
    ∀ file status, (LogRecord.settingsRefused file status).text =
      "DEBUG GetFileSettings(" ++ toString file.toNat ++ ") rejected with status " ++
        Hex.code status := by
  refine ⟨?_, ?_, LogRecord.text_sent, LogRecord.text_received, LogRecord.text_transmitFailed,
    LogRecord.text_badResponse, LogRecord.text_settingsRefused⟩
  · intro request w
    have h := session.step_logs request w
    exact ⟨h.nil_iff.trans List.map_eq_nil_iff.symm, h.failed_iff, h.accepted_iff,
      h.unopened_iff, h.refused_iff, h.shape⟩
  · intro steps w
    have hframes : LogRecord.traced? "TRACE >> " ∘ LogRecord.text = LogRecord.frame? :=
      funext LogRecord.traced?_frame
    have hanswers : LogRecord.traced? "TRACE << " ∘ LogRecord.text = LogRecord.answer? :=
      funext LogRecord.traced?_answer
    constructor
    · rw [List.filterMap_map, hframes, session.filterMap_log Request.Logs.frames,
        List.filterMap_eq_map']
    · rw [List.filterMap_map, hanswers, session.filterMap_log Request.Logs.answers]

/-- An answer of no bytes is traced like any other, before the note on what is wrong with it. -/
example :
    (onCard.log [.push (.ok []), .ask (.fileSettings 1)] {}).map LogRecord.text =
      ["TRACE >> 90 f5 00 00 01 01 00", "TRACE << ",
       "DEBUG bad response to ins 0xf5: malformed response: expected at least 2 bytes, got 0"] := by
  decide +kernel

end Session

end SmartCard
