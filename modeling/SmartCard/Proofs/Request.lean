/-
What a request makes of its exchange.

A request sends one command and looks at nothing but what the exchange of that command came to.
From it the request makes its reply, and it may have something to add to the log; the state is
the one that the exchange left.  `Card.ask_eq` says this of every request, so whatever is known
of an exchange is known of a request.
-/
import SmartCard.Card

namespace SmartCard

variable {W : Type}

namespace Request

/-- The reply that a request makes of what its exchange came to. -/
def reply : Request → Except Error Response → Reply
  | command _, result => .response result
  | fileSettings _, .error cause => .settings (.error cause)
  | fileSettings _, .ok response =>
      if response.status = 0x00 then .settings (FileSettings.decode response.payload)
      else .settings (.error (.refused 0xF5 response.status))

/-- What a request adds to the log of its exchange. -/
def remark (request : Request) : Except Error Response → List LogRecord
  | .error _ => []
  | .ok response =>
      match request with
      | command _ => []
      | fileSettings file =>
          if response.status = 0x00 then [] else [.settingsRefused file response.status]

private theorem remark_command (c : Command) (result : Except Error Response) :
    (command c).remark result = [] := by
  cases result <;> rfl

end Request

namespace Card

private theorem fileSettings_eq (card : Card W) (file : UInt8) (w : W) :
    (card.fileSettings file w).map .settings =
      { result :=
          (Request.fileSettings file).reply
            (card.channel.exchange (Command.fileSettings file) w).result
        log :=
          (card.channel.exchange (Command.fileSettings file) w).log ++
            (Request.fileSettings file).remark
              (card.channel.exchange (Command.fileSettings file) w).result
        state := (card.channel.exchange (Command.fileSettings file) w).state } := by
  unfold fileSettings exchange
  obtain ⟨result, log, after⟩ := card.channel.exchange (Command.fileSettings file) w
  cases result with
  | error cause => simp [Outcome.map, Request.reply, Request.remark]
  | ok response =>
      by_cases hstatus : response.status = 0x00
      · simp [Outcome.map, Request.reply, Request.remark, Response.isOk, Response.completed,
          hstatus]
      · simp [Outcome.map, Request.reply, Request.remark, Response.isOk, Response.completed,
          Command.fileSettingsInstruction, hstatus]

/-- Settings are those of the record in a response that reports success. -/
theorem fileSettings_eq_ok_iff {card : Card W} {file : UInt8} {w : W} {settings : FileSettings} :
    (card.fileSettings file w).result = .ok settings ↔
      ∃ payload, (card.channel.exchange (Command.fileSettings file) w).result =
          .ok { status := Response.completed, payload } ∧
        FileSettings.decode payload = .ok settings := by
  unfold fileSettings exchange
  obtain ⟨result, log, after⟩ := card.channel.exchange (Command.fileSettings file) w
  cases result with
  | error cause => simp
  | ok response =>
      obtain ⟨status, payload⟩ := response
      by_cases hstatus : status = Response.completed
      · simp [Response.isOk, hstatus]
      · simp [Response.isOk, hstatus]

/-- A request comes to what its exchange comes to, with its reply and its remark made of the
result. -/
theorem ask_eq (card : Card W) (request : Request) (w : W) :
    card.ask request w =
      { result := request.reply (card.channel.exchange request.toCommand w).result
        log :=
          (card.channel.exchange request.toCommand w).log ++
            request.remark (card.channel.exchange request.toCommand w).result
        state := (card.channel.exchange request.toCommand w).state } := by
  cases request with
  | command c =>
      rw [Request.remark_command, List.append_nil]
      rfl
  | fileSettings file => exact card.fileSettings_eq file w

end Card

end SmartCard
