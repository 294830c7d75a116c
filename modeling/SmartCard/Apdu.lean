/-
Frames around native commands and responses.

A card reader carries application protocol data units.  A native command travels in
one as

    class  instruction  0  0  length  payload...  [0]

where `length` is the number of payload bytes and the last zero, which asks for an
answer of any length, is there only if the payload is not empty.  A native response
comes back as its payload followed by a marker and the status byte.  Since `length`
is a single byte, a payload of more than 255 bytes has no frame.
-/
import SmartCard.Command
import SmartCard.Bytes

namespace SmartCard

namespace Apdu

/-- The class byte of a framed native command. -/
def classByte : UInt8 := 0x90

/-- The first parameter byte of the frame, unused by native commands. -/
def parameter1 : UInt8 := 0x00

/-- The second parameter byte of the frame, unused by native commands. -/
def parameter2 : UInt8 := 0x00

/-- The last byte of a frame with a payload: an answer of any length is welcome. -/
def anyLength : UInt8 := 0x00

/-- The number of bytes before the payload. -/
def headerLength : Nat := 5

/-- The greatest length that fits into the length byte. -/
def payloadLimit : Nat := 255

/-- The marker in front of the status byte. -/
def marker : UInt8 := 0x91

/-- The number of bytes after the payload of a response. -/
def trailerLength : Nat := 2

/-- The length of the frame around a payload of a given length, if it is a 64-bit length. -/
def length? (payload : UInt64) : Option UInt64 := do
  let withPayload ← Word64.add? (UInt64.ofNat headerLength) payload
  Word64.add? withPayload (if payload = 0 then 0 else 1)

end Apdu

namespace Command

/-- The frame around a command's payload, for payloads whose length fits into a byte. -/
def frame (command : Command) : Bytes :=
  [Apdu.classByte, command.instruction, Apdu.parameter1, Apdu.parameter2,
      UInt8.ofNat command.payload.length]
    ++ command.payload ++ (if command.payload = [] then [] else [Apdu.anyLength])

/-- The frame of a command, refused if the payload is too long for one. -/
def toApdu (command : Command) : Except Error Bytes :=
  if command.payload.length ≤ Apdu.payloadLimit then .ok command.frame
  else .error (.tooLong Apdu.payloadLimit command.payload.length)

theorem length_frame (command : Command) :
    command.frame.length =
      Apdu.headerLength + command.payload.length + (if command.payload = [] then 0 else 1) := by
  unfold frame
  split <;> simp [Apdu.headerLength] <;> omega

/-- Takes the frame of a command off the front of a byte string. -/
def takeApdu? : Bytes → Option (Command × Bytes)
  | first :: instruction :: second :: third :: count :: rest =>
      if first = Apdu.classByte ∧ second = Apdu.parameter1 ∧ third = Apdu.parameter2 then
        if count = 0 then some (bare instruction, rest)
        else
          match rest.drop count.toNat with
          | last :: after =>
              if last = Apdu.anyLength then
                some ({ instruction, payload := rest.take count.toNat }, after)
              else none
          | [] => none
      else none
  | _ => none

/-- A frame is taken off whole, whatever follows it. -/
theorem takeApdu?_frame_append (command : Command) (rest : Bytes)
    (h : command.payload.length ≤ Apdu.payloadLimit) :
    takeApdu? (command.frame ++ rest) = some (command, rest) := by
  obtain ⟨instruction, payload⟩ := command
  have hlimit : payload.length < 256 := by
    have : payload.length ≤ 255 := h
    omega
  cases payload with
  | nil => simp [frame, takeApdu?, bare]
  | cons b payload =>
      have hcount : (UInt8.ofNat (b :: payload).length).toNat = (b :: payload).length := by
        rw [UInt8.toNat_ofNat', Nat.mod_eq_of_lt hlimit]
      have hne : UInt8.ofNat (b :: payload).length ≠ 0 := by
        intro hzero
        rw [hzero] at hcount
        simp at hcount
      simp only [frame, takeApdu?, List.cons_append, List.nil_append, and_self, if_true,
        if_neg hne, hcount]
      rw [if_neg (by simp)]
      simp

end Command

namespace Response

/-- The frame of a response: payload, marker, status. -/
def toApdu (response : Response) : Bytes :=
  response.payload ++ [Apdu.marker, response.status]

/-- The response inside a frame.  The frame must end in the marker and a status byte. -/
def ofApdu (raw : Bytes) : Except Error Response :=
  match raw.reverse with
  | status :: mark :: payload =>
      if mark = Apdu.marker then .ok { status, payload := payload.reverse }
      else .error (.statusWord Apdu.marker mark)
  | _ => .error (.tooShort Apdu.trailerLength raw.length)

/-- An answer of two bytes or more ends in a mark and a status. -/
theorem exists_trailer {raw : Bytes} (h : Apdu.trailerLength ≤ raw.length) :
    ∃ payload mark status, raw = payload ++ [mark, status] := by
  have hlength : Apdu.trailerLength ≤ raw.reverse.length := by
    rw [List.length_reverse]
    exact h
  match hreverse : raw.reverse, hlength with
  | status :: mark :: rest, _ =>
      refine ⟨rest.reverse, mark, status, ?_⟩
      rw [← List.reverse_reverse raw, hreverse]
      simp

theorem ofApdu_append (payload : Bytes) (mark status : UInt8) :
    ofApdu (payload ++ [mark, status]) =
      if mark = Apdu.marker then .ok { status, payload }
      else .error (.statusWord Apdu.marker mark) := by
  simp [ofApdu]

theorem ofApdu_of_short {raw : Bytes} (h : raw.length < Apdu.trailerLength) :
    ofApdu raw = .error (.tooShort Apdu.trailerLength raw.length) := by
  match raw, h with
  | [], _ => rfl
  | [_], _ => rfl

@[simp] theorem ofApdu_toApdu (response : Response) : ofApdu response.toApdu = .ok response := by
  simp [ofApdu, toApdu]

/-- A byte string is too short for a frame, has the wrong marker, or is the frame of a
response. -/
theorem ofApdu_cases (raw : Bytes) :
    (raw.length < Apdu.trailerLength ∧
      ofApdu raw = .error (.tooShort Apdu.trailerLength raw.length)) ∨
    (∃ payload mark status, raw = payload ++ [mark, status] ∧ mark ≠ Apdu.marker ∧
      ofApdu raw = .error (.statusWord Apdu.marker mark)) ∨
    ∃ response : Response, raw = response.toApdu ∧ ofApdu raw = .ok response := by
  by_cases hraw : raw.length < Apdu.trailerLength
  · exact .inl ⟨hraw, ofApdu_of_short hraw⟩
  obtain ⟨payload, mark, status, rfl⟩ := exists_trailer (Nat.le_of_not_lt hraw)
  by_cases hmark : mark = Apdu.marker
  · subst hmark
    exact .inr (.inr ⟨{ status, payload }, rfl, ofApdu_toApdu { status, payload }⟩)
  · refine .inr (.inl ⟨payload, mark, status, rfl, hmark, ?_⟩)
    rw [ofApdu_append, if_neg hmark]

theorem ofApdu_eq_error_iff {raw : Bytes} {cause : Error} :
    ofApdu raw = .error cause ↔
      (raw.length < Apdu.trailerLength ∧ cause = .tooShort Apdu.trailerLength raw.length) ∨
      ∃ payload mark status, raw = payload ++ [mark, status] ∧ mark ≠ Apdu.marker ∧
        cause = .statusWord Apdu.marker mark := by
  constructor
  · intro h
    rcases ofApdu_cases raw with ⟨hraw, hcause⟩ | ⟨payload, mark, status, hraw, hmark, hcause⟩ |
      ⟨response, hraw, hopened⟩
    · rw [hcause] at h
      exact .inl ⟨hraw, (Except.error.inj h).symm⟩
    · rw [hcause] at h
      exact .inr ⟨payload, mark, status, hraw, hmark, (Except.error.inj h).symm⟩
    · rw [hopened] at h
      contradiction
  · intro h
    rcases h with ⟨hraw, rfl⟩ | ⟨payload, mark, status, rfl, hmark, rfl⟩
    · exact ofApdu_of_short hraw
    · rw [ofApdu_append, if_neg hmark]

/-- A response comes out of its own frame and of no other. -/
theorem ofApdu_eq_ok_iff {raw : Bytes} {response : Response} :
    ofApdu raw = .ok response ↔ raw = response.toApdu := by
  constructor
  · intro h
    rcases ofApdu_cases raw with ⟨-, hcause⟩ | ⟨_, _, _, -, -, hcause⟩ | ⟨other, hraw, hopened⟩
    · rw [hcause] at h
      contradiction
    · rw [hcause] at h
      contradiction
    · rw [hopened] at h
      rw [hraw, Except.ok.inj h]
  · intro h
    rw [h, ofApdu_toApdu]

end Response

end SmartCard
