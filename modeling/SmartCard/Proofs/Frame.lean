/-
Commands in frames.

The length byte of a frame is the number of payload bytes, cut down to a byte.  Nothing is lost
by that, because a payload that would lose something is refused first.  The number also tells
whether a last byte follows, so the length of a frame is a sum, which `Apdu.length?` computes in
64 bits, and the frame that is built is as long as that.  The sum itself leaves 64 bits for the
last six payload lengths of the range, all of them refused long before it is asked for.

Since its first five bytes tell where it ends, a frame can be read off the front of anything:
that is `Command.takeApdu?_frame_append`.  Frames put one behind the other need nothing between
them.  `Command.stream` is what they make together, and it comes from one list of commands only;
the induction follows the list, one frame at a time, and goes on behind it.
-/
import Mathlib.Algebra.Group.Nat.Defs
import Mathlib.Data.Set.Function
import SmartCard.Apdu

namespace SmartCard

/-! ### The length of a frame -/

namespace Apdu

variable {payload length : UInt64}

/-- The last byte counts if and only if there is a payload. -/
private theorem toNat_last (payload : UInt64) :
    (if payload = 0 then (0 : UInt64) else 1).toNat = if 0 < payload.toNat then 1 else 0 := by
  by_cases hzero : payload = 0
  · subst hzero
    rfl
  · have hpos : 0 < payload.toNat := by
      rw [Nat.pos_iff_ne_zero]
      intro h
      exact hzero (UInt64.toNat_inj.mp h)
    rw [if_neg hzero, if_pos hpos]
    rfl

theorem length?_eq_some_iff :
    length? payload = some length ↔
      length.toNat = 5 + payload.toNat + (if 0 < payload.toNat then 1 else 0) := by
  have hheader : (UInt64.ofNat headerLength).toNat = 5 := rfl
  simp only [length?, Option.bind_eq_bind, Option.bind_eq_some_iff, Word64.add?_eq_some_iff,
    hheader, toNat_last]
  refine ⟨?_, ?_⟩
  · intro h
    obtain ⟨withPayload, hpayload, hlength⟩ := h
    rw [hlength, hpayload]
  · intro h
    have hsize : 5 + payload.toNat < UInt64.size := by
      have hlength := length.toNat_lt_size
      omega
    have hsum := UInt64.toNat_ofNat_of_lt' hsize
    exact ⟨UInt64.ofNat (5 + payload.toNat), hsum, by rw [hsum, h]⟩

/-- The sum leaves 64 bits for the last six lengths of the range and for no others. -/
theorem length?_eq_none_iff : length? payload = none ↔ 2 ^ 64 - 7 < payload.toNat := by
  have hpayload := payload.toNat_lt
  rw [Option.eq_none_iff_forall_ne_some]
  refine ⟨?_, ?_⟩
  · intro h
    by_contra hsmall
    have hsum : 5 + payload.toNat + (if 0 < payload.toNat then 1 else 0) < UInt64.size := by
      have hsize : UInt64.size = 2 ^ 64 := rfl
      split <;> omega
    exact h _ (length?_eq_some_iff.mpr (UInt64.toNat_ofNat_of_lt' hsum))
  · intro h length hlength
    have hsum := length?_eq_some_iff.mp hlength
    have hlast := length.toNat_lt
    rw [if_pos (by omega)] at hsum
    omega

end Apdu

namespace Command

variable {command other : Command} {frame longer bytes : Bytes} {cause : Error}

/-! ### Which commands are framed -/

theorem ofBytes_eq_ok_iff : ofBytes bytes = .ok command ↔ command.toBytes = bytes := by
  cases bytes with
  | nil => simp [ofBytes, toBytes]
  | cons instruction payload =>
      obtain ⟨instruction', payload'⟩ := command
      simp [ofBytes, toBytes, eq_comm]

theorem exists_ofBytes_iff : (∃ command, ofBytes bytes = .ok command) ↔ bytes ≠ [] := by
  simp only [ofBytes_eq_ok_iff]
  refine ⟨?_, ?_⟩
  · intro h
    obtain ⟨command, rfl⟩ := h
    simp [toBytes]
  · intro h
    obtain ⟨instruction, payload, rfl⟩ := List.exists_cons_of_ne_nil h
    exact ⟨{ instruction, payload }, rfl⟩

theorem toApdu_eq_error_iff :
    command.toApdu = .error cause ↔
      255 < command.payload.length ∧ cause = .tooLong 255 command.payload.length := by
  unfold toApdu Apdu.payloadLimit
  by_cases hfits : command.payload.length ≤ 255
  · simp [hfits]
  · simp [hfits, Nat.lt_of_not_le hfits, eq_comm]

theorem toApdu_eq_ok_iff :
    command.toApdu = .ok frame ↔ command.payload.length ≤ 255 ∧ command.frame = frame := by
  unfold toApdu Apdu.payloadLimit
  by_cases hfits : command.payload.length ≤ 255
  · simp [hfits]
  · simp [hfits]

/-- The length byte loses nothing of the length. -/
private theorem toNat_count (hfits : command.payload.length ≤ 255) :
    (UInt8.ofNat command.payload.length).toNat = command.payload.length :=
  UInt8.toNat_ofNat_of_lt' (Nat.lt_succ_of_le hfits)

/-- A frame byte for byte, with the length byte as a number. -/
theorem toApdu_eq_ok_iff_bytes :
    command.toApdu = .ok frame ↔
      ∃ count : UInt8, count.toNat = command.payload.length ∧
        frame = [0x90, command.instruction, 0x00, 0x00, count] ++ command.payload
          ++ (if command.payload = [] then [] else [0x00]) := by
  rw [toApdu_eq_ok_iff]
  refine ⟨?_, ?_⟩
  · intro h
    obtain ⟨hfits, rfl⟩ := h
    exact ⟨_, toNat_count hfits, rfl⟩
  · intro h
    obtain ⟨count, hcount, rfl⟩ := h
    refine ⟨hcount ▸ Nat.le_of_lt_succ count.toNat_lt, ?_⟩
    rw [Command.frame, ← hcount, UInt8.ofNat_toNat]
    rfl

/-! ### Room for the frame -/

/-- The frame of a command, with room made for it beforehand.  If there can be no such room, as
its length is no 64-bit length, there is no outcome. -/
def toApdu? (command : Command) : Option (Except Error Bytes) :=
  if command.payload.length ≤ Apdu.payloadLimit then
    (Apdu.length? (UInt64.ofNat command.payload.length)).map fun _ => .ok command.frame
  else some (.error (.tooLong Apdu.payloadLimit command.payload.length))

/-- The room to be made for a frame is what the frame takes. -/
theorem exists_length? (hfits : command.payload.length ≤ 255) :
    ∃ length, Apdu.length? (UInt64.ofNat command.payload.length) = some length ∧
      length.toNat = command.frame.length := by
  have hsize : UInt64.size = 2 ^ 64 := rfl
  have hpayload : (UInt64.ofNat command.payload.length).toNat = command.payload.length :=
    UInt64.toNat_ofNat_of_lt' (by omega)
  have hlast : (if 0 < command.payload.length then 1 else 0) =
      if command.payload = [] then 0 else 1 := by
    cases command.payload <;> simp
  have hframe : command.frame.length < UInt64.size := by
    rw [length_frame, Apdu.headerLength]
    split <;> omega
  refine ⟨UInt64.ofNat command.frame.length, ?_, UInt64.toNat_ofNat_of_lt' hframe⟩
  rw [Apdu.length?_eq_some_iff, UInt64.toNat_ofNat_of_lt' hframe, length_frame, hpayload, hlast,
    Apdu.headerLength]

/-- Room for a frame can always be made. -/
theorem toApdu?_eq (command : Command) : command.toApdu? = some command.toApdu := by
  unfold toApdu? toApdu
  by_cases hfits : command.payload.length ≤ Apdu.payloadLimit
  · obtain ⟨length, hlength, -⟩ := exists_length? hfits
    rw [if_pos hfits, if_pos hfits, hlength]
    rfl
  · rw [if_neg hfits, if_neg hfits]

/-- **A command has a frame if and only if its payload has at most 255 bytes, and every byte of
the frame is settled by the command.**  The length of the frame is the one that the formula gives,
and the formula has a value for all but the last six lengths of the range, so room for a frame can
always be made. -/
theorem framing_is_exact :
    (∀ bytes command, ofBytes bytes = .ok command ↔ command.toBytes = bytes) ∧
    (∀ bytes, (∃ command, ofBytes bytes = .ok command) ↔ bytes ≠ []) ∧
    (∀ command cause, toApdu command = .error cause ↔
      255 < command.payload.length ∧ cause = .tooLong 255 command.payload.length) ∧
    (∀ command frame, toApdu command = .ok frame ↔
      ∃ count : UInt8, count.toNat = command.payload.length ∧
        frame = [0x90, command.instruction, 0x00, 0x00, count] ++ command.payload
          ++ (if command.payload = [] then [] else [0x00])) ∧
    (∀ command frame, toApdu command = .ok frame →
      ∃ length, Apdu.length? (UInt64.ofNat command.payload.length) = some length ∧
        length.toNat = frame.length) ∧
    (∀ command, toApdu? command = some command.toApdu) ∧
    (∀ payload length, Apdu.length? payload = some length ↔
      length.toNat = 5 + payload.toNat + (if 0 < payload.toNat then 1 else 0)) ∧
    (∀ payload, Apdu.length? payload = none ↔ 2 ^ 64 - 7 < payload.toNat) := by
  refine ⟨fun _ _ => ofBytes_eq_ok_iff, fun _ => exists_ofBytes_iff, fun _ _ => toApdu_eq_error_iff,
    fun _ _ => toApdu_eq_ok_iff_bytes, ?_, toApdu?_eq, fun _ _ => Apdu.length?_eq_some_iff,
    fun _ => Apdu.length?_eq_none_iff⟩
  intro command frame h
  obtain ⟨hfits, rfl⟩ := toApdu_eq_ok_iff.mp h
  exact exists_length? hfits

-- At the longest payload that fits, the length byte is full and the last byte is still added.
example : (toApdu { instruction := 0x3D, payload := List.replicate 255 0 }).map
    (fun frame => (frame[4]?, frame.length)) = .ok (some 255, 261) := by
  decide +kernel

/-! ### Frames one behind the other -/

/-- The frames of some commands, one behind the other, if there is a frame for each. -/
def stream : List Command → Except Error Bytes
  | [] => .ok []
  | command :: rest => do return (← command.toApdu) ++ (← stream rest)

private theorem stream_cons_eq_ok_iff {rest : List Command} :
    stream (command :: rest) = .ok bytes ↔
      command.payload.length ≤ 255 ∧ ∃ more, stream rest = .ok more ∧
        command.frame ++ more = bytes := by
  rw [stream]
  cases hframe : command.toApdu with
  | error cause =>
      have hlong := (toApdu_eq_error_iff.mp hframe).1
      simp [bind, Except.bind, Nat.not_le_of_lt hlong]
  | ok frame =>
      obtain ⟨hfits, rfl⟩ := toApdu_eq_ok_iff.mp hframe
      cases hrest : stream rest <;> simp [bind, Except.bind, pure, Except.pure, hfits]

/-- Commands have a stream if and only if a frame can hold each of them. -/
theorem exists_stream_iff {commands : List Command} :
    (∃ bytes, stream commands = .ok bytes) ↔
      ∀ command ∈ commands, command.payload.length ≤ 255 := by
  induction commands with
  | nil => exact ⟨fun _ => by simp, fun _ => ⟨[], rfl⟩⟩
  | cons command rest ih =>
      rw [List.forall_mem_cons, ← ih]
      refine ⟨?_, ?_⟩
      · intro h
        obtain ⟨bytes, hbytes⟩ := h
        obtain ⟨hfits, more, hmore, -⟩ := stream_cons_eq_ok_iff.mp hbytes
        exact ⟨hfits, more, hmore⟩
      · intro h
        obtain ⟨hfits, more, hmore⟩ := h
        exact ⟨_, stream_cons_eq_ok_iff.mpr ⟨hfits, more, hmore, rfl⟩⟩

/-- The first command is read off the front of a stream, and the stream of the others is left. -/
private theorem takeApdu?_stream_cons {rest : List Command}
    (h : stream (command :: rest) = .ok bytes) :
    ∃ more, takeApdu? bytes = some (command, more) ∧ stream rest = .ok more := by
  obtain ⟨hfits, more, hmore, rfl⟩ := stream_cons_eq_ok_iff.mp h
  exact ⟨more, takeApdu?_frame_append command more hfits, hmore⟩

/-- Lists of commands with the same stream are the same. -/
theorem eq_of_stream_eq {commands others : List Command} (h : stream commands = .ok bytes)
    (hother : stream others = .ok bytes) : commands = others := by
  induction commands generalizing others bytes with
  | nil =>
      obtain rfl : [] = bytes := Except.ok.inj h
      cases others with
      | nil => rfl
      | cons other rest' =>
          obtain ⟨more, hread, -⟩ := takeApdu?_stream_cons hother
          contradiction
  | cons command rest ih =>
      obtain ⟨more, hread, hmore⟩ := takeApdu?_stream_cons h
      cases others with
      | nil =>
          obtain rfl : [] = bytes := Except.ok.inj hother
          contradiction
      | cons other rest' =>
          -- Both read the same bytes, so the first commands and what is left are the same.
          obtain ⟨more', hread', hmore'⟩ := takeApdu?_stream_cons hother
          rw [hread, Option.some.injEq, Prod.mk.injEq] at hread'
          obtain ⟨rfl, rfl⟩ := hread'
          rw [ih hmore hmore']

/-- A frame in front of another is that other frame. -/
theorem eq_of_frame_isPrefix (h : command.toApdu = .ok frame) (hother : other.toApdu = .ok longer)
    (hfront : frame <+: longer) : command = other ∧ frame = longer := by
  obtain ⟨hfits, rfl⟩ := toApdu_eq_ok_iff.mp h
  obtain ⟨hfits', rfl⟩ := toApdu_eq_ok_iff.mp hother
  obtain ⟨more, hmore⟩ := hfront
  have hread := takeApdu?_frame_append command more hfits
  have hread' := takeApdu?_frame_append other [] hfits'
  rw [List.append_nil, ← hmore, hread, Option.some.injEq, Prod.mk.injEq] at hread'
  obtain ⟨rfl, -⟩ := hread'
  exact ⟨rfl, rfl⟩

theorem toApdu_injOn : Set.InjOn toApdu { command | command.payload.length ≤ 255 } := by
  intro command hfits other hfits' h
  have hframe := toApdu_eq_ok_iff.mpr ⟨hfits, rfl⟩
  exact (eq_of_frame_isPrefix hframe (h ▸ hframe) (List.prefix_refl _)).1

/-- **Frames tell where they end.**  What they make one behind the other has come from one list of
commands only, so no frame is in front of another one, and a frame has come from one command
only. -/
theorem streams_read_one_way :
    (∀ commands, (∃ bytes, stream commands = .ok bytes) ↔
      ∀ command ∈ commands, command.payload.length ≤ 255) ∧
    Set.InjOn stream { commands | ∀ command ∈ commands, command.payload.length ≤ 255 } ∧
    (∀ command other frame longer, toApdu command = .ok frame → toApdu other = .ok longer →
      frame <+: longer → command = other ∧ frame = longer) ∧
    Set.InjOn toApdu { command | command.payload.length ≤ 255 } := by
  refine ⟨fun _ => exists_stream_iff, ?_, fun _ _ _ _ => eq_of_frame_isPrefix, toApdu_injOn⟩
  intro commands hfits others hfits' h
  obtain ⟨bytes, hbytes⟩ := exists_stream_iff.mpr hfits
  exact eq_of_stream_eq hbytes (h ▸ hbytes)

end Command

end SmartCard
