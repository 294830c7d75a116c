/-
What a frame holds.

A response travels as its payload, a marker and its status.  Nothing in the payload is
escaped and no length is sent: the marker is looked for in the last place but one and
nowhere else, which is why a payload may hold any bytes, marks among them.

So every answer of two bytes or more is in exactly one of two classes, by one byte of it.
With the marker in that place it is the frame of one response, and with any other byte
there it is no frame at all and the byte is reported.
-/
import Mathlib.Data.Set.Function
import SmartCard.Apdu

namespace SmartCard

namespace Response

/-- The last byte but one, by what is around it and by its place. -/
private theorem exists_eq_append_iff {raw : Bytes} {mark : UInt8} :
    (∃ payload status, raw = payload ++ [mark, status]) ↔
      2 ≤ raw.length ∧ raw[raw.length - 2]? = some mark := by
  have hplace : ∀ (payload : Bytes) (mark status : UInt8),
      (payload ++ [mark, status])[(payload ++ [mark, status]).length - 2]? = some mark := by
    intro payload mark status
    rw [List.length_append, List.length_cons, List.length_cons, List.length_nil,
      Nat.add_sub_cancel, List.getElem?_append_right (Nat.le_refl _), Nat.sub_self]
    rfl
  refine ⟨?_, ?_⟩
  · intro h
    obtain ⟨payload, status, rfl⟩ := h
    exact ⟨by simp, hplace payload mark status⟩
  · intro h
    obtain ⟨hlength, hmark⟩ := h
    obtain ⟨payload, other, status, rfl⟩ := exists_trailer hlength
    rw [hplace, Option.some.injEq] at hmark
    exact ⟨payload, status, by rw [hmark]⟩

theorem toApdu_injective : Function.Injective toApdu := by
  intro response other h
  have hopened := ofApdu_toApdu response
  rw [h, ofApdu_toApdu] at hopened
  exact (Except.ok.inj hopened).symm

/-- A frame that cannot be opened is too short for a mark, or has another byte than the marker
where the marker should be. -/
theorem ofApdu_eq_error_iff_getElem? {raw : Bytes} {cause : Error} :
    ofApdu raw = .error cause ↔
      (raw.length < 2 ∧ cause = .tooShort 2 raw.length) ∨
      (2 ≤ raw.length ∧ ∃ mark, raw[raw.length - 2]? = some mark ∧ mark ≠ 0x91 ∧
        cause = .statusWord 0x91 mark) := by
  rw [ofApdu_eq_error_iff]
  refine or_congr Iff.rfl ⟨?_, ?_⟩
  · intro h
    obtain ⟨payload, mark, status, hraw, hmark, hcause⟩ := h
    obtain ⟨hlength, hplace⟩ := exists_eq_append_iff.mp ⟨payload, status, hraw⟩
    exact ⟨hlength, mark, hplace, hmark, hcause⟩
  · intro h
    obtain ⟨hlength, mark, hplace, hmark, hcause⟩ := h
    obtain ⟨payload, status, hraw⟩ := exists_eq_append_iff.mpr ⟨hlength, hplace⟩
    exact ⟨payload, mark, status, hraw, hmark, hcause⟩

/-- **Responses and the answers that end in the marker and a status are the same in two
spellings.**  Every response, whatever its payload, comes back out of its frame, and an answer
that opens is the frame of what came out; what does not open is too short for a mark, or has
another byte in the place of the marker, and the report carries it. -/
theorem frames_are_responses :
    Set.BijOn toApdu Set.univ { raw | ∃ payload status, raw = payload ++ [0x91, status] } ∧
    (∀ status payload, ofApdu (toApdu { status, payload }) = .ok { status, payload } ∧
      toBytes { status, payload } = [status] ++ payload) ∧
    (∀ raw response, ofApdu raw = .ok response ↔ toApdu response = raw) ∧
    (∀ raw, (∃ response, ofApdu raw = .ok response) ↔
      2 ≤ raw.length ∧ raw[raw.length - 2]? = some 0x91) ∧
    (∀ raw cause, ofApdu raw = .error cause ↔
      (raw.length < 2 ∧ cause = .tooShort 2 raw.length) ∨
      (2 ≤ raw.length ∧ ∃ mark, raw[raw.length - 2]? = some mark ∧ mark ≠ 0x91 ∧
        cause = .statusWord 0x91 mark)) := by
  refine ⟨⟨?_, toApdu_injective.injOn, ?_⟩, fun _ _ => ⟨ofApdu_toApdu _, rfl⟩, ?_, ?_,
    fun _ _ => ofApdu_eq_error_iff_getElem?⟩
  · intro response _
    exact ⟨response.payload, response.status, rfl⟩
  · intro raw hraw
    obtain ⟨payload, status, rfl⟩ := hraw
    exact ⟨{ status, payload }, Set.mem_univ _, rfl⟩
  · intro raw response
    rw [ofApdu_eq_ok_iff, eq_comm]
  · intro raw
    rw [← exists_eq_append_iff]
    refine ⟨?_, ?_⟩
    · intro h
      obtain ⟨response, hopened⟩ := h
      exact ⟨response.payload, response.status, ofApdu_eq_ok_iff.mp hopened⟩
    · intro h
      obtain ⟨payload, status, rfl⟩ := h
      exact ⟨{ status, payload }, ofApdu_eq_ok_iff.mpr rfl⟩

-- Marks in the payload are payload, also right in front of the marker.
example : ofApdu [0x91, 0x00, 0x91, 0x91, 0xAF] =
    .ok { status := 0xAF, payload := [0x91, 0x00, 0x91] } := by
  decide

end Response

end SmartCard
