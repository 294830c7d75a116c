/-
Every reader reads a slice.

A slice of a byte string is what is left of it without the bytes before a position and those
behind the field, so a string has a slice wherever it can be taken apart that way, and nowhere
else: `slice_eq_ok_iff`.  A slice of no bytes is one too, also at the very end.

The other readers take a slice and see something else in it: a vector of its bytes, its one byte,
or the number it spells.  They fail where it fails and with the same report.  So what slices do is
enough to know of all of them: two that meet are one, bytes put in front move them along, and the
number is the sum of the bytes, each by its place.
-/
import Mathlib.Algebra.BigOperators.Ring.Finset
import Mathlib.Data.List.GetD
import Mathlib.Tactic.Ring
import SmartCard.Proofs.Verdict

namespace SmartCard.Bytes

variable {data field before : Bytes} {start count : Nat} {cause : Error}

/-! ### Slices -/

private theorem slice_of_le (h : start + count ≤ data.length) :
    data.slice start count = .ok ((data.drop start).take count) :=
  if_pos h

private theorem slice_of_lt (h : data.length < start + count) :
    data.slice start count = .error (.tooShort (start + count) data.length) :=
  if_neg (Nat.not_le.mpr h)

/-- A slice is what stands between some bytes before it and some behind it. -/
theorem slice_eq_ok_iff :
    data.slice start count = .ok field ↔
      ∃ before after, data = before ++ field ++ after ∧ before.length = start ∧
        field.length = count := by
  refine ⟨?_, ?_⟩
  · intro h
    by_cases hin : start + count ≤ data.length
    · rw [slice_of_le hin, Except.ok.injEq] at h
      refine ⟨data.take start, (data.drop start).drop count, ?_, ?_, ?_⟩
      · rw [← h, List.append_assoc, List.take_append_drop, List.take_append_drop]
      · rw [List.length_take]
        omega
      · rw [← h, List.length_take, List.length_drop]
        omega
    · rw [slice_of_lt (by omega)] at h
      contradiction
  · intro h
    obtain ⟨before, after, rfl, rfl, rfl⟩ := h
    have hin : before.length + field.length ≤ (before ++ field ++ after).length := by
      simp only [List.length_append]
      omega
    rw [slice_of_le hin, List.append_assoc, List.drop_left, List.take_left]

theorem slice_eq_error_iff :
    data.slice start count = .error cause ↔
      data.length < start + count ∧ cause = .tooShort (start + count) data.length := by
  by_cases hin : start + count ≤ data.length
  · rw [slice_of_le hin]
    simp only [reduceCtorEq, false_iff, not_and]
    omega
  · have hout : data.length < start + count := by omega
    rw [slice_of_lt hout, Except.error.injEq, eq_comm]
    exact (and_iff_right hout).symm

theorem exists_slice_iff :
    (∃ field, data.slice start count = .ok field) ↔ start + count ≤ data.length := by
  refine ⟨?_, fun h => ⟨_, slice_of_le h⟩⟩
  intro h
  obtain ⟨field, h⟩ := h
  obtain ⟨before, after, rfl, rfl, rfl⟩ := slice_eq_ok_iff.mp h
  simp only [List.length_append]
  omega

/-- Two slices of which one starts where the other ends are one slice. -/
theorem slice_add_eq_ok_iff {first second : Nat} :
    data.slice start (first + second) = .ok field ↔
      ∃ front back, data.slice start first = .ok front ∧
        data.slice (start + first) second = .ok back ∧ field = front ++ back := by
  refine ⟨?_, ?_⟩
  · intro h
    obtain ⟨before, after, rfl, hstart, hlength⟩ := slice_eq_ok_iff.mp h
    obtain ⟨front, back, hfirst, rfl⟩ := exists_front first field (by omega)
    rw [List.length_append] at hlength
    refine ⟨front, back, slice_eq_ok_iff.mpr ⟨before, back ++ after, ?_, hstart, hfirst⟩,
      slice_eq_ok_iff.mpr ⟨before ++ front, after, ?_, ?_, by omega⟩, rfl⟩
    · simp only [List.append_assoc]
    · simp only [List.append_assoc]
    · rw [List.length_append, hstart, hfirst]
  · intro h
    obtain ⟨front, back, hfront, hback, rfl⟩ := h
    obtain ⟨before, after, rfl, rfl, rfl⟩ := slice_eq_ok_iff.mp hfront
    obtain ⟨before', after', heq, hstart, rfl⟩ := slice_eq_ok_iff.mp hback
    obtain ⟨-, rfl⟩ : before ++ front = before' ∧ after = back ++ after' := by
      rw [List.append_assoc before'] at heq
      exact List.append_inj heq (by rw [List.length_append, hstart])
    exact slice_eq_ok_iff.mpr ⟨before, after', by simp only [List.append_assoc], rfl,
      List.length_append⟩

/-- Bytes in front of a string move its slices along. -/
theorem slice_append_eq_ok_iff :
    (before ++ data).slice (before.length + start) count = .ok field ↔
      data.slice start count = .ok field := by
  by_cases hin : start + count ≤ data.length
  · have hin' : before.length + start + count ≤ (before ++ data).length := by
      rw [List.length_append]
      omega
    rw [slice_of_le hin, slice_of_le hin', ← List.drop_drop, List.drop_left]
  · have hout' : (before ++ data).length < before.length + start + count := by
      rw [List.length_append]
      omega
    rw [slice_of_lt (Nat.not_le.mp hin), slice_of_lt hout']
    simp only [reduceCtorEq]

/-! ### What the other readers see in a slice -/

theorem map_vector (data : Bytes) (start count : Nat) :
    (data.vector start count).map Vector.toList = data.slice start count := by
  unfold vector slice
  split <;> rfl

theorem map_byte (data : Bytes) (position : Nat) :
    (data.byte position).map ([·]) = data.slice position 1 := by
  by_cases hin : position < data.length
  · rw [byte, dif_pos hin, slice_of_le hin, List.drop_eq_getElem_cons hin]
    rfl
  · rw [byte, dif_neg hin, slice_of_lt (by omega)]
    rfl

theorem u24_eq_map (data : Bytes) (start : Nat) :
    data.u24 start = (data.slice start 3).map fun field => UInt32.ofNat (leNat field) := by
  rw [← map_vector, u24]
  cases data.vector start 3 <;> rfl

theorem u32_eq_map (data : Bytes) (start : Nat) :
    data.u32 start = (data.slice start 4).map fun field => UInt32.ofNat (leNat field) := by
  rw [← map_vector, u32]
  cases data.vector start 4 <;> rfl

private theorem map_eq_ok_iff {α β : Type} {f : α → β} {read : Except Error α} {b : β} :
    read.map f = .ok b ↔ ∃ a, read = .ok a ∧ f a = b := by
  cases read with
  | error cause => simp [Except.map]
  | ok a => simp [Except.map]

theorem map_map {α β γ : Type} (f : α → β) (g : β → γ) (read : Except Error α) :
    (read.map f).map g = read.map (g ∘ f) := by
  cases read <;> rfl

theorem vector_eq_ok_iff {v : Vector UInt8 count} :
    data.vector start count = .ok v ↔ data.slice start count = .ok v.toList := by
  rw [← map_vector, map_eq_ok_iff]
  simp only [Vector.toList_inj, exists_eq_right]

theorem byte_eq_ok_iff {b : UInt8} :
    data.byte start = .ok b ↔ data.slice start 1 = .ok [b] := by
  rw [← map_byte, map_eq_ok_iff]
  simp only [List.cons.injEq, and_true, exists_eq_right]

/-! ### The number in a slice -/

private theorem word_eq_ok_iff {n : UInt32} (hcount : count ≤ 4) :
    (data.slice start count).map (fun field => UInt32.ofNat (leNat field)) = .ok n ↔
      ∃ field, data.slice start count = .ok field ∧ n.toNat = leNat field := by
  rw [map_eq_ok_iff]
  refine exists_congr fun field => and_congr_right fun h => ?_
  obtain ⟨before, after, -, -, hlength⟩ := slice_eq_ok_iff.mp h
  rw [← UInt32.toNat_inj, toNat_ofNat_leNat (by omega), eq_comm]

theorem u24_eq_ok_iff {n : UInt32} :
    data.u24 start = .ok n ↔ ∃ field, data.slice start 3 = .ok field ∧ n.toNat = leNat field := by
  rw [u24_eq_map, word_eq_ok_iff (by decide)]

theorem u32_eq_ok_iff {n : UInt32} :
    data.u32 start = .ok n ↔ ∃ field, data.slice start 4 = .ok field ∧ n.toNat = leNat field := by
  rw [u32_eq_map, word_eq_ok_iff (by decide)]

theorem leNat_eq_sum (field : Bytes) :
    leNat field = ∑ k ∈ Finset.range field.length, (field.getD k 0).toNat * 256 ^ k := by
  induction field with
  | nil => rfl
  | cons b rest ih =>
      have hstep : ∀ k, (rest.getD k 0).toNat * 256 ^ (k + 1) =
          256 * ((rest.getD k 0).toNat * 256 ^ k) := by
        intro k
        ring
      rw [leNat, List.length_cons, Finset.sum_range_succ', ih, Finset.mul_sum, Nat.add_comm]
      simp only [List.getD_cons_succ, List.getD_cons_zero, hstep, Nat.pow_zero, Nat.mul_one]

/-- The number in a slice is the sum of its bytes, each by its place. -/
private theorem leNat_slice (h : data.slice start count = .ok field) :
    leNat field = ∑ k ∈ Finset.range count, (data.getD (start + k) 0).toNat * 256 ^ k := by
  obtain ⟨before, after, rfl, rfl, rfl⟩ := slice_eq_ok_iff.mp h
  rw [leNat_eq_sum]
  refine Finset.sum_congr rfl ?_
  intro k hk
  have hplace : (before ++ field ++ after).getD (before.length + k) 0 = field.getD k 0 := by
    rw [List.append_assoc, List.getD_append_right _ _ _ _ (Nat.le_add_right _ _),
      Nat.add_sub_cancel_left, List.getD_append _ _ _ _ (Finset.mem_range.mp hk)]
  rw [hplace]

theorem u24_lt {n : UInt32} (h : data.u24 start = .ok n) : n.toNat < 2 ^ 24 := by
  obtain ⟨field, hfield, hn⟩ := u24_eq_ok_iff.mp h
  obtain ⟨before, after, -, -, hlength⟩ := slice_eq_ok_iff.mp hfield
  have hlt := leNat_lt field
  rw [hlength] at hlt
  rw [hn]
  exact hlt

/-- Three bytes spell what four spell without the last of them. -/
theorem u24_eq_mod {n m : UInt32} (h : data.u24 start = .ok n) (h' : data.u32 start = .ok m) :
    n.toNat = m.toNat % 2 ^ 24 := by
  obtain ⟨field, hfield, hn⟩ := u24_eq_ok_iff.mp h
  obtain ⟨whole, hwhole, hm⟩ := u32_eq_ok_iff.mp h'
  obtain ⟨front, back, hfront, -, rfl⟩ := slice_add_eq_ok_iff.mp
    (show data.slice start (3 + 1) = .ok whole from hwhole)
  obtain rfl := Except.ok.inj (hfield.symm.trans hfront)
  obtain ⟨before, after, -, -, hlength⟩ := slice_eq_ok_iff.mp hfield
  have hlt := u24_lt h
  have hpower : 256 ^ 3 = 2 ^ 24 := by decide
  rw [hm, leNat_append, hlength, hpower, Nat.add_mul_mod_self_left, ← hn, Nat.mod_eq_of_lt hlt]

/-! ### Positions of 64 bits -/

/-- Two reads yield the same field, or neither yields one. -/
def SameField {α : Type} (read read' : Option (Except Error α)) : Prop :=
  ∀ a, read = some (.ok a) ↔ read' = some (.ok a)

section Within

variable {α β : Type} {start count place : UInt64} {read read' outcome : Except Error α}

theorem within_eq_some_iff :
    within start count read = some outcome ↔
      start.toNat + count.toNat < UInt64.size ∧ read = outcome := by
  by_cases hfits : start.toNat + count.toNat < UInt64.size
  · rw [within_eq_some hfits, Option.some.injEq]
    exact (and_iff_right hfits).symm
  · rw [within, Word64.add?, if_neg hfits]
    simp only [Option.map_none, reduceCtorEq, hfits, false_and]

private theorem within_eq_some_iff_of_fits (h : start.toNat + count.toNat < UInt64.size) :
    within start count read = some outcome ↔ read = outcome := by
  rw [within_eq_some_iff, and_iff_right h]

private theorem map_within (f : α → β) :
    (within start count read).map (·.map f) = within start count (read.map f) := by
  rw [within, within, Option.map_map]
  rfl

theorem sameField_within {moved : Nat} (hplace : place.toNat = moved + start.toNat)
    (h : place.toNat + count.toNat < UInt64.size) (hread : ∀ a, read = .ok a ↔ read' = .ok a) :
    SameField (within start count read) (within place count read') := by
  intro a
  rw [within_eq_some_iff_of_fits h, within_eq_some_iff_of_fits (by omega)]
  exact hread a

end Within

private theorem toNat_add_of_fits {start count : UInt64}
    (h : start.toNat + count.toNat < UInt64.size) :
    (start + count).toNat = start.toNat + count.toNat := by
  rw [UInt64.toNat_add]
  exact Nat.mod_eq_of_lt h

theorem sliceAt?_add_eq_ok_iff {start first second : UInt64}
    (h : start.toNat + first.toNat + second.toNat < UInt64.size) :
    data.sliceAt? start (first + second) = some (.ok field) ↔
      ∃ front back, data.sliceAt? start first = some (.ok front) ∧
        data.sliceAt? (start + first) second = some (.ok back) ∧ field = front ++ back := by
  have hcount : (first + second).toNat = first.toNat + second.toNat :=
    toNat_add_of_fits (by omega)
  have hstart : (start + first).toNat = start.toNat + first.toNat :=
    toNat_add_of_fits (by omega)
  unfold sliceAt?
  simp only [within_eq_some_iff_of_fits (show start.toNat + first.toNat < UInt64.size by omega),
    within_eq_some_iff_of_fits (show (start + first).toNat + second.toNat < UInt64.size by omega),
    within_eq_some_iff_of_fits (show start.toNat + (first + second).toNat < UInt64.size by omega)]
  rw [hcount, hstart, slice_add_eq_ok_iff]

/-! ### Agreement -/

/-- **The readers agree with one another, and with place value.**

A slice is there if and only if its end is not behind the end of the string, and then it is what
stands between its position and its end; if it is not there, the report gives its end and the
length of the string.  A vector has the bytes of the slice, and a byte is the slice of one byte,
reports included.  A slice is made of the slices that it is cut into.  The numbers fail where the
slices fail, and otherwise are sums of bytes by their place, so that the three-byte number is what
the four-byte number is but for its last byte.  Bytes put in front of the string move every field
along and change none. -/
theorem readers_agree (data : Bytes) :
    (∀ start count : UInt64, start.toNat + count.toNat < UInt64.size →
      ((∃ field, data.sliceAt? start count = some (.ok field)) ↔
        start.toNat + count.toNat ≤ data.length) ∧
      (∀ field, data.sliceAt? start count = some (.ok field) ↔
        ∃ before after, data = before ++ field ++ after ∧ before.length = start.toNat ∧
          field.length = count.toNat) ∧
      (∀ cause, data.sliceAt? start count = some (.error cause) ↔
        data.length < start.toNat + count.toNat ∧
          cause = .tooShort (start.toNat + count.toNat) data.length)) ∧
    (∀ start count : UInt64,
      (data.vectorAt? start count).map (·.map Vector.toList) = data.sliceAt? start count) ∧
    (∀ start : UInt64, (data.byteAt? start).map (·.map ([·])) = data.sliceAt? start 1) ∧
    (∀ start first second : UInt64, start.toNat + first.toNat + second.toNat < UInt64.size →
      ∀ field, data.sliceAt? start (first + second) = some (.ok field) ↔
        ∃ front back, data.sliceAt? start first = some (.ok front) ∧
          data.sliceAt? (start + first) second = some (.ok back) ∧ field = front ++ back) ∧
    (∀ start : UInt64,
      (data.u24At? start).map (·.map fun _ => ()) =
        (data.sliceAt? start 3).map (·.map fun _ => ()) ∧
      (data.u32At? start).map (·.map fun _ => ()) =
        (data.sliceAt? start 4).map (·.map fun _ => ())) ∧
    (∀ (start : UInt64) (n : UInt32), data.u24At? start = some (.ok n) → n.toNat < 2 ^ 24 ∧
      n.toNat = ∑ k ∈ Finset.range 3, (data.getD (start.toNat + k) 0).toNat * 256 ^ k) ∧
    (∀ (start : UInt64) (n : UInt32), data.u32At? start = some (.ok n) →
      n.toNat = ∑ k ∈ Finset.range 4, (data.getD (start.toNat + k) 0).toNat * 256 ^ k) ∧
    (∀ (start : UInt64) (n m : UInt32), data.u24At? start = some (.ok n) →
      data.u32At? start = some (.ok m) → n.toNat = m.toNat % 2 ^ 24) ∧
    (∀ (front : Bytes) (start place : UInt64), place.toNat = front.length + start.toNat →
      (∀ count : UInt64, place.toNat + count.toNat < UInt64.size →
        SameField (data.sliceAt? start count) ((front ++ data).sliceAt? place count) ∧
        SameField (data.vectorAt? start count) ((front ++ data).vectorAt? place count)) ∧
      (place.toNat + 1 < UInt64.size →
        SameField (data.byteAt? start) ((front ++ data).byteAt? place)) ∧
      (place.toNat + 3 < UInt64.size →
        SameField (data.u24At? start) ((front ++ data).u24At? place)) ∧
      (place.toNat + 4 < UInt64.size →
        SameField (data.u32At? start) ((front ++ data).u32At? place))) := by
  refine ⟨?_, ?_, ?_, fun _ _ _ h _ => sliceAt?_add_eq_ok_iff h, ?_, ?_, ?_, ?_, ?_⟩
  · intro start count h
    simp only [sliceAt?, within_eq_some_iff_of_fits h]
    exact ⟨exists_slice_iff, fun _ => slice_eq_ok_iff, fun _ => slice_eq_error_iff⟩
  · intro start count
    rw [vectorAt?, map_within, map_vector, sliceAt?]
  · intro start
    rw [byteAt?, map_within, map_byte, sliceAt?]
    rfl
  · intro start
    rw [u24At?, u32At?, sliceAt?, sliceAt?, map_within, map_within, map_within, map_within,
      u24_eq_map, u32_eq_map]
    exact ⟨congrArg _ (map_map _ _ _), congrArg _ (map_map _ _ _)⟩
  · intro start n h
    obtain ⟨-, h⟩ := within_eq_some_iff.mp h
    obtain ⟨field, hfield, hn⟩ := u24_eq_ok_iff.mp h
    exact ⟨u24_lt h, hn.trans (leNat_slice hfield)⟩
  · intro start n h
    obtain ⟨-, h⟩ := within_eq_some_iff.mp h
    obtain ⟨field, hfield, hn⟩ := u32_eq_ok_iff.mp h
    exact hn.trans (leNat_slice hfield)
  · intro start n m h h'
    exact u24_eq_mod (within_eq_some_iff.mp h).2 (within_eq_some_iff.mp h').2
  · intro front start place hplace
    refine ⟨fun count h => ⟨sameField_within hplace h ?_, sameField_within hplace h ?_⟩,
      fun h => sameField_within hplace h ?_, fun h => sameField_within hplace h ?_,
      fun h => sameField_within hplace h ?_⟩
    · intro field
      rw [hplace, slice_append_eq_ok_iff]
    · intro field
      rw [hplace, vector_eq_ok_iff, vector_eq_ok_iff, slice_append_eq_ok_iff]
    · intro b
      rw [hplace, byte_eq_ok_iff, byte_eq_ok_iff, slice_append_eq_ok_iff]
    · intro n
      simp only [hplace, u24_eq_ok_iff, slice_append_eq_ok_iff]
    · intro n
      simp only [hplace, u32_eq_ok_iff, slice_append_eq_ok_iff]

/-- Nothing can be read at the very end, and a number that starts at the front starts behind a byte
that is put in front of it. -/
theorem readers_agree_at_end :
    sliceAt? [0x78, 0x56, 0x34, 0x12] 4 0 = some (.ok []) ∧
    u32At? ([0xFF] ++ [0x78, 0x56, 0x34, 0x12]) 1 = some (.ok 0x12345678) := by
  obtain ⟨hslice, -, -, -, -, -, -, -, hmoved⟩ := readers_agree [0x78, 0x56, 0x34, 0x12]
  obtain ⟨-, hfield, -⟩ := hslice 4 0 (by decide)
  obtain ⟨-, -, -, hword⟩ := hmoved [0xFF] 0 1 (by decide)
  exact ⟨(hfield []).mpr ⟨[0x78, 0x56, 0x34, 0x12], [], rfl, rfl, rfl⟩,
    (hword (by decide) 0x12345678).mp (by decide)⟩

end SmartCard.Bytes
