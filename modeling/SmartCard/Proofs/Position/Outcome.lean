/-
Which reads have an outcome.

A reader compares the end of a read with the length of the string.  It promises to answer with
the field, or to report that the string is too short: `Answered`.  At positions that are numbers
it keeps that promise, and every reader ends as a slice does: `Checked`.

At 64-bit positions the end is a sum of two words, and it is formed before anything is compared.
Where the sum is no word, nothing is compared at all, and neither a field nor a report comes of
the read.  So the promise is kept exactly where the end is a 64-bit position, by each reader:
`Bounded`.

What is lost that way is always a report.  Bytes that are there end at the length of the string
or before it, so a string whose length is a 64-bit number never loses a field.
-/
import SmartCard.Proofs.Position

namespace SmartCard.Bytes

/-- What a checked read up to a position owes its caller: a field that ends within the string, or
the report that the string is too short. -/
inductive Answered {α : Type} (data : Bytes) (finish : Nat) : Option (Except Error α) → Prop
  | field {a : α} (hin : finish ≤ data.length) : Answered data finish (some (.ok a))
  | report {needed actual : Nat} : Answered data finish (some (.error (.tooShort needed actual)))

variable {α β : Type} {data : Bytes} {finish : Nat} {read : Except Error α}
  {outcome : Option (Except Error α)} {start count : UInt64}

/-! ### Positions that are numbers -/

/-- A read that fails only if the string ends before the field does, and then reports just that. -/
structure Checked (data : Bytes) (finish : Nat) (read : Except Error α) : Prop where
  field_iff : (∃ a, read = .ok a) ↔ finish ≤ data.length
  report_iff : ∀ cause, read = .error cause ↔
    data.length < finish ∧ cause = .tooShort finish data.length

/-- What is made of the field changes nothing of whether there is one. -/
private theorem checked_map_iff {f : α → β} :
    Checked data finish (read.map f) ↔ Checked data finish read := by
  have hfield : (∃ b, read.map f = .ok b) ↔ ∃ a, read = .ok a := by
    cases read <;> simp [Except.map]
  have hreport : ∀ cause, read.map f = .error cause ↔ read = .error cause := by
    cases read <;> simp [Except.map]
  refine ⟨fun h => ⟨?_, ?_⟩, fun h => ⟨?_, ?_⟩⟩
  · rw [← hfield, h.field_iff]
  · intro cause
    rw [← hreport, h.report_iff]
  · rw [hfield, h.field_iff]
  · intro cause
    rw [hreport, h.report_iff]

private theorem checked_slice (data : Bytes) (start count : Nat) :
    Checked data (start + count) (data.slice start count) :=
  ⟨exists_slice_iff, fun _ => slice_eq_error_iff⟩

private theorem checked_vector (data : Bytes) (start count : Nat) :
    Checked data (start + count) (data.vector start count) := by
  rw [← checked_map_iff, map_vector]
  exact checked_slice data start count

private theorem checked_byte (data : Bytes) (position : Nat) :
    Checked data (position + 1) (data.byte position) := by
  rw [← checked_map_iff, map_byte]
  exact checked_slice data position 1

private theorem checked_u24 (data : Bytes) (start : Nat) :
    Checked data (start + 3) (data.u24 start) := by
  rw [u24_eq_map, checked_map_iff]
  exact checked_slice data start 3

private theorem checked_u32 (data : Bytes) (start : Nat) :
    Checked data (start + 4) (data.u32 start) := by
  rw [u32_eq_map, checked_map_iff]
  exact checked_slice data start 4

/-! ### Positions of 64 bits -/

theorem within_eq_none_iff :
    within start count read = none ↔ UInt64.size ≤ start.toNat + count.toNat := by
  rw [within, Option.map_eq_none_iff, Word64.add?_eq_none_iff]

theorem Checked.answered (h : Checked data finish read) : Answered data finish (some read) := by
  cases hread : read with
  | ok a => exact .field (h.field_iff.mp ⟨a, hread⟩)
  | error cause =>
      obtain ⟨-, rfl⟩ := (h.report_iff cause).mp hread
      exact .report

/-- The outcome of a read up to a position that may or may not be a word. -/
structure Bounded (data : Bytes) (finish : Nat) (outcome : Option (Except Error α)) : Prop where
  /-- The promise is kept where the end is a 64-bit position, and nowhere else. -/
  answered_iff : Answered data finish outcome ↔ finish < UInt64.size
  /-- Elsewhere there is no outcome at all. -/
  absent_iff : outcome = none ↔ UInt64.size ≤ finish
  field_iff : (∃ a, outcome = some (.ok a)) ↔ finish < UInt64.size ∧ finish ≤ data.length
  /-- A report gives the end of the read and the length of the string. -/
  report_iff : ∀ cause, outcome = some (.error cause) ↔
    finish < UInt64.size ∧ data.length < finish ∧ cause = .tooShort finish data.length
  /-- Where an outcome is missing, it would have been a report. -/
  beyond_of_absent : data.length < UInt64.size → outcome = none → data.length < finish

theorem Checked.bounded (h : Checked data finish read)
    (hfinish : start.toNat + count.toNat = finish) :
    Bounded data finish (within start count read) := by
  subst hfinish
  refine ⟨⟨?_, ?_⟩, within_eq_none_iff, ?_, ?_, ?_⟩
  · intro hanswered
    by_contra hover
    have habsent : within start count read = none := within_eq_none_iff.mpr (Nat.not_lt.mp hover)
    -- Neither way to keep the promise is to have no outcome.
    rw [habsent] at hanswered
    cases hanswered
  · intro hfits
    rw [within_eq_some hfits]
    exact h.answered
  · simp only [within_eq_some_iff, exists_and_left, h.field_iff]
  · intro cause
    rw [within_eq_some_iff, h.report_iff]
  · intro hlength habsent
    exact Nat.lt_of_lt_of_le hlength (within_eq_none_iff.mp habsent)

/-- **Every reader answers a read exactly if its end is a 64-bit position.**

Then it answers with a field if the string goes that far, and otherwise reports the end of the
read and the length of the string; there is no other report.  If the end is no such position, there
is no outcome, where a string whose length is such a position owed a report. -/
theorem readers_answer_where_end_fits (data : Bytes) :
    (∀ start count : UInt64,
      Bounded data (start.toNat + count.toNat) (data.sliceAt? start count)) ∧
    (∀ start count : UInt64,
      Bounded data (start.toNat + count.toNat) (data.vectorAt? start count)) ∧
    (∀ start : UInt64, Bounded data (start.toNat + 1) (data.byteAt? start)) ∧
    (∀ start : UInt64, Bounded data (start.toNat + 3) (data.u24At? start)) ∧
    (∀ start : UInt64, Bounded data (start.toNat + 4) (data.u32At? start)) := by
  refine ⟨?_, ?_, ?_, ?_, ?_⟩
  · intro start count
    exact (checked_slice data start.toNat count.toNat).bounded rfl
  · intro start count
    exact (checked_vector data start.toNat count.toNat).bounded rfl
  · intro start
    exact (checked_byte data start.toNat).bounded rfl
  · intro start
    exact (checked_u24 data start.toNat).bounded rfl
  · intro start
    exact (checked_u32 data start.toNat).bounded rfl

-- A read of nothing at the last position still has its end there, and so has its report.
example : sliceAt? [1, 2, 3, 4, 5] 0xFFFFFFFFFFFFFFFF 0 =
    some (.error (.tooShort 0xFFFFFFFFFFFFFFFF 5)) := by
  decide

/-- At the last 64-bit position no reader of a byte or more answers, where it owed the report that
five bytes are too few. -/
theorem unanswered_at_last_position :
    ¬ Answered [1, 2, 3, 4, 5] UInt64.size (sliceAt? [1, 2, 3, 4, 5] 0xFFFFFFFFFFFFFFFF 1) ∧
    ¬ Answered [1, 2, 3, 4, 5] UInt64.size (vectorAt? [1, 2, 3, 4, 5] 0xFFFFFFFFFFFFFFFF 1) ∧
    ¬ Answered [1, 2, 3, 4, 5] UInt64.size (byteAt? [1, 2, 3, 4, 5] 0xFFFFFFFFFFFFFFFF) ∧
    ¬ Answered [1, 2, 3, 4, 5] (UInt64.size + 2) (u24At? [1, 2, 3, 4, 5] 0xFFFFFFFFFFFFFFFF) ∧
    ¬ Answered [1, 2, 3, 4, 5] (UInt64.size + 3) (u32At? [1, 2, 3, 4, 5] 0xFFFFFFFFFFFFFFFF) := by
  refine ⟨?_, ?_, ?_, ?_, ?_⟩ <;> exact nofun

end SmartCard.Bytes
