/-
Reading a field where it lies.

A string of `w` bytes spells a number below `256 ^ w`, and every such number is spelled by
exactly one string of `w` bytes: `leNat_leBytes` and `leBytes_leNat` say that value and spelling
undo each other.

A reader names the position its field starts at.  Where a string is taken apart at that
position, into the bytes before the field, the field and the bytes after it, the reader
answers the field, whatever stands before it and after it.  So two facts are enough for
a decoder that reads several fields in a `Row`.

  * A string that is long enough is a row of fields of the widths asked for.
  * In a row, every reader answers the field it is aimed at.

The last section ties a field to the number it spells: a field of three or four bytes
spells exactly one word, and a word below `u24Size`, or any word, is spelled by exactly
one such field.
-/
import Mathlib.Algebra.GroupWithZero.Nat
import Mathlib.Data.List.Basic
import Mathlib.Data.List.SplitLengths
import SmartCard.File.Record

namespace SmartCard.Bytes

/-! ### Value and spelling -/

theorem leNat_lt (bytes : Bytes) : leNat bytes < 256 ^ bytes.length := by
  induction bytes with
  | nil => simp [leNat]
  | cons b rest ih =>
      have hb := b.toNat_lt
      rw [leNat, List.length_cons, Nat.pow_succ]
      omega

/-- Bytes that follow others count from the place behind them on. -/
theorem leNat_append (front back : Bytes) :
    leNat (front ++ back) = leNat front + 256 ^ front.length * leNat back := by
  induction front with
  | nil => simp [leNat]
  | cons b rest ih =>
      rw [List.cons_append, leNat, ih, leNat, List.length_cons, Nat.pow_succ', Nat.mul_add,
        Nat.mul_assoc, Nat.add_assoc]

theorem leNat_leBytes (width n : Nat) (h : n < 256 ^ width) : leNat (leBytes width n) = n := by
  induction width generalizing n with
  | zero => simp at h; simp [leBytes, leNat, h]
  | succ width ih =>
      rw [Nat.pow_succ] at h
      rw [leBytes, leNat, ih (n / 256) (by omega), UInt8.toNat_ofNat']
      omega

theorem leBytes_leNat (bytes : Bytes) : leBytes bytes.length (leNat bytes) = bytes := by
  induction bytes with
  | nil => rfl
  | cons b rest ih =>
      have hb := b.toNat_lt
      have hquot : (b.toNat + 256 * leNat rest) / 256 = leNat rest := by omega
      have hbyte : UInt8.ofNat (b.toNat + 256 * leNat rest) = b := by
        apply UInt8.toNat_inj.mp
        rw [UInt8.toNat_ofNat']
        omega
      simp only [List.length_cons, leNat, leBytes, hquot, ih, hbyte]

variable {before field after data : Bytes} {start count needed : Nat}

/-! ### Enough bytes -/

theorem require_of_le (h : needed ≤ data.length) : data.require needed = .ok () :=
  if_pos h

theorem require_of_lt (h : data.length < needed) :
    data.require needed = .error (.tooShort needed data.length) :=
  if_neg (Nat.not_le.mpr h)

/-- A string that is long enough has a front of the length asked for. -/
theorem exists_front (count : Nat) (data : Bytes) (h : count ≤ data.length) :
    ∃ front back, front.length = count ∧ data = front ++ back := by
  refine ⟨data.take count, data.drop count, ?_, (List.take_append_drop count data).symm⟩
  rw [List.length_take]
  exact Nat.min_eq_left h

theorem exists_four {α : Type} {list : List α} (h : list.length = 4) :
    ∃ a b c d, list = [a, b, c, d] := by
  obtain ⟨a, rest, rfl⟩ := List.exists_cons_of_length_eq_add_one h
  obtain ⟨b, c, d, rfl⟩ := List.length_eq_three.mp (Nat.succ.inj h)
  exact ⟨a, b, c, d, rfl⟩

/-! ### The field between what is before it and what is after it -/

theorem byte_append (b : UInt8) (hstart : before.length = start) :
    (before ++ b :: after).byte start = .ok b := by
  subst hstart
  have hin : before.length < (before ++ b :: after).length := by simp
  rw [byte, dif_pos hin]
  simp

theorem vector_append (hstart : before.length = start) (hcount : field.length = count) :
    (before ++ (field ++ after)).vector start count =
      .ok ⟨field.toArray, by simpa using hcount⟩ := by
  subst hstart hcount
  have hin : before.length + field.length ≤ (before ++ (field ++ after)).length := by
    simp only [List.length_append]
    omega
  rw [vector, dif_pos hin]
  simp

/-! ### Fields in a row -/

/-- Behind the first bytes of the data there are these fields in a row. -/
inductive Row (start : Nat) (widths : List Nat) (fields : List Bytes) : Bytes → Prop
  | mk {header rest : Bytes} (hheader : header.length = start)
      (hwidths : fields.map List.length = widths) :
      Row start widths fields (header ++ (fields.flatten ++ rest))

section Row

variable {widths : List Nat} {fields : List Bytes}

/-- A string is a row of fields of any widths that add up to its length. -/
theorem exists_fields (h : data.length = widths.sum) :
    ∃ fields : List Bytes, fields.map List.length = widths ∧ data = fields.flatten :=
  ⟨widths.splitLengths data, List.map_splitLengths_length data widths h.ge,
    (List.flatten_splitLengths data widths h.le).symm⟩

theorem exists_row (h : start + widths.sum ≤ data.length) :
    ∃ fields, Row start widths fields data := by
  obtain ⟨header, back, hheader, rfl⟩ := exists_front start data (Nat.le_of_add_right_le h)
  rw [List.length_append, hheader] at h
  obtain ⟨front, rest, hfront, rfl⟩ := exists_front widths.sum back (Nat.le_of_add_le_add_left h)
  obtain ⟨fields, hwidths, rfl⟩ := exists_fields hfront
  exact ⟨fields, .mk hheader hwidths⟩

namespace Row

variable (h : Row start widths fields data)
include h

theorem le_length : start + widths.sum ≤ data.length := by
  cases h with
  | mk hheader hwidths =>
      rw [List.length_append, List.length_append, List.length_flatten, hheader, hwidths]
      omega

theorem length_fields : fields.length = widths.length := by
  cases h with
  | mk hheader hwidths => rw [← hwidths, List.length_map]

theorem length_field (i : Nat) {width : Nat} (hfield : fields[i]? = some field)
    (hwidth : widths[i]? = some width) : field.length = width := by
  cases h with
  | mk hheader hwidths =>
      rw [← hwidths, List.getElem?_map, hfield] at hwidth
      exact Option.some.inj hwidth

theorem length_of_replicate {n width : Nat} (hwidths : widths = List.replicate n width) :
    ∀ field ∈ fields, field.length = width := by
  intro field hfield
  cases h with
  | mk hheader heq =>
      have hmem : field.length ∈ List.replicate n width := by
        rw [← hwidths, ← heq]
        exact List.mem_map_of_mem hfield
      exact List.eq_of_mem_replicate hmem

/-- A field lies behind the fields before it. -/
private theorem exists_parts {i : Nat} (hfield : fields[i]? = some field) :
    ∃ before after, before.length = start + (widths.take i).sum ∧
      data = before ++ (field ++ after) := by
  obtain @⟨header, rest, hheader, hwidths⟩ := h
  obtain ⟨hi, rfl⟩ := List.getElem?_eq_some_iff.mp hfield
  refine ⟨header ++ (fields.take i).flatten, (fields.drop (i + 1)).flatten ++ rest, ?_, ?_⟩
  · rw [List.length_append, List.length_flatten, List.map_take, hheader, hwidths]
  · have hfields : fields.flatten =
        (fields.take i).flatten ++ (fields[i] ++ (fields.drop (i + 1)).flatten) := by
      rw [← List.flatten_cons, List.getElem_cons_drop, ← List.flatten_append,
        List.take_append_drop]
    simp only [hfields, List.append_assoc]

theorem byte (i : Nat) {b : UInt8} (hfield : fields[i]? = some [b]) :
    data.byte (start + (widths.take i).sum) = .ok b := by
  obtain ⟨before, after, hbefore, rfl⟩ := h.exists_parts hfield
  exact byte_append b hbefore

theorem u24 (i : Nat) (hfield : fields[i]? = some field) (hwidth : widths[i]? = some 3) :
    data.u24 (start + (widths.take i).sum) = .ok (UInt32.ofNat (leNat field)) := by
  have hlength := h.length_field i hfield hwidth
  obtain ⟨before, after, hbefore, rfl⟩ := h.exists_parts hfield
  rw [Bytes.u24, vector_append hbefore hlength]
  rfl

theorem u32 (i : Nat) (hfield : fields[i]? = some field) (hwidth : widths[i]? = some 4) :
    data.u32 (start + (widths.take i).sum) = .ok (UInt32.ofNat (leNat field)) := by
  have hlength := h.length_field i hfield hwidth
  obtain ⟨before, after, hbefore, rfl⟩ := h.exists_parts hfield
  rw [Bytes.u32, vector_append hbefore hlength]
  rfl

end Row

end Row

/-! ### The number a field spells -/

private theorem u24Size_eq : u24Size = 256 ^ 3 := by
  decide

/-- A field of at most four bytes spells a number that a word can hold. -/
theorem toNat_ofNat_leNat (h : field.length ≤ 4) :
    (UInt32.ofNat (leNat field)).toNat = leNat field := by
  have hlt : leNat field < 256 ^ 4 :=
    Nat.lt_of_lt_of_le (leNat_lt field) (Nat.pow_le_pow_right (by decide) h)
  rw [UInt32.toNat_ofNat']
  exact Nat.mod_eq_of_lt hlt

theorem spellsU24_of_length (h : field.length = 3) :
    SpellsU24 (UInt32.ofNat (leNat field)) field := by
  have hword : (UInt32.ofNat (leNat field)).toNat = leNat field := toNat_ofNat_leNat (by omega)
  refine ⟨?_, ?_⟩
  · rw [hword, u24Size_eq, ← h]
    exact leNat_lt field
  · rw [hword, ← h, leBytes_leNat]

theorem SpellsU24.length {n : UInt32} (h : SpellsU24 n field) : field.length = 3 := by
  rw [h.2, length_leBytes]

theorem SpellsU24.ofNat_leNat {n : UInt32} (h : SpellsU24 n field) :
    UInt32.ofNat (leNat field) = n := by
  have hlt : n.toNat < 256 ^ 3 := by
    rw [← u24Size_eq]
    exact h.1
  rw [h.2, leNat_leBytes 3 n.toNat hlt, UInt32.ofNat_toNat]

/-- These numbers, each in three bytes, one after the other. -/
def SpellsU24s (ns : List UInt32) (data : Bytes) : Prop :=
  (∀ n ∈ ns, n.toNat < u24Size) ∧ data = (ns.map fun n => leBytes 3 n.toNat).flatten

theorem spellsU24s_one_iff {n : UInt32} : SpellsU24s [n] data ↔ SpellsU24 n data := by
  simp [SpellsU24s, SpellsU24]

theorem spellsU24s_three_iff {n₁ n₂ n₃ : UInt32} :
    SpellsU24s [n₁, n₂, n₃] data ↔ ∃ field₁ field₂ field₃, SpellsU24 n₁ field₁ ∧
      SpellsU24 n₂ field₂ ∧ SpellsU24 n₃ field₃ ∧ data = field₁ ++ field₂ ++ field₃ := by
  simp [SpellsU24s, SpellsU24, and_assoc]

theorem SpellsU24s.length {ns : List UInt32} (h : SpellsU24s ns data) :
    data.length = (List.replicate ns.length 3).sum := by
  simp [h.2, List.length_flatten, Function.comp_def, List.map_const']

/-- Fields of three bytes spell the numbers that are read from them. -/
theorem spellsU24s_of_lengths {fields : List Bytes} (h : ∀ field ∈ fields, field.length = 3) :
    SpellsU24s (fields.map fun field => UInt32.ofNat (leNat field)) fields.flatten := by
  refine ⟨?_, ?_⟩
  · intro n hn
    obtain ⟨field, hfield, rfl⟩ := List.mem_map.mp hn
    exact (spellsU24_of_length (h field hfield)).1
  · have hfields : fields.map id =
        fields.map fun field => leBytes 3 (UInt32.ofNat (leNat field)).toNat :=
      List.map_congr_left fun field hfield => (spellsU24_of_length (h field hfield)).2
    rw [List.map_id] at hfields
    rw [List.map_map]
    exact congrArg List.flatten hfields

theorem SpellsU24s.unique {ns ms : List UInt32} (h : SpellsU24s ns data) (h' : SpellsU24s ms data)
    (hlength : ns.length = ms.length) : ns = ms := by
  have hread : ∀ ns : List UInt32, (∀ n ∈ ns, n.toNat < u24Size) →
      (ns.map fun n => leBytes 3 n.toNat).map (fun field => UInt32.ofNat (leNat field)) = ns := by
    intro ns hns
    rw [List.map_map]
    refine (List.map_congr_left fun n hn => ?_).trans (List.map_id ns)
    exact SpellsU24.ofNat_leNat ⟨hns n hn, rfl⟩
  have hfields : (ns.map fun n => leBytes 3 n.toNat) = ms.map fun n => leBytes 3 n.toNat := by
    refine List.eq_iff_flatten_eq.mpr ⟨h.2.symm.trans h'.2, ?_⟩
    simp [Function.comp_def, List.map_const', hlength]
  rw [← hread ns h.1, hfields, hread ms h'.1]

theorem leBytes_ofNat_leNat (h : field.length = 4) :
    leBytes 4 (UInt32.ofNat (leNat field)).toNat = field := by
  rw [toNat_ofNat_leNat (by omega), ← h, leBytes_leNat]

theorem ofNat_leNat_leBytes (n : UInt32) : UInt32.ofNat (leNat (leBytes 4 n.toNat)) = n := by
  have hlt : n.toNat < 256 ^ 4 := n.toNat_lt
  rw [leNat_leBytes 4 n.toNat hlt, UInt32.ofNat_toNat]

theorem leBytes_four_inj {n m : UInt32} (h : leBytes 4 n.toNat = leBytes 4 m.toNat) : n = m := by
  rw [← ofNat_leNat_leBytes n, h, ofNat_leNat_leBytes]

end SmartCard.Bytes
