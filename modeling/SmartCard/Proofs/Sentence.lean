/-
Where a field of a sentence ends.

Sentences about failures and settings are fixed words with fields between them, and nothing in
them says how long a field is.  Two things give a field's end away all the same.

  * The fixed words behind the field start with a character that the field cannot have in it.  A
    decimal number has nothing but digits in it, a hexadecimal one nothing but digits and the `x`
    of its mark.
  * What stands behind the field is always as long.

Either way two sentences that read alike have the same fields: `eq_of_parted` and
`eq_of_length_eq`.  The rest of the module is about the numbers: how they are read back, whatever
width they were padded to, and what is in them.
-/
import Mathlib.Algebra.Group.Nat.Defs
import Mathlib.Data.Nat.Init
import SmartCard.Proofs.Hex

namespace SmartCard

namespace Sentence

/-! ### Ends of fields -/

variable {stem front front' back back' : String}

/-- Lists that are parted by a first mark are parted in one way. -/
theorem eq_of_cut {α : Type} {mark : α} {front front' back back' : List α} (h : mark ∉ front)
    (h' : mark ∉ front') (heq : front ++ mark :: back = front' ++ mark :: back') :
    front = front' ∧ back = back' := by
  induction front generalizing front' with
  | nil =>
      cases front' with
      | nil => exact ⟨rfl, List.tail_eq_of_cons_eq heq⟩
      | cons a front' =>
          have hmark : mark = a := List.head_eq_of_cons_eq heq
          exact absurd (hmark ▸ List.mem_cons_self) h'
  | cons a front ih =>
      cases front' with
      | nil =>
          have hmark : a = mark := List.head_eq_of_cons_eq heq
          exact absurd (hmark ▸ List.mem_cons_self) h
      | cons b front' =>
          obtain ⟨hfront, hback⟩ := ih (fun hmem => h (List.mem_cons_of_mem a hmem))
            (fun hmem => h' (List.mem_cons_of_mem b hmem)) (List.tail_eq_of_cons_eq heq)
          rw [List.head_eq_of_cons_eq heq, hfront]
          exact ⟨rfl, hback⟩

variable {words : String} {rest : List Char}

/-- What stands in front of fixed words, and what behind them, if the first character of the words
is not in what stands in front of them. -/
theorem eq_of_parted (mark : Char) (hwords : words.toList = mark :: rest)
    (h : mark ∉ front.toList) (h' : mark ∉ front'.toList)
    (heq : front ++ (words ++ back) = front' ++ (words ++ back')) :
    front = front' ∧ back = back' := by
  have hlist := congrArg String.toList heq
  simp only [String.toList_append, hwords, List.cons_append] at hlist
  obtain ⟨hfront, hrest⟩ := eq_of_cut h h' hlist
  exact ⟨String.toList_inj.mp hfront, String.toList_inj.mp (List.append_cancel_left hrest)⟩

/-- The same behind a common stem, as sentences are written. -/
theorem eq_of_parted_behind (mark : Char) (hwords : words.toList = mark :: rest)
    (h : mark ∉ front.toList) (h' : mark ∉ front'.toList)
    (heq : stem ++ front ++ words ++ back = stem ++ front' ++ words ++ back') :
    front = front' ∧ back = back' := by
  simp only [String.append_assoc, String.append_right_inj] at heq
  exact eq_of_parted mark hwords h h' heq

/-- What stands in front of a text of known length. -/
theorem eq_of_length_eq (hlength : back.length = back'.length)
    (heq : front ++ back = front' ++ back') : front = front' ∧ back = back' := by
  have hlist := congrArg String.toList heq
  rw [String.toList_append, String.toList_append] at hlist
  obtain ⟨hfront, hback⟩ := List.append_inj' hlist hlength
  exact ⟨String.toList_inj.mp hfront, String.toList_inj.mp hback⟩

/-! ### Decimal numbers -/

theorem notMem_decimal {c : Char} (h : c.isDigit = false) (n : Nat) :
    c ∉ (toString n).toList := by
  intro hmem
  rw [Nat.toString_eq_ofList_toDigits, String.toList_ofList] at hmem
  rw [Nat.isDigit_of_mem_toDigits (by decide) (by decide) hmem] at h
  contradiction

theorem eq_of_decimal_eq {n m : Nat} (h : toString n = toString m) : n = m := by
  rw [Nat.toString_eq_ofList_toDigits, Nat.toString_eq_ofList_toDigits, String.ofList_inj] at h
  rw [← Nat.ofDigitChars_ten_toDigits (n := n), h, Nat.ofDigitChars_ten_toDigits]

end Sentence

/-! ### Hexadecimal numbers -/

namespace Hex

/-- The number that digits spell, highest digit first. -/
def spelled (digits : List Char) : Nat :=
  digits.foldl (fun n c => 16 * n + (value? c).getD 0) 0

private theorem spelled_concat (front : List Char) {d : Nat} (hd : d < 16) :
    spelled (front ++ [Nat.digitChar d]) = 16 * spelled front + d := by
  rw [spelled, List.foldl_append, List.foldl_cons, value?_digitChar d hd]
  rfl

private theorem spelled_toDigits (n : Nat) : spelled (Nat.toDigits 16 n) = n := by
  induction n using Nat.strong_induction_on with
  | _ n ih =>
      rw [Nat.toDigits_eq_if (by decide)]
      by_cases hsmall : n < 16
      · rw [if_pos hsmall]
        show spelled ([] ++ [Nat.digitChar n]) = n
        rw [spelled_concat [] hsmall]
        show 16 * 0 + n = n
        omega
      · rw [if_neg hsmall, spelled_concat _ (Nat.mod_lt n (by decide)), ih (n / 16) (by omega)]
        omega

private theorem spelled_zeros_append (count : Nat) (rest : List Char) :
    spelled (List.replicate count '0' ++ rest) = spelled rest := by
  induction count with
  | zero => rfl
  | succ count ih =>
      rw [List.replicate_succ, List.cons_append, ← ih]
      rfl

/-- Zeros in front do not change the number. -/
private theorem spelled_padded (width n : Nat) : spelled (padded width n) = n := by
  unfold padded List.leftpad
  rw [spelled_zeros_append, spelled_toDigits]

theorem number_injective (width : Nat) : Function.Injective (number width) := by
  intro n m h
  have hdigits : padded width n = padded width m :=
    String.ofList_inj.mp ((String.append_right_inj "0x").mp h)
  rw [← spelled_padded width n, hdigits, spelled_padded]

theorem code_injective : Function.Injective code := by
  intro b c h
  exact UInt8.toNat_inj.mp (number_injective 2 h)

private theorem mem_digits_of_mem_toDigits {c : Char} {n : Nat} (h : c ∈ Nat.toDigits 16 n) :
    c ∈ digits := by
  induction n using Nat.strong_induction_on with
  | _ n ih =>
      rw [Nat.toDigits_eq_if (by decide)] at h
      by_cases hsmall : n < 16
      · rw [if_pos hsmall, List.mem_singleton] at h
        exact h ▸ digitChar_mem_digits n hsmall
      · rw [if_neg hsmall, List.mem_append, List.mem_singleton] at h
        rcases h with hfront | hlast
        · exact ih (n / 16) (by omega) hfront
        · exact hlast ▸ digitChar_mem_digits (n % 16) (Nat.mod_lt n (by decide))

theorem notMem_number {c : Char} (h : c ∉ 'x' :: digits) (width n : Nat) :
    c ∉ (number width n).toList := by
  intro hmem
  have hmark : "0x".toList = ['0', 'x'] := rfl
  rw [number, String.toList_append, hmark, String.toList_ofList, padded, List.leftpad] at hmem
  simp only [List.cons_append, List.nil_append, List.mem_cons, List.mem_append,
    List.mem_replicate] at hmem
  rcases hmem with rfl | rfl | ⟨-, rfl⟩ | hdigit
  · exact h (by decide)
  · exact h (by decide)
  · exact h (by decide)
  · exact h (List.mem_cons_of_mem 'x' (mem_digits_of_mem_toDigits hdigit))

/-- A number that does not need more digits than there are places has that many. -/
theorem length_number {width n : Nat} (hwidth : 0 < width) (h : n < 16 ^ width) :
    (number width n).length = 2 + width := by
  have hfits : (Nat.toDigits 16 n).length ≤ width :=
    (Nat.length_toDigits_le_iff (by decide) hwidth).mpr h
  have hmark : "0x".length = 2 := rfl
  rw [number, String.length_append, hmark, String.length_ofList, padded, List.length_leftpad,
    Nat.max_eq_left hfits]

end Hex

/-! ### Sentences with two numbers -/

namespace Sentence

variable {stem words : String} {rest : List Char}

/-- Two lengths with words between them. -/
theorem eq_of_decimals_eq (mark : Char) (hwords : words.toList = mark :: rest)
    (hmark : mark.isDigit = false) {n n' m m' : Nat}
    (heq : stem ++ toString n ++ words ++ toString m =
      stem ++ toString n' ++ words ++ toString m') : n = n' ∧ m = m' := by
  obtain ⟨hfront, hback⟩ := eq_of_parted_behind mark hwords (notMem_decimal hmark n)
    (notMem_decimal hmark n') heq
  exact ⟨eq_of_decimal_eq hfront, eq_of_decimal_eq hback⟩

/-- Two bytes with words between them. -/
theorem eq_of_codes_eq (mark : Char) (hwords : words.toList = mark :: rest)
    (hmark : mark ∉ 'x' :: Hex.digits) {b b' c c' : UInt8}
    (heq : stem ++ Hex.code b ++ words ++ Hex.code c =
      stem ++ Hex.code b' ++ words ++ Hex.code c') : b = b' ∧ c = c' := by
  obtain ⟨hfront, hback⟩ := eq_of_parted_behind mark hwords (Hex.notMem_number hmark 2 b.toNat)
    (Hex.notMem_number hmark 2 b'.toNat) heq
  exact ⟨Hex.code_injective hfront, Hex.code_injective hback⟩

end Sentence

end SmartCard
