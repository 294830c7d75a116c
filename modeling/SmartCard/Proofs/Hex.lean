/-
The two written forms of a byte string.

A byte is written as two digits, and no digit is a blank.  So a reader that takes digits in
pairs and skips the blanks between the pairs finds every byte where it was written, and spaced
text reads back to the bytes it was written from: `ofChars?_spaced`.  The text of no bytes at
all is empty and reads back as well.

Both forms put the same pieces one after the other, two digits for each byte.  The compact form
is nothing but these pieces.  In the spaced form a blank stands in front of every piece but the
first, so the blanks are exactly at every third place: `getElem?_spaced`.  That is why no blank is
at either end, none is beside another, and taking them out leaves the compact form.

A piece is the byte as a number of at least two digits, and no digit is a blank.  So reading finds
the pieces again, and neither form is shared by two byte strings.
-/
import Mathlib.Data.List.Basic
import SmartCard.Command

namespace SmartCard

/-- What is read back is written differently from anything else. -/
theorem injective_of_read {α β : Type} {write : α → β} {read? : β → Option α}
    (h : ∀ a, read? (write a) = some a) : Function.Injective write := by
  intro a b hwrite
  have hread := h a
  rw [hwrite, h b] at hread
  exact (Option.some.inj hread).symm

namespace Hex

/-! ### Reading back -/

theorem value?_digitChar : ∀ n < 16, value? (Nat.digitChar n) = some n := by
  decide

/-- Two digits are read as a byte, whatever follows them. -/
private theorem ofChars?_pair {high low : Char} {h l : Nat} (hhigh : value? high = some h)
    (hlow : value? low = some l) (rest : List Char) :
    ofChars? (high :: low :: rest) = (ofChars? rest).map (UInt8.ofNat (16 * h + l) :: ·) := by
  have hblank : high ≠ ' ' := by
    rintro rfl
    contradiction
  rw [ofChars?, hhigh, hlow]
  · cases ofChars? rest <;> rfl
  · exact hblank

theorem ofChars?_byte_append (b : UInt8) (rest : List Char) :
    ofChars? (byte b ++ rest) = (ofChars? rest).map (b :: ·) := by
  have hb := b.toNat_lt
  have hhigh : value? (Nat.digitChar (b.toNat / 16)) = some (b.toNat / 16) :=
    value?_digitChar _ (by omega)
  have hlow : value? (Nat.digitChar (b.toNat % 16)) = some (b.toNat % 16) :=
    value?_digitChar _ (by omega)
  have hpair := ofChars?_pair hhigh hlow rest
  rwa [Nat.div_add_mod, UInt8.ofNat_toNat] at hpair

private theorem toList_spaced_singleton (b : UInt8) : (spaced [b]).toList = byte b ++ [] := by
  simp [spaced, List.intercalate]

private theorem toList_spaced_cons (b c : UInt8) (rest : Bytes) :
    (spaced (b :: c :: rest)).toList = byte b ++ ' ' :: (spaced (c :: rest)).toList := by
  simp [spaced, List.intercalate]

/-- Spaced text reads back to its bytes. -/
theorem ofChars?_spaced (bytes : Bytes) : ofChars? (spaced bytes).toList = some bytes := by
  induction bytes with
  | nil => rfl
  | cons b rest ih =>
      cases rest with
      | nil =>
          rw [toList_spaced_singleton, ofChars?_byte_append]
          rfl
      | cons c rest =>
          -- the blank between two bytes is skipped
          have hblank : ofChars? (' ' :: (spaced (c :: rest)).toList) = some (c :: rest) := ih
          rw [toList_spaced_cons, ofChars?_byte_append, hblank]
          rfl

/-! ### The digits of one byte -/

/-- The lowercase digits, by value. -/
def digits : List Char :=
  ['0', '1', '2', '3', '4', '5', '6', '7', '8', '9', 'a', 'b', 'c', 'd', 'e', 'f']

theorem digitChar_mem_digits : ∀ n < 16, Nat.digitChar n ∈ digits := by
  decide

private theorem mem_digits_of_mem_byte {b : UInt8} {c : Char} (h : c ∈ byte b) : c ∈ digits := by
  have hb := b.toNat_lt
  simp only [byte, List.mem_cons, List.not_mem_nil, or_false] at h
  rcases h with rfl | rfl
  · exact digitChar_mem_digits _ (by omega)
  · exact digitChar_mem_digits _ (by omega)

private theorem ne_blank_of_mem_byte {b : UInt8} {c : Char} (h : c ∈ byte b) : c ≠ ' ' := by
  rintro rfl
  have hdigit := mem_digits_of_mem_byte h
  contradiction

/-- The two digits of a byte are the byte as a number, with a zero in front if it is small. -/
theorem byte_eq_padded (b : UInt8) : byte b = padded 2 b.toNat := by
  have hb := b.toNat_lt
  unfold byte padded
  by_cases hsmall : b.toNat < 16
  · rw [Nat.toDigits_of_lt_base hsmall, Nat.div_eq_of_lt hsmall, Nat.mod_eq_of_lt hsmall]
    rfl
  · have hhigh : b.toNat / 16 < 16 := by omega
    rw [Nat.toDigits_eq_if (by decide), if_neg hsmall, Nat.toDigits_of_lt_base hhigh]
    rfl

/-! ### The compact form -/

private theorem toList_compact (bytes : Bytes) : (compact bytes).toList = bytes.flatMap byte := by
  rw [compact, String.toList_ofList]

/-- Pieces of one length are as long together as there are pieces. -/
private theorem length_flatMap (piece : UInt8 → List Char) {size : Nat}
    (h : ∀ b, (piece b).length = size) (bytes : Bytes) :
    (bytes.flatMap piece).length = size * bytes.length := by
  induction bytes with
  | nil => rfl
  | cons b rest ih =>
      rw [List.flatMap_cons, List.length_append, ih, h, List.length_cons, Nat.mul_succ,
        Nat.add_comm]

theorem compact_append (bytes more : Bytes) :
    compact (bytes ++ more) = compact bytes ++ compact more := by
  rw [compact, List.flatMap_append, String.ofList_append]
  rfl

/-- Compact text reads back to its bytes. -/
theorem ofChars?_compact (bytes : Bytes) : ofChars? (compact bytes).toList = some bytes := by
  rw [toList_compact]
  induction bytes with
  | nil => rfl
  | cons b rest ih =>
      rw [List.flatMap_cons, ofChars?_byte_append, ih]
      rfl

/-! ### The spaced form -/

/-- A blank and a byte: what every byte but the first adds to the spaced form. -/
def further (b : UInt8) : List Char :=
  ' ' :: byte b

private theorem toList_spaced (b : UInt8) (rest : Bytes) :
    (spaced (b :: rest)).toList = byte b ++ rest.flatMap further := by
  induction rest generalizing b with
  | nil => exact toList_spaced_singleton b
  | cons c rest ih =>
      rw [toList_spaced_cons, ih c]
      rfl

theorem length_toList_spaced (bytes : Bytes) :
    (spaced bytes).toList.length = 3 * bytes.length - 1 := by
  cases bytes with
  | nil => rfl
  | cons b rest =>
      have hrest : (rest.flatMap further).length = 3 * rest.length :=
        length_flatMap further (fun _ => rfl) rest
      rw [toList_spaced, List.length_append, hrest, List.length_cons]
      show 2 + 3 * rest.length = 3 * (rest.length + 1) - 1
      omega

/-- The spaced forms of two parts are joined by a blank. -/
theorem spaced_append (b c : UInt8) (rest more : Bytes) :
    spaced ((b :: rest) ++ (c :: more)) = spaced (b :: rest) ++ " " ++ spaced (c :: more) := by
  apply String.toList_inj.mp
  have hblank : " ".toList = [' '] := rfl
  rw [List.cons_append, toList_spaced, List.flatMap_append, List.flatMap_cons, String.toList_append,
    String.toList_append, toList_spaced, toList_spaced, hblank]
  simp only [further, List.append_assoc, List.cons_append, List.nil_append]

/-- Without its blanks the spaced form is the compact one. -/
theorem filter_spaced (bytes : Bytes) :
    (spaced bytes).toList.filter (· ≠ ' ') = (compact bytes).toList := by
  have hbyte : ∀ b, (byte b).filter (· ≠ ' ') = byte b := by
    intro b
    rw [List.filter_eq_self]
    intro c hc
    simpa using ne_blank_of_mem_byte hc
  have hfurther : ∀ rest : Bytes,
      (rest.flatMap further).filter (· ≠ ' ') = rest.flatMap byte := by
    intro rest
    induction rest with
    | nil => rfl
    | cons b rest ih =>
        have hblank : (further b).filter (· ≠ ' ') = byte b := hbyte b
        rw [List.flatMap_cons, List.filter_append, hblank, ih, List.flatMap_cons]
  rw [toList_compact]
  cases bytes with
  | nil => rfl
  | cons b rest => rw [toList_spaced, List.filter_append, hbyte, hfurther, List.flatMap_cons]

private theorem getElem?_flatMap_further (bytes : Bytes) (place : Nat) :
    (bytes.flatMap further)[place]? = some ' ' ↔ place % 3 = 0 ∧ place < 3 * bytes.length := by
  induction bytes generalizing place with
  | nil => simp
  | cons b rest ih =>
      have hpiece : (b :: rest).flatMap further =
          ' ' :: Nat.digitChar (b.toNat / 16) :: Nat.digitChar (b.toNat % 16) ::
            rest.flatMap further := rfl
      rw [hpiece, List.length_cons]
      rcases place with _ | _ | _ | place
      · simp
      · simp
      · simp
      · rw [List.getElem?_cons_succ, List.getElem?_cons_succ, List.getElem?_cons_succ, ih]
        omega

/-- The blanks of the spaced form are at every third place. -/
theorem getElem?_spaced (bytes : Bytes) (place : Nat) :
    (spaced bytes).toList[place]? = some ' ' ↔
      place % 3 = 2 ∧ place < 3 * bytes.length - 1 := by
  cases bytes with
  | nil => simp [spaced]
  | cons b rest =>
      have hfirst : (spaced (b :: rest)).toList =
          Nat.digitChar (b.toNat / 16) :: Nat.digitChar (b.toNat % 16) ::
            rest.flatMap further := toList_spaced b rest
      rw [hfirst, List.length_cons]
      rcases place with _ | _ | place
      · simp
      · simp
      · rw [List.getElem?_cons_succ, List.getElem?_cons_succ, getElem?_flatMap_further]
        omega

/-- No blank is at the front or at the end, and none is beside another. -/
theorem blanks_apart (bytes : Bytes) :
    (spaced bytes).toList.head? ≠ some ' ' ∧ (spaced bytes).toList.getLast? ≠ some ' ' ∧
      ¬ [' ', ' '] <:+: (spaced bytes).toList := by
  refine ⟨?_, ?_, ?_⟩
  · rw [List.head?_eq_getElem?, ne_eq, getElem?_spaced]
    omega
  · rw [List.getLast?_eq_getElem?, ne_eq, getElem?_spaced, length_toList_spaced]
    omega
  · rintro ⟨before, after, h⟩
    -- Two blanks side by side would both be at every third place.
    have hfirst : (spaced bytes).toList[before.length]? = some ' ' := by
      rw [← h]
      simp
    have hsecond : (spaced bytes).toList[before.length + 1]? = some ' ' := by
      rw [← h]
      simp
    rw [getElem?_spaced] at hfirst hsecond
    omega

/-! ### The spaced form, byte by byte -/

/-- The spaced form written from the first byte to the last: a blank goes in front of every byte
that is not at place zero. -/
def streamed (bytes : Bytes) : String :=
  String.ofList (bytes.zipIdx.flatMap fun piece =>
    (if piece.2 ≠ 0 then [' '] else []) ++ byte piece.1)

private theorem flatMap_zipIdx_succ (bytes : Bytes) (place : Nat) :
    ((bytes.zipIdx (place + 1)).flatMap fun piece =>
      (if piece.2 ≠ 0 then [' '] else []) ++ byte piece.1) = bytes.flatMap further := by
  induction bytes generalizing place with
  | nil => rfl
  | cons b rest ih =>
      rw [List.zipIdx_cons, List.flatMap_cons, ih (place + 1), List.flatMap_cons]
      rfl

theorem streamed_eq (bytes : Bytes) : streamed bytes = spaced bytes := by
  cases bytes with
  | nil => rfl
  | cons b rest =>
      apply String.toList_inj.mp
      rw [streamed, String.toList_ofList, List.zipIdx_cons, List.flatMap_cons,
        flatMap_zipIdx_succ, toList_spaced]
      rfl

/-! ### What the forms tell -/

theorem read?_compact (bytes : Bytes) : read? (compact bytes) = some bytes :=
  ofChars?_compact bytes

theorem read?_spaced (bytes : Bytes) : read? (spaced bytes) = some bytes :=
  ofChars?_spaced bytes

theorem compact_injective : Function.Injective compact :=
  injective_of_read read?_compact

theorem spaced_injective : Function.Injective spaced :=
  injective_of_read read?_spaced

theorem byte_injective : Function.Injective byte := by
  intro b c h
  have hspaced : spaced [b] = spaced [c] := by
    apply String.toList_inj.mp
    rw [toList_spaced_singleton, toList_spaced_singleton, h]
  exact List.singleton_inj.mp (spaced_injective hspaced)

end Hex

theorem Response.text_injective : Function.Injective Response.text := by
  intro response other h
  obtain ⟨status, payload⟩ := response
  obtain ⟨status', payload'⟩ := other
  -- The two digits of the status are as many on both sides, and so is the bracket behind them.
  have hlist := congrArg String.toList h
  simp only [text, String.toList_append, String.toList_ofList, List.append_assoc] at hlist
  obtain ⟨hstatus, hrest⟩ := List.append_inj hlist rfl
  have hpayload := List.append_cancel_right (List.append_cancel_left hrest)
  rw [Hex.byte_injective hstatus, Hex.spaced_injective (String.toList_inj.mp hpayload)]

namespace Hex

/-- **Hexadecimal text keeps the bytes, and its two forms differ in blanks alone.**

The compact form is two lowercase digits for each byte, the form of two parts is the form of the
one followed by that of the other, and it reads back.  The spaced form, written byte by byte or
put together at the end, has a blank between neighbours and nowhere else: without its blanks it is
the compact form, and the forms of two parts, if neither is empty, are joined by one blank.  So
different byte strings differ in either form, and different responses in their text. -/
theorem forms_agree :
    (∀ bytes, (compact bytes).toList = bytes.flatMap fun b => padded 2 b.toNat) ∧
    (∀ bytes, (∀ c ∈ (compact bytes).toList, c ∈ digits) ∧
      (compact bytes).length = 2 * bytes.length ∧ read? (compact bytes) = some bytes) ∧
    (∀ bytes more, compact (bytes ++ more) = compact bytes ++ compact more) ∧
    (∀ bytes, streamed bytes = spaced bytes) ∧
    (∀ bytes, (spaced bytes).toList.head? ≠ some ' ' ∧ (spaced bytes).toList.getLast? ≠ some ' ' ∧
      ¬ [' ', ' '] <:+: (spaced bytes).toList) ∧
    spaced [] = "" ∧
    (∀ b rest, (spaced (b :: rest)).length = 3 * (b :: rest).length - 1) ∧
    (∀ bytes, String.ofList ((spaced bytes).toList.filter (· ≠ ' ')) = compact bytes) ∧
    (∀ b c rest more,
      spaced ((b :: rest) ++ (c :: more)) = spaced (b :: rest) ++ " " ++ spaced (c :: more)) ∧
    (∀ bytes, read? (spaced bytes) = some bytes) ∧
    Function.Injective compact ∧ Function.Injective spaced ∧
      Function.Injective Response.text := by
  refine ⟨?_, fun bytes => ⟨?_, ?_, read?_compact bytes⟩, compact_append, streamed_eq,
    blanks_apart, rfl, ?_, ?_, spaced_append, read?_spaced, compact_injective,
    spaced_injective, Response.text_injective⟩
  · intro bytes
    rw [toList_compact, funext byte_eq_padded]
  · intro c hc
    rw [toList_compact, List.mem_flatMap] at hc
    obtain ⟨b, -, hc⟩ := hc
    exact mem_digits_of_mem_byte hc
  · rw [← String.length_toList, toList_compact]
    exact length_flatMap byte (fun _ => rfl) bytes
  · intro b rest
    rw [← String.length_toList, length_toList_spaced]
  · intro bytes
    rw [filter_spaced, String.ofList_toList]

-- Small bytes keep their leading zero in both forms.
example : compact [0x00, 0x0f, 0x90] = "000f90" ∧ spaced [0x00, 0x0f, 0x90] = "00 0f 90" := by
  decide

end Hex

end SmartCard
