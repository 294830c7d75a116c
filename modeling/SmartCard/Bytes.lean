/-
Byte strings, the numbers they spell, and how they are written.

Everything that crosses a card reader is a finite string of bytes.  A field that
is wider than a byte is stored with its lowest byte first, so its value is the sum
of `byte k` times `256 ^ k`; `leNat` is that sum, written as the recursion the sum
unfolds to, and `leBytes` spells a number out again in a given width.

Lengths and positions live in a 64-bit address space, where a sum of two lengths is
only a length if it is below `UInt64.size`.  Machine addition would wrap around; here
the sum that does not fit is absent.

In hexadecimal a byte is two lowercase digits, the high half first.  A byte string is
written either compactly, digits only, or spaced, with one blank between two bytes and
none at the ends; `Hex.ofChars?` reads both back.  Numbers inside sentences carry the
mark `0x` and at least as many digits as the place they stand in asks for.
-/

namespace SmartCard

/-! ### Strings and numbers -/

/-- A finite string of bytes, first byte first. -/
abbrev Bytes : Type := List UInt8

namespace Bytes

/-- The number a byte string spells, lowest byte first. -/
def leNat : Bytes → Nat
  | [] => 0
  | b :: rest => b.toNat + 256 * leNat rest

/-- The lowest `width` bytes of a number, lowest byte first. -/
def leBytes : (width : Nat) → Nat → Bytes
  | 0, _ => []
  | width + 1, n => UInt8.ofNat n :: leBytes width (n / 256)

@[simp] theorem length_leBytes (width n : Nat) : (leBytes width n).length = width := by
  induction width generalizing n with
  | zero => rfl
  | succ width ih => simp [leBytes, ih]

end Bytes

/-! ### Lengths in 64 bits -/

namespace Word64

/-- The sum of two lengths, if it fits into 64 bits. -/
def add? (a b : UInt64) : Option UInt64 :=
  if a.toNat + b.toNat < UInt64.size then some (a + b) else none

theorem add?_eq_some_iff {a b c : UInt64} : add? a b = some c ↔ c.toNat = a.toNat + b.toNat := by
  have hc : c.toNat < UInt64.size := c.toNat_lt
  unfold add?
  split
  · rename_i h
    rw [Option.some.injEq, ← UInt64.toNat_inj, UInt64.toNat_add, Nat.mod_eq_of_lt h]
    exact eq_comm
  · rename_i h
    simp only [reduceCtorEq, false_iff]
    omega

theorem add?_eq_none_iff {a b : UInt64} : add? a b = none ↔ UInt64.size ≤ a.toNat + b.toNat := by
  simp [add?]

end Word64

/-! ### Hexadecimal -/

namespace Hex

/-- The two digits of a byte, high half first. -/
def byte (b : UInt8) : List Char :=
  [Nat.digitChar (b.toNat / 16), Nat.digitChar (b.toNat % 16)]

/-- The digits of a byte string with nothing between them. -/
def compact (bytes : Bytes) : String :=
  String.ofList (bytes.flatMap byte)

/-- The bytes of a string with one blank between neighbours. -/
def spaced (bytes : Bytes) : String :=
  String.ofList ([' '].intercalate (bytes.map byte))

/-- The digits of a number, with zeros in front up to `width` digits. -/
def padded (width n : Nat) : List Char :=
  (Nat.toDigits 16 n).leftpad width '0'

/-- A number marked as hexadecimal, in at least `width` digits. -/
def number (width n : Nat) : String :=
  "0x" ++ String.ofList (padded width n)

/-- A byte as a marked number. -/
def code (b : UInt8) : String :=
  number 2 b.toNat

/-- The value of a lowercase digit. -/
def value? (c : Char) : Option Nat :=
  if '0' ≤ c ∧ c ≤ '9' then some (c.toNat - '0'.toNat)
  else if 'a' ≤ c ∧ c ≤ 'f' then some (10 + (c.toNat - 'a'.toNat))
  else none

/-- Reads digits in pairs, skipping blanks between the pairs. -/
def ofChars? : List Char → Option Bytes
  | [] => some []
  | ' ' :: rest => ofChars? rest
  | high :: low :: rest => do
      let h ← value? high
      let l ← value? low
      let bytes ← ofChars? rest
      return UInt8.ofNat (16 * h + l) :: bytes
  | [_] => none

/-- Reads a byte string from either written form. -/
def read? (text : String) : Option Bytes :=
  ofChars? text.toList

end Hex

end SmartCard
