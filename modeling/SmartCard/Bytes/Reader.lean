/-
Reading fields out of a byte string.

Every reader names the position it starts at and fails if the string ends before
the field does; the failure says how many bytes the field needed, counted from the
front of the string, and how many there are.  A field is taken whole or not at all.

The readers take any natural number as a position.  A caller who holds positions and
lengths as 64-bit words has one more thing to go wrong: the end of the field, which is
the first thing computed, may not be such a word.  The read then has no outcome at
all, neither a field nor an error, and the readers at 64-bit positions answer `none`.
-/
import SmartCard.Error

namespace SmartCard.Bytes

/-! ### Positions of any size -/

/-- Succeeds if there are at least `needed` bytes. -/
def require (data : Bytes) (needed : Nat) : Except Error Unit :=
  if needed ≤ data.length then .ok () else .error (.tooShort needed data.length)

/-- The `count` bytes from position `start` on. -/
def slice (data : Bytes) (start count : Nat) : Except Error Bytes :=
  if start + count ≤ data.length then .ok ((data.drop start).take count)
  else .error (.tooShort (start + count) data.length)

/-- The byte at a position. -/
def byte (data : Bytes) (position : Nat) : Except Error UInt8 :=
  if h : position < data.length then .ok data[position]
  else .error (.tooShort (position + 1) data.length)

/-- The `count` bytes from position `start` on, with their number in the type. -/
def vector (data : Bytes) (start count : Nat) : Except Error (Vector UInt8 count) :=
  if h : start + count ≤ data.length then
    .ok ⟨((data.drop start).take count).toArray, by
      rw [List.size_toArray, List.length_take, List.length_drop]; omega⟩
  else .error (.tooShort (start + count) data.length)

/-- The three-byte number that starts at a position. -/
def u24 (data : Bytes) (start : Nat) : Except Error UInt32 := do
  let field ← data.vector start 3
  return UInt32.ofNat (leNat field.toList)

/-- The four-byte number that starts at a position. -/
def u32 (data : Bytes) (start : Nat) : Except Error UInt32 := do
  let field ← data.vector start 4
  return UInt32.ofNat (leNat field.toList)

/-! ### Positions of 64 bits -/

/-- The outcome of a read of `count` bytes at `start`, provided its end is a 64-bit
position. -/
def within {α : Type} (start count : UInt64) (read : Except Error α) : Option (Except Error α) :=
  (Word64.add? start count).map fun _ => read

/-- The `count` bytes from a 64-bit position on. -/
def sliceAt? (data : Bytes) (start count : UInt64) : Option (Except Error Bytes) :=
  within start count (data.slice start.toNat count.toNat)

/-- The byte at a 64-bit position. -/
def byteAt? (data : Bytes) (position : UInt64) : Option (Except Error UInt8) :=
  within position 1 (data.byte position.toNat)

/-- The `count` bytes from a 64-bit position on, with their number in the type. -/
def vectorAt? (data : Bytes) (start count : UInt64) :
    Option (Except Error (Vector UInt8 count.toNat)) :=
  within start count (data.vector start.toNat count.toNat)

/-- The three-byte number at a 64-bit position. -/
def u24At? (data : Bytes) (start : UInt64) : Option (Except Error UInt32) :=
  within start 3 (data.u24 start.toNat)

/-- The four-byte number at a 64-bit position. -/
def u32At? (data : Bytes) (start : UInt64) : Option (Except Error UInt32) :=
  within start 4 (data.u32 start.toNat)

end SmartCard.Bytes
