/-
Access keys and access rights.

The card protects each way of using a file by a key, named by a number below
sixteen.  Two of the numbers name no key: fourteen lets everybody in, and fifteen
lets nobody in.

A file has four rights: to read it, to write it, to do both, and to change the
rights themselves.  Each is a key number, and the four of them fill two bytes: the
first holds `change` in its low half and `readWrite` in its high half, the second
holds `write` and `read` in the same way.
-/
import SmartCard.Error

namespace SmartCard

/-! ### Keys -/

/-- The number of the key that an access right asks for. -/
@[ext] structure AccessKey where
  /-- The number itself. -/
  number : Fin 16
deriving DecidableEq, Repr

namespace AccessKey

/-- Access without any key. -/
def free : AccessKey := ⟨14⟩

/-- No access with any key. -/
def never : AccessKey := ⟨15⟩

/-- The number as a byte. -/
def toByte (key : AccessKey) : UInt8 :=
  UInt8.ofNat key.number.val

/-- The key in the low half of a byte; the high half is not looked at. -/
def ofLowHalf (b : UInt8) : AccessKey :=
  ⟨b.toNat % 16, Nat.mod_lt _ (by decide)⟩

/-- The key in the high half of a byte; the low half is not looked at. -/
def ofHighHalf (b : UInt8) : AccessKey :=
  ⟨b.toNat / 16, by have := b.toNat_lt; omega⟩

/-- The key whose number is the whole byte, if there is one. -/
def ofByte (b : UInt8) : Except Error AccessKey :=
  if h : b.toNat < 16 then .ok ⟨b.toNat, h⟩ else .error (.accessKey b)

@[simp] theorem toNat_toByte (key : AccessKey) : key.toByte.toNat = key.number.val := by
  have := key.number.isLt
  rw [toByte, UInt8.toNat_ofNat', Nat.mod_eq_of_lt (by omega)]

theorem ofByte_eq_ok_iff {b : UInt8} {key : AccessKey} : ofByte b = .ok key ↔ b = key.toByte := by
  rw [← UInt8.toNat_inj, toNat_toByte, ofByte]
  split
  · simp [AccessKey.ext_iff, Fin.ext_iff]
  · have := key.number.isLt
    simp
    omega

/-- The key in words. -/
def text (key : AccessKey) : String :=
  if key = free then "free"
  else if key = never then "never"
  else "key " ++ Hex.number 1 key.number.val

instance : ToString AccessKey := ⟨text⟩

/-- Keys are ordered by number. -/
instance : Ord AccessKey := ⟨fun a b => compare a.number b.number⟩

end AccessKey

/-! ### Rights -/

/-- The keys that a file asks for, by what one wants to do with it. -/
@[ext] structure AccessRights where
  /-- The key for reading. -/
  read : AccessKey
  /-- The key for writing. -/
  write : AccessKey
  /-- The key for reading and writing. -/
  readWrite : AccessKey
  /-- The key for changing these rights. -/
  change : AccessKey
deriving DecidableEq, Repr

namespace AccessRights

/-- The rights packed into two bytes.  Every pair of bytes packs some. -/
def ofBytes (first second : UInt8) : AccessRights :=
  { read := .ofHighHalf second
    write := .ofLowHalf second
    readWrite := .ofHighHalf first
    change := .ofLowHalf first }

/-- The byte with one key in its low half and another in its high half. -/
def pack (low high : AccessKey) : UInt8 :=
  UInt8.ofNat (low.number.val + 16 * high.number.val)

/-- The two bytes that the rights are packed into. -/
def toBytes (rights : AccessRights) : Bytes :=
  [pack rights.change rights.readWrite, pack rights.write rights.read]

theorem ofBytes_pack (rights : AccessRights) :
    ofBytes (pack rights.change rights.readWrite) (pack rights.write rights.read) = rights := by
  obtain ⟨⟨read⟩, ⟨write⟩, ⟨readWrite⟩, ⟨change⟩⟩ := rights
  simp only [ofBytes, pack, AccessKey.ofLowHalf, AccessKey.ofHighHalf, UInt8.toNat_ofNat',
    mk.injEq, AccessKey.mk.injEq, Fin.ext_iff]
  omega

theorem toBytes_ofBytes (first second : UInt8) :
    (ofBytes first second).toBytes = [first, second] := by
  have hpack : ∀ b : UInt8, pack (.ofLowHalf b) (.ofHighHalf b) = b := by
    intro b
    have hb := b.toNat_lt
    apply UInt8.toNat_inj.mp
    simp only [pack, AccessKey.ofLowHalf, AccessKey.ofHighHalf, UInt8.toNat_ofNat']
    omega
  simp only [ofBytes, toBytes, hpack]

/-- Rights are the same if both of their bytes are. -/
theorem eq_iff_pack {rights other : AccessRights} :
    rights = other ↔
      pack rights.change rights.readWrite = pack other.change other.readWrite ∧
      pack rights.write rights.read = pack other.write other.read := by
  refine ⟨?_, ?_⟩
  · intro h
    subst h
    exact ⟨rfl, rfl⟩
  · intro h
    obtain ⟨hfirst, hsecond⟩ := h
    rw [← rights.ofBytes_pack, hfirst, hsecond, other.ofBytes_pack]

/-- The rights in words. -/
def text (rights : AccessRights) : String :=
  "read: " ++ rights.read.text ++ ", write: " ++ rights.write.text
    ++ ", read&write: " ++ rights.readWrite.text ++ ", change: " ++ rights.change.text

instance : ToString AccessRights := ⟨text⟩

end AccessRights

end SmartCard
