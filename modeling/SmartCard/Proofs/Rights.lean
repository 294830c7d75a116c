/-
Every key keeps to its own four bits.

Put into two bytes, the four rights are joined in one word: each number is shifted to a place of
its own, and nothing is cut off.  That goes wrong for a number of more than four bits, which runs
into the number beside it, and for no other: `nibble_join_iff`.  So whether rights survive being
packed is a question of where keys come from, and every way to come by a key is gone through
here: half of a byte, a whole byte, two bytes of rights, and data in either form.

The bytes are given arithmetically in the definitions, as sums of multiples of sixteen.
`word_pack` and `inPlace_iff_ofBytes` say that shifting and joining come to the same.
-/
import Mathlib.Data.Nat.Bitwise
import Mathlib.Tactic.MkIffOfInductiveProp
import SmartCard.Proofs.Json.Form

namespace SmartCard

theorem AccessKey.toNat_toByte_lt (key : AccessKey) : key.toByte.toNat < 16 := by
  rw [toNat_toByte]
  exact key.number.isLt

namespace AccessRights

/-! ### Four places in a word -/

/-- Four numbers in one word, each shifted to its place and none cut to size. -/
def join (read write readWrite change : UInt8) : UInt16 :=
  change.toUInt16 ||| readWrite.toUInt16 <<< 4 ||| write.toUInt16 <<< 8 ||| read.toUInt16 <<< 12

/-- The four bits of a word that start at a place. -/
def nibble (word place : UInt16) : UInt8 :=
  (word >>> place).toUInt8 &&& 0x0F

private theorem or_shiftLeft {n m : Nat} (place : Nat) (h : n < 2 ^ place) :
    n ||| m <<< place = n + 2 ^ place * m := by
  rw [Nat.or_comm, ← Nat.shiftLeft_add_eq_or_of_lt h, Nat.shiftLeft_eq, Nat.mul_comm, Nat.add_comm]

private theorem toNat_join {read write readWrite change : UInt8} (hread : read.toNat < 16)
    (hwrite : write.toNat < 16) (hreadWrite : readWrite.toNat < 16) (hchange : change.toNat < 16) :
    (join read write readWrite change).toNat =
      change.toNat + 2 ^ 4 * readWrite.toNat + 2 ^ 8 * write.toNat + 2 ^ 12 * read.toNat := by
  have hfits : ∀ {n : Nat}, n < 16 → n <<< 4 % 2 ^ 16 = n <<< 4 ∧ n <<< 8 % 2 ^ 16 = n <<< 8 ∧
      n <<< 12 % 2 ^ 16 = n <<< 12 := by
    intro n hn
    simp only [Nat.shiftLeft_eq]
    omega
  have hplace : UInt16.toNat 4 % 16 = 4 ∧ UInt16.toNat 8 % 16 = 8 ∧ UInt16.toNat 12 % 16 = 12 := by
    decide
  simp only [join, UInt16.toNat_or, UInt16.toNat_shiftLeft, UInt8.toNat_toUInt16, hplace,
    hfits hreadWrite, hfits hwrite, hfits hread]
  -- The numbers join from the lowest place up, each above what is already there.
  rw [or_shiftLeft 4 (by omega), or_shiftLeft 8 (by omega), or_shiftLeft 12 (by omega)]

private theorem toNat_and_mask (b : UInt8) : (b &&& 0x0F).toNat = b.toNat % 16 := by
  have hmask : UInt8.toNat 0x0F = 2 ^ 4 - 1 := rfl
  rw [UInt8.toNat_and, hmask, Nat.and_two_pow_sub_one_eq_mod]

private theorem toNat_nibble (word : UInt16) {place : UInt16} (hplace : place.toNat < 16) :
    (nibble word place).toNat = word.toNat / 2 ^ place.toNat % 16 := by
  rw [nibble, toNat_and_mask, UInt16.toNat_toUInt8, UInt16.toNat_shiftRight,
    Nat.shiftRight_eq_div_pow, Nat.mod_eq_of_lt hplace]
  omega

private theorem toNat_nibbles (word : UInt16) :
    (nibble word 0).toNat = word.toNat % 16 ∧ (nibble word 4).toNat = word.toNat / 2 ^ 4 % 16 ∧
    (nibble word 8).toNat = word.toNat / 2 ^ 8 % 16 ∧
    (nibble word 12).toNat = word.toNat / 2 ^ 12 % 16 := by
  refine ⟨?_, ?_, ?_, ?_⟩
  · rw [toNat_nibble word (by decide)]
    exact congrArg (· % 16) (Nat.div_one _)
  all_goals exact toNat_nibble word (by decide)

/-- Four numbers are found in the word that they were joined in if and only if none of them has
more than four bits. -/
theorem nibble_join_iff {read write readWrite change : UInt8} :
    (nibble (join read write readWrite change) 0 = change ∧
      nibble (join read write readWrite change) 4 = readWrite ∧
      nibble (join read write readWrite change) 8 = write ∧
      nibble (join read write readWrite change) 12 = read) ↔
    read.toNat < 16 ∧ write.toNat < 16 ∧ readWrite.toNat < 16 ∧ change.toNat < 16 := by
  simp only [← UInt8.toNat_inj, toNat_nibbles]
  refine ⟨?_, ?_⟩
  · intro h
    omega
  · intro h
    obtain ⟨hread, hwrite, hreadWrite, hchange⟩ := h
    rw [toNat_join hread hwrite hreadWrite hchange]
    omega

/-! ### Rights in two bytes -/

/-- The word that two bytes spell, lowest byte first. -/
def word (first second : UInt8) : UInt16 :=
  first.toUInt16 ||| second.toUInt16 <<< 8

private theorem toNat_word (first second : UInt8) :
    (word first second).toNat = first.toNat + 2 ^ 8 * second.toNat := by
  have hplace : UInt16.toNat 8 % 16 = 8 := rfl
  have hfits : second.toNat <<< 8 % 2 ^ 16 = second.toNat <<< 8 := by
    have := second.toNat_lt
    rw [Nat.shiftLeft_eq]
    omega
  rw [word, UInt16.toNat_or, UInt16.toNat_shiftLeft, UInt8.toNat_toUInt16, UInt8.toNat_toUInt16,
    hplace, hfits, or_shiftLeft 8 first.toNat_lt]

/-- The bytes are the rights: each key is in its own four bits. -/
@[mk_iff] structure InPlace (rights : AccessRights) (first second : UInt8) : Prop where
  change : nibble (word first second) 0 = rights.change.toByte
  readWrite : nibble (word first second) 4 = rights.readWrite.toByte
  write : nibble (word first second) 8 = rights.write.toByte
  read : nibble (word first second) 12 = rights.read.toByte

theorem inPlace_iff_ofBytes {rights : AccessRights} {first second : UInt8} :
    rights.InPlace first second ↔ ofBytes first second = rights := by
  have hfirst := first.toNat_lt
  have hsecond := second.toNat_lt
  simp only [inPlace_iff, AccessRights.ext_iff, AccessKey.ext_iff, Fin.ext_iff, ofBytes,
    AccessKey.ofLowHalf, AccessKey.ofHighHalf, ← UInt8.toNat_inj, toNat_nibbles, toNat_word,
    AccessKey.toNat_toByte]
  omega

theorem word_pack (rights : AccessRights) :
    word (pack rights.change rights.readWrite) (pack rights.write rights.read) =
      join rights.read.toByte rights.write.toByte rights.readWrite.toByte rights.change.toByte := by
  have hread := rights.read.number.isLt
  have hwrite := rights.write.number.isLt
  have hreadWrite := rights.readWrite.number.isLt
  have hchange := rights.change.number.isLt
  apply UInt16.toNat_inj.mp
  rw [toNat_word, toNat_join rights.read.toNat_toByte_lt rights.write.toNat_toByte_lt
    rights.readWrite.toNat_toByte_lt rights.change.toNat_toByte_lt]
  simp only [pack, UInt8.toNat_ofNat', AccessKey.toNat_toByte]
  omega

theorem inPlace_pack (rights : AccessRights) :
    rights.InPlace (pack rights.change rights.readWrite) (pack rights.write rights.read) := by
  rw [inPlace_iff, word_pack]
  exact nibble_join_iff.mpr ⟨rights.read.toNat_toByte_lt, rights.write.toNat_toByte_lt,
    rights.readWrite.toNat_toByte_lt, rights.change.toNat_toByte_lt⟩

theorem toBytes_injective : Function.Injective toBytes := by
  intro rights rights' h
  obtain ⟨hfirst, hsecond⟩ := List.cons_eq_cons.mp h
  obtain ⟨hsecond, -⟩ := List.cons_eq_cons.mp hsecond
  exact eq_iff_pack.mpr ⟨hfirst, hsecond⟩

end AccessRights

/-! ### Where keys come from -/

namespace AccessKey

theorem toByte_ofLowHalf (b : UInt8) : (ofLowHalf b).toByte = b &&& 0x0F := by
  rw [← UInt8.toNat_inj, toNat_toByte, AccessRights.toNat_and_mask]
  rfl

theorem ofByte_eq_error_iff {b : UInt8} {cause : Error} :
    ofByte b = .error cause ↔ 16 ≤ b.toNat ∧ cause = .accessKey b := by
  unfold ofByte
  split <;> simp [eq_comm] <;> omega

/-- An integer is a key if and only if it has four bits. -/
theorem exists_toJson_eq_int_iff {n : Int} :
    (∃ key : AccessKey, key.toJson = .int n) ↔ 0 ≤ n ∧ n < 16 := by
  refine ⟨?_, ?_⟩
  · intro h
    obtain ⟨key, hkey⟩ := h
    have hlt := key.number.isLt
    rw [toJson, Json.nat, Json.int.injEq, Int.ofNat_eq_natCast] at hkey
    omega
  · intro h
    refine ⟨⟨⟨n.toNat, by omega⟩⟩, ?_⟩
    rw [toJson, Json.nat, Json.int.injEq]
    exact Int.toNat_of_nonneg h.1

end AccessKey

/-- Data is read as rights if and only if its four fields are integers of four bits. -/
theorem AccessRights.exists_ofJson?_iff {json : Json} :
    (∃ rights, ofJson? json = some rights) ↔
      ∃ read write readWrite change : Int,
        json.Holds fieldNames [.int read, .int write, .int readWrite, .int change] ∧
        ∀ n ∈ [read, write, readWrite, change], 0 ≤ n ∧ n < 16 := by
  simp only [ofJson?_eq_some_iff, List.forall_mem_cons, List.not_mem_nil, false_implies,
    implies_true, and_true, ← AccessKey.exists_toJson_eq_int_iff]
  refine ⟨?_, ?_⟩
  · intro h
    obtain ⟨rights, h⟩ := h
    exact ⟨_, _, _, _, h, ⟨rights.read, rfl⟩, ⟨rights.write, rfl⟩, ⟨rights.readWrite, rfl⟩,
      ⟨rights.change, rfl⟩⟩
  · intro h
    obtain ⟨_, _, _, _, h, ⟨read, hread⟩, ⟨write, hwrite⟩, ⟨readWrite, hreadWrite⟩,
      ⟨change, hchange⟩⟩ := h
    rw [← hread, ← hwrite, ← hreadWrite, ← hchange] at h
    exact ⟨⟨read, write, readWrite, change⟩, h⟩

/-- What settings have for rights is read as rights, and every field of those is a key. -/
theorem FileSettings.rights_of_field {json rights : Json} {settings : FileSettings}
    (h : ofJson? json = some settings) (hrights : json.Field fieldNames "permissions" rights) :
    AccessRights.ofJson? rights = some settings.rights := by
  obtain ⟨mode, found, kind, hholds, -, hfound, -⟩ := ofJson?_eq_some_iff.mp h
  have hmem := hholds.mem_of_field (by decide) hrights
  obtain rfl : rights = found := by simpa [fieldNames] using hmem
  exact hfound

theorem AccessRights.key_of_field {json field : Json} {rights : AccessRights} {name : String}
    (h : ofJson? json = some rights) (hname : name ∈ fieldNames)
    (hfield : json.Field fieldNames name field) : ∃ key : AccessKey, key.toJson = field := by
  have hmem := (ofJson?_eq_some_iff.mp h).mem_of_field hname hfield
  have htoFields := (List.of_mem_zip hmem).2
  simp only [toFields, List.mem_cons, List.not_mem_nil, or_false] at htoFields
  rcases htoFields with rfl | rfl | rfl | rfl <;> exact ⟨_, rfl⟩

/-! ### Keys keep to their places -/

/-- Every key has four bits, wherever it comes from, and keeps to its own four bits in the two
bytes of rights.

Data is read as a key, or as rights, only if the numbers in it have four bits, and then as those
numbers; one key that is too wide is enough for settings not to be read, wherever in an object it
is written and whatever else is written under its name.  Of a byte either the
lower half is taken, or all of it if it is a key.  Any two bytes are rights with each key in its
place.  The bytes of rights spell the keys joined as they are, and are those rights again, so
that different rights have different bytes. -/
theorem AccessRights.keys_keep_to_their_places :
    (∀ json key, AccessKey.ofJson? json = some key ↔ json = .int key.number.val) ∧
    (∀ json, (∃ rights, ofJson? json = some rights) ↔
      ∃ read write readWrite change : Int,
        json.Holds fieldNames [.int read, .int write, .int readWrite, .int change] ∧
        ∀ n ∈ [read, write, readWrite, change], 0 ≤ n ∧ n < 16) ∧
    (∀ json rights, ofJson? json = some rights ↔
      json.Holds fieldNames [.int rights.read.number.val, .int rights.write.number.val,
        .int rights.readWrite.number.val, .int rights.change.number.val]) ∧
    (∀ json settings, FileSettings.ofJson? json = some settings →
      ∃ mode rights kind, json.Holds FileSettings.fieldNames [mode, rights, kind] ∧
        ofJson? rights = some settings.rights) ∧
    (∀ json settings rights, FileSettings.ofJson? json = some settings →
      json.Field FileSettings.fieldNames "permissions" rights →
      ofJson? rights = some settings.rights) ∧
    (∀ json rights, ∀ name ∈ fieldNames, ∀ n : Int,
      json.Field FileSettings.fieldNames "permissions" rights →
      rights.Field fieldNames name (.int n) → 16 ≤ n → FileSettings.ofJson? json = none) ∧
    (∀ key : AccessKey, key.toByte.toNat < 16) ∧
    (∀ b, (AccessKey.ofLowHalf b).toByte = b &&& 0x0F) ∧
    (∀ b key, AccessKey.ofByte b = .ok key ↔ b = key.toByte) ∧
    (∀ b cause, AccessKey.ofByte b = .error cause ↔ 16 ≤ b.toNat ∧ cause = .accessKey b) ∧
    (∀ first second, (ofBytes first second).InPlace first second) ∧
    (∀ rights, ∃ first second, rights.toBytes = [first, second] ∧
      word first second = join rights.read.toByte rights.write.toByte rights.readWrite.toByte
        rights.change.toByte ∧
      rights.InPlace first second ∧ ofBytes first second = rights) ∧
    Function.Injective toBytes := by
  refine ⟨fun _ _ => AccessKey.ofJson?_eq_some_iff, fun _ => exists_ofJson?_iff,
    fun _ _ => ofJson?_eq_some_iff, ?_, fun _ _ _ => FileSettings.rights_of_field, ?_,
    AccessKey.toNat_toByte_lt, AccessKey.toByte_ofLowHalf, fun _ _ => AccessKey.ofByte_eq_ok_iff,
    fun _ _ => AccessKey.ofByte_eq_error_iff,
    fun _ _ => inPlace_iff_ofBytes.mpr rfl, ?_, toBytes_injective⟩
  · intro json settings h
    obtain ⟨mode, rights, kind, hholds, -, hrights, -⟩ := FileSettings.ofJson?_eq_some_iff.mp h
    exact ⟨mode, rights, kind, hholds, hrights⟩
  · intro json rights name hname n hrights hfield hwide
    rw [Option.eq_none_iff_forall_ne_some]
    intro settings h
    have hread := FileSettings.rights_of_field h hrights
    have hbelow := AccessKey.exists_toJson_eq_int_iff.mp (key_of_field hread hname hfield)
    omega
  · intro rights
    exact ⟨_, _, rfl, rights.word_pack, rights.inPlace_pack,
      inPlace_iff_ofBytes.mp rights.inPlace_pack⟩

-- Sixteen is a byte but no key, and spoils the settings that it stands in.
example :
    FileSettings.ofJson? (.arr [.str "Plain", .arr [.nat 2, .nat 3, .nat 16, .nat 1],
      .obj [("StandardData", .arr [.nat 32])]]) = none := by
  decide

-- A key that is given twice is not given.
example :
    AccessRights.ofJson? (.obj [("read_key", .nat 1), ("write_key", .nat 2),
      ("read_write_key", .nat 3), ("change_key", .nat 4), ("read_key", .nat 1)]) = none := by
  decide

end SmartCard
