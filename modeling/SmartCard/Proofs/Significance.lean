/-
Which bytes of a record count, and for what.

The mode is in one byte and the rights are in two, and there each byte counts in full.  The
particulars take the rest of the record, and there is one place at which two different bytes
may say the same: the flag of a value file, of which only counts whether it is zero.  So two
spellings of particulars say the same if they are `Alike`, and spellings of the same type
that are not alike say different things.  Bytes behind the record say nothing.

Since decoding is an equivalence with the grammar, all this is shown of the spellings, and
no decoder is run.
-/
import Mathlib.Data.Nat.Init
import Mathlib.Logic.Function.Basic
import SmartCard.Proofs.Verdict

namespace SmartCard

/-- Numbers of three bytes have one spelling. -/
private theorem Bytes.SpellsU24s.spells_iff {ns : List UInt32} {data other : Bytes}
    (h : SpellsU24s ns data) : SpellsU24s ns other ↔ other = data :=
  ⟨fun h' => h'.2.trans h.2.symm, fun heq => heq ▸ h⟩

theorem CommunicationMode.code_injective : Function.Injective code := by
  intro mode other h
  rw [← Option.some.injEq, ← ofCode?_code mode, h, ofCode?_code]

theorem FileType.code_injective : Function.Injective code := by
  intro t other h
  rw [← Option.some.injEq, ← ofCode?_code t, h, ofCode?_code]

/-! ### Particulars -/

namespace FileKind

variable {kind other : FileKind} {particulars particulars' : Bytes}

/-- Particulars that say the same if they are of one type: they agree in all places but that
of a flag, and there in whether the byte is zero. -/
def Alike (particulars particulars' : Bytes) : Prop :=
  particulars.take 12 = particulars'.take 12 ∧
    (particulars[12]? = some 0 ↔ particulars'[12]? = some 0)

/-- Where there is no place for a flag, nothing else is alike. -/
private theorem alike_short_iff (hshort : particulars.length ≤ 12) :
    (particulars'.length = particulars.length ∧ Alike particulars particulars') ↔
      particulars' = particulars := by
  refine ⟨?_, ?_⟩
  · intro h
    obtain ⟨hlength, htake, -⟩ := h
    rwa [List.take_of_length_le hshort, List.take_of_length_le (hlength ▸ hshort), eq_comm] at htake
  · intro h
    subst h
    exact ⟨rfl, rfl, Iff.rfl⟩

/-- Where there is one, all flags are alike that are zero, and all that are not. -/
private theorem alike_flag_iff {front : Bytes} {flag : UInt8} (hfront : front.length = 12) :
    (particulars'.length = (front ++ [flag]).length ∧ Alike (front ++ [flag]) particulars') ↔
      ∃ flag', (flag = 0 ↔ flag' = 0) ∧ particulars' = front ++ [flag'] := by
  have hplace : ∀ {front : Bytes} {flag : UInt8}, front.length = 12 →
      (front ++ [flag])[12]? = some flag := by
    intro front flag hfront
    rw [← hfront]
    exact List.getElem?_concat_length
  refine ⟨?_, ?_⟩
  · intro h
    obtain ⟨hlength, htake, hzero⟩ := h
    rw [List.length_append, hfront, List.length_singleton] at hlength
    obtain ⟨front', back, hfront', rfl⟩ := Bytes.exists_front 12 particulars' (by omega)
    rw [List.length_append, hfront'] at hlength
    obtain ⟨flag', rfl⟩ := List.length_eq_one_iff.mp (show back.length = 1 by omega)
    rw [List.take_left' hfront, List.take_left' hfront'] at htake
    rw [hplace hfront, hplace hfront', Option.some.injEq, Option.some.injEq] at hzero
    exact ⟨flag', hzero, by rw [htake]⟩
  · intro h
    obtain ⟨flag', hzero, rfl⟩ := h
    refine ⟨by rw [List.length_append, List.length_append]; rfl, ?_, ?_⟩
    · rw [List.take_left' hfront, List.take_left' hfront]
    · rw [hplace hfront, hplace hfront, Option.some.injEq, Option.some.injEq]
      exact hzero

private theorem length_narrowNumbers_le (kind : FileKind) : kind.narrowNumbers.length ≤ 3 := by
  cases kind <;> simp [narrowNumbers]

/-- The spellings of a kind are the strings that are like one of them. -/
theorem Spells.spells_iff (h : kind.Spells particulars) :
    kind.Spells particulars' ↔
      particulars'.length = particulars.length ∧ Alike particulars particulars' := by
  by_cases hvalue : ∃ file, kind = .value file
  · obtain ⟨file, rfl⟩ := hvalue
    obtain ⟨flag, hflag, rfl⟩ := spells_value_iff.mp h
    have hzero : ∀ flag' : UInt8,
        file.limitedCreditEnabled = (flag' != 0) ↔ (flag = 0 ↔ flag' = 0) := by
      intro flag'
      rw [hflag, Bool.eq_iff_iff, bne_iff_ne, bne_iff_ne, not_iff_not]
    rw [spells_value_iff, alike_flag_iff (by simp)]
    exact exists_congr fun flag' => and_congr_left' (hzero flag')
  · have hnumbers : ∀ {particulars}, kind.Spells particulars ↔
        Bytes.SpellsU24s kind.narrowNumbers particulars :=
      spells_iff_of_ne_value (not_exists.mp hvalue)
    rw [hnumbers] at h
    have hlength := h.length
    have hcount := kind.length_narrowNumbers_le
    rw [hnumbers, h.spells_iff, alike_short_iff ?_]
    rw [List.sum_replicate_nat] at hlength
    omega

/-- No string spells two kinds of one type. -/
theorem Spells.unique (h : kind.Spells particulars) (h' : other.Spells particulars)
    (htype : kind.type = other.type) : kind = other := by
  have hdecode : decode (kind.type.code :: 0 :: 0 :: 0 :: (particulars ++ [])) = .ok kind :=
    decode_eq_ok_iff.mpr ⟨0, 0, 0, particulars, [], h, rfl⟩
  have hdecode' : decode (other.type.code :: 0 :: 0 :: 0 :: (particulars ++ [])) = .ok other :=
    decode_eq_ok_iff.mpr ⟨0, 0, 0, particulars, [], h', rfl⟩
  rw [htype, hdecode', Except.ok.injEq] at hdecode
  exact hdecode.symm

/-- Kinds are the same if they are of one type and have particulars that are alike. -/
theorem Spells.eq_iff (h : kind.Spells particulars) (h' : other.Spells particulars') :
    kind = other ↔ kind.type = other.type ∧ Alike particulars particulars' := by
  refine ⟨?_, ?_⟩
  · intro heq
    subst heq
    exact ⟨rfl, (h.spells_iff.mp h').2⟩
  · intro heq
    obtain ⟨htype, halike⟩ := heq
    have hlength := h'.recordLength?
    rw [← htype, h.recordLength?, Option.some.injEq, Nat.add_right_inj] at hlength
    exact Spells.unique (h.spells_iff.mpr ⟨hlength.symm, halike⟩) h' htype

end FileKind

/-! ### Places in a record -/

namespace FileSettings

variable {settings : FileSettings} {data : Bytes}

/-- Where the fields of settings are in bytes that hold a record of them. -/
structure Places (settings : FileSettings) (data particulars : Bytes) : Prop where
  type : data[0]? = some settings.type.code
  mode : data[1]? = some settings.mode.code
  first : data[2]? = some (AccessRights.pack settings.rights.change settings.rights.readWrite)
  second : data[3]? = some (AccessRights.pack settings.rights.write settings.rights.read)
  particulars : ∀ j < particulars.length, data[j + 4]? = particulars[j]?

theorem exists_places (h : decode data = .ok settings) :
    ∃ particulars, settings.kind.Spells particulars ∧ Places settings data particulars := by
  obtain ⟨record, rest, ⟨particulars, hspells, rfl⟩, rfl⟩ := decode_eq_ok_iff.mp h
  refine ⟨particulars, hspells, rfl, rfl, rfl, rfl, ?_⟩
  intro j hj
  show (particulars ++ rest)[j]? = particulars[j]?
  exact List.getElem?_append_left hj

/-- Bytes that hold a record announce it. -/
private theorem Places.announces {particulars : Bytes} (h : Places settings data particulars)
    (hspells : settings.kind.Spells particulars) :
    Announces data (headerLength + particulars.length) :=
  ⟨settings.type.code, h.type, mem_layouts_iff.mpr ⟨settings.type, rfl, hspells.recordLength?⟩⟩

/-- Bytes that agree with a record in its places decode to the same settings. -/
theorem decode_of_take_eq {length : Nat} {data' : Bytes} (h : decode data = .ok settings)
    (hannounces : Announces data length) (htake : data'.take length = data.take length) :
    decode data' = .ok settings := by
  obtain ⟨record, rest, hspells, rfl⟩ := decode_eq_ok_iff.mp h
  obtain rfl := hannounces.unique (hspells.announces rest)
  rw [List.take_left] at htake
  obtain ⟨rest', rfl⟩ := List.prefix_iff_eq_take.mpr htake.symm
  exact decode_eq_ok_iff.mpr ⟨record, rest', hspells, rfl⟩

/-- Particulars that start at the fifth byte are alike if the bytes agree in their places. -/
theorem alike_iff_getElem? {a b particulars particulars' : Bytes}
    (ha : ∀ j < particulars.length, a[j + 4]? = particulars[j]?)
    (hb : ∀ j < particulars'.length, b[j + 4]? = particulars'[j]?)
    (hlength : particulars'.length = particulars.length) (hlong : particulars.length ≤ 13) :
    FileKind.Alike particulars particulars' ↔
      (∀ i, 4 ≤ i → i < headerLength + particulars.length → i ≠ 16 → a[i]? = b[i]?) ∧
      (16 < headerLength + particulars.length → (a[16]? = some 0 ↔ b[16]? = some 0)) := by
  unfold headerLength
  refine and_congr ⟨?_, ?_⟩ ⟨?_, ?_⟩
  · intro htake i hfrom hto hflag
    obtain ⟨j, rfl⟩ := Nat.exists_eq_add_of_le' hfrom
    rw [ha j (by omega), hb j (by omega), ← List.getElem?_take_of_lt (show j < 12 by omega), htake,
      List.getElem?_take_of_lt (by omega)]
  · intro h
    apply List.ext_getElem?
    intro j
    by_cases hj : j < 12 ∧ j < particulars.length
    · rw [List.getElem?_take_of_lt hj.1, List.getElem?_take_of_lt hj.1, ← ha j hj.2,
        ← hb j (by omega)]
      exact h (j + 4) (by omega) (by omega) (by omega)
    · rw [List.getElem?_eq_none, List.getElem?_eq_none] <;> rw [List.length_take] <;> omega
  · intro hzero hflag
    rwa [ha 12 (by omega), hb 12 (by omega)]
  · intro hzero
    by_cases hflag : 12 < particulars.length
    · rw [← ha 12 hflag, ← hb 12 (by omega)]
      exact hzero (by omega)
    · rw [List.getElem?_eq_none (by omega), List.getElem?_eq_none (by omega)]

/-- Kinds are the same if the bytes in their places are, but for those of a flag. -/
theorem Places.kind_eq_iff {s t : FileSettings} {a b p q : Bytes} (ha : Places s a p)
    (hb : Places t b q) (hp : s.kind.Spells p) (hq : t.kind.Spells q) :
    s.kind = t.kind ↔ a[0]? = b[0]? ∧
      (∀ i, 4 ≤ i → i < headerLength + p.length → i ≠ 16 → a[i]? = b[i]?) ∧
      (16 < headerLength + p.length → (a[16]? = some 0 ↔ b[16]? = some 0)) := by
  have htype : a[0]? = b[0]? ↔ s.kind.type = t.kind.type := by
    rw [ha.type, hb.type, Option.some_inj]
    exact FileType.code_injective.eq_iff
  rw [hp.eq_iff hq, htype]
  refine and_congr_right fun hsame => ?_
  -- Of one type, and so of one length.
  have hlength := hq.recordLength?
  rw [← hsame, hp.recordLength?, Option.some.injEq, Nat.add_right_inj] at hlength
  exact alike_iff_getElem? ha.particulars hb.particulars hlength.symm
    (Nat.le_of_add_le_add_left (ha.announces hp).le)

/-- **Of two records, every field is the same if and only if its bytes are.**  The mode goes by
the second byte, the rights by the third and the fourth, and the kind by the type byte and all
bytes from the fifth to the end of the record, where of a flag only counts whether it is zero.
No byte behind the record counts. -/
theorem significant_bytes {a b : Bytes} {s t : FileSettings} (ha : decode a = .ok s)
    (hb : decode b = .ok t) :
    (s.mode = t.mode ↔ a[1]? = b[1]?) ∧
    (s.rights = t.rights ↔ a[2]? = b[2]? ∧ a[3]? = b[3]?) ∧
    ∃ length, Announces a length ∧
      (s.kind = t.kind ↔ a[0]? = b[0]? ∧
        (∀ i, 4 ≤ i → i < length → i ≠ 16 → a[i]? = b[i]?) ∧
        (16 < length → (a[16]? = some 0 ↔ b[16]? = some 0))) ∧
      ∀ c : Bytes, c.take length = a.take length → decode c = .ok s := by
  obtain ⟨p, hp, hplaces⟩ := exists_places ha
  obtain ⟨q, hq, hplaces'⟩ := exists_places hb
  have hannounces := hplaces.announces hp
  refine ⟨?_, ?_, _, hannounces, hplaces.kind_eq_iff hplaces' hp hq,
    fun c => decode_of_take_eq ha hannounces⟩
  · rw [hplaces.mode, hplaces'.mode, Option.some_inj]
    exact CommunicationMode.code_injective.eq_iff.symm
  · rw [hplaces.first, hplaces'.first, hplaces.second, hplaces'.second, Option.some_inj,
      Option.some_inj]
    exact AccessRights.eq_iff_pack

/-- Two value records with different flags, and one of them with a byte behind it: the kinds are
the same all the same, and only the modes tell the records apart. -/
theorem significant_bytes_flags :
    ∃ s t, decode ([2, 0, 0x23, 0x41] ++ List.replicate 12 7 ++ [1]) = .ok s ∧
      decode ([2, 3, 0x23, 0x41] ++ List.replicate 12 7 ++ [2, 9]) = .ok t ∧
      s.mode ≠ t.mode ∧ s.rights = t.rights ∧ s.kind = t.kind := by
  obtain ⟨s, hs⟩ : ∃ s, decode ([2, 0, 0x23, 0x41] ++ List.replicate 12 7 ++ [1]) = .ok s :=
    ⟨_, rfl⟩
  obtain ⟨t, ht⟩ : ∃ t, decode ([2, 3, 0x23, 0x41] ++ List.replicate 12 7 ++ [2, 9]) = .ok t :=
    ⟨_, rfl⟩
  obtain ⟨hmode, hrights, length, hannounces, hkind, -⟩ := significant_bytes hs ht
  obtain rfl : length = 17 := hannounces.unique ⟨2, rfl, by decide⟩
  refine ⟨s, t, hs, ht, ?_, hrights.mpr ⟨rfl, rfl⟩, hkind.mpr ⟨rfl, by decide, by decide⟩⟩
  rw [ne_eq, hmode]
  decide

end FileSettings

end SmartCard
