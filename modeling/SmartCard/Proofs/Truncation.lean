/-
Answers that are cut short.

A response has no length in it.  Its marker and its status are the last two bytes of whatever
arrived, so if an answer breaks off inside the record, two bytes of the record are taken for
them.  They may even be the right two: a limit of a value file can hold any bytes, a marker and a
status of success among them.

No harm comes of it.  The bytes in front of these two are taken for the record then, and there are
fewer of them than the record has.  The type byte is still the first one, if there is one, and
still announces the whole length, so what is left of a record is never a record:
`FileSettings.decode_of_front`.
-/
import SmartCard.Proofs.Account
import SmartCard.Proofs.Request
import SmartCard.Proofs.Stream
import SmartCard.Script

namespace SmartCard

namespace FileSettings

variable {record front : Bytes} {settings : FileSettings} {length : Nat}

/-! ### Records that are cut short -/

/-- The type byte is among the first bytes, however few there are. -/
private theorem Announces.of_isPrefix (h : Announces record length) (hfront : front <+: record)
    (hne : front ≠ []) : Announces front length := by
  obtain ⟨suffix, rfl⟩ := hfront
  obtain ⟨code, hcode, hmem⟩ := h
  rw [List.getElem?_append_left (List.length_pos_of_ne_nil hne)] at hcode
  exact ⟨code, hcode, hmem⟩

/-- Bytes that settings were read from announce the length that records of their type have. -/
private theorem announces_of_decode (h : decode record = .ok settings)
    (hlength : settings.type.recordLength? = some length) : Announces record length := by
  obtain ⟨spelling, rest, ⟨particulars, -, rfl⟩, rfl⟩ := decode_eq_ok_iff.mp h
  exact announces_iff.mpr ⟨settings.type,
    settings.mode.code :: (settings.rights.toBytes ++ particulars ++ rest), rfl, hlength⟩

/-- Fewer bytes than were announced are too few. -/
theorem decode_of_front (h : Announces record record.length) (hfront : front <+: record)
    (hshort : front.length < record.length) :
    ∃ needed, decode front = .error (.tooShort needed front.length) := by
  by_cases hne : front = []
  · subst hne
    exact ⟨1, rfl⟩
  · exact ⟨record.length, decode_tooShort_iff.mpr (.inr ⟨h.of_isPrefix hfront hne, hshort, rfl⟩)⟩

end FileSettings

/-! ### Answers that are cut short -/

/-- If a byte string is cut off another, and their ends are of one length, then what is in front
of the one end is cut off what is in front of the other. -/
private theorem Bytes.front_of_cut {part whole trailer behind : Bytes}
    (hlength : trailer.length = behind.length) (hfront : part ++ trailer <+: whole ++ behind)
    (hcut : part ++ trailer ≠ whole ++ behind) : part <+: whole ∧ part.length < whole.length := by
  have hshort : part.length < whole.length := by
    have hle := hfront.length_le
    have hne : (part ++ trailer).length ≠ (whole ++ behind).length :=
      fun h => hcut (hfront.eq_of_length h)
    simp only [List.length_append] at hle hne
    omega
  refine ⟨?_, hshort⟩
  exact List.prefix_of_prefix_length_le ((List.prefix_append part trailer).trans hfront)
    (List.prefix_append whole behind) (Nat.le_of_lt hshort)

namespace Card

variable {W : Type} {card : Card W} {file : UInt8} {w : W}

/-- **An answer that breaks off is never taken for settings**, wherever it does, and whatever the
bytes are that come to stand at its end. -/
theorem cut_answer_is_refused {record answer : Bytes} {settings : FileSettings}
    (hrecord : FileSettings.decode record = .ok settings)
    (hlength : settings.type.recordLength? = some record.length)
    (hfront : answer <+: record ++ [0x91, 0x00]) (hcut : answer ≠ record ++ [0x91, 0x00])
    (hanswer : ∀ protocol, card.channel.protocol w = .ok protocol →
      (card.channel.transmit (.ofProtocol protocol) (Command.fileSettings file).frame w).1 =
        .ok answer) :
    ∃ cause, (card.fileSettings file w).result = .error cause := by
  cases hresult : (card.fileSettings file w).result with
  | error cause => exact ⟨cause, rfl⟩
  | ok other =>
      exfalso
      obtain ⟨payload, hexchange, hpayload⟩ := fileSettings_eq_ok_iff.mp hresult
      obtain ⟨protocol, hprotocol, htransmit⟩ :=
        (card.channel.exchanged (Command.fileSettings file) w).answer_of_ok hexchange
      obtain rfl := Except.ok.inj ((hanswer protocol hprotocol).symm.trans htransmit)
      obtain ⟨hpart, hshort⟩ := Bytes.front_of_cut rfl hfront hcut
      obtain ⟨needed, htooShort⟩ := FileSettings.decode_of_front
        (FileSettings.announces_of_decode hrecord hlength) hpart hshort
      rw [htooShort] at hpayload
      contradiction

/-- The lower limit of this value file holds a marker and a status of success, and the answer ends
right behind them. -/
theorem cut_answer_is_refused_behind_limit :
    FileSettings.decode
        [0x02, 0x00, 0x00, 0x23, 0x10, 0x91, 0x00, 0x00, 0xE8, 0x03, 0x00, 0x00, 0x00, 0x00, 0x00,
          0x00, 0x01] =
      .ok
        { mode := .plain, rights := .ofBytes 0x00 0x23
          kind := .value
            { lowerLimit := 0x9110, upperLimit := 1000, limitedCredit := 0
              limitedCreditEnabled := true } } ∧
    ∃ cause,
      (({ channel := Script.channel } : Card Script).fileSettings 5
        (Script.ofRaw .t1 [[0x02, 0x00, 0x00, 0x23, 0x10, 0x91, 0x00]])).result =
      .error cause := by
  refine ⟨?record, cut_answer_is_refused ?record rfl ?front (by decide) (fun _ _ => rfl)⟩
  case record => decide
  case front =>
    exact ⟨[0x00, 0xE8, 0x03, 0x00, 0x00, 0x00, 0x00, 0x00, 0x00, 0x01, 0x91, 0x00], rfl⟩

end Card

end SmartCard
