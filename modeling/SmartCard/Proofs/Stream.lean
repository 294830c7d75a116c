/-
Decoding while the bytes still come in.

An outcome other than a report of too few bytes is settled: it stands, whatever bytes come
after the ones that were looked at.  A report of too few bytes names the length of the whole
record and not of the field that was missed, as soon as there is a first byte to tell it.
So with fewer bytes than that the report stays, and with as many it is never made again.

A reader can therefore go by the reports alone.  `readOff` is one that starts with any front
of a stream, and takes as many bytes as a report asks for.  The first report it gets may be
about the type byte, and the next one is about the record, and there is no third; `asks`
counts them, and falls with every step.
-/
import SmartCard.Proofs.Verdict

namespace SmartCard

namespace FileSettings

variable {data stream buffer : Bytes} {needed actual length : Nat} {cause : Error}

/-! ### Outcomes that stand -/

/-- The outcome is not a report of too few bytes. -/
def Settled (outcome : Except Error FileSettings) : Prop :=
  ∀ needed actual, outcome ≠ .error (.tooShort needed actual)

theorem not_settled_iff : ¬ Settled (decode data) ↔
    ∃ needed actual, decode data = .error (.tooShort needed actual) := by
  simp only [Settled, not_forall, not_not]

theorem Fault.append (h : Fault data cause) (hsettled : Settled (.error cause)) (suffix : Bytes) :
    Fault (data ++ suffix) cause := by
  cases h with
  | empty => exact absurd rfl (hsettled _ _)
  | fileType hcode => exact .fileType hcode
  | length ht hshort => exact absurd rfl (hsettled _ _)
  | mode ht hlong hmode =>
      refine .mode ht (Nat.le_trans hlong ?_) hmode
      exact (List.prefix_append _ suffix).length_le

/-- A settled outcome stands, whatever comes after the bytes. -/
theorem decode_append_of_settled (h : Settled (decode data)) (suffix : Bytes) :
    decode (data ++ suffix) = decode data := by
  cases hdecode : decode data with
  | ok settings =>
      obtain ⟨record, rest, hspells, rfl⟩ := decode_eq_ok_iff.mp hdecode
      rw [decode_eq_ok_iff]
      exact ⟨record, rest ++ suffix, hspells, List.append_assoc ..⟩
  | error cause =>
      rw [hdecode] at h
      exact decode_of_fault ((fault_of_decode hdecode).append h suffix)

/-! ### Reports of too few bytes -/

theorem Announces.append (h : Announces data length) (suffix : Bytes) :
    Announces (data ++ suffix) length := by
  obtain ⟨t, rest, rfl, ht⟩ := announces_iff.mp h
  exact announces_iff.mpr ⟨t, rest ++ suffix, rfl, ht⟩

private theorem announces_of_tooShort (h : decode data = .error (.tooShort needed actual))
    (hdata : data ≠ []) : Announces data needed := by
  obtain ⟨hnil, -⟩ | ⟨hannounces, -⟩ := decode_tooShort_iff.mp h
  · contradiction
  · exact hannounces

private theorem lt_of_tooShort (h : decode data = .error (.tooShort needed actual)) :
    actual = data.length ∧ data.length < needed := by
  obtain ⟨rfl, rfl, rfl⟩ | ⟨-, hshort, rfl⟩ := decode_tooShort_iff.mp h
  · exact ⟨rfl, Nat.one_pos⟩
  · exact ⟨rfl, hshort⟩

/-! ### A reader that goes by the reports -/

/-- Reads settings off a stream of which `buffer` is there already.  A report of too few bytes
is answered by taking as many as it asks for; without an outcome after `calls` decodings there
is none. -/
def readOff (stream : Bytes) : (calls : Nat) → (buffer : Bytes) → Option (Except Error FileSettings)
  | 0, _ => none
  | calls + 1, buffer =>
      match decode buffer with
      | .error (.tooShort needed _) => readOff stream calls (stream.take needed)
      | outcome => some outcome

theorem readOff_of_settled (h : Settled (decode buffer)) (calls : Nat) :
    readOff stream (calls + 1) buffer = some (decode buffer) := by
  rw [readOff]
  split
  · rename_i hdecode
    exact absurd hdecode (h _ _)
  · rfl

theorem readOff_of_tooShort (h : decode buffer = .error (.tooShort needed actual)) (calls : Nat) :
    readOff stream (calls + 1) buffer = readOff stream calls (stream.take needed) := by
  rw [readOff, h]

/-- How many reports of too few bytes a reader with these bytes gets, at the most. -/
def asks (data : Bytes) : Nat :=
  match decode data with
  | .error (.tooShort _ _) => if data = [] then 2 else 1
  | _ => 0

private theorem asks_of_settled (h : Settled (decode data)) : asks data = 0 := by
  unfold asks
  split
  · rename_i hdecode
    exact absurd hdecode (h _ _)
  · rfl

private theorem asks_of_tooShort (h : decode data = .error (.tooShort needed actual)) :
    asks data = if data = [] then 2 else 1 := by
  rw [asks, h]

theorem asks_le_two (data : Bytes) : asks data ≤ 2 := by
  unfold asks
  split
  · split <;> omega
  · omega

theorem asks_le_one (h : data ≠ []) : asks data ≤ 1 := by
  unfold asks
  split
  · exact Nat.le_of_eq (if_neg h)
  · omega

/-- A reader that did what a report says is asked less often than before. -/
theorem asks_take_lt (hstream : 17 ≤ stream.length) (hfront : buffer <+: stream)
    (h : decode buffer = .error (.tooShort needed actual)) :
    asks (stream.take needed) < asks buffer := by
  rw [asks_of_tooShort h]
  by_cases hbuffer : buffer = []
  · subst hbuffer
    obtain rfl : 1 = needed := (Error.tooShort.inj (Except.error.inj h)).1
    have hone : stream.take 1 ≠ [] := by
      rw [← List.length_pos_iff, List.length_take]
      omega
    rw [if_pos rfl]
    exact Nat.lt_succ_of_le (asks_le_one hone)
  · have hannounces := announces_of_tooShort h hbuffer
    have hlength : (stream.take needed).length = needed := by
      rw [List.length_take]
      exact Nat.min_eq_left (Nat.le_trans hannounces.le hstream)
    -- What was there is still in front, and with it the type byte.
    obtain ⟨more, hmore⟩ : buffer <+: stream.take needed := by
      refine List.prefix_of_prefix_length_le hfront (List.take_prefix needed stream) ?_
      rw [hlength]
      exact Nat.le_of_lt (lt_of_tooShort h).2
    have hsettled : Settled (decode (stream.take needed)) := by
      refine Announces.ne_tooShort ?_ (Nat.le_of_eq hlength.symm)
      rw [← hmore]
      exact hannounces.append more
    rw [if_neg hbuffer, asks_of_settled hsettled]
    exact Nat.one_pos

/-- With more decodings than reports to come, the reader ends with the outcome of the stream. -/
theorem readOff_of_asks_lt (hstream : 17 ≤ stream.length) {calls : Nat} :
    ∀ {buffer : Bytes}, buffer <+: stream → asks buffer < calls →
      readOff stream calls buffer = some (decode stream) := by
  induction calls with
  | zero =>
      intro buffer _ hasks
      omega
  | succ calls ih =>
      intro buffer hfront hasks
      by_cases hsettled : Settled (decode buffer)
      · obtain ⟨suffix, rfl⟩ := hfront
        rw [readOff_of_settled hsettled, decode_append_of_settled hsettled]
      · obtain ⟨needed, actual, hdecode⟩ := not_settled_iff.mp hsettled
        have hfewer := asks_take_lt hstream hfront hdecode
        rw [readOff_of_tooShort hdecode]
        exact ih (List.take_prefix needed stream) (by omega)

/-! ### More bytes -/

/-- **More bytes change nothing but a report of too few, and that only when the record is
whole.**  So a reader that goes by the reports has the outcome of the whole stream after three
decodings, however few bytes it starts with. -/
theorem stable_under_extension :
    (∀ data suffix settings, decode data = .ok settings →
      decode (data ++ suffix) = .ok settings) ∧
    (∀ data suffix code, decode data = .error (.fileType code) →
      decode (data ++ suffix) = .error (.fileType code)) ∧
    (∀ data suffix mode, decode data = .error (.communicationMode mode) →
      decode (data ++ suffix) = .error (.communicationMode mode)) ∧
    (∀ data needed actual, decode data = .error (.tooShort needed actual) →
      actual = data.length ∧ data.length < needed) ∧
    (∀ data suffix needed actual, decode data = .error (.tooShort needed actual) → data ≠ [] →
      ((data ++ suffix).length < needed →
        decode (data ++ suffix) = .error (.tooShort needed (data ++ suffix).length)) ∧
      (needed ≤ (data ++ suffix).length →
        ∀ needed' actual', decode (data ++ suffix) ≠ .error (.tooShort needed' actual'))) ∧
    (∀ stream buffer calls, buffer <+: stream → 17 ≤ stream.length → 3 ≤ calls →
      readOff stream calls buffer = some (decode stream)) := by
  have hstands : ∀ data suffix outcome, decode data = outcome → Settled outcome →
      decode (data ++ suffix) = outcome := by
    intro data suffix outcome h hsettled
    subst h
    exact decode_append_of_settled hsettled suffix
  refine ⟨?_, ?_, ?_, fun _ _ _ => lt_of_tooShort, ?_, ?_⟩
  · intro data suffix settings h
    exact hstands data suffix _ h (fun _ _ => by simp)
  · intro data suffix code h
    exact hstands data suffix _ h (fun _ _ => by simp)
  · intro data suffix mode h
    exact hstands data suffix _ h (fun _ _ => by simp)
  · intro data suffix needed actual h hdata
    have hannounces := (announces_of_tooShort h hdata).append suffix
    refine ⟨?_, hannounces.ne_tooShort⟩
    intro hshort
    exact decode_tooShort_iff.mpr (.inr ⟨hannounces, hshort, rfl⟩)
  · intro stream buffer calls hfront hstream hcalls
    have hasks := asks_le_two buffer
    exact readOff_of_asks_lt hstream hfront (by omega)

-- A reader that has nothing yet needs all three: for the type byte, for the record, and to decode.
example : readOff (List.replicate 17 0) 2 [] = none := by
  decide

end FileSettings

end SmartCard
