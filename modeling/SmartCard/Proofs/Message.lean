/-
What a failure says is what it was.

Each of the nine causes has a sentence of its own, and the first three letters already tell them
apart.  Behind them come the fields, and most of them end where a character follows that they
cannot have in it.

The one exception is the description that comes from a driver.  It is any text at all, and may well
end like a code in brackets or read like another failure.  But it stands between two things that
it cannot reach into: the control information in front of it ends at the first colon, and the code
behind it always has eight digits.  Whatever is between them is the description.
-/
import SmartCard.Proofs.Sentence

namespace SmartCard

open Sentence

/-! ### Control information and driver faults -/

theorem Protocol.name_injective : Function.Injective Protocol.name :=
  injective_of_read Protocol.ofName?_name

private theorem Protocol.blank_notMem_name (p : Protocol) : ' ' ∉ p.name.toList := by
  cases p <;> decide

private theorem Protocol.colon_notMem_name (p : Protocol) : ':' ∉ p.name.toList := by
  cases p <;> decide

theorem Pci.text_injective : Function.Injective Pci.text := by
  intro pci other h
  obtain ⟨protocol, code, length⟩ := pci
  obtain ⟨protocol', code', length'⟩ := other
  have hfields := (String.append_left_inj ")").mp h
  simp only [String.append_assoc] at hfields
  obtain ⟨hprotocol, hnumbers⟩ := eq_of_parted ' ' rfl protocol.blank_notMem_name
    protocol'.blank_notMem_name hfields
  obtain ⟨hcode, hlength⟩ := eq_of_parted '/' rfl
    (Hex.notMem_number (by decide) 4 code.toNat) (Hex.notMem_number (by decide) 4 code'.toNat)
    hnumbers
  obtain rfl : protocol = protocol' := Protocol.name_injective hprotocol
  obtain rfl : code = code' := UInt32.toNat_inj.mp (Hex.number_injective 4 hcode)
  obtain rfl : length = length' := UInt32.toNat_inj.mp (eq_of_decimal_eq hlength)
  rfl

private theorem Pci.colon_notMem_text (pci : Pci) : ':' ∉ pci.text.toList := by
  have hopen : ':' ∉ " (pci ".toList := by decide
  have hslash : ':' ∉ "/".toList := by decide
  have hclose : ':' ∉ ")".toList := by decide
  unfold text
  simp only [String.toList_append, List.mem_append, not_or]
  exact ⟨⟨⟨⟨⟨pci.protocol.colon_notMem_name, hopen⟩, Hex.notMem_number (by decide) 4 _⟩,
    hslash⟩, notMem_decimal (by decide) _⟩, hclose⟩

/-- The code of a fault has eight digits, so what is in front of it is the description. -/
theorem DriverFault.text_injective : Function.Injective DriverFault.text := by
  intro fault other h
  obtain ⟨code, message⟩ := fault
  obtain ⟨code', message'⟩ := other
  have hlength : ∀ n : UInt32, (Hex.number 8 n.toNat).length = 2 + 8 :=
    fun n => Hex.length_number (by decide) n.toNat_lt
  have hfields := (String.append_left_inj ")").mp h
  obtain ⟨hfront, hcode⟩ := eq_of_length_eq ((hlength code).trans (hlength code').symm) hfields
  obtain rfl : message = message' := (String.append_left_inj " (code ").mp hfront
  obtain rfl : code = code' := UInt32.toNat_inj.mp (Hex.number_injective 8 hcode)
  rfl

-- A description may end like the code that follows it.
example : DriverFault.text { code := 2, message := "gone (code 0x00000001)" } =
    "gone (code 0x00000001) (code 0x00000002)" := by
  decide

namespace Error

/-! ### The nine sentences -/

/-- The first letters of the sentence. -/
def opening : Error → List Char
  | notOpen => ['t', 'r', 'i']
  | transmit .. => ['f', 'a', 'i']
  | tooShort .. => ['m', 'a', 'l']
  | statusWord .. => ['u', 'n', 'e']
  | fileType _ => ['f', 'i', 'l']
  | communicationMode _ => ['u', 'n', 'k']
  | accessKey _ => ['a', 'c', 'c']
  | tooLong .. => ['c', 'o', 'm']
  | refused .. => ['c', 'a', 'r']

private theorem opening_isPrefix (e : Error) : e.opening <+: e.message.toList := by
  have hstem : ∀ {letters : List Char} {stem rest : String}, letters <+: stem.toList →
      letters <+: (stem ++ rest).toList := by
    intro letters stem rest h
    rw [String.toList_append]
    exact h.trans (List.prefix_append _ _)
  cases e with
  | notOpen => decide
  | _ =>
      unfold message opening
      simp only [String.append_assoc]
      exact hstem (by decide)

/-- Sentences that read alike start alike. -/
private theorem opening_eq {e e' : Error} (h : e.message = e'.message) :
    e.opening = e'.opening := by
  have hlength : ∀ cause : Error, cause.opening.length = 3 := by
    intro cause
    cases cause <;> rfl
  have hfirst : e.opening <+: e'.message.toList := h ▸ e.opening_isPrefix
  have hsame : e.opening.length = e'.opening.length := (hlength e).trans (hlength e').symm
  exact (List.prefix_of_prefix_length_le hfirst e'.opening_isPrefix
    (Nat.le_of_eq hsame)).eq_of_length hsame

/-- **No two failures are reported in the same words.**  The sentence tells the cause and all that
it carries, also where the driver's own description is part of it, whatever that description
says. -/
theorem message_injective : Function.Injective message := by
  intro e e' h
  have hopening := opening_eq h
  cases e with
  | notOpen =>
      cases e' with
      | notOpen => rfl
      | _ => simp [opening] at hopening
  | transmit pci fault =>
      cases e' with
      | transmit pci' fault' =>
          obtain ⟨hpci, hfault⟩ := eq_of_parted_behind ':' rfl pci.colon_notMem_text
            pci'.colon_notMem_text h
          rw [Pci.text_injective hpci, DriverFault.text_injective hfault]
      | _ => simp [opening] at hopening
  | tooShort needed actual =>
      cases e' with
      | tooShort needed' actual' =>
          obtain ⟨rfl, rfl⟩ := eq_of_decimals_eq ' ' rfl (by decide) h
          rfl
      | _ => simp [opening] at hopening
  | statusWord expected actual =>
      cases e' with
      | statusWord expected' actual' =>
          obtain ⟨rfl, rfl⟩ := eq_of_codes_eq ',' rfl (by decide) h
          rfl
      | _ => simp [opening] at hopening
  | fileType code =>
      cases e' with
      | fileType code' =>
          have hcode := (String.append_right_inj _).mp ((String.append_left_inj _).mp h)
          rw [Hex.code_injective hcode]
      | _ => simp [opening] at hopening
  | communicationMode code =>
      cases e' with
      | communicationMode code' =>
          have hcode := (String.append_right_inj _).mp h
          rw [Hex.code_injective hcode]
      | _ => simp [opening] at hopening
  | accessKey number =>
      cases e' with
      | accessKey number' =>
          have hnumber := (String.append_right_inj _).mp ((String.append_left_inj _).mp h)
          rw [Hex.code_injective hnumber]
      | _ => simp [opening] at hopening
  | tooLong limit actual =>
      cases e' with
      | tooLong limit' actual' =>
          obtain ⟨rfl, rfl⟩ := eq_of_decimals_eq ',' rfl (by decide) h
          rfl
      | _ => simp [opening] at hopening
  | refused instruction status =>
      cases e' with
      | refused instruction' status' =>
          obtain ⟨rfl, rfl⟩ := eq_of_codes_eq ':' rfl (by decide) h
          rfl
      | _ => simp [opening] at hopening

end Error

end SmartCard
