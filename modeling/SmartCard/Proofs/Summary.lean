/-
A summary says everything.

A summary is a list of facts, one a line.  No name of a fact has a colon in it and no value ends
the line, so the lines, and in each line the name and the value, can be told from the text:
`Sentence.eq_of_lines_eq`.

The facts in turn tell the settings.  The first one names the type, which settles what the other
facts are about, also for the kinds that have the same facts otherwise; and every value is written
so that it can be read back.  A right is a word or a key number and has no comma in it, which ends
it among the four.
-/
import SmartCard.File.Settings
import SmartCard.Proofs.Sentence

namespace SmartCard

open Sentence

/-! ### Facts and lines -/

/-- A name and its value as one line. -/
def Sentence.line (fact : String × String) : String :=
  fact.1 ++ ": " ++ fact.2 ++ "\n"

/-- The name has no colon in it and the value is in one line. -/
def Sentence.Plain (fact : String × String) : Prop :=
  ':' ∉ fact.1.toList ∧ '\n' ∉ fact.2.toList

/-- Lines that read alike state the same facts. -/
theorem Sentence.eq_of_lines_eq {facts others : List (String × String)}
    (h : ∀ fact ∈ facts, Plain fact) (h' : ∀ fact ∈ others, Plain fact)
    (heq : String.join (facts.map line) = String.join (others.map line)) : facts = others := by
  have hended : ∀ (fact : String × String) (more : String), line fact ++ more ≠ "" := by
    intro fact more hempty
    have hlength := congrArg String.length hempty
    have hend : "\n".length = 1 := rfl
    rw [line, String.length_append, String.length_append, hend] at hlength
    exact absurd hlength (by simp)
  induction facts generalizing others with
  | nil =>
      cases others with
      | nil => rfl
      | cons other others =>
          rw [List.map_cons, String.join_cons] at heq
          exact absurd heq.symm (hended other _)
  | cons fact facts ih =>
      cases others with
      | nil =>
          rw [List.map_cons, String.join_cons] at heq
          exact absurd heq (hended fact _)
      | cons other others =>
          obtain ⟨⟨hname, hvalue⟩, h⟩ := List.forall_mem_cons.mp h
          obtain ⟨⟨hname', hvalue'⟩, h'⟩ := List.forall_mem_cons.mp h'
          simp only [List.map_cons, String.join_cons, line, String.append_assoc] at heq
          obtain ⟨hnames, heq⟩ := eq_of_parted ':' rfl hname hname' heq
          obtain ⟨hvalues, heq⟩ := eq_of_parted '\n' rfl hvalue hvalue' heq
          rw [Prod.ext hnames hvalues, ih h h' heq]

/-! ### Values -/

theorem FileType.name_injective : Function.Injective FileType.name :=
  injective_of_read ofName?_name

theorem CommunicationMode.text_injective : Function.Injective CommunicationMode.text := by
  have hfound : ∀ mode : CommunicationMode, all.find? (·.text == mode.text) = some mode := by
    intro mode
    cases mode <;> decide
  exact @injective_of_read _ _ text (fun words => all.find? (·.text == words)) hfound

private theorem eq_of_flag_eq :
    ∀ {flag other : Bool}, toString flag = toString other → flag = other := by
  decide

private theorem eq_of_word_eq {n m : UInt32} (h : toString n.toNat = toString m.toNat) : n = m :=
  UInt32.toNat_inj.mp (eq_of_decimal_eq h)

namespace AccessKey

/-- The words for no key and the number of a key are of three different lengths. -/
private theorem text_cases (key : AccessKey) :
    (key = free ∧ key.text.length = 4) ∨ (key = never ∧ key.text.length = 5) ∨
      (key.text = "key " ++ Hex.number 1 key.number.val ∧ key.text.length = 7) := by
  by_cases hfree : key = free
  · exact .inl ⟨hfree, hfree ▸ rfl⟩
  by_cases hnever : key = never
  · exact .inr (.inl ⟨hnever, hnever ▸ rfl⟩)
  have htext : key.text = "key " ++ Hex.number 1 key.number.val := by
    rw [text, if_neg hfree, if_neg hnever]
  have hnumber : (Hex.number 1 key.number.val).length = 2 + 1 :=
    Hex.length_number (by decide) key.number.isLt
  refine .inr (.inr ⟨htext, ?_⟩)
  rw [htext, String.length_append, hnumber]
  rfl

theorem text_injective : Function.Injective text := by
  intro key other h
  have hlength := congrArg String.length h
  rcases key.text_cases with ⟨hkey, hcount⟩ | ⟨hkey, hcount⟩ | ⟨hkey, hcount⟩
  · rcases other.text_cases with ⟨hother, -⟩ | ⟨-, hcount'⟩ | ⟨-, hcount'⟩
    · rw [hkey, hother]
    · omega
    · omega
  · rcases other.text_cases with ⟨-, hcount'⟩ | ⟨hother, -⟩ | ⟨-, hcount'⟩
    · omega
    · rw [hkey, hother]
    · omega
  · rcases other.text_cases with ⟨-, hcount'⟩ | ⟨-, hcount'⟩ | ⟨hother, -⟩
    · omega
    · omega
    · rw [hkey, hother, String.append_right_inj] at h
      exact AccessKey.ext (Fin.ext (Hex.number_injective 1 h))

private theorem notMem_text {c : Char} (hfree : c ∉ free.text.toList)
    (hnever : c ∉ never.text.toList) (hkey : c ∉ "key ".toList)
    (hnumber : c ∉ 'x' :: Hex.digits) (key : AccessKey) : c ∉ key.text.toList := by
  rcases key.text_cases with ⟨rfl, -⟩ | ⟨rfl, -⟩ | ⟨htext, -⟩
  · exact hfree
  · exact hnever
  · rw [htext, String.toList_append, List.mem_append, not_or]
    exact ⟨hkey, Hex.notMem_number hnumber 1 _⟩

private theorem comma_notMem_text (key : AccessKey) : ',' ∉ key.text.toList :=
  key.notMem_text (by decide) (by decide) (by decide) (by decide)

private theorem newline_notMem_text (key : AccessKey) : '\n' ∉ key.text.toList :=
  key.notMem_text (by decide) (by decide) (by decide) (by decide)

end AccessKey

namespace AccessRights

theorem text_injective : Function.Injective text := by
  intro rights other h
  unfold text at h
  simp only [String.append_assoc, String.append_right_inj] at h
  obtain ⟨hread, h⟩ := eq_of_parted ',' rfl rights.read.comma_notMem_text
    other.read.comma_notMem_text h
  obtain ⟨hwrite, h⟩ := eq_of_parted ',' rfl rights.write.comma_notMem_text
    other.write.comma_notMem_text h
  obtain ⟨hreadWrite, hchange⟩ := eq_of_parted ',' rfl rights.readWrite.comma_notMem_text
    other.readWrite.comma_notMem_text h
  exact AccessRights.ext (AccessKey.text_injective hread) (AccessKey.text_injective hwrite)
    (AccessKey.text_injective hreadWrite) (AccessKey.text_injective hchange)

private theorem newline_notMem_text (rights : AccessRights) : '\n' ∉ rights.text.toList := by
  have hwords : '\n' ∉ "read: ".toList ∧ '\n' ∉ ", write: ".toList ∧
      '\n' ∉ ", read&write: ".toList ∧ '\n' ∉ ", change: ".toList := by
    decide
  unfold text
  simp only [String.toList_append, List.mem_append, hwords, AccessKey.newline_notMem_text, or_self,
    not_false_iff]

end AccessRights

/-! ### The facts about a file -/

private theorem FileKind.eq_of_facts_eq {kind other : FileKind} (htype : kind.type = other.type)
    (h : kind.facts = other.facts) : kind = other := by
  have hrecord : ∀ {file other : RecordFile},
      (linearRecord file).facts = (linearRecord other).facts → file = other := by
    intro file other h
    simp only [facts, List.cons.injEq, Prod.mk.injEq, true_and, and_true] at h
    obtain ⟨hsize, hcount, hcapacity⟩ := h
    exact RecordFile.ext (eq_of_word_eq hsize) (eq_of_word_eq hcapacity) (eq_of_word_eq hcount)
  have hdata : ∀ {file other : DataFile},
      (standardData file).facts = (standardData other).facts → file = other := by
    intro file other h
    simp only [facts, List.cons.injEq, Prod.mk.injEq, true_and, and_true] at h
    exact DataFile.ext (eq_of_word_eq h)
  cases kind with
  | standardData file =>
      cases other with
      | standardData file' => rw [hdata h]
      | _ => contradiction
  | backupData file =>
      cases other with
      | backupData file' => rw [hdata h]
      | _ => contradiction
  | value file =>
      cases other with
      | value file' =>
          simp only [facts, List.cons.injEq, Prod.mk.injEq, true_and, and_true] at h
          obtain ⟨hlower, hupper, hcredit, henabled⟩ := h
          rw [ValueFile.ext (eq_of_word_eq hlower) (eq_of_word_eq hupper) (eq_of_word_eq hcredit)
            (eq_of_flag_eq henabled)]
      | _ => contradiction
  | linearRecord file =>
      cases other with
      | linearRecord file' => rw [hrecord h]
      | _ => contradiction
  | cyclicRecord file =>
      cases other with
      | cyclicRecord file' => rw [hrecord h]
      | _ => contradiction

namespace FileSettings

theorem facts_injective : Function.Injective facts := by
  intro settings other h
  simp only [facts, List.cons_append, List.nil_append, List.cons.injEq, Prod.mk.injEq,
    true_and] at h
  obtain ⟨htype, hmode, hrights, hkind⟩ := h
  exact FileSettings.ext (CommunicationMode.text_injective hmode)
    (AccessRights.text_injective hrights)
    (FileKind.eq_of_facts_eq (FileType.name_injective htype) hkind)

theorem plain_facts (settings : FileSettings) : ∀ fact ∈ settings.facts, Plain fact := by
  have htype : ∀ t : FileType, '\n' ∉ t.name.toList := by
    intro t
    cases t <;> decide
  have hmode : ∀ mode : CommunicationMode, '\n' ∉ mode.text.toList := by
    intro mode
    cases mode <;> decide
  have hnumber : ∀ n : UInt32, '\n' ∉ (toString n.toNat).toList :=
    fun n => notMem_decimal (by decide) n.toNat
  have hflag : ∀ flag : Bool, '\n' ∉ (toString flag).toList := by
    decide
  -- The names are fixed words, and the values of a kind are numbers and a flag.
  have hkind : ∀ fact ∈ settings.kind.facts, Plain fact := by
    cases settings.kind <;>
      simp only [FileKind.facts, List.forall_mem_cons, List.not_mem_nil, false_implies,
        implies_true, and_true, Plain, hnumber, hflag, not_false_iff] <;> decide
  simp only [facts, List.forall_mem_append, List.forall_mem_cons, List.not_mem_nil, false_implies,
    implies_true, and_true, Plain, htype, hmode, settings.rights.newline_notMem_text,
    not_false_iff]
  exact ⟨by decide, hkind⟩

/-! ### The summary -/

/-- The summary written line by line behind what is there already. -/
def writeBehind (text : String) (settings : FileSettings) : String :=
  settings.facts.foldl (fun text fact => text ++ line fact) text

theorem writeBehind_eq (text : String) (settings : FileSettings) :
    settings.writeBehind text = text ++ settings.summary := by
  have hlines : ∀ (facts : List (String × String)) (text : String),
      facts.foldl (fun text fact => text ++ line fact) text =
        text ++ String.join (facts.map line) := by
    intro facts
    induction facts with
    | nil => intro text; exact (String.append_empty).symm
    | cons fact facts ih =>
        intro text
        rw [List.foldl_cons, ih, List.map_cons, String.join_cons, String.append_assoc]
  exact hlines settings.facts text

theorem eq_of_summary_eq {settings other : FileSettings} (h : settings.summary = other.summary) :
    settings = other :=
  facts_injective (eq_of_lines_eq settings.plain_facts other.plain_facts h)

/-- **Settings have the same summary if and only if they are the same.**  The summary is what is
shown of them wherever they are shown, and showing them behind other text adds nothing else. -/
theorem summary_eq_iff :
    (∀ settings other : FileSettings, settings.summary = other.summary ↔ settings = other) ∧
    (∀ settings : FileSettings, toString settings = settings.summary) ∧
    ∀ (text : String) (settings : FileSettings),
      settings.writeBehind text = text ++ toString settings := by
  refine ⟨?_, fun _ => rfl, writeBehind_eq⟩
  intro settings other
  refine ⟨eq_of_summary_eq, ?_⟩
  intro h
  rw [h]

end FileSettings

end SmartCard
