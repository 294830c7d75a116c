/-
JSON values that stand for one another.

What a reader of a JSON value looks for is one of a few shapes.  The first part says of each
view exactly which values have its shape: an integer below a limit, the fields of a structure,
the name of an alternative.  A structure has each of its fields once, so whatever stands under
the name of a field is that field: `Holds.mem_of_field`.

The second part is about the two ways to write the fields of a structure, under their names or
in their order.  `Listed` relates a value to the same value with some of its objects, at any
depth, written as arrays.  Not every object may be: only one that has the fields of a structure,
all of them and in order.  `Holds.listed` says that the fields that a value has are still found
when it is listed, and `Holds.of_listed` that they are the same if they are `Rigid`, which is to
say that they have one form only.
-/
import Mathlib.Data.List.Forall2
import Mathlib.Data.List.Nodup
import SmartCard.Json.Form

namespace SmartCard.Json

variable {json json' : Json}

/-! ### What the views see -/

theorem bool?_eq_some_iff {b : Bool} : json.bool? = some b ↔ json = .bool b := by
  cases json <;> simp [bool?]

theorem natBelow?_eq_some_iff {limit n : Nat} :
    json.natBelow? limit = some n ↔ json = nat n ∧ n < limit := by
  cases json with
  | int value =>
      simp only [natBelow?, nat, Option.ite_none_right_eq_some, Option.some.injEq, int.injEq,
        Int.ofNat_eq_natCast]
      omega
  | _ => simp [natBelow?, nat]

/-- A number of a fixed width is read from the integer that it is. -/
private theorem map_natBelow?_eq_some_iff {α : Type} {limit : Nat} {ofNat : Nat → α}
    {toNat : α → Nat} (hlt : ∀ a, toNat a < limit) (hofNat : ∀ a, ofNat (toNat a) = a)
    (htoNat : ∀ n, n < limit → toNat (ofNat n) = n) {a : α} :
    (json.natBelow? limit).map ofNat = some a ↔ json = nat (toNat a) := by
  rw [Option.map_eq_some_iff]
  refine ⟨?_, ?_⟩
  · intro h
    obtain ⟨n, hn, rfl⟩ := h
    obtain ⟨rfl, hbelow⟩ := natBelow?_eq_some_iff.mp hn
    rw [htoNat n hbelow]
  · intro h
    exact ⟨toNat a, natBelow?_eq_some_iff.mpr ⟨h, hlt a⟩, hofNat a⟩

theorem u8?_eq_some_iff {b : UInt8} : json.u8? = some b ↔ json = nat b.toNat :=
  map_natBelow?_eq_some_iff UInt8.toNat_lt (fun _ => UInt8.ofNat_toNat)
    (fun _ h => UInt8.toNat_ofNat_of_lt h)

theorem u32?_eq_some_iff {n : UInt32} : json.u32? = some n ↔ json = nat n.toNat :=
  map_natBelow?_eq_some_iff UInt32.toNat_lt (fun _ => UInt32.ofNat_toNat)
    (fun _ h => UInt32.toNat_ofNat_of_lt h)

theorem elements?_eq_some_iff {elements : List Json} :
    json.elements? = some elements ↔ json = .arr elements := by
  cases json <;> simp [elements?]

theorem alternative?_eq_some_iff {name : String} :
    json.alternative? = some name ↔ json = .str name ∨ json = .obj [(name, .null)] := by
  unfold alternative?
  split <;> simp_all

theorem tagged?_eq_some_iff {name : String} {content : Json} :
    json.tagged? = some (name, content) ↔ json = .obj [(name, content)] := by
  unfold tagged?
  split <;> simp_all

/-! ### Fields -/

variable {name : String} {value : Json} {members : List (String × Json)}

/-- There is one member of this name, and it has this value. -/
def OnlyMember (members : List (String × Json)) (name : String) (value : Json) : Prop :=
  members.filter (·.1 == name) = [(name, value)]

namespace OnlyMember

variable {other : String} {content : Json}

theorem mem (h : OnlyMember members name value) : (name, value) ∈ members := by
  have hmem : (name, value) ∈ members.filter (·.1 == name) := by
    rw [h]
    exact List.mem_singleton_self _
  exact (List.mem_filter.mp hmem).1

theorem eq_of_mem (h : OnlyMember members name value) (hmem : (name, content) ∈ members) :
    content = value := by
  have hfilter : (name, content) ∈ members.filter (·.1 == name) :=
    List.mem_filter.mpr ⟨hmem, beq_self_eq_true name⟩
  rw [h, List.mem_singleton, Prod.mk.injEq] at hfilter
  exact hfilter.2

theorem cons_self (hfresh : ∀ member ∈ members, member.1 ≠ name) :
    OnlyMember ((name, value) :: members) name value := by
  have hnone : members.filter (·.1 == name) = [] := by
    rw [List.filter_eq_nil_iff]
    intro member hmember hname
    exact hfresh member hmember (beq_iff_eq.mp hname)
  rw [OnlyMember, List.filter_cons, if_pos (beq_self_eq_true name), hnone]

theorem cons_of_ne (h : OnlyMember members name value) (hne : other ≠ name) :
    OnlyMember ((other, content) :: members) name value := by
  rw [OnlyMember, List.filter_cons, if_neg (by simpa using hne)]
  exact h

end OnlyMember

theorem member?_eq_some_iff :
    member? name members = some value ↔ OnlyMember members name value := by
  unfold member? OnlyMember
  split
  · rename_i other found hfilter
    have hmem : (other, found) ∈ members.filter (·.1 == name) := by simp [hfilter]
    obtain rfl : other = name := by simpa using (List.mem_filter.mp hmem).2
    simp [hfilter]
  · rename_i hfilter
    simp only [reduceCtorEq, false_iff]
    exact hfilter name value

/-- Under these names there are these values: an object has each name once and the value with it,
whatever else is in it, and an array has the values in the order of the names, and nothing else. -/
inductive Holds (names : List String) : Json → List Json → Prop
  | object {members : List (String × Json)} {values : List Json}
      (h : List.Forall₂ (OnlyMember members) names values) : Holds names (.obj members) values
  | array {values : List Json} (h : values.length = names.length) :
      Holds names (.arr values) values

/-- The value has this field: an object may have several of one name, and an array has one for
each name. -/
inductive Field (names : List String) (name : String) : Json → Json → Prop
  | member {members : List (String × Json)} {value : Json} (h : (name, value) ∈ members) :
      Field names name (.obj members) value
  | element {elements : List Json} {value : Json} (h : (name, value) ∈ names.zip elements) :
      Field names name (.arr elements) value

variable {names : List String} {values values' : List Json}

theorem mapM_eq_some_iff {α β : Type} {f : α → Option β} {as : List α} {bs : List β} :
    as.mapM f = some bs ↔ List.Forall₂ (fun a b => f a = some b) as bs := by
  induction as generalizing bs with
  | nil => cases bs <;> simp
  | cons a rest ih =>
      cases bs with
      | nil => simp [List.mapM_cons, Option.bind_eq_some_iff]
      | cons b bs =>
          simp only [List.mapM_cons, List.forall₂_cons, ← ih]
          cases f a <;> cases rest.mapM f <;> simp

private theorem fields?_obj_eq_some_iff :
    (obj members).fields? names = some values ↔ List.Forall₂ (OnlyMember members) names values := by
  simp only [fields?, mapM_eq_some_iff, member?_eq_some_iff]

theorem fields?_eq_some_iff : json.fields? names = some values ↔ json.Holds names values := by
  refine ⟨?_, ?_⟩
  · intro h
    cases json with
    | obj members => exact .object (fields?_obj_eq_some_iff.mp h)
    | arr elements =>
        obtain ⟨hlength, heq⟩ := Option.ite_none_right_eq_some.mp h
        obtain rfl := Option.some.inj heq
        exact .array hlength
    | _ => contradiction
  · intro h
    cases h with
    | object h => exact fields?_obj_eq_some_iff.mpr h
    | array h => exact if_pos h

theorem holds_record_iff {members : List String} {contents : List Json} :
    (record members contents).Holds names values ↔
      List.Forall₂ (OnlyMember (members.zip contents)) names values :=
  ⟨fun | .object h => h, .object⟩

theorem Holds.unique (h : json.Holds names values) (h' : json.Holds names values') :
    values = values' := by
  rw [← fields?_eq_some_iff] at h h'
  exact Option.some.inj (h.symm.trans h')

private theorem mem_zip_of_forall₂ {α β : Type} {R : α → β → Prop} {as : List α} {bs : List β}
    (h : List.Forall₂ R as bs) {a : α} (ha : a ∈ as) : ∃ b, R a b ∧ (a, b) ∈ as.zip bs := by
  induction h with
  | nil => contradiction
  | @cons first b _ _ hfirst _ ih =>
      rcases List.mem_cons.mp ha with rfl | ha
      · exact ⟨b, hfirst, List.mem_cons_self⟩
      · obtain ⟨b, hab, hmem⟩ := ih ha
        exact ⟨b, hab, List.mem_cons_of_mem _ hmem⟩

/-- Whatever the value has as a field is what it is found to have. -/
theorem Holds.mem_of_field (h : json.Holds names values) (hname : name ∈ names)
    (hfield : json.Field names name value) : (name, value) ∈ names.zip values := by
  cases h with
  | object h =>
      obtain ⟨found, honly, hfound⟩ := mem_zip_of_forall₂ h hname
      cases hfield with
      | member hmember => rwa [honly.eq_of_mem hmember]
  | array h =>
      cases hfield with
      | element helement => exact helement

private theorem onlyMember_zip (hnodup : names.Nodup) (hlength : names.length = values.length) :
    List.Forall₂ (OnlyMember (names.zip values)) names values := by
  induction names generalizing values with
  | nil =>
      rw [List.eq_nil_of_length_eq_zero hlength.symm]
      exact .nil
  | cons name rest ih =>
      obtain ⟨hfresh, hnodup⟩ := List.nodup_cons.mp hnodup
      cases values with
      | nil => contradiction
      | cons value values =>
          refine .cons (.cons_self ?_) ?_
          · intro member hmember
            exact ne_of_mem_of_not_mem (List.of_mem_zip hmember).1 hfresh
          · have hne : ∀ other ∈ rest, name ≠ other := by
              intro other hother
              exact (ne_of_mem_of_not_mem hother hfresh).symm
            have hrest := (List.forall₂_and_left _ _).mpr ⟨hne, ih hnodup (Nat.succ.inj hlength)⟩
            exact hrest.imp fun _ _ h => h.2.cons_of_ne h.1

/-- A record has the values that it was made of. -/
theorem holds_record (hnodup : names.Nodup) (hlength : names.length = values.length) :
    (record names values).Holds names values :=
  .object (onlyMember_zip hnodup hlength)

/-! ### The two forms of a structure -/

/-- The structures of the data, each by the names of its fields. -/
def structures : List (List String) :=
  [AccessRights.fieldNames, DataFile.fieldNames, ValueFile.fieldNames, RecordFile.fieldNames,
    FileSettings.fieldNames, Response.fieldNames]

/-- The second value is the first one with any number of its structures, at any depth, written
as arrays. -/
inductive Listed : Json → Json → Prop
  | same (json : Json) : Listed json json
  | arr {elements elements' : List Json} (h : List.Forall₂ Listed elements elements') :
      Listed (.arr elements) (.arr elements')
  | obj {names : List String} {values values' : List Json}
      (hlength : names.length = values.length) (h : List.Forall₂ Listed values values') :
      Listed (.record names values) (.record names values')
  | fields {names : List String} {values values' : List Json} (hnames : names ∈ structures)
      (hlength : names.length = values.length) (h : List.Forall₂ Listed values values') :
      Listed (.record names values) (.arr values')

theorem nodup_of_mem_structures : ∀ names ∈ structures, names.Nodup := by
  decide

/-- No structure has only some of the fields of another. -/
theorem eq_of_subset_of_mem_structures :
    ∀ names ∈ structures, ∀ names' ∈ structures, names ⊆ names' → names = names' := by
  decide

private theorem forall₂_listed_same (values : List Json) : List.Forall₂ Listed values values :=
  List.forall₂_same.mpr fun value _ => .same value

/-! ### Values of one form only -/

/-- There is no structure in the value. -/
def Rigid (json : Json) : Prop :=
  ∀ json', Listed json json' → json' = json

private theorem rigid_of_leaf (harr : ∀ elements, json ≠ .arr elements)
    (hobj : ∀ members, json ≠ .obj members) : Rigid json := by
  intro json' h
  cases h with
  | same => rfl
  | arr => exact absurd rfl (harr _)
  | obj | fields => exact absurd rfl (hobj _)

@[simp] theorem rigid_null : Rigid .null := rigid_of_leaf nofun nofun

@[simp] theorem rigid_bool (b : Bool) : Rigid (.bool b) := rigid_of_leaf nofun nofun

@[simp] theorem rigid_nat (n : Nat) : Rigid (nat n) := rigid_of_leaf nofun nofun

@[simp] theorem rigid_str (text : String) : Rigid (.str text) := rigid_of_leaf nofun nofun

private theorem eq_of_forall₂_listed (h : List.Forall₂ Listed values values')
    (hrigid : ∀ value ∈ values, value.Rigid) : values' = values := by
  induction h with
  | nil => rfl
  | cons hfirst _ ih =>
      rw [List.forall_mem_cons] at hrigid
      rw [hrigid.1 _ hfirst, ih hrigid.2]

theorem rigid_arr (hrigid : ∀ value ∈ values, value.Rigid) : Rigid (.arr values) := by
  intro json' h
  cases h with
  | same => rfl
  | arr h => rw [eq_of_forall₂_listed h hrigid]

/-- An object of one member that is no structure is listed in what it holds. -/
theorem exists_listed_of_singleton {name : String} {content : Json} (hname : [name] ∉ structures)
    (h : Listed (.obj [(name, content)]) json') :
    ∃ content', json' = .obj [(name, content')] ∧ Listed content content' := by
  have hparts : ∀ {names : List String} {values : List Json}, names.length = values.length →
      Json.obj [(name, content)] = record names values → names = [name] ∧ values = [content] := by
    intro names values hlength hjson
    rw [record, obj.injEq] at hjson
    have hnames := List.map_fst_zip (Nat.le_of_eq hlength)
    have hvalues := List.map_snd_zip (Nat.le_of_eq hlength.symm)
    rw [← hjson] at hnames hvalues
    exact ⟨hnames.symm, hvalues.symm⟩
  generalize hjson : Json.obj [(name, content)] = json at h
  cases h with
  | same => exact ⟨content, hjson.symm, .same content⟩
  | arr => contradiction
  | obj hlength h =>
      obtain ⟨rfl, rfl⟩ := hparts hlength hjson
      obtain ⟨content', _, hcontent, hnil, rfl⟩ := List.forall₂_cons_left_iff.mp h
      obtain rfl := List.forall₂_nil_left_iff.mp hnil
      exact ⟨content', rfl, hcontent⟩
  | fields hnames hlength =>
      obtain ⟨rfl, -⟩ := hparts hlength hjson
      contradiction

/-! ### Fields in either form -/

/-- The members of a record and of a listed one: the same names, over listed values. -/
private theorem forall₂_zip_listed (names : List String) (h : List.Forall₂ Listed values values') :
    List.Forall₂ (fun member member' => member.1 = member'.1 ∧ Listed member.2 member'.2)
      (names.zip values) (names.zip values') := by
  induction h generalizing names with
  | nil => simp
  | cons hfirst _ ih =>
      cases names with
      | nil => exact .nil
      | cons name names => exact .cons ⟨rfl, hfirst⟩ (ih names)

private theorem onlyMember_listed (h : List.Forall₂ Listed values values')
    (hvalue : OnlyMember (names.zip values) name value) :
    ∃ value', OnlyMember (names.zip values') name value' ∧ Listed value value' := by
  have hsame : ∀ ⦃member member' : String × Json⦄,
      member.1 = member'.1 ∧ Listed member.2 member'.2 →
      ((member.1 == name) = true ↔ (member'.1 == name) = true) := by
    intro member member' hmember
    rw [hmember.1]
  have hfilter := List.rel_filter hsame (forall₂_zip_listed names h)
  rw [hvalue] at hfilter
  obtain ⟨⟨_, value'⟩, _, ⟨rfl, hlisted⟩, hnil, hfilter⟩ := List.forall₂_cons_left_iff.mp hfilter
  obtain rfl := List.forall₂_nil_left_iff.mp hnil
  exact ⟨value', hfilter, hlisted⟩

private theorem subset_of_holds_record {names' : List String}
    (h : (record names' values').Holds names values) : names ⊆ names' := by
  intro name hname
  obtain ⟨value, honly, -⟩ := mem_zip_of_forall₂ (holds_record_iff.mp h) hname
  exact (List.of_mem_zip honly.mem).1

private theorem holds_record_listed {names' : List String} {contents contents' : List Json}
    (hlisted : List.Forall₂ Listed contents contents')
    (h : (record names' contents).Holds names values) :
    ∃ values', (record names' contents').Holds names values' ∧
      List.Forall₂ Listed values values' := by
  rw [holds_record_iff] at h
  simp only [holds_record_iff]
  induction h with
  | nil => exact ⟨[], .nil, .nil⟩
  | cons hvalue _ ih =>
      obtain ⟨value', hvalue', hfirst⟩ := onlyMember_listed hlisted hvalue
      obtain ⟨values', hvalues', hrest⟩ := ih
      exact ⟨value' :: values', .cons hvalue' hvalues', .cons hfirst hrest⟩

/-- What has the fields of a structure still has them, each listed in its own way, after some
structures in it have been written as arrays. -/
theorem Holds.listed (h : json.Holds names values) (hnames : names ∈ structures)
    (hlisted : Listed json json') :
    ∃ values', json'.Holds names values' ∧ List.Forall₂ Listed values values' := by
  cases hlisted with
  | same => exact ⟨values, h, forall₂_listed_same values⟩
  | arr hlisted =>
      cases h with
      | array hlength => exact ⟨_, .array (hlisted.length_eq.symm.trans hlength), hlisted⟩
  | obj _ hlisted => exact holds_record_listed hlisted h
  | @fields names' contents contents' hnames' hlength hlisted =>
      -- The object has these fields and is a structure, so it is the structure of these fields.
      obtain rfl := eq_of_subset_of_mem_structures _ hnames _ hnames' (subset_of_holds_record h)
      obtain rfl := h.unique (holds_record (nodup_of_mem_structures _ hnames) hlength)
      exact ⟨contents', .array (hlisted.length_eq.symm.trans hlength.symm), hlisted⟩

/-- Fields without structures in them are the same fields in either form. -/
theorem Holds.of_listed (h : json.Holds names values) (hnames : names ∈ structures)
    (hrigid : ∀ value ∈ values, value.Rigid) (hlisted : Listed json json') :
    json'.Holds names values := by
  obtain ⟨values', h', hvalues⟩ := h.listed hnames hlisted
  rwa [eq_of_forall₂_listed hvalues hrigid] at h'

end SmartCard.Json
