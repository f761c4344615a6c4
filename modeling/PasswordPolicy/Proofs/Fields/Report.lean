import PasswordPolicy.Proofs.Fields.Renaming
import PasswordPolicy.Proofs.Fields.Wording

/-!
# Complete reports

A report tells of each field whose value cannot be read, in the order of the fields, and then of
each name by which no field is given, in the order in which the record gives them. What it tells of
a field depends on the value of this field alone, and so does the value that is read if there is
nothing to tell.

* **`fault_ne_of_readField`**: the two parts of a report have no type of error in common.
* **`Fields.faultsOf_report`**, **`Fields.strangersOf_report`**: the two parts of a report.
* **`Fields.report_complete_and_local`**: what is told of a record, and how it is worded.
-/

namespace PasswordPolicy

/-! ### Fields that cannot be read -/

section Unreadable
variable {fault : Fault}

/-- A text is refused as an integer for its form or its length. -/
theorem fault_ne_of_integerOfText {text : List Char} (h : integerOfText text = .error fault) :
    fault ≠ .unknownField := by
  unfold integerOfText at h
  split at h
  next negative unsigned _ =>
  extract_lets at h
  split at h
  · cases h
    exact nofun
  · split at h
    · cases h
      exact nofun
    · split at h
      · cases h
        exact nofun
      · cases h

theorem fault_ne_of_integerOfReal {x : Binary64} (h : integerOfReal x = .error fault) :
    fault ≠ .unknownField := by
  unfold integerOfReal at h
  split at h
  · cases h
    exact nofun
  · split at h
    · cases h
      exact nofun
    · split at h
      · cases h
      · cases h
        exact nofun

theorem fault_ne_of_toInteger {value : Value} (h : value.toInteger = .error fault) :
    fault ≠ .unknownField := by
  unfold Value.toInteger at h
  split at h
  · cases h
  · cases h
  · exact fault_ne_of_integerOfReal h
  · exact fault_ne_of_integerOfText h
  · cases h
    exact nofun

theorem fault_ne_of_switchOfInteger {i : Int} (h : switchOfInteger i = .error fault) :
    fault ≠ .unknownField := by
  unfold switchOfInteger at h
  split at h
  · cases h
  · split at h
    · cases h
    · cases h
      exact nofun

theorem fault_ne_of_switchOfText {s : String} (h : switchOfText s = .error fault) :
    fault ≠ .unknownField := by
  unfold switchOfText at h
  extract_lets at h
  split at h
  · cases h
  · split at h
    · cases h
    · cases h
      exact nofun

theorem fault_ne_of_toSwitch {value : Value} (h : value.toSwitch = .error fault) :
    fault ≠ .unknownField := by
  unfold Value.toSwitch at h
  split at h
  · cases h
  · exact fault_ne_of_switchOfInteger h
  · split at h
    · exact fault_ne_of_switchOfInteger h
    · cases h
      exact nofun
  · exact fault_ne_of_switchOfText h
  · cases h
    exact nofun

theorem fault_ne_of_accept {k : Kind} {i : Int} (h : k.accept i = .error fault) :
    fault ≠ .unknownField := by
  unfold Kind.accept at h
  split at h
  · cases h
  · cases h
    exact nofun

/-- **A value that a field cannot have** makes no unknown field of it. So what is told under the
type of unknown fields is about a key. -/
theorem fault_ne_of_readField {k : Kind} {value : Value} (h : k.readField value = .error fault) :
    fault ≠ .unknownField := by
  unfold Kind.readField at h
  -- a value is refused while it is converted, or as too small once it is
  split at h
  · cases hswitch : value.toSwitch with
    | error other =>
      rw [hswitch] at h
      cases h
      exact fault_ne_of_toSwitch hswitch
    | ok b =>
      rw [hswitch] at h
      exact fault_ne_of_accept h
  · cases hinteger : value.toInteger with
    | error other =>
      rw [hinteger] at h
      cases h
      exact fault_ne_of_toInteger hinteger
    | ok i =>
      rw [hinteger] at h
      exact fault_ne_of_accept h

/-- Only an unknown field is told under the type of unknown fields. -/
theorem Fault.code_ne_of_ne (h : fault ≠ .unknownField) : fault.code ≠ "extra_field" := by
  cases fault with
  | unknownField => exact absurd rfl h
  | _ => simp [Fault.code]

end Unreadable

namespace Fields

open Entries (ofTexts)

variable {object : List (String × Value)} {k : Kind} {name : String} {value : Value} {fault : Fault}

/-- The record gives the field a value that it cannot be read from. -/
structure FaultAt (object : List (String × Value)) (k : Kind) (name : String) (value : Value)
    (fault : Fault) : Prop where
  gives : Gives object k name value
  unread : k.readField value = .error fault

/-- The findings tell of each field that cannot be read, in the order of the fields. -/
def FaultsOf (object : List (String × Value)) (findings : List Finding) : Prop :=
  ∃ kinds : List Kind, kinds.Sublist Kind.all ∧
    (∀ k, k ∈ kinds ↔ ∃ name value fault, FaultAt object k name value fault) ∧
    List.Forall₂ (fun k f => ∃ name value fault, FaultAt object k name value fault ∧
      f = ⟨fault.code, [.text name], fault.message, value, []⟩) kinds findings

/-- **What is complained of a field** is the value that it is given, at the name under which it is
given, for the reason why it cannot be read. -/
theorem fieldError?_ofTexts_eq_some_iff (h : (object.map Prod.fst).Nodup) {e : FieldError} :
    fieldError? (ofTexts object) k = some e ↔
      ∃ name value fault, FaultAt object k name value fault ∧ e = ⟨[.text name], fault, value⟩ := by
  have hgiven {name value fault} (hfault : FaultAt object k name value fault) :
      given (ofTexts object) k = some (name, value) :=
    (given_ofTexts_eq_some_iff h).mpr hfault.gives
  constructor
  · intro he
    -- of the three ends the second is the only one with a complaint
    unfold fieldError? at he
    split at he
    · cases he
    · next name value hname =>
      split at he
      · cases he
      · next fault hread =>
        exact ⟨name, value, fault, ⟨(given_ofTexts_eq_some_iff h).mp hname, hread⟩,
          (Option.some.inj he).symm⟩
  · rintro ⟨name, value, fault, hfault, rfl⟩
    rw [fieldError?, hgiven hfault]
    simp only [hfault.unread]

/-- A list that keeps some of its members, each in its place. -/
theorem forall₂_filterMap {α β : Type} (f : α → Option β) (l : List α) :
    List.Forall₂ (fun a b => f a = some b) (l.filter fun a => (f a).isSome) (l.filterMap f) := by
  induction l with
  | nil => exact .nil
  | cons a l ih =>
    cases hf : f a with
    | none => rwa [List.filter_cons_of_neg (by simp [hf]), List.filterMap_cons_none hf]
    | some b =>
      rw [List.filter_cons_of_pos (by simp [hf]), List.filterMap_cons_some hf]
      exact .cons hf ih

/-- The first part of the report is on the fields with a fault, in their order. -/
theorem faultsOf_report (h : (object.map Prod.fst).Nodup) :
    FaultsOf object ((Kind.all.filterMap (fieldError? (ofTexts object))).map FieldError.told) := by
  -- the kinds are filtered and the complaints mapped from the same list, so they pair up
  refine ⟨Kind.all.filter fun k => (fieldError? (ofTexts object) k).isSome,
    List.filter_sublist, fun k => ?_, ?_⟩
  · rw [List.mem_filter, and_iff_right (Kind.mem_all k), Option.isSome_iff_exists]
    constructor
    · rintro ⟨e, he⟩
      obtain ⟨name, value, fault, hfault, -⟩ := (fieldError?_ofTexts_eq_some_iff h).mp he
      exact ⟨name, value, fault, hfault⟩
    · rintro ⟨name, value, fault, hfault⟩
      exact ⟨_, (fieldError?_ofTexts_eq_some_iff h).mpr ⟨name, value, fault, hfault, rfl⟩⟩
  · rw [List.forall₂_map_right_iff]
    refine (forall₂_filterMap (fieldError? (ofTexts object)) Kind.all).imp fun k e he => ?_
    obtain ⟨name, value, fault, hfault, rfl⟩ := (fieldError?_ofTexts_eq_some_iff h).mp he
    exact ⟨name, value, fault, hfault, rfl⟩

/-! ### Names that give no field -/

/-- The name is none of a field, or the key of a field that is given by its label. -/
def Strange (object : List (String × Value)) (name : String) : Prop :=
  (∀ k : Kind, ¬ k.Named name) ∨ ∃ k : Kind, name = k.key ∧ k.label ∈ object.map Prod.fst

/-- The findings tell of each name that gives no field, in the order of the record. -/
def StrangersOf (object : List (String × Value)) (findings : List Finding) : Prop :=
  ∃ strangers : List (String × Value), strangers.Sublist object ∧
    (∀ entry, entry ∈ strangers ↔ entry ∈ object ∧ Strange object entry.1) ∧
    findings = strangers.map fun entry =>
      ⟨"extra_field", [.text entry.1], "Extra fields not allowed", entry.2, []⟩

/-- The keys that belong to a field are those that are not strange. A key is strange if it names no
field, or if it names one whose label is there as well. -/
theorem isFieldKey_ofTexts_iff_not_strange (h : (object.map Prod.fst).Nodup)
    (hentry : (name, value) ∈ object) :
    isFieldKey (ofTexts object) (.text name) = true ↔ ¬ Strange object name := by
  rw [isFieldKey_iff]
  constructor
  · rintro ⟨k, other, w, hgiven, hname⟩
    obtain rfl := Scalar.text.inj hname
    -- a field is given by its label, or by its key if the label is not in use
    obtain ⟨-, hgives⟩ := (given_ofTexts_eq_some_iff h).mp hgiven
    rintro (hunnamed | ⟨l, hkey, hlabel⟩)
    · exact hunnamed k (named_of_given hgiven)
    · obtain rfl : k = l := (named_of_given hgiven).eq_of_named (.inr hkey)
      rcases hgives with rfl | ⟨-, hnot⟩
      · exact Kind.label_ne_key k k hkey
      · exact hnot hlabel
  · intro hstrange
    obtain ⟨hnamed, hfree⟩ := not_or.mp hstrange
    obtain ⟨k, hk⟩ := not_forall_not.mp hnamed
    have hgives : Gives object k name value := by
      -- a key beside its own label would be strange
      refine ⟨hentry, hk.imp_right fun hkey => ⟨hkey, fun hlabel => ?_⟩⟩
      exact hfree ⟨k, hkey, hlabel⟩
    exact ⟨k, name, value, (given_ofTexts_eq_some_iff h).mpr hgives, rfl⟩

def strangerError (entry : String × Value) : FieldError :=
  ⟨[.text entry.1], .unknownField, entry.2⟩

/-- The entries that give no field, in their order in the record. -/
def strangers (object : List (String × Value)) : List (String × Value) :=
  object.filter fun entry => !isFieldKey (ofTexts object) (.text entry.1)

/-- The complaints about keys are made in the order of the object. -/
theorem strangerErrors_ofTexts : (ofTexts object).filterMap (strangerError? (ofTexts object)) =
    (strangers object).map strangerError := by
  rw [Entries.filterMap_ofTexts, strangers, ← List.filterMap_eq_map, List.filterMap_filter]
  refine List.filterMap_congr fun entry _ => ?_
  unfold strangerError?
  cases isFieldKey (ofTexts object) (.text entry.1) <;> rfl

/-- The second part of the report is on the strange keys, in the order in which they stand in the
object. -/
theorem strangersOf_report (h : (object.map Prod.fst).Nodup) :
    StrangersOf object (((strangers object).map strangerError).map FieldError.told) := by
  refine ⟨strangers object, List.filter_sublist, fun ⟨name, value⟩ => ?_, List.map_map⟩
  rw [strangers, List.mem_filter]
  refine and_congr_right fun hentry => ?_
  rw [Bool.not_eq_true', ← Bool.not_eq_true, isFieldKey_ofTexts_iff_not_strange h hentry, not_not]

/-- No fault of a field is reported as an unknown field. -/
theorem FaultsOf.type_ne {findings : List Finding} (h : FaultsOf object findings) :
    ∀ f ∈ findings, f.type ≠ "extra_field" := by
  obtain ⟨kinds, -, -, htold⟩ := h
  induction htold with
  | nil => exact nofun
  | cons hfirst _ ih =>
    obtain ⟨name, value, fault, hfault, rfl⟩ := hfirst
    have hfault : fault ≠ .unknownField := fault_ne_of_readField hfault.unread
    exact List.forall_mem_cons.mpr ⟨Fault.code_ne_of_ne hfault, ih⟩

/-! ### What is told -/

/-- The value that the record gives the field, as it is read, or the default if it gives none. -/
def ReadAs (object : List (String × Value)) (k : Kind) (i : Int) : Prop :=
  (∃ name value read, Gives object k name value ∧ k.readField value = .ok read ∧ i = read.1) ∨
    (∀ name value, ¬ Gives object k name value) ∧ i = k.default

/-- What is read of an accepted object is, for each field, what it is given, or the default. -/
theorem readAs_of_ofEntries (h : (object.map Prod.fst).Nodup) {fields : Fields}
    (hfields : ofEntries (ofTexts object) = .ok fields) (k : Kind) :
    ReadAs object k (fields.value k) := by
  obtain ⟨hreport, hvalue⟩ := ofEntries_eq_ok_iff_report.mp hfields
  have hunread := (report_eq_nil_iff.mp hreport).1 k
  rw [hvalue k]
  unfold readValue
  split
  · next hnone =>
    right
    refine ⟨fun name value hgives => ?_, rfl⟩
    rw [(given_ofTexts_eq_some_iff h).mpr hgives] at hnone
    cases hnone
  · next name value hgiven =>
    left
    -- no complaint was made about this field, so it could be read
    obtain ⟨read, hread⟩ := fieldError?_eq_none_iff.mp hunread name value hgiven
    refine ⟨name, value, read, (given_ofTexts_eq_some_iff h).mp hgiven, hread, ?_⟩
    simp only [hread]

/-- What is told of a record: first of the fields, then of the strangers. -/
structure ToldOf (object : List (String × Value)) (faults strangers : List Finding) : Prop where
  /-- There is one finding for each field that cannot be read, in the order of the fields. -/
  faultsOf : FaultsOf object faults
  /-- There is one finding for each name that gives no field, in the order of the record. -/
  strangersOf : StrangersOf object strangers
  /-- Only the names that give no field are told as such. -/
  apart : ∀ f ∈ faults, f.type ≠ "extra_field"
  /-- If there is nothing to tell, the record is accepted, and each field has the value that it is
  given, as it is read by itself, or its default. -/
  accepted : faults ++ strangers = [] → ∃ fields, ofValue (.object object) = .ok fields ∧
    ∀ k, ReadAs object k (fields.value k)
  /-- Otherwise the record is refused with a report that tells these findings and no more. -/
  refused : faults ++ strangers ≠ [] → ∃ errors, ofValue (.object object) = .error errors ∧
    FieldError.tell errors = .ok (faults ++ strangers)

theorem tell_report : FieldError.tell (report (ofTexts object)) =
    .ok ((Kind.all.filterMap (fieldError? (ofTexts object))).map FieldError.told ++
      ((strangers object).map strangerError).map FieldError.told) := by
  rw [FieldError.tell_eq, report, strangerErrors_ofTexts, List.map_append]

/-- **What is told of a record** whose names are all different. The two parts are told one after the
other, and the types keep them apart. -/
theorem exists_toldOf (h : (object.map Prod.fst).Nodup) :
    ∃ faults strangers, ToldOf object faults strangers := by
  have hfaults := faultsOf_report h
  refine ⟨_, _, hfaults, strangersOf_report h, hfaults.type_ne, fun hnil => ?_, fun hne => ?_⟩
  · -- the wording cannot make a report empty that was not
    have htold := @tell_report object
    rw [hnil, FieldError.tell_eq, Except.ok.injEq, List.map_eq_nil_iff] at htold
    obtain ⟨fields, hfields⟩ := ofEntries_isOk_iff.mpr htold
    exact ⟨fields, hfields, readAs_of_ofEntries h hfields⟩
  · have hreport : report (ofTexts object) ≠ [] := by
      intro hreport
      have htold := @tell_report object
      rw [hreport] at htold
      exact hne (Except.ok.inj htold).symm
    refine ⟨report (ofTexts object), ?_, tell_report⟩
    show ofEntries (ofTexts object) = _
    rw [ofEntries, List.isEmpty_eq_false_iff.mpr hreport]
    rfl

/-- **What is told of a record, and how it is worded.** There is one finding for each field that
cannot be read, in the order of the fields, and then one for each name that gives no field, in the
order in which the record gives them. If there is none, the record is accepted, and each field has
the value that it is given, as it is read by itself, or its default. Other words change neither the
number nor the order of findings, nor the places and values that they are about; and there are words
for all findings unless one about a bound has a context without the bound. -/
theorem report_complete_and_local :
    (∀ object : List (String × Value), (object.map Prod.fst).Nodup →
      ∃ faults strangers, ToldOf object faults strangers) ∧
    (∀ (v : Vocabulary) (findings told : List Finding), v.rewordAll findings = .ok told →
      List.Forall₂ (fun f t => t.type = v.typeName f.type ∧ t.location = f.location ∧
        t.input = f.input ∧ t.context = [] ∧ v.message t.type f = .ok t.message) findings told) ∧
    ∀ findings : List Finding, (∃ told, Vocabulary.own.rewordAll findings = .ok told) ↔
      ∀ f ∈ findings, f.type = "greater_than_equal" → f.context ≠ [] →
        ∃ bound, f.context.lookup "ge" = some bound := by
  refine ⟨fun object => exists_toldOf, fun v findings told htold => ?_, fun findings => ?_⟩
  · refine (Vocabulary.rewordAll_eq_ok_iff.mp htold).imp fun f t ht => ?_
    obtain ⟨htype, hlocation, hinput, hcontext, hmessage⟩ := Vocabulary.of_reword_eq_ok ht
    exact ⟨htype, hlocation, hinput, hcontext, htype ▸ hmessage⟩
  · rw [Vocabulary.exists_rewordAll_iff]
    exact forall₂_congr fun f _ => Vocabulary.exists_reword_own_iff

/-- Unknown names are not sorted: they are told as the record gives them, here `b` before `a`. -/
theorem strangers_told_unsorted :
    let object : List (String × Value) := [("b", .int 1), ("a", .int 2)]
    ∃ errors, ofValue (.object object) = .error errors ∧
      (∃ told, FieldError.tell errors = .ok told ∧
        told.map Finding.type = ["extra_field", "extra_field"] ∧
        told.map Finding.location = [[.text "b"], [.text "a"]]) ∧
      "a" < "b" := by
  intro object
  exact ⟨_, rfl, ⟨_, FieldError.tell_eq _, rfl, rfl⟩, by decide⟩

/-- A record with both kinds of findings, one without any, and two findings in other words. -/
theorem report_complete_and_local_of_records :
    let mixed : List (String × Value) := [("other", .null), ("maxAge", .int (-2)),
      ("min_length", .int 1), ("minLength", .int 3), ("noUser", .text "x")]
    let plain : List (String × Value) := [("min_length", .text "+1_2"), ("noUser", .text "Yes")]
    let findings : List Finding := [
      ⟨"missing", [.text "a"], "Field required", .null, []⟩,
      ⟨"greater_than_equal", [.text "b"], "Too small", .int (-1), [("ge", "0")]⟩]
    ((mixed.map Prod.fst).Nodup ∧ ∃ faults strangers, FaultsOf mixed faults ∧
      StrangersOf mixed strangers ∧ faults ++ strangers ≠ [] ∧
      FieldError.tell [⟨[.text "maxAge"], .below (-1), .int (-2)⟩,
        ⟨[.text "noUser"], .unreadableSwitch, .text "x"⟩,
        ⟨[.text "other"], .unknownField, .null⟩, ⟨[.text "min_length"], .unknownField, .int 1⟩] =
          .ok (faults ++ strangers)) ∧
    ((plain.map Prod.fst).Nodup ∧ ∃ fields, ofValue (.object plain) = .ok fields ∧
      ∀ k, ReadAs plain k (fields.value k)) ∧
    ∃ told, Vocabulary.own.rewordAll findings = .ok told ∧
      List.Forall₂ (fun f t => t.location = f.location) findings told := by
  intro mixed plain findings
  have hmixed : (mixed.map Prod.fst).Nodup := by decide
  have hplain : (plain.map Prod.fst).Nodup := by decide
  obtain ⟨hreport, hkeeps, htells⟩ := report_complete_and_local
  refine ⟨⟨hmixed, ?_⟩, ⟨hplain, ?_⟩, ?_⟩
  · obtain ⟨faults, strangers, h⟩ := hreport mixed hmixed
    have hne : faults ++ strangers ≠ [] := by
      intro hnil
      obtain ⟨fields, hfields, -⟩ := h.accepted hnil
      cases hfields
    obtain ⟨errors, herrors, htold⟩ := h.refused hne
    cases herrors
    exact ⟨faults, strangers, h.faultsOf, h.strangersOf, hne, htold⟩
  · obtain ⟨faults, strangers, h⟩ := hreport plain hplain
    apply h.accepted
    by_contra hne
    obtain ⟨errors, herrors, -⟩ := h.refused hne
    cases herrors
  · have hbound : ∀ f ∈ findings, f.type = "greater_than_equal" → f.context ≠ [] →
        ∃ bound, f.context.lookup "ge" = some bound := by
      simp [findings]
    obtain ⟨told, htold⟩ := (htells findings).mpr hbound
    exact ⟨told, htold, (hkeeps _ _ _ htold).imp fun _ _ h => h.2.1⟩

end Fields

end PasswordPolicy
