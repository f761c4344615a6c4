import Mathlib.Data.List.Nodup
import PasswordPolicy.Fields.Basic

/-!
# Overriding one field

A record of fields gets one more entry, in place of one of the same name or at the end. If the other
name of the field is not in use, only the value of this field changes. If it is, the record has both
names of the field, of which the key is then unknown.

* **`ofEntries_put`**: the definition with one field overridden.
* **`ofEntries_put_other`**: the error that both names together make.
-/

namespace PasswordPolicy

/-! ### Putting an entry -/

namespace Entries

variable {entries : Entries} {key : Scalar} {value : Value}

/-- After an entry is put, the entries are that one and the others of different names. Where the
name was in use, the new entry stands in the place of the old one. -/
theorem mem_put {entry : Scalar × Value} : entry ∈ entries.put key value ↔
    entry ∈ entries ∧ entry.1 ≠ key ∨ entry = (key, value) := by
  unfold put
  split
  · next hany =>
    -- an entry of the same name is replaced where it stands
    rw [List.mem_map]
    constructor
    · rintro ⟨old, hold, rfl⟩
      by_cases hkey : old.1 = key
      · exact .inr (by simp [hkey])
      · exact .inl (by simp [hkey, hold])
    · rintro (⟨hmem, hne⟩ | rfl)
      · exact ⟨entry, hmem, by simp [hne]⟩
      · obtain ⟨old, hold, hkey⟩ := List.any_eq_true.mp hany
        exact ⟨old, hold, if_pos hkey⟩
  · next hany =>
    -- without one the new entry is added at the end
    have hne (old : Scalar × Value) (hold : old ∈ entries) : old.1 ≠ key := by
      intro hkey
      exact hany (List.any_eq_true.mpr ⟨old, hold, by simp [hkey]⟩)
    rw [List.mem_append, List.mem_singleton]
    constructor
    · rintro (hmem | rfl)
      · exact .inl ⟨hmem, hne entry hmem⟩
      · exact .inr rfl
    · rintro (⟨hmem, -⟩ | rfl)
      · exact .inl hmem
      · exact .inr rfl

/-- No key occurs twice when an entry has been put. An entry is replaced under its own key, or added
under a new one. -/
theorem nodup_keys_put (h : (entries.map Prod.fst).Nodup) (key : Scalar) (value : Value) :
    ((entries.put key value).map Prod.fst).Nodup := by
  unfold put
  split
  · next hany =>
    -- replacing a value keeps the list of keys
    have hkeys : (entries.map fun entry => if entry.1 == key then (key, value) else entry).map
        Prod.fst = entries.map Prod.fst := by
      rw [List.map_map]
      apply List.map_congr_left
      intro entry hentry
      by_cases hkey : entry.1 = key
      · simp [hkey]
      · simp [hkey]
    rwa [hkeys]
  · next hany =>
    rw [List.map_append, List.nodup_append]
    refine ⟨h, List.nodup_singleton _, ?_⟩
    rintro a ha b hb rfl
    obtain ⟨entry, hentry, rfl⟩ := List.mem_map.mp ha
    exact hany (List.any_eq_true.mpr ⟨entry, hentry, by simpa using hb⟩)

theorem mem_of_get?_eq_some (h : entries.get? key = some value) : (key, value) ∈ entries := by
  obtain ⟨⟨other, w⟩, hfind, hvalue⟩ := Option.map_eq_some_iff.mp h
  obtain rfl : other = key := by simpa using List.find?_some hfind
  obtain rfl : w = value := hvalue
  exact List.mem_of_find?_eq_some hfind

/-- Where no key occurs twice, each entry is the one that is found under its key. -/
theorem get?_eq_some_iff (h : (entries.map Prod.fst).Nodup) :
    entries.get? key = some value ↔ (key, value) ∈ entries := by
  refine ⟨mem_of_get?_eq_some, fun hmem => ?_⟩
  have hsome : (entries.find? fun entry => entry.1 == key).isSome = true :=
    List.find?_isSome.mpr ⟨(key, value), hmem, by simp⟩
  obtain ⟨other, hfind⟩ := Option.isSome_iff_exists.mp hsome
  have hkey : other.1 = key := by simpa using List.find?_some hfind
  obtain rfl : other = (key, value) :=
    List.inj_on_of_nodup_map h (List.mem_of_find?_eq_some hfind) hmem hkey
  rw [get?, hfind]
  rfl

end Entries

/-! ### Names -/

namespace Kind

variable {k l : Kind} {name : String}

/-- The name is one of the two that the field of the kind has. -/
def Named (k : Kind) (name : String) : Prop := name = k.label ∨ name = k.key

/-- The other one of the two names of the field. -/
def otherName (k : Kind) (name : String) : String := if name = k.label then k.key else k.label

/-- No label is the key of a field, not even of another one. -/
theorem label_ne_key (k l : Kind) : k.label ≠ l.key := by
  cases k <;> cases l <;> decide

/-- A name belongs to one field only. -/
theorem Named.eq_of_named (hk : k.Named name) (hl : l.Named name) : k = l := by
  have hlabel : k.label = l.label → k = l := by cases k <;> cases l <;> decide
  have hkey : k.key = l.key → k = l := by cases k <;> cases l <;> decide
  -- a label and a key are never the same, so both names are labels or both are keys
  rcases hk with rfl | rfl
  · rcases hl with hl | hl
    · exact hlabel hl
    · exact absurd hl (label_ne_key k l)
  · rcases hl with hl | hl
    · exact absurd hl.symm (label_ne_key l k)
    · exact hkey hl

/-- A field has two names, so any name but the one is the other. -/
theorem Named.eq_otherName {other : String} (h : k.Named other) (hname : k.Named name)
    (hne : other ≠ name) : other = k.otherName name := by
  unfold otherName
  rcases hname with rfl | rfl
  · rw [if_pos rfl]
    exact h.resolve_left hne
  · rw [if_neg (label_ne_key k k).symm]
    exact h.resolve_right hne

theorem named_otherName (hname : k.Named name) : k.Named (k.otherName name) := by
  unfold otherName
  rcases hname with rfl | rfl
  · rw [if_pos rfl]
    exact .inr rfl
  · rw [if_neg (label_ne_key k k).symm]
    exact .inl rfl

end Kind

/-! ### Reports -/

namespace Fields

variable {entries : Entries} {fields : Fields}

theorem named_of_given {k : Kind} {name : String} {value : Value}
    (h : given entries k = some (name, value)) : k.Named name := by
  unfold given at h
  split at h
  · obtain ⟨rfl, rfl⟩ := Prod.mk.inj (Option.some.inj h)
    exact .inl rfl
  · obtain ⟨w, -, hw⟩ := Option.map_eq_some_iff.mp h
    exact .inr (Prod.mk.inj hw).1.symm

theorem get?_of_given {k : Kind} {name : String} {value : Value}
    (h : given entries k = some (name, value)) : entries.get? (.text name) = some value := by
  unfold given at h
  split at h
  · next hlabel =>
    obtain ⟨rfl, rfl⟩ := Prod.mk.inj (Option.some.inj h)
    exact hlabel
  · obtain ⟨w, hkey, hw⟩ := Option.map_eq_some_iff.mp h
    obtain ⟨rfl, rfl⟩ := Prod.mk.inj hw
    exact hkey

/-- The keys that belong to a field are the names under which fields are given. -/
theorem isFieldKey_iff {key : Scalar} : isFieldKey entries key = true ↔
    ∃ k name value, given entries k = some (name, value) ∧ key = .text name := by
  unfold isFieldKey
  rw [List.any_eq_true]
  constructor
  · rintro ⟨k, -, hk⟩
    cases hgiven : given entries k with
    | none => simp [hgiven] at hk
    | some pair => exact ⟨k, pair.1, pair.2, by simp [hgiven], by simpa [hgiven] using hk⟩
  · rintro ⟨k, name, value, hgiven, rfl⟩
    exact ⟨k, Kind.mem_all k, by simp [hgiven]⟩

/-- No complaint is made about an entry exactly if its key belongs to a field. -/
theorem strangerError?_eq_none_iff {entry : Scalar × Value} :
    strangerError? entries entry = none ↔ isFieldKey entries entry.1 = true := by
  unfold strangerError?
  split
  · next h => simp [h]
  · next h => split <;> simp [h]

/-- **Nothing is reported** exactly if every field can be read and every key belongs to one. The two
conditions are those for the two parts of the report. -/
theorem report_eq_nil_iff : report entries = [] ↔
    (∀ k, fieldError? entries k = none) ∧ ∀ entry ∈ entries, isFieldKey entries entry.1 = true := by
  rw [report, List.append_eq_nil_iff, List.filterMap_eq_nil_iff, List.filterMap_eq_nil_iff]
  constructor
  · rintro ⟨hfields, hstrangers⟩
    exact ⟨fun k => hfields k (Kind.mem_all k),
      fun entry hentry => strangerError?_eq_none_iff.mp (hstrangers entry hentry)⟩
  · rintro ⟨hfields, hstrangers⟩
    exact ⟨fun k _ => hfields k,
      fun entry hentry => strangerError?_eq_none_iff.mpr (hstrangers entry hentry)⟩

/-- No complaint is made about a field exactly if the value that it is given, if any, can be
read. -/
theorem fieldError?_eq_none_iff {k : Kind} : fieldError? entries k = none ↔
    ∀ name value, given entries k = some (name, value) → ∃ read, k.readField value = .ok read := by
  unfold fieldError?
  split
  · next hnone => simp [hnone]
  · next name value hgiven =>
    cases hread : k.readField value with
    | ok read =>
      simp only [true_iff]
      rintro name' value' hgiven'
      cases hgiven.symm.trans hgiven'
      exact ⟨read, hread⟩
    | error fault =>
      simp only [reduceCtorEq, false_iff, not_forall]
      exact ⟨name, value, hgiven, by simp [hread]⟩

/-- **A record is read** exactly if nothing is reported, and then each field has the value that was
read for it. -/
theorem ofEntries_eq_ok_iff_report : ofEntries entries = .ok fields ↔
    report entries = [] ∧ ∀ k, fields.value k = (readValue entries k).1 := by
  unfold ofEntries
  extract_lets errors
  split
  · next hempty =>
    rw [Except.ok.injEq]
    constructor
    · rintro rfl
      exact ⟨List.isEmpty_iff.mp hempty, fun _ => rfl⟩
    · rintro ⟨-, hvalue⟩
      exact Fields.ext (funext fun k => (hvalue k).symm)
  · next hsome =>
    simp only [reduceCtorEq, false_iff, not_and]
    intro hnil
    exact absurd (List.isEmpty_iff.mpr hnil) hsome

/-! ### One field more -/

/-- The definition with another value for one field. -/
def override (fields : Fields) (k : Kind) (read : { value : Int // k.Admissible value }) :
    Fields where
  value l := if l = k then read.1 else fields.value l
  admissible l := by
    by_cases h : l = k
    · subst h
      rw [if_pos rfl]
      exact read.2
    · rw [if_neg h]
      exact fields.admissible l

variable {k : Kind} {name : String} {value : Value} {read : { value : Int // k.Admissible value }}

/-- An entry that is put under a name of one field does not reach the others. -/
theorem given_put_of_ne (hname : k.Named name) {l : Kind} (hl : l ≠ k) :
    given (entries.put (.text name) value) l = given entries l := by
  have hlabel : l.label ≠ name := fun h => hl (Kind.Named.eq_of_named (.inl h.symm) hname)
  have hkey : l.key ≠ name := fun h => hl (Kind.Named.eq_of_named (.inr h.symm) hname)
  unfold given
  rw [Entries.get?_put, Entries.get?_put, if_neg (by simpa using hlabel),
    if_neg (by simpa using hkey)]

/-- The entry is what its own field is given, where the other name is not in use. -/
theorem given_put_self (hname : k.Named name)
    (hother : entries.get? (.text (k.otherName name)) = none) :
    given (entries.put (.text name) value) k = some (name, value) := by
  unfold given
  rcases hname with rfl | rfl
  · rw [Entries.get?_put, if_pos rfl]
  · have hne := Kind.label_ne_key k k
    rw [Kind.otherName, if_neg hne.symm] at hother
    rw [Entries.get?_put, if_neg (by simpa using hne), hother, Entries.get?_put, if_pos rfl]
    rfl

/-- **One field overridden**: where the other name of the field is not in use, the entry counts, and
all other values stay. -/
theorem ofEntries_put (h : ofEntries entries = .ok fields) (hname : k.Named name)
    (hother : entries.get? (.text (k.otherName name)) = none)
    (hread : k.readField value = .ok read) :
    ofEntries (entries.put (.text name) value) = .ok (fields.override k read) := by
  obtain ⟨hreport, hvalue⟩ := ofEntries_eq_ok_iff_report.mp h
  obtain ⟨hfields, hkeys⟩ := report_eq_nil_iff.mp hreport
  have hself : given (entries.put (.text name) value) k = some (name, value) :=
    given_put_self hname hother
  refine ofEntries_eq_ok_iff_report.mpr ⟨report_eq_nil_iff.mpr ⟨fun l => ?_, ?_⟩, fun l => ?_⟩
  · by_cases hl : l = k
    · subst hl
      apply fieldError?_eq_none_iff.mpr
      intro name' value' hgiven
      cases hself.symm.trans hgiven
      exact ⟨read, hread⟩
    · rw [fieldError?, given_put_of_ne hname hl]
      exact hfields l
  · intro entry hentry
    rcases Entries.mem_put.mp hentry with ⟨hmem, hne⟩ | rfl
    · obtain ⟨l, name', value', hgiven, hkey⟩ := isFieldKey_iff.mp (hkeys entry hmem)
      have hl : l ≠ k := by
        rintro rfl
        -- the field is given under no other name, so the entry would be the one replaced
        have hdiffers : name' ≠ name := by
          rintro rfl
          exact hne hkey
        have hget := get?_of_given hgiven
        rw [(named_of_given hgiven).eq_otherName hname hdiffers, hother] at hget
        cases hget
      exact isFieldKey_iff.mpr ⟨l, name', value', (given_put_of_ne hname hl).trans hgiven, hkey⟩
    · exact isFieldKey_iff.mpr ⟨k, name, value, hself, rfl⟩
  · by_cases hl : l = k
    · subst hl
      rw [readValue, hself]
      simp only [hread]
      exact if_pos rfl
    · rw [readValue, given_put_of_ne hname hl]
      exact (if_neg hl).trans (hvalue l)

/-! ### Both names of a field -/

/-- A list that keeps only one of its members. The list has no member twice, so this member is kept
once. -/
theorem filterMap_eq_singleton {α β : Type} {f : α → Option β} {l : List α} {a : α} {b : β}
    (hl : l.Nodup) (ha : a ∈ l) (hf : f a = some b) (hothers : ∀ x ∈ l, x ≠ a → f x = none) :
    l.filterMap f = [b] := by
  -- nothing is kept in front of the one element, and nothing behind it
  obtain ⟨front, back, rfl⟩ := List.append_of_mem ha
  have hapart := List.nodup_append.mp hl
  have hfront : front.filterMap f = [] := by
    apply List.filterMap_eq_nil_iff.mpr
    intro x hx
    exact hothers x (List.mem_append_left _ hx) (hapart.2.2 x hx a List.mem_cons_self)
  have hback : back.filterMap f = [] := by
    apply List.filterMap_eq_nil_iff.mpr
    rintro x hx
    refine hothers x (List.mem_append_right _ (List.mem_cons_of_mem _ hx)) ?_
    rintro rfl
    exact (List.nodup_cons.mp hapart.2.1).1 hx
  rw [List.filterMap_append, List.filterMap_cons_some hf, hfront, hback, List.nil_append]

/-- In a definition that is accepted every entry is that of a field. -/
theorem given_of_get? (h : ofEntries entries = .ok fields) (hname : k.Named name)
    (hget : entries.get? (.text name) = some value) : given entries k = some (name, value) := by
  obtain ⟨-, hkeys⟩ := report_eq_nil_iff.mp (ofEntries_eq_ok_iff_report.mp h).1
  obtain ⟨l, other, w, hgiven, hkey⟩ :=
    isFieldKey_iff.mp (hkeys _ (Entries.mem_of_get?_eq_some hget))
  obtain rfl : name = other := by simpa using hkey
  obtain rfl : l = k := (named_of_given hgiven).eq_of_named hname
  have hvalue := get?_of_given hgiven
  rw [hget] at hvalue
  rw [hgiven, Option.some.inj hvalue]

section

variable {before : Value} (h : ofEntries entries = .ok fields) (hname : k.Named name)
  (hother : entries.get? (.text (k.otherName name)) = some before)
  (hread : k.readField value = .ok read)
include h hname hother

/-- Of the two names the label is the one that counts. So the new value is the one that counts if it
was put under the label, and the old one if not; either can be read. -/
theorem exists_given_put (hread : k.readField value = .ok read) :
    ∃ w, given (entries.put (.text name) value) k = some (k.label, w) ∧
      ∃ read, k.readField w = .ok read := by
  have hbefore : given entries k = some (k.otherName name, before) :=
    given_of_get? h (Kind.named_otherName hname) hother
  have hne := Kind.label_ne_key k k
  rcases hname with rfl | rfl
  · refine ⟨value, ?_, read, hread⟩
    rw [given, Entries.get?_put, if_pos rfl]
  · rw [Kind.otherName, if_neg hne.symm] at hother hbefore
    have hfields := (report_eq_nil_iff.mp (ofEntries_eq_ok_iff_report.mp h).1).1
    refine ⟨before, ?_, fieldError?_eq_none_iff.mp (hfields k) _ _ hbefore⟩
    rw [given, Entries.get?_put, if_neg (by simpa using hne), hother]

omit h in
/-- With both names in use, the entry under the key is still there. Its value is the new one if the
key is the name that was put. -/
theorem key_mem_put : (Scalar.text k.key, if name = k.key then value else before) ∈
    entries.put (.text name) value := by
  have hne := Kind.label_ne_key k k
  apply Entries.mem_of_get?_eq_some
  rcases hname with rfl | rfl
  · rw [Kind.otherName, if_pos rfl] at hother
    rw [Entries.get?_put, if_neg (by simpa using hne.symm), if_neg hne, hother]
  · rw [Entries.get?_put, if_pos rfl, if_pos rfl]

/-- With both names in use, the label is the one that counts, and the key is the only entry without
a field. -/
theorem isFieldKey_put_iff (hread : k.readField value = .ok read) {entry : Scalar × Value}
    (hentry : entry ∈ entries.put (.text name) value) :
    isFieldKey (entries.put (.text name) value) entry.1 = true ↔ entry.1 ≠ .text k.key := by
  obtain ⟨w, hgiven, -⟩ := exists_given_put h hname hother hread
  constructor
  · intro hkey heq
    obtain ⟨l, other, v, hgiven', hkey⟩ := isFieldKey_iff.mp hkey
    obtain rfl : k.key = other := by simpa [heq] using hkey
    obtain rfl : l = k := (named_of_given hgiven').eq_of_named (.inr rfl)
    -- the field is given under its label
    have hnames := (Prod.mk.inj (Option.some.inj (hgiven.symm.trans hgiven'))).1
    exact absurd hnames (Kind.label_ne_key l l)
  · intro hne
    -- a name of this field that is not its key is its label
    have hlabel {other : String} (hnamed : k.Named other) (hkey : entry.1 = .text other) :
        isFieldKey (entries.put (.text name) value) entry.1 = true := by
      rcases hnamed with rfl | rfl
      · exact isFieldKey_iff.mpr ⟨k, k.label, w, hgiven, hkey⟩
      · exact absurd hkey hne
    rcases Entries.mem_put.mp hentry with ⟨hmem, -⟩ | rfl
    · obtain ⟨-, hkeys⟩ := report_eq_nil_iff.mp (ofEntries_eq_ok_iff_report.mp h).1
      obtain ⟨l, other, v, hgiven', hkey⟩ := isFieldKey_iff.mp (hkeys entry hmem)
      by_cases hl : l = k
      · subst hl
        exact hlabel (named_of_given hgiven') hkey
      · exact isFieldKey_iff.mpr ⟨l, other, v, (given_put_of_ne hname hl).trans hgiven', hkey⟩
    · exact hlabel hname rfl

/-- All fields can still be read, so the complaint about the key is the only one. -/
theorem fieldError?_put_eq_none (hread : k.readField value = .ok read) (l : Kind) :
    fieldError? (entries.put (.text name) value) l = none := by
  -- only this field is given another value than before
  by_cases hl : l = k
  · subst hl
    obtain ⟨w, hw, hreads⟩ := exists_given_put h hname hother hread
    apply fieldError?_eq_none_iff.mpr
    intro name' value' hgiven'
    cases hw.symm.trans hgiven'
    exact hreads
  · rw [fieldError?, given_put_of_ne hname hl]
    exact (report_eq_nil_iff.mp (ofEntries_eq_ok_iff_report.mp h).1).1 l

/-- **Both names of a field**: the entry under the key is an error, and the only one. It does not
matter which of the two was put last: the label gives the field, and the key is unknown. -/
theorem ofEntries_put_other (hnodup : (entries.map Prod.fst).Nodup)
    (hread : k.readField value = .ok read) : ofEntries (entries.put (.text name) value) =
      .error [⟨[.text k.key], .unknownField, if name = k.key then value else before⟩] := by
  have hkeys := Entries.nodup_keys_put hnodup (.text name) value
  have hkey : (Scalar.text k.key, if name = k.key then value else before) ∈
      entries.put (.text name) value := key_mem_put hname hother
  -- the key is the only stranger among the entries
  have hstrangers : (entries.put (.text name) value).filterMap
      (strangerError? (entries.put (.text name) value)) =
        [⟨[.text k.key], .unknownField, if name = k.key then value else before⟩] := by
    apply filterMap_eq_singleton (hkeys.of_map _) hkey
    · have hunknown := mt (isFieldKey_put_iff h hname hother hread hkey).mp (not_not_intro rfl)
      rw [strangerError?, if_neg hunknown]
    · intro entry hentry hne
      apply strangerError?_eq_none_iff.mpr
      refine (isFieldKey_put_iff h hname hother hread hentry).mpr fun heq => hne ?_
      exact List.inj_on_of_nodup_map hkeys hentry hkey heq
  have hfields : Kind.all.filterMap (fieldError? (entries.put (.text name) value)) = [] :=
    List.filterMap_eq_nil_iff.mpr fun l _ => fieldError?_put_eq_none h hname hother hread l
  unfold ofEntries report
  rw [hfields, hstrangers]
  rfl

end

end Fields

end PasswordPolicy
