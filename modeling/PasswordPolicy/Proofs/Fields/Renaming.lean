import Mathlib.Data.List.Pairwise
import PasswordPolicy.Proofs.Fields.RoundTrip

/-!
# The two names of a field

A record that names no field twice can name each of its fields by the label or by the key. Which of
the two it uses makes no difference to what the record defines, and none to its errors but that each
is found under the name that is in use.

* **`given_ofTexts_eq_some_iff`**: of two entries that name a field, the one under the label counts.
* **`given_ofTexts`**: a field is given by the one entry that has one of its names.
* **`report_renameAll`**: the report on a record with other names.
* **`ofValue_stable_and_renameAll`**: definitions are read back as they are, under all names.
-/

namespace PasswordPolicy

/-! ### Other names -/

instance (k : Kind) (name : String) : Decidable (k.Named name) :=
  inferInstanceAs (Decidable (name = k.label ∨ name = k.key))

namespace Fields

/-- The other name of the field that has the name. A name of no field stands for itself. -/
def counterpart (name : String) : String :=
  match Kind.all.find? fun k => decide (k.Named name) with
  | some k => k.otherName name
  | none => name

/-- The other name in place of a name that is chosen. -/
def rename (chosen : String → Bool) (name : String) : String :=
  if chosen name then counterpart name else name

section Names
variable {k : Kind} {name : String} {chosen : String → Bool}

/-- The counterpart of a name of a field is the other name of that field. -/
theorem counterpart_of_named (h : k.Named name) : counterpart name = k.otherName name := by
  unfold counterpart
  split
  · next l hfind =>
    have hl : l.Named name := by simpa using List.find?_some hfind
    rw [h.eq_of_named hl]
  · next hfind =>
    have hk := List.find?_eq_none.mp hfind k (Kind.mem_all k)
    exact absurd (decide_eq_true h) hk

/-- A name of no field has no counterpart but itself. -/
theorem counterpart_of_not_named (h : ¬ ∃ k : Kind, k.Named name) : counterpart name = name := by
  unfold counterpart
  split
  · next l hfind => exact absurd ⟨l, by simpa using List.find?_some hfind⟩ h
  · rfl

/-- A name and its counterpart name the same field. -/
theorem named_counterpart_iff : k.Named (counterpart name) ↔ k.Named name := by
  by_cases hnamed : ∃ l : Kind, l.Named name
  · obtain ⟨l, hl⟩ := hnamed
    rw [counterpart_of_named hl]
    constructor
    · intro hk
      rwa [hk.eq_of_named (Kind.named_otherName hl)]
    · intro hk
      rw [hk.eq_of_named hl]
      exact Kind.named_otherName hl
  · rw [counterpart_of_not_named hnamed]

/-- A name is replaced by one of the same field. -/
theorem named_rename_iff : k.Named (rename chosen name) ↔ k.Named name := by
  unfold rename
  split
  · exact named_counterpart_iff
  · exact Iff.rfl

end Names

end Fields

/-- The error with other names in its location. -/
def FieldError.rename (chosen : String → Bool) (e : FieldError) : FieldError :=
  { e with location := e.location.map fun
      | .text name => .text (Fields.rename chosen name)
      | key => key }

/-! ### Records whose keys are texts -/

namespace Entries

/-- The entries under keys that are texts. -/
def ofTexts (object : List (String × Value)) : Entries :=
  object.map fun (name, value) => (.text name, value)

theorem filterMap_ofTexts {α : Type} (f : Scalar × Value → Option α)
    (object : List (String × Value)) :
    (ofTexts object).filterMap f = object.filterMap fun entry => f (.text entry.1, entry.2) := by
  rw [ofTexts, List.filterMap_map]
  rfl

theorem get?_ofTexts_eq_none {object : List (String × Value)} {name : String}
    (h : ∀ entry ∈ object, entry.1 ≠ name) : (ofTexts object).get? (.text name) = none := by
  simp only [get?, ofTexts, List.find?_map, Option.map_eq_none_iff, List.find?_eq_none]
  intro entry hentry hname
  exact h entry hentry (by simpa using hname)

/-- Where no key occurs twice, what is found under a name is the entry of that name. -/
theorem get?_ofTexts_eq_some_iff {object : List (String × Value)}
    (h : (object.map Prod.fst).Nodup) {name : String} {value : Value} :
    (ofTexts object).get? (.text name) = some value ↔ (name, value) ∈ object := by
  have hkeys : ((ofTexts object).map Prod.fst).Nodup := by
    rw [ofTexts, List.map_map]
    have htexts := h.map fun _ _ heq => Scalar.text.inj heq
    rwa [List.map_map] at htexts
  rw [get?_eq_some_iff hkeys, ofTexts, List.mem_map]
  constructor
  · intro ⟨entry, hentry, heq⟩
    obtain ⟨hname, rfl⟩ := Prod.mk.inj heq
    obtain rfl := Scalar.text.inj hname
    exact hentry
  · intro hentry
    exact ⟨_, hentry, rfl⟩

end Entries

namespace Fields

open Entries (ofTexts)

/-- No field has the names of both entries. -/
def Apart (entry other : String × Value) : Prop :=
  ∀ k : Kind, ¬ (k.Named entry.1 ∧ k.Named other.1)

instance : Std.Symm Apart := ⟨fun _ _ hapart k hboth => hapart k hboth.symm⟩

instance (entry other : String × Value) : Decidable (Apart entry other) :=
  decidable_of_iff (∀ k ∈ Kind.all, ¬ (k.Named entry.1 ∧ k.Named other.1))
    ⟨fun h k => h k (Kind.mem_all k), fun h k _ => h k⟩

/-- Every field is named at most once. -/
def NamesOnce (object : List (String × Value)) : Prop := object.Pairwise Apart

instance : DecidablePred NamesOnce := fun object =>
  inferInstanceAs (Decidable (object.Pairwise Apart))

/-- The record with other names in place of those that are chosen. -/
def renameAll (chosen : String → Bool) (object : List (String × Value)) : List (String × Value) :=
  object.map (Prod.map (rename chosen) id)

variable {object : List (String × Value)} {chosen : String → Bool}

theorem NamesOnce.renameAll (h : NamesOnce object) : NamesOnce (renameAll chosen object) := by
  refine List.pairwise_map.mpr (h.imp fun hapart k hboth => hapart k ?_)
  exact ⟨named_rename_iff.mp hboth.1, named_rename_iff.mp hboth.2⟩

/-- Entries that name the same field are the same entry. -/
theorem NamesOnce.eq_of_named (h : NamesOnce object) {entry other : String × Value} {k : Kind}
    (hentry : entry ∈ object) (hother : other ∈ object) (hk : k.Named entry.1)
    (hk' : k.Named other.1) : entry = other := by
  by_contra hne
  exact List.Pairwise.forall h hentry hother hne k ⟨hk, hk'⟩

/-! ### What a record gives -/

/-- The entry of the record that gives the field of the kind: the one under the label, or else the
one under the key. -/
def Gives (object : List (String × Value)) (k : Kind) (name : String) (value : Value) : Prop :=
  (name, value) ∈ object ∧ (name = k.label ∨ name = k.key ∧ k.label ∉ object.map Prod.fst)

/-- What a field is given, by the entries of the object only. -/
theorem given_ofTexts_eq_some_iff (h : (object.map Prod.fst).Nodup) {k : Kind} {name : String}
    {value : Value} :
    given (ofTexts object) k = some (name, value) ↔ Gives object k name value := by
  have hget (other : String) (w : Value) :
      (ofTexts object).get? (.text other) = some w ↔ (other, w) ∈ object :=
    Entries.get?_ofTexts_eq_some_iff h
  -- the label is looked up first, and the key counts only where the label is not in use
  unfold given Gives
  split
  · next w hlabel =>
    have hmem := (hget _ _).mp hlabel
    rw [Option.some.injEq, Prod.mk.injEq]
    constructor
    · rintro ⟨rfl, rfl⟩
      exact ⟨hmem, .inl rfl⟩
    · rintro ⟨hentry, rfl | ⟨-, hlabel⟩⟩
      · exact ⟨rfl, Option.some.inj (hlabel.symm.trans ((hget _ _).mpr hentry))⟩
      · exact absurd (List.mem_map_of_mem hmem) hlabel
  · next hnone =>
    have hlabel : k.label ∉ object.map Prod.fst := by
      intro hmem
      obtain ⟨⟨_, w⟩, hentry, rfl⟩ := List.mem_map.mp hmem
      rw [(hget _ _).mpr hentry] at hnone
      cases hnone
    rw [Option.map_eq_some_iff]
    constructor
    · rintro ⟨w, hkey, heq⟩
      obtain ⟨rfl, rfl⟩ := Prod.mk.inj heq
      exact ⟨(hget _ _).mp hkey, .inr ⟨rfl, hlabel⟩⟩
    · rintro ⟨hentry, rfl | ⟨rfl, -⟩⟩
      · exact absurd (List.mem_map_of_mem hentry) hlabel
      · exact ⟨value, (hget _ _).mpr hentry, rfl⟩

/-- **A field is given by the one entry that has one of its names.** It does not matter which of the
two names it has, nor where it stands. -/
theorem given_ofTexts (h : NamesOnce object) (k : Kind) :
    given (ofTexts object) k = object.find? fun entry => decide (k.Named entry.1) := by
  induction object with
  | nil => rfl
  | cons entry object ih =>
    obtain ⟨name, value⟩ := entry
    obtain ⟨hfirst, hrest⟩ := List.pairwise_cons.mp h
    have hget (other : String) : (ofTexts ((name, value) :: object)).get? (.text other) =
        if Scalar.text name = .text other then some value
        else (ofTexts object).get? (.text other) := Entries.get?_cons _ _ _ _
    by_cases hname : k.Named name
    · rw [List.find?_cons_of_pos (by simpa using hname), given]
      rcases hname with rfl | rfl
      · rw [hget, if_pos rfl]
      · -- behind the key the label is not in use
        have hlabel : (ofTexts object).get? (.text k.label) = none :=
          Entries.get?_ofTexts_eq_none fun other hother heq =>
            hfirst other hother k ⟨.inr rfl, .inl heq⟩
        have hne : Scalar.text k.key ≠ .text k.label := by
          simpa using (Kind.label_ne_key k k).symm
        rw [hget, if_neg hne, hlabel, hget, if_pos rfl]
        rfl
    · have hne {other : String} (hother : k.Named other) : Scalar.text name ≠ .text other := by
        intro heq
        obtain rfl := Scalar.text.inj heq
        exact hname hother
      rw [List.find?_cons_of_neg (by simpa using hname), ← ih hrest, given, hget, hget,
        if_neg (hne (.inl rfl)), if_neg (hne (.inr rfl))]
      rfl

/-- **A renamed object gives each field the same value**, under the renamed name. The entry that is
found is the renamed one, since a name and its counterpart name the same field. -/
theorem given_renameAll (h : NamesOnce object) (k : Kind) :
    given (ofTexts (renameAll chosen object)) k =
      (given (ofTexts object) k).map (Prod.map (rename chosen) id) := by
  rw [given_ofTexts h, given_ofTexts h.renameAll, renameAll, List.find?_map]
  refine congrArg (fun named => (object.find? named).map _) (funext fun entry => ?_)
  exact decide_eq_decide.mpr named_rename_iff

/-- So the same value is read for each field. -/
theorem readValue_renameAll (h : NamesOnce object) (k : Kind) :
    readValue (ofTexts (renameAll chosen object)) k = readValue (ofTexts object) k := by
  rw [readValue, readValue, given_renameAll h]
  cases given (ofTexts object) k with
  | none => rfl
  | some entry => rfl

/-! ### Reports -/

/-- And the same complaint is made about it, at the renamed place. -/
theorem fieldError?_renameAll (h : NamesOnce object) (k : Kind) :
    fieldError? (ofTexts (renameAll chosen object)) k =
      (fieldError? (ofTexts object) k).map (FieldError.rename chosen) := by
  rw [fieldError?, fieldError?, given_renameAll h]
  cases given (ofTexts object) k with
  | none => rfl
  | some entry =>
    obtain ⟨name, value⟩ := entry
    simp only [Option.map_some, Prod.map, id]
    cases k.readField value with
    | ok read => rfl
    | error fault => rfl

/-- An entry gives a field if it has a name of the field. Where each field is named once, no key is
displaced by a label. -/
theorem isFieldKey_ofTexts_iff (h : NamesOnce object) {entry : String × Value}
    (hentry : entry ∈ object) :
    isFieldKey (ofTexts object) (.text entry.1) = true ↔ ∃ k : Kind, k.Named entry.1 := by
  rw [isFieldKey_iff]
  constructor
  · rintro ⟨k, name, value, hgiven, hname⟩
    obtain rfl := Scalar.text.inj hname
    exact ⟨k, named_of_given hgiven⟩
  · rintro ⟨k, hk⟩
    have hsome : (object.find? fun entry => decide (k.Named entry.1)).isSome = true :=
      List.find?_isSome.mpr ⟨entry, hentry, decide_eq_true hk⟩
    obtain ⟨other, hfind⟩ := Option.isSome_iff_exists.mp hsome
    -- no other entry has a name of this field
    obtain rfl : entry = other := h.eq_of_named hentry (List.mem_of_find?_eq_some hfind) hk
      (by simpa using List.find?_some hfind)
    exact ⟨k, entry.1, entry.2, by rw [given_ofTexts h, hfind], rfl⟩

/-- Keys that belong to no field are not renamed, and the complaint about them stays. -/
theorem strangerError?_renameAll (h : NamesOnce object) {entry : String × Value}
    (hentry : entry ∈ object) :
    strangerError? (ofTexts (renameAll chosen object)) (.text (rename chosen entry.1), entry.2) =
      (strangerError? (ofTexts object) (.text entry.1, entry.2)).map
        (FieldError.rename chosen) := by
  have hentry' : (rename chosen entry.1, entry.2) ∈ renameAll chosen object :=
    List.mem_map.mpr ⟨entry, hentry, rfl⟩
  have hkey := isFieldKey_ofTexts_iff h hentry
  have hkey' := isFieldKey_ofTexts_iff h.renameAll hentry'
  simp only [named_rename_iff] at hkey'
  unfold strangerError?
  -- whether a key belongs to a field depends on its name only, and its counterpart names the same
  -- one
  by_cases hnamed : ∃ k : Kind, k.Named entry.1
  · rw [if_pos (hkey.mpr hnamed), if_pos (hkey'.mpr hnamed)]
    rfl
  · rw [if_neg (mt hkey.mp hnamed), if_neg (mt hkey'.mp hnamed)]
    rfl

/-- **The report on a record with other names** has the same errors, each under the name that is in
use. -/
theorem report_renameAll (h : NamesOnce object) :
    report (ofTexts (renameAll chosen object)) =
      (report (ofTexts object)).map (FieldError.rename chosen) := by
  -- the two parts of the report are renamed each by itself
  have hfields : Kind.all.filterMap (fieldError? (ofTexts (renameAll chosen object))) =
      (Kind.all.filterMap (fieldError? (ofTexts object))).map (FieldError.rename chosen) := by
    rw [List.map_filterMap]
    exact List.filterMap_congr fun k _ => fieldError?_renameAll h k
  have hstrangers : (ofTexts (renameAll chosen object)).filterMap
      (strangerError? (ofTexts (renameAll chosen object))) =
        ((ofTexts object).filterMap (strangerError? (ofTexts object))).map
          (FieldError.rename chosen) := by
    rw [List.map_filterMap, Entries.filterMap_ofTexts, Entries.filterMap_ofTexts]
    nth_rewrite 2 [renameAll]
    rw [List.filterMap_map]
    exact List.filterMap_congr fun entry hentry => strangerError?_renameAll h hentry
  rw [report, hfields, hstrangers, ← List.map_append]
  rfl

/-- **Renaming keys changes nothing** but the places in the report. A record that is accepted gives
the same fields, and one that is refused is refused for the same faults. -/
theorem ofEntries_renameAll (h : NamesOnce object) :
    ofEntries (ofTexts (renameAll chosen object)) =
      (ofEntries (ofTexts object)).mapError (List.map (FieldError.rename chosen)) := by
  unfold ofEntries
  simp only [report_renameAll h, List.isEmpty_map, readValue_renameAll h]
  split
  · rfl
  · rfl

/-! ### Reading back -/

/-- **Definitions are read back as they are, under all names.** If a record is accepted, the record
of the fields under their labels is read as the same fields, and so are the values that the fields
store. If a record names no field twice, other names for any of its fields give the same fields, or
the same errors with the other names in their locations. -/
theorem ofValue_stable_and_renameAll (object : List (String × Value)) :
    (∀ fields, ofValue (.object object) = .ok fields →
        ofValue fields.toValue = .ok fields ∧ ofPolicy fields.toPolicy = .ok fields) ∧
      (NamesOnce object → ∀ chosen : String → Bool,
        ofValue (.object (renameAll chosen object)) =
          (ofValue (.object object)).mapError (List.map (FieldError.rename chosen))) :=
  ⟨fun fields _ => ⟨ofValue_toValue fields, ofPolicy_toPolicy fields⟩,
    fun h _ => ofEntries_renameAll h⟩

/-- A key and a label change places, once between fields that can be read and once between errors,
of which one is about an unknown name. -/
theorem ofValue_stable_and_renameAll_of_texts :
    NamesOnce [("min_length", .text "+1_2"), ("noUser", .text "Yes")] ∧
      (∃ fields, ofValue (.object [("min_length", .text "+1_2"), ("noUser", .text "Yes")]) =
          .ok fields ∧
        ofValue fields.toValue = .ok fields ∧ ofPolicy fields.toPolicy = .ok fields ∧
        ofValue (.object [("minLength", .text "+1_2"), ("no_user", .text "Yes")]) = .ok fields) ∧
      NamesOnce [("other", .null), ("maxAge", .int (-2)), ("no_user", .int 2)] ∧
      ofValue (.object [("other", .null), ("max_age", .int (-2)), ("no_user", .int 2)]) =
        .error [⟨[.text "max_age"], .below (-1), .int (-2)⟩,
          ⟨[.text "no_user"], .unreadableSwitch, .int 2⟩,
          ⟨[.text "other"], .unknownField, .null⟩] := by
  have hreads : NamesOnce [("min_length", .text "+1_2"), ("noUser", .text "Yes")] := by decide
  have hfails : NamesOnce [("other", .null), ("maxAge", .int (-2)), ("no_user", .int 2)] := by
    decide
  obtain ⟨hstable, hrename⟩ := ofValue_stable_and_renameAll
    [("min_length", .text "+1_2"), ("noUser", .text "Yes")]
  obtain ⟨fields, hfields⟩ : ∃ fields,
      ofValue (.object [("min_length", .text "+1_2"), ("noUser", .text "Yes")]) = .ok fields :=
    ⟨_, rfl⟩
  obtain ⟨hdump, hstored⟩ := hstable fields hfields
  refine ⟨hreads, ⟨fields, hfields, hdump, hstored, ?_⟩, hfails, ?_⟩
  · have hall := hrename hreads fun _ => true
    rw [hfields] at hall
    exact hall
  · exact (ofValue_stable_and_renameAll _).2 hfails fun name => name == "maxAge"

end Fields

end PasswordPolicy
