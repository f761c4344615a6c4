import PasswordPolicy.Fields.Build
import PasswordPolicy.Proofs.Fields.Override
import PasswordPolicy.Proofs.Fields.RoundTrip
import PasswordPolicy.Proofs.Policy.Proper

/-!
# Fields with proper values

Whatever number is read from a field is short enough to be written in a text, unless it was given as
a longer integer: a text may not have more digits, and a floating-point number has to fit into 64
bits. So the policies that fields define have proper values, and every policy with proper values is
defined by fields.

* **`short_of_toInteger`**: the numbers that fields are read as.
* **`proper_of_ofFields`**, **`Policy.Proper.exists_ofPolicy`**: from fields to policies and back.
-/

namespace PasswordPolicy

/-! ### Numbers -/

/-- Leaving out the underscores leaves digits, at least one. Underscores may stand between digits
only, one at a time. -/
theorem isDigit_of_groupedDigits? {text digits : List Char}
    (h : groupedDigits? text = some digits) : digits ≠ [] ∧ ∀ c ∈ digits, c.isDigit = true := by
  -- a digit is put in front, with or without an underscore behind it
  have hcons {c : Char} {rest digits : List Char} (hc : c.isDigit = true)
      (ih : ∀ {more}, groupedDigits? rest = some more →
        more ≠ [] ∧ ∀ c ∈ more, c.isDigit = true)
      (h : (groupedDigits? rest).map (c :: ·) = some digits) :
      digits ≠ [] ∧ ∀ c ∈ digits, c.isDigit = true := by
    obtain ⟨more, hmore, rfl⟩ := Option.map_eq_some_iff.mp h
    exact ⟨List.cons_ne_nil _ _, List.forall_mem_cons.mpr ⟨hc, (ih hmore).2⟩⟩
  fun_induction groupedDigits? text generalizing digits with
  | case1 => cases h
  | case2 c hc =>
    cases h
    exact ⟨List.cons_ne_nil _ _, List.forall_mem_singleton.mpr hc⟩
  | case3 => cases h
  | case4 c rest hc ih => exact hcons hc ih h
  | case5 => cases h
  | case6 c rest _ _ hc ih => exact hcons hc ih h
  | case7 => cases h

/-- An integer that is read from a text is short, since longer texts are refused. The limit is on
the digits that are left when underscores and leading zeros are taken away. -/
theorem short_of_integerOfText {text : List Char} {i : Int} (h : integerOfText text = .ok i) :
    Text.Short i := by
  unfold integerOfText at h
  split at h
  next negative unsigned _ =>
  extract_lets at h
  split at h
  · cases h
  · next digits hdigits =>
    split at h
    · cases h
    · split at h
      · cases h
      · next hlength =>
        obtain ⟨hne, hall⟩ := isDigit_of_groupedDigits? hdigits
        -- the sign is not among the digits
        have hnatAbs : i.natAbs = Text.digitsValue digits := by
          rw [← Except.ok.inj h]
          split
          · rw [Int.natAbs_neg, Int.natAbs_natCast]
          · rw [Int.natAbs_natCast]
        rw [Text.Short, hnatAbs]
        exact Nat.le_trans (Text.length_decimalNat_digitsValue_le hne hall) (Nat.not_lt.mp hlength)

/-- An integer that is read from a floating point number fits into a machine word, so it is
short. -/
theorem short_of_integerOfReal {x : Binary64} {i : Int} (h : integerOfReal x = .ok i) :
    Text.Short i := by
  unfold integerOfReal at h
  split at h
  · cases h
  · split at h
    · cases h
    · split at h
      · next hword =>
        cases h
        have hdigits : 2 ^ 63 ≤ 10 ^ 19 := by decide
        exact Text.short_of_natAbs_lt (by decide) (Nat.lt_of_lt_of_le hword hdigits)
      · cases h

theorem short_switchValue (b : Bool) : Text.Short (switchValue b) := by
  cases b
  · exact Text.short_of_natAbs_lt (n := 1) (by decide) (by decide)
  · exact Text.short_of_natAbs_lt (n := 1) (by decide) (by decide)

/-- **The numbers that fields are read as.** -/
theorem short_of_toInteger {value : Value} {i : Int} (hgiven : ∀ j, value = .int j → Text.Short j)
    (h : value.toInteger = .ok i) : Text.Short i := by
  unfold Value.toInteger at h
  split at h
  · next j =>
    cases h
    exact hgiven i rfl
  · cases h
    exact short_switchValue _
  · exact short_of_integerOfReal h
  · exact short_of_integerOfText h
  · cases h

/-- What a field reads is short if an integer that it is given as such is. A truth value, a text or
a floating point number gives a short integer in any case. -/
theorem short_of_readField {k : Kind} {value : Value}
    (hgiven : ∀ j, value = .int j → Text.Short j) {read : { i : Int // k.Admissible i }}
    (h : k.readField value = .ok read) : Text.Short read.1 := by
  have haccept {i : Int} (haccept : k.accept i = .ok read) : read.1 = i := by
    unfold Kind.accept at haccept
    split at haccept
    · cases haccept
      rfl
    · cases haccept
  unfold Kind.readField at h
  split at h
  · -- a switch has its own two values
    cases hswitch : value.toSwitch with
    | error fault => rw [hswitch] at h; cases h
    | ok b =>
      rw [hswitch] at h
      rw [haccept h]
      exact short_switchValue b
  · -- a bound is an integer as given, or one that was read from something else
    cases hinteger : value.toInteger with
    | error fault => rw [hinteger] at h; cases h
    | ok i =>
      rw [hinteger] at h
      rw [haccept h]
      exact short_of_toInteger hgiven hinteger

/-! ### From fields to policies -/

/-- No integer among the values of a record has more digits than a number in a text may have. -/
def Value.ShortIntegers : Value → Prop
  | .record entries => ∀ entry ∈ entries, ∀ i, entry.2 = .int i → Text.Short i
  | _ => True

/-- Each field of a record with short integers has a proper value, the default where nothing was
read. -/
theorem proper_readValue {entries : Entries}
    (hshort : ∀ entry ∈ entries, ∀ i, entry.2 = .int i → Text.Short i) (k : Kind) :
    k.Proper (Fields.readValue entries k).1 := by
  refine ⟨(Fields.readValue entries k).2, ?_⟩
  unfold Fields.readValue
  split
  · exact k.proper_default.short
  · next name value hgiven =>
    split
    · next read hread =>
      have hentry := Entries.mem_of_get?_eq_some (Fields.get?_of_given hgiven)
      exact short_of_readField (hshort _ hentry) hread
    · exact k.proper_default.short

/-- The entries of a record with short integers have short integers. -/
theorem short_of_entriesOf {fields : Value} {entries : Entries} (hshort : fields.ShortIntegers)
    (h : Fields.entriesOf fields = .ok entries) :
    ∀ entry ∈ entries, ∀ i, entry.2 = .int i → Text.Short i := by
  unfold Fields.entriesOf at h
  split at h
  · cases h
    exact fun entry hentry => absurd hentry List.not_mem_nil
  · split at h
    · cases h
      exact hshort
    · cases h

/-- A policy that is built without added fields comes from the entries alone. The entries are those
of a record of fields, or there are none. -/
theorem exists_ofEntries_of_ofFields {value : Value} {p : Policy}
    (h : Policy.ofFields value [] = .ok p) : ∃ entries fields,
      Fields.entriesOf value = .ok entries ∧ Fields.ofEntries entries = .ok fields ∧
        p = fields.toPolicy := by
  unfold Policy.ofFields at h
  cases hentries : Fields.entriesOf value with
  | error e =>
    rw [hentries] at h
    cases h
  | ok entries =>
    rw [hentries] at h
    simp only [Entries.override, List.foldl_nil, bind, Except.bind] at h
    split at h
    · next fields hfields => exact ⟨entries, fields, rfl, hfields, (Except.ok.inj h).symm⟩
    · cases h

/-- **The policies that fields define are proper.** -/
theorem proper_of_ofFields {value : Value} {p : Policy} (hshort : value.ShortIntegers)
    (h : Policy.ofFields value [] = .ok p) : p.Proper := by
  obtain ⟨entries, fields, hentries, hfields, rfl⟩ := exists_ofEntries_of_ofFields h
  intro k v hv
  obtain rfl : fields.value k = v := Option.some.inj hv
  rw [(Fields.ofEntries_eq_ok_iff_report.mp hfields).2 k]
  exact proper_readValue (short_of_entriesOf hshort hentries) k

/-! ### From policies to fields -/

/-- The fields need the values that the policy has. -/
theorem Policy.Proper.demanded_eq {p : Policy} (h : p.Proper) (k : Kind) :
    Fields.demanded p k = p.get k :=
  Fields.demanded_eq_get (h.get k).admissible

/-- **Every proper policy is defined by fields.** The fields give an equivalent policy back, which
is proper as well. -/
theorem Policy.Proper.exists_ofPolicy {p : Policy} (h : p.Proper) :
    ∃ fields, Fields.ofPolicy p = .ok fields ∧ fields.toPolicy.Proper ∧ fields.toPolicy ≈ p := by
  have hadmissible (k : Kind) : k.Admissible (Fields.demanded p k) := by
    rw [h.demanded_eq]
    exact (h.get k).admissible
  refine ⟨⟨Fields.demanded p, hadmissible⟩, dif_pos hadmissible, fun k v hv => ?_, h.demanded_eq⟩
  obtain rfl : Fields.demanded p k = v := Option.some.inj hv
  rw [h.demanded_eq]
  exact h.get k

end PasswordPolicy
