import PasswordPolicy.Proofs.Specification.Grammar
import PasswordPolicy.Proofs.Text.Numeral

/-!
# Reading a canonical text again

The canonical text of a policy need not be a specification: a value below the one that switches its
constraint off is written with a minus sign, which no specification holds. Where there is no such
value the text is a sequence of clauses of the grammar, and reading it restores every value but that
of a demand, which is always one when it is made.

* **`read_canonical`**: what is read from the canonical text of a policy in range.
* **`ofSpecification_text`**: which canonical texts are accepted, and what becomes of the policy.
-/

namespace PasswordPolicy

/-! ### Values

Values that were read are in range and short. A policy that was built otherwise may hold any
integers. -/

/-- Only the user name is forbidden outright. -/
theorem Kind.family_eq_prohibit_iff {k : Kind} : k.family = .prohibit ↔ k = .user := by
  cases k <;> decide

namespace Policy

/-- No stored value has more digits than a number in a text may have. -/
def Short (p : Policy) : Prop :=
  ∀ k v, p.stored k = some v → (Text.decimalNat v.natAbs).length ≤ Text.maxDigits

/-- No stored value of a bound is below the one that switches the bound off. -/
structure InRange (p : Policy) : Prop where
  minimum : ∀ k v, k.family = .minimum → p.stored k = some v → 0 ≤ v
  age : -1 ≤ p.get .age

variable {p : Policy} {k : Kind}

/-- Storing a short value keeps a policy short. -/
theorem Short.set (h : p.Short) {v : Int}
    (hv : (Text.decimalNat v.natAbs).length ≤ Text.maxDigits) : (p.set k v).Short := by
  intro l w hw
  rw [stored_set] at hw
  split at hw
  · cases hw
    exact hv
  · exact h l w hw

/-- Storing a value that is not negative keeps a policy in range, whatever kind it is stored for. -/
theorem InRange.set (h : p.InRange) {v : Int} (hv : 0 ≤ v) : (p.set k v).InRange := by
  refine ⟨fun l w hl hw => ?_, ?_⟩
  · rw [stored_set] at hw
    split at hw
    · cases hw
      exact hv
    · exact h.minimum l w hl hw
  · by_cases hk : Kind.age = k
    · rw [← hk, get_set_self]
      omega
    · rw [get_set_of_ne p hk]
      exact h.age

theorem get_of_stored {v : Int} (h : p.stored k = some v) : p.get k = v := by
  rw [get, h, Option.getD_some]

/-- A constraint is switched on exactly if its value is not the one that switches it off, stored or
not. -/
theorem enabled_iff : p.enabled k = true ↔ p.get k ≠ k.default := Kind.enabled_some k _

/-- What is switched on is stored: without a stored value the constraint is off. -/
theorem stored_of_enabled (h : p.enabled k = true) : p.stored k = some (p.get k) := by
  cases hstored : p.stored k with
  | none => rw [enabled_eq, hstored] at h; cases h
  | some v => rw [get_of_stored hstored]

/-- A policy without a number that is too long can be written. -/
theorem Short.isWritable (h : p.Short) : p.isWritable = true := by
  refine List.all_eq_true.mpr fun k hk => ?_
  have hshort := h k _ (stored_of_enabled (List.mem_filter.mp hk).2)
  unfold Kind.isWritable
  -- only the clauses of bounds show a number
  cases k.family with
  | minimum => exact decide_eq_true hshort
  | maximum => exact decide_eq_true hshort
  | require => rfl
  | prohibit => rfl

/-- In range, a bound that is switched on is not negative. The age needs an argument of its own, as
it may be -1, but then it is switched off. -/
theorem InRange.get_nonneg (h : p.InRange) (hk : k.family ≠ .prohibit)
    (hon : p.enabled k = true) : 0 ≤ p.get k := by
  cases k with
  | age =>
    have hage := h.age
    have hne : p.get .age ≠ -1 := enabled_iff.mp hon
    omega
  | user => exact absurd rfl hk
  | _ => exact h.minimum _ _ rfl (stored_of_enabled hon)

/-- This is all that being in range asks for. -/
theorem inRange_of_get_nonneg
    (h : ∀ k, k.family ≠ .prohibit → p.enabled k = true → 0 ≤ p.get k) : p.InRange := by
  refine ⟨fun k v hk hstored => ?_, ?_⟩
  · have hget := get_of_stored hstored
    have hdefault : k.default = 0 := by rw [Kind.default, hk]; rfl
    -- zero switches a minimum off, any other value switches it on
    by_cases hv : v = 0
    · omega
    · have hon : p.enabled k = true := enabled_iff.mpr (by rwa [hget, hdefault])
      rw [← hget]
      exact h k (by rw [hk]; decide) hon
  · by_cases hage : p.get .age = -1
    · omega
    · have := h .age (by decide) (enabled_iff.mpr hage)
      omega

/-- The clause of a demand does not show its value, so policies that switch on the same constraints,
with the same values of the bounds, have the same canonical text. -/
theorem canonical_eq_of_enabled {q : Policy} (henabled : ∀ k, p.enabled k = q.enabled k)
    (hget : ∀ k, k.family ≠ .prohibit → p.get k = q.get k) : p.canonical = q.canonical := by
  have hkinds : Kind.all.filter p.enabled = Kind.all.filter q.enabled :=
    List.filter_congr fun k _ => henabled k
  unfold canonical
  rw [clauses_eq, clauses_eq, hkinds]
  refine congrArg _ (List.map_congr_left fun k _ => ?_)
  by_cases hk : k.family = .prohibit
  · unfold Kind.written
    rw [hk]
  · rw [hget k hk]

end Policy

namespace Specification

/-! ### Written clauses -/

/-- Every kind but the user name is a bound, from below or from above. -/
theorem bound_of_ne_prohibit {k : Kind} (h : k.family ≠ .prohibit) :
    k.family = .minimum ∨ k.family = .maximum := by
  cases k with
  | user => exact absurd rfl h
  | age => exact .inr rfl
  | _ => exact .inl rfl

/-- A bound is written with the sign of its family. -/
theorem written_of_bound {k : Kind} (h : k.family = .minimum ∨ k.family = .maximum) (v : Int) :
    k.written v = k.token.toList ++ (k.family.sign.toList ++ Text.decimal v) := by
  unfold Kind.written
  rcases h with hk | hk
  · rw [hk]
    rfl
  · rw [hk]
    rfl

/-- A demand is written as its token behind a `!`, whatever its value is. -/
theorem written_of_prohibit {k : Kind} (h : k.family = .prohibit) (v : Int) :
    k.written v = '!' :: k.token.toList := by
  unfold Kind.written
  rw [h]

/-- The entry that is written for a value. -/
def Entry.ofValue (k : Kind) (v : Int) : Entry :=
  ⟨k, if k.family = .prohibit then none else some (Text.decimalNat v.natAbs)⟩

/-- The entry for a value has that value, if it is not negative; that for a demand has one. -/
theorem Entry.value_ofValue {k : Kind} {v : Int} (h : k.family ≠ .prohibit → 0 ≤ v) :
    (Entry.ofValue k v).value = if k.family = .prohibit then 1 else v := by
  unfold Entry.ofValue Entry.value
  by_cases hk : k.family = .prohibit
  · rw [if_pos hk, if_pos hk]
  · have hv := h hk
    rw [if_neg hk, if_neg hk]
    show (Text.digitsValue (Text.decimalNat v.natAbs) : Int) = v
    rw [Text.digitsValue_decimalNat]
    omega

theorem digits_decimalNat (n : Nat) : Digits (Text.decimalNat n) :=
  ⟨Text.decimalNat_ne_nil n, fun _ hc => Text.isDigit_of_mem_decimalNat hc⟩

/-- The clause that is written for a value is one of the grammar, and it spells the entry for that
value. Its number is written without a sign, so the value must not be negative. -/
theorem spells_written {k : Kind} {v : Int} {rest : List Char}
    (h : k.family ≠ .prohibit → 0 ≤ v) (hrest : StartsWithout isWordChar rest) :
    Spells (Entry.ofValue k v) (k.written v) rest := by
  unfold Entry.ofValue
  by_cases hk : k.family = .prohibit
  · rw [written_of_prohibit hk, if_pos hk]
    -- a demand: the `!` and the token of its kind, with no white space anywhere
    have hspells := Spells.prohibition hk blank_nil blank_nil (token_names k) hrest
    rw [hk] at hspells
    exact hspells
  · -- a bound is its token, its sign and its number
    have hbound := bound_of_ne_prohibit hk
    rw [written_of_bound hbound, Text.decimal_of_nonneg (h hk), if_neg hk]
    exact .bound hbound blank_nil (token_names k) blank_nil blank_nil
      (digits_decimalNat v.natAbs) hrest.isDigit

/-- Clauses with single spaces between them are a sequence of the grammar, for as many kinds as
there are and in any order. -/
theorem sequence_written {value : Kind → Int} {kinds : List Kind}
    (h : ∀ k ∈ kinds, k.family ≠ .prohibit → 0 ≤ value k) :
    Sequence (kinds.map fun k => Entry.ofValue k (value k))
      ([' '].intercalate (kinds.map fun k => k.written (value k))) [] := by
  have hspace : Blank [' '] := List.forall_mem_singleton.mpr (by decide)
  induction kinds with
  | nil => exact .nil
  | cons k kinds ih =>
    obtain ⟨hk, hkinds⟩ := List.forall_mem_cons.mp h
    have hmore := ih hkinds
    cases kinds with
    | nil =>
      have hlast := Sequence.cons (spells_written hk startsWithout_nil) .nil
      rw [List.append_nil] at hlast
      simpa only [List.map_cons, List.map_nil, List.intercalate_singleton] using hlast
    | cons l kinds =>
      -- the space between the clauses is the white space in front of the second
      simp only [List.map_cons, List.intercalate_cons_cons, List.append_assoc] at hmore ⊢
      exact .cons (spells_written hk (startsWithout_cons.mpr (by decide)))
        (hmore.blank_append hspace)

/-- Among the entries for values of some kinds there is one for each of these kinds and no other. -/
theorem findRev?_ofValue (value : Kind → Int) (kinds : List Kind) (k : Kind) :
    (kinds.map fun l => Entry.ofValue l (value l)).findRev? (·.kind == k) =
      if k ∈ kinds then some (Entry.ofValue k (value k)) else none := by
  induction kinds with
  | nil => rfl
  | cons l kinds ih =>
    rw [List.map_cons, List.findRev?, ih]
    by_cases hk : k ∈ kinds
    · rw [if_pos hk, if_pos (List.mem_cons_of_mem _ hk)]
    · rw [if_neg hk]
      by_cases hl : k = l
      · subst hl
        simp [Entry.ofValue]
      · simp [Entry.ofValue, hk, hl, Ne.symm hl]

end Specification

/-! ### The restored policy -/

namespace Policy

/-- The policy that is read from the canonical text: every constraint that is switched on has its
value, a demand has one. -/
def restored (p : Policy) : Policy :=
  ⟨fun k => if p.enabled k then some (if k.family = .prohibit then 1 else p.get k) else none⟩

variable {p : Policy} {k : Kind}

theorem stored_restored (p : Policy) (k : Kind) : p.restored.stored k =
    if p.enabled k then some (if k.family = .prohibit then 1 else p.get k) else none := rfl

/-- A bound has the same value in the restored policy, stored or not. -/
theorem get_restored_of_bound (hk : k.family ≠ .prohibit) : p.restored.get k = p.get k := by
  by_cases hon : p.enabled k = true
  · exact get_of_stored (by rw [stored_restored, if_pos hon, if_neg hk])
  · -- switched off, the bound has the value that is its default
    have hdefault : p.get k = k.default := by
      by_contra hne
      exact hon (enabled_iff.mpr hne)
    rw [get, stored_restored, if_neg hon, hdefault, Option.getD_none]

/-- The demand keeps only whether it is made: it has one in the restored policy, or zero if it was
not made. -/
theorem get_restored_user : p.restored.get .user = if p.get .user = 0 then 0 else 1 := by
  by_cases hon : p.enabled .user = true
  · rw [if_neg (show p.get .user ≠ 0 from enabled_iff.mp hon)]
    exact get_of_stored (by rw [stored_restored, if_pos hon]; rfl)
  · have hoff : p.get .user = 0 := by
      by_contra hne
      exact hon (enabled_iff.mpr hne)
    rw [get, stored_restored, if_neg hon, if_pos hoff, Option.getD_none]
    rfl

/-- The restored policy switches on the same constraints. -/
theorem enabled_restored (k : Kind) : p.restored.enabled k = p.enabled k := by
  rw [enabled_eq, stored_restored]
  by_cases hon : p.enabled k = true
  · rw [if_pos hon, hon, Kind.enabled_some]
    -- a stored one switches a demand on, and a bound has its own value, which does
    by_cases hk : k.family = .prohibit
    · rw [if_pos hk, Kind.default, hk]
      decide
    · rw [if_neg hk]
      exact enabled_iff.mp hon
  · rw [if_neg hon, Kind.enabled_none]
    simpa using hon

/-- So its canonical text is the same. -/
theorem canonical_restored (p : Policy) : p.restored.canonical = p.canonical :=
  canonical_eq_of_enabled enabled_restored fun _ hk => get_restored_of_bound hk

/-- The restored policy is the same as the policy exactly if the demand had one or was not made. -/
theorem restored_equiv_iff : p.restored ≈ p ↔ p.get .user = 0 ∨ p.get .user = 1 := by
  rw [equiv_iff]
  constructor
  · intro h
    -- only the demand may come back with another value than it had
    have huser := h .user
    rw [get_restored_user] at huser
    by_cases hzero : p.get .user = 0
    · exact .inl hzero
    · rw [if_neg hzero] at huser
      exact .inr huser.symm
  · intro h k
    by_cases hk : k.family = .prohibit
    · obtain rfl := Kind.family_eq_prohibit_iff.mp hk
      rw [get_restored_user]
      rcases h with h | h <;> rw [h] <;> decide
    · exact get_restored_of_bound hk

end Policy

namespace Specification

/-! ### Reading the canonical text -/

/-- The clauses for values of some kinds are read as these values; that of a demand is one. -/
theorem read_written {value : Kind → Int} {kinds : List Kind}
    (hvalue : ∀ k ∈ kinds, k.family ≠ .prohibit → 0 ≤ value k)
    (hshort : ∀ k ∈ kinds, (Text.decimalNat (value k).natAbs).length ≤ Text.maxDigits) :
    read ([' '].intercalate (kinds.map fun k => k.written (value k))) =
      .ok ⟨fun k => if k ∈ kinds then some (if k.family = .prohibit then 1 else value k)
        else none⟩ := by
  refine read_eq_ok_iff.mpr (.inr ⟨_, [], sequence_written hvalue, blank_nil, ?_, fun k => ?_⟩)
  · intro e he
    obtain ⟨k, hk, rfl⟩ := List.mem_map.mp he
    unfold Entry.Short Entry.size Entry.ofValue
    by_cases hbound : k.family = .prohibit
    · rw [if_pos hbound]
      exact Nat.zero_le _
    · rw [if_neg hbound]
      exact hshort k hk
  · -- each kind is written once, so its last entry is its only one
    rw [findRev?_ofValue]
    show (if k ∈ kinds then _ else _) = _
    by_cases hk : k ∈ kinds
    · rw [if_pos hk, if_pos hk, Option.map_some, Entry.value_ofValue (hvalue k hk)]
    · rw [if_neg hk, if_neg hk, Option.map_none]

/-- A single bound. -/
theorem ofSpecification_written {k : Kind} {v : Int} (hk : k.family ≠ .prohibit) (hv : 0 ≤ v)
    (hshort : (Text.decimalNat v.natAbs).length ≤ Text.maxDigits) :
    Policy.ofSpecification (String.ofList (k.written v)) = .ok (Policy.empty.set k v) := by
  have hread := @read_written (fun _ => v) [k] (fun _ _ _ => hv) fun _ _ => hshort
  rw [List.map_singleton, List.intercalate_singleton] at hread
  rw [ofSpecification_eq_ok_iff, String.toList_ofList, hread]
  congr 1
  ext l : 2
  by_cases hl : l = k
  · subst hl
    simp [hk]
  · simp [hl, Policy.empty]

theorem ofSpecification_least_eight :
    Policy.ofSpecification "length>=8" = .ok (Policy.empty.set .length 8) :=
  ofSpecification_written (k := .length) (v := 8) (by decide) (by decide) (by decide)

/-- **The canonical text of a policy in range is read as the restored policy.** Only what is
switched on is written, so a value that is a default is not stored again. -/
theorem read_canonical {p : Policy} (hshort : p.Short) (hrange : p.InRange) :
    read p.canonical = .ok p.restored := by
  have hvalue : ∀ k ∈ Kind.all.filter p.enabled, k.family ≠ .prohibit → 0 ≤ p.get k :=
    fun k hk hbound => hrange.get_nonneg hbound (List.mem_filter.mp hk).2
  have hread := read_written hvalue fun k hk =>
    hshort k _ (Policy.stored_of_enabled (List.mem_filter.mp hk).2)
  -- the kinds that are written are those that are switched on
  have hkinds (k : Kind) : k ∈ Kind.all.filter p.enabled ↔ p.enabled k = true := by
    rw [List.mem_filter, and_iff_right (Kind.mem_all k)]
  simp only [hkinds] at hread
  rw [Policy.canonical, Policy.clauses_eq]
  exact hread

/-! ### The alphabet of specifications -/

/-- None of the parts of a clause holds a minus sign: it is no white space, no character of a word,
no sign of a bound and no digit. -/
theorem Spells.minus_not_mem {e : Entry} {front rest : List Char} (h : Spells e front rest) :
    '-' ∉ front := by
  have hblank {w : List Char} (hw : Blank w) : '-' ∉ w := fun hc =>
    absurd (hw _ hc) (by decide)
  have hname {word : List Char} {k : Kind} (hword : Names word k) : '-' ∉ word := fun hc =>
    absurd (hword.word.2 _ hc) (by decide)
  have hsign (k : Kind) : '-' ∉ k.family.sign.toList := by cases k <;> decide
  cases h with
  | bound hk hlead hword hgap hgap' hdigits hmunch =>
    have hnumber : '-' ∉ _ := fun hc => absurd (hdigits.2 _ hc) (by decide)
    simp only [List.mem_append, not_or]
    exact ⟨hblank hlead, hname hword, hblank hgap, hsign _, hblank hgap', hnumber⟩
  | prohibition hk hlead hgap hword hmunch =>
    simp only [List.mem_append, not_or]
    exact ⟨hblank hlead, hsign _, hblank hgap, hname hword⟩

/-- Neither does a sequence of clauses, with a rest that holds none. -/
theorem Sequence.minus_not_mem {entries : List Entry} {text rest : List Char}
    (h : Sequence entries text rest) (hrest : '-' ∉ rest) : '-' ∉ text := by
  induction h with
  | nil => exact hrest
  | cons hfirst _ ih =>
    rw [List.mem_append, not_or]
    exact ⟨hfirst.minus_not_mem, ih hrest⟩

/-- **No specification holds a minus sign.** No sign, no token and no numeral has one, and it is no
white space. -/
theorem Specifies.minus_not_mem {text : List Char} {stored : Kind → Option Int}
    (h : Specifies text stored) : '-' ∉ text := by
  rcases h with ⟨hblank, _⟩ | ⟨entries, tail, hseq, htail, _, _⟩
  · intro hc
    exact absurd (List.all_eq_true.mp hblank _ hc) (by decide)
  · exact hseq.minus_not_mem fun hc => absurd (htail _ hc) (by decide)

/-- A character of one of the texts is one of all of them together. -/
theorem mem_intercalate {c : Char} {sep text : List Char} {texts : List (List Char)}
    (htext : text ∈ texts) (hc : c ∈ text) : c ∈ sep.intercalate texts := by
  induction texts with
  | nil => cases htext
  | cons first texts ih =>
    cases texts with
    | nil =>
      rw [List.intercalate_singleton]
      rwa [List.mem_singleton.mp htext] at hc
    | cons second texts =>
      rw [List.intercalate_cons_cons, List.append_assoc, List.mem_append, List.mem_append]
      rcases List.mem_cons.mp htext with rfl | hmore
      · exact .inl hc
      · exact .inr (.inr (ih hmore))

/-- A negative bound leaves a minus sign in the canonical text. -/
theorem minus_mem_canonical {p : Policy} {k : Kind} (hk : k.family ≠ .prohibit)
    (hon : p.enabled k = true) (hneg : p.get k < 0) : '-' ∈ p.canonical := by
  have hclause : k.written (p.get k) ∈ p.clauses := by
    rw [Policy.clauses_eq]
    exact List.mem_map.mpr ⟨k, List.mem_filter.mpr ⟨Kind.mem_all k, hon⟩, rfl⟩
  refine mem_intercalate hclause ?_
  rw [written_of_bound (bound_of_ne_prohibit hk), Text.decimal, if_pos hneg]
  simp

theorem toList_text (p : Policy) : p.text.toList = p.canonical := String.toList_ofList

/-- **A canonical text is accepted exactly if the policy is in range.** A negative bound that is
switched on is written with a minus sign, and that is never read. -/
theorem ofSpecification_text_eq_ok_iff {p q : Policy} (hshort : p.Short) :
    Policy.ofSpecification p.text = .ok q ↔ p.InRange ∧ q = p.restored := by
  rw [ofSpecification_eq_ok_iff, toList_text]
  constructor
  · intro h
    -- out of range, the text would hold a minus sign
    have hrange : p.InRange := by
      refine Policy.inRange_of_get_nonneg fun k hk hon => ?_
      by_contra hneg
      exact (read_eq_ok_iff.mp h).minus_not_mem
        (minus_mem_canonical hk hon (Int.not_le.mp hneg))
    have hread := read_canonical hshort hrange
    rw [h] at hread
    exact ⟨hrange, Except.ok.inj hread⟩
  · rintro ⟨hrange, rfl⟩
    exact read_canonical hshort hrange

/-! ### Policies that were read -/

/-- Every entry of a sequence is spelled by a clause in the text. -/
theorem Sequence.exists_spells {entries : List Entry} {text rest : List Char}
    (h : Sequence entries text rest) {e : Entry} (he : e ∈ entries) :
    ∃ front more, Spells e front more ∧ front <:+: text := by
  induction h with
  | nil => cases he
  | @cons _ _ front middle _ hfirst _ ih =>
    rcases List.mem_cons.mp he with rfl | he
    · exact ⟨_, _, hfirst, (List.prefix_append front middle).isInfix⟩
    · obtain ⟨front', more, hspells, hinfix⟩ := ih he
      exact ⟨front', more, hspells, hinfix.trans (List.suffix_append front middle).isInfix⟩

/-- A value that was read stands in the text: it is that of a clause. -/
theorem Specifies.exists_spells {text : List Char} {stored : Kind → Option Int}
    (h : Specifies text stored) {k : Kind} {v : Int} (hv : stored k = some v) :
    ∃ e front more, e.kind = k ∧ e.value = v ∧ e.Short ∧ Spells e front more ∧
      front <:+: text := by
  rcases h with ⟨_, hnone⟩ | ⟨entries, tail, hseq, _, hshort, hlast⟩
  · rw [hnone] at hv
    cases hv
  · rw [hlast] at hv
    obtain ⟨e, hfind, rfl⟩ := Option.map_eq_some_iff.mp hv
    -- the entry that counts is some entry of the sequence
    rw [List.findRev?_eq_find?_reverse] at hfind
    have he : e ∈ entries := List.mem_reverse.mp (List.mem_of_find?_eq_some hfind)
    have hkind : e.kind = k := by simpa using List.find?_some hfind
    obtain ⟨front, more, hspells, hinfix⟩ := hseq.exists_spells he
    exact ⟨e, front, more, hkind, rfl, hshort e he, hspells, hinfix⟩

/-- The number of a bound is what its clause ends with. -/
theorem Spells.digits_suffix {k : Kind} {digits front rest : List Char}
    (h : Spells ⟨k, some digits⟩ front rest) : Digits digits ∧ digits <:+ front := by
  cases h with
  | bound hk hlead hword hgap hgap' hdigits hmunch =>
    refine ⟨hdigits, ?_⟩
    simp only [← List.append_assoc]
    exact List.suffix_append _ digits

/-- The value of a clause is not negative and no longer than the number that stands for it, which
may have zeros in front. That of a demand is one. -/
theorem Spells.value_cases {e : Entry} {front rest : List Char} (h : Spells e front rest)
    (hshort : e.Short) : 0 ≤ e.value ∧
      (Text.decimalNat e.value.natAbs).length ≤ Text.maxDigits ∧
      (e.kind.family = .prohibit → e.value = 1) := by
  cases h with
  | @bound k lead word gap gap' digits rest hk hlead hword hgap hgap' hdigits hmunch =>
    refine ⟨Int.natCast_nonneg _, ?_, fun hprohibit => ?_⟩
    · exact le_trans (Text.length_decimalNat_digitsValue_le hdigits.1 hdigits.2) hshort
    · rcases hk with hk | hk <;> exact absurd (hk.symm.trans hprohibit) (by decide)
  | prohibition =>
    exact ⟨Int.zero_le_ofNat 1, show (Text.decimalNat 1).length ≤ _ by decide, fun _ => rfl⟩

/-- **The values of a policy that was read** are short enough and in range; a demand has one. -/
theorem Specifies.value_cases {text : List Char} {p : Policy} (h : Specifies text p.stored)
    {k : Kind} {v : Int} (hv : p.stored k = some v) : 0 ≤ v ∧
      (Text.decimalNat v.natAbs).length ≤ Text.maxDigits ∧ (k.family = .prohibit → v = 1) := by
  obtain ⟨e, front, more, rfl, rfl, hshort, hspells, -⟩ := h.exists_spells hv
  exact hspells.value_cases hshort

variable {s : String} {p : Policy}

/-- So a policy that was read is short, -/
theorem short_of_ofSpecification (h : Policy.ofSpecification s = .ok p) : p.Short :=
  fun _ _ hv => ((read_eq_ok_iff.mp (ofSpecification_eq_ok_iff.mp h)).value_cases hv).2.1

/-- and in range, -/
theorem inRange_of_ofSpecification (h : Policy.ofSpecification s = .ok p) : p.InRange := by
  have hspecifies := read_eq_ok_iff.mp (ofSpecification_eq_ok_iff.mp h)
  refine ⟨fun k v _ hv => (hspecifies.value_cases hv).1, ?_⟩
  cases hage : p.stored .age with
  | none => exact Int.le_of_eq (by rw [Policy.get, hage]; rfl)
  | some v =>
    rw [Policy.get_of_stored hage]
    exact Int.le_trans (by decide) (hspecifies.value_cases hage).1

/-- and its bounds are as small as the numbers of the specification are short, -/
theorem natAbs_lt_of_ofSpecification (h : Policy.ofSpecification s = .ok p) {n : Nat}
    (hdigits : ∀ digits, digits <:+: s.toList → Digits digits → digits.length ≤ n) {k : Kind}
    (hk : k.family ≠ .prohibit) {v : Int} (hv : p.stored k = some v) : v.natAbs < 10 ^ n := by
  have hspecifies := read_eq_ok_iff.mp (ofSpecification_eq_ok_iff.mp h)
  obtain ⟨⟨k, digits⟩, front, more, rfl, rfl, -, hspells, hinfix⟩ := hspecifies.exists_spells hv
  -- the number stands at the end of a clause, and that clause stands in the text
  cases digits with
  | some digits =>
    obtain ⟨hnumber, hsuffix⟩ := hspells.digits_suffix
    have hlength := hdigits digits (hsuffix.isInfix.trans hinfix) hnumber
    exact Nat.lt_of_lt_of_le (Text.digitsValue_lt hnumber.2)
      (Nat.pow_le_pow_right (by decide) hlength)
  | none =>
    cases hspells with
    | prohibition hprohibit => exact absurd hprohibit hk

/-- and the demand has one, or zero if it was not made. -/
theorem get_user_of_ofSpecification (h : Policy.ofSpecification s = .ok p) :
    p.get .user = 0 ∨ p.get .user = 1 := by
  have hspecifies := read_eq_ok_iff.mp (ofSpecification_eq_ok_iff.mp h)
  cases huser : p.stored .user with
  | none => exact .inl (by rw [Policy.get, huser]; rfl)
  | some v =>
    rw [Policy.get_of_stored huser]
    exact .inr ((hspecifies.value_cases huser).2.2 rfl)

/-- **Reading the canonical text of a policy.** It is accepted exactly if the policy is in range;
then every value comes back but that of the demand, which becomes one when it is made, so the
policy is the same exactly if the demand had one or was not made, and its canonical text is. Reading
the canonical text of a policy that was itself read changes nothing. -/
theorem ofSpecification_text :
    (∀ p : Policy, p.Short →
      ((∃ q, Policy.ofSpecification p.text = .ok q) ↔ p.InRange) ∧
        ∀ q, Policy.ofSpecification p.text = .ok q →
          (∀ k, k ≠ .user → q.get k = p.get k) ∧
          q.get .user = (if p.get .user = 0 then 0 else 1) ∧
          (q ≈ p ↔ p.get .user = 0 ∨ p.get .user = 1) ∧ q.text = p.text) ∧
      ∀ s p, Policy.ofSpecification s = .ok p →
        ∃ q, Policy.ofSpecification p.text = .ok q ∧ q ≈ p ∧ q.text = p.text := by
  -- what is read back is the restored policy, and its text is the same
  have htext (p : Policy) : p.restored.text = p.text :=
    congrArg String.ofList p.canonical_restored
  refine ⟨fun p hshort => ⟨⟨?_, fun hrange => ?_⟩, fun q hq => ?_⟩, fun s p h => ?_⟩
  · rintro ⟨q, hq⟩
    exact ((ofSpecification_text_eq_ok_iff hshort).mp hq).1
  · exact ⟨_, (ofSpecification_text_eq_ok_iff hshort).mpr ⟨hrange, rfl⟩⟩
  · obtain ⟨_, rfl⟩ := (ofSpecification_text_eq_ok_iff hshort).mp hq
    refine ⟨fun k hk => Policy.get_restored_of_bound ?_, Policy.get_restored_user,
      Policy.restored_equiv_iff, htext p⟩
    cases k <;> first | decide | exact absurd rfl hk
  · exact ⟨p.restored, (ofSpecification_text_eq_ok_iff (short_of_ofSpecification h)).mpr
      ⟨inRange_of_ofSpecification h, rfl⟩,
      Policy.restored_equiv_iff.mpr (get_user_of_ofSpecification h), htext p⟩

/-- A demand that was made with five comes back as made with one. -/
theorem ofSpecification_text_of_user_five :
    ((Policy.empty.set .length 12).set .user 5).Short ∧
      ((Policy.empty.set .length 12).set .user 5).InRange ∧
      (∃ q, Policy.ofSpecification ((Policy.empty.set .length 12).set .user 5).text = .ok q ∧
        q.get .length = 12 ∧ q.get .user = 1 ∧ q.text = "length>=12 !user") ∧
      ∃ p q, Policy.ofSpecification "!USER length>=012" = .ok p ∧
        Policy.ofSpecification p.text = .ok q ∧ q ≈ p := by
  have hshort : ((Policy.empty.set .length 12).set .user 5).Short := by
    intro k v hv
    cases k <;> cases hv <;> exact show _ ≤ 4300 by decide
  have hrange : ((Policy.empty.set .length 12).set .user 5).InRange := by
    refine ⟨fun k v hk hv => ?_, by decide⟩
    cases k <;> cases hv <;> decide
  refine ⟨hshort, hrange, ?_, ?_⟩
  · obtain ⟨haccepted, hread⟩ := ofSpecification_text.1 _ hshort
    obtain ⟨q, hq⟩ := haccepted.mpr hrange
    obtain ⟨hget, huser, _, htext⟩ := hread q hq
    exact ⟨q, hq, hget .length (by decide), huser, htext.trans (by decide +kernel)⟩
  · have hsome : (Policy.ofSpecification "!USER length>=012").map Policy.text =
        .ok "length>=12 !user" := by decide +kernel
    obtain ⟨p, hp, -⟩ := exists_ok_of_map hsome
    obtain ⟨q, hq, hequiv, _⟩ := ofSpecification_text.2 _ p hp
    exact ⟨p, q, hp, hq, hequiv⟩

end Specification

end PasswordPolicy
