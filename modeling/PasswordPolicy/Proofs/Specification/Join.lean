import PasswordPolicy.Proofs.Specification.Grammar

/-!
# Joining specifications

Two specifications with white space between them make up one specification. No clause of the first
one reaches beyond the white space, and none of the second is taken for the end of a clause before
it. The values of the second override those of the first, as the last clause of a kind counts.

* **`ClauseList.append`**: the clauses of the joined text are those of the two parts.
* **`ofSpecification_append`**: what is read from the joined text.
-/

namespace PasswordPolicy

/-- The policy with the stored values of `q` in place of those of `p`, kind by kind. -/
def Policy.override (p q : Policy) : Policy := ⟨fun k => (q.stored k).or (p.stored k)⟩

@[simp] theorem Policy.stored_override (p q : Policy) (k : Kind) :
    (p.override q).stored k = (q.stored k).or (p.stored k) := rfl

/-- The value that counts comes from the second policy if that stores one, even if it is the one
that switches the constraint off. -/
theorem Policy.get_override (p q : Policy) (k : Kind) :
    (p.override q).get k = if (q.stored k).isSome then q.get k else p.get k := by
  cases h : q.stored k <;> simp [get, h]

namespace Specification

/-! ### Clauses in a longer text

What follows a clause may be continued, as long as the clause itself is not. -/

/-- A clause stays a clause when more text is put behind the rest, as long as that could not go on
with a word or a number. -/
theorem Spells.append {e : Entry} {front rest more : List Char} (h : Spells e front rest)
    (hmore : StartsWithout isWordChar more) : Spells e front (rest ++ more) := by
  cases h with
  | bound hk hlead hword hgap hgap' hdigits hmunch =>
    exact .bound hk hlead hword hgap hgap' hdigits (hmunch.append hmore.isDigit)
  | prohibition hk hlead hgap hword hmunch =>
    exact .prohibition hk hlead hgap hword (hmunch.append hmore)

/-- So does a sequence of clauses. -/
theorem Sequence.append {entries : List Entry} {text rest more : List Char}
    (h : Sequence entries text rest) (hmore : StartsWithout isWordChar more) :
    Sequence entries (text ++ more) (rest ++ more) := by
  induction h with
  | nil => exact .nil
  | cons hfirst _ ih =>
    rw [List.append_assoc]
    exact .cons (hfirst.append hmore) ih

/-- Where one sequence ends another may begin. -/
theorem Sequence.trans {entries entries' : List Entry} {text middle rest : List Char}
    (h : Sequence entries text middle) (h' : Sequence entries' middle rest) :
    Sequence (entries ++ entries') text rest := by
  induction h with
  | nil => exact h'
  | cons hfirst _ ih => exact .cons hfirst (ih h')

/-! ### Texts with clauses

An accepted text has a clause or is blank. Among the blank ones only those of ASCII white space can
stand beside a clause: the reader skips no other. -/

/-- The text begins with a clause: nothing but clauses and white space is accepted. -/
def HasClause (text : List Char) : Prop := ∃ e entries rest, Sequence (e :: entries) text rest

/-- The text is made up of these clauses, with short numbers, and white space at its end. -/
structure ClauseList (entries : List Entry) (text : List Char) : Prop where
  exists_sequence : ∃ tail, Sequence entries text tail ∧ Blank tail
  short : ∀ e ∈ entries, e.Short

theorem ClauseList.of_blank {text : List Char} (h : Blank text) : ClauseList [] text :=
  ⟨⟨text, .nil, h⟩, nofun⟩

/-- A text with a clause is not blank, because the clause names a kind. -/
theorem HasClause.allBlank {text : List Char} (h : HasClause text) :
    Unicode.allBlank text = false := by
  obtain ⟨e, entries, rest, hseq⟩ := h
  cases hseq with
  | cons hfirst _ => exact hfirst.allBlank_append _

/-- A text that is made up of clauses is accepted, and the policy is what they store. -/
theorem ClauseList.ofSpecification_eq {entries : List Entry} {s : String}
    (h : ClauseList entries s.toList) :
    Policy.ofSpecification s = .ok (storeAll .empty entries) := by
  obtain ⟨⟨tail, hseq, htail⟩, hshort⟩ := h
  rw [ofSpecification_eq_ok_iff, read_eq_ok_iff]
  exact .inr ⟨entries, tail, hseq, htail, hshort, stored_storeAll_empty entries⟩

/-- An accepted text is made up of clauses, unless it is blank in the wider sense only. -/
theorem exists_clauseList {s : String} {p : Policy} (h : Policy.ofSpecification s = .ok p)
    (hs : HasClause s.toList ∨ Blank s.toList) : ∃ entries, ClauseList entries s.toList := by
  rcases read_eq_ok_iff.mp (ofSpecification_eq_ok_iff.mp h) with
    ⟨hblank, _⟩ | ⟨entries, tail, hseq, htail, hshort, _⟩
  · rcases hs with hclause | hspace
    · rw [hclause.allBlank] at hblank
      cases hblank
    · exact ⟨[], .of_blank hspace⟩
  · exact ⟨entries, ⟨tail, hseq, htail⟩, hshort⟩

/-- An accepted text that is not blank begins with a clause. -/
theorem hasClause_of_ofSpecification {s : String} {p : Policy}
    (h : Policy.ofSpecification s = .ok p) (hs : Unicode.allBlank s.toList = false) :
    HasClause s.toList := by
  rcases read_eq_ok_iff.mp (ofSpecification_eq_ok_iff.mp h) with
    ⟨hblank, _⟩ | ⟨entries, tail, hseq, htail, _, _⟩
  · rw [hs] at hblank
    cases hblank
  · cases entries with
    | nil =>
      -- without a clause there is only the white space at the end
      cases hseq
      rw [htail.allBlank] at hs
      cases hs
    | cons e entries => exact ⟨e, entries, tail, hseq⟩

/-! ### Joining -/

theorem storeAll_append (policy : Policy) (entries entries' : List Entry) :
    storeAll policy (entries ++ entries') = storeAll (storeAll policy entries) entries' :=
  List.foldl_append

/-- Storing entries overrides a policy by what they store in an empty one. -/
theorem storeAll_eq_override (p : Policy) (entries : List Entry) :
    storeAll p entries = p.override (storeAll .empty entries) := by
  refine Policy.ext (funext fun k => ?_)
  rw [Policy.stored_override, stored_storeAll, stored_storeAll_empty]

/-- **The clauses of two texts joined by white space** are those of the first and those of the
second. -/
theorem ClauseList.append {entries entries' : List Entry} {a w b : List Char}
    (ha : ClauseList entries a) (hw : Blank w) (hne : w ≠ []) (hb : ClauseList entries' b) :
    ClauseList (entries ++ entries') (a ++ w ++ b) := by
  obtain ⟨⟨tail, hseq, htail⟩, hshort⟩ := ha
  obtain ⟨⟨tail', hseq', htail'⟩, hshort'⟩ := hb
  refine ⟨?_, fun e he => (List.mem_append.mp he).elim (hshort e) (hshort' e)⟩
  -- the separator is not empty, and what it begins with cannot continue a clause
  have hmore : StartsWithout isWordChar (w ++ b) := by
    cases w with
    | nil => exact absurd rfl hne
    | cons c w => exact startsWithout_cons.mpr (isWordChar_of_isSpace (hw c List.mem_cons_self))
  have hfirst := hseq.append hmore
  rw [← List.append_assoc, ← List.append_assoc] at hfirst
  -- does the second text have a clause, which takes the white space in front of it?
  cases entries' with
  | nil =>
    cases hseq'
    rw [List.append_nil]
    exact ⟨_, hfirst, (htail.append hw).append htail'⟩
  | cons e entries' =>
    -- the white space goes to the front of the first clause of the second text
    exact ⟨tail', hfirst.trans (hseq'.blank_append (htail.append hw)), htail'⟩

/-- **The values of two specifications joined by white space.** The joined text is accepted, and the
values of the second part override those of the first: a kind has its value from the second if that
stores one, else from the first, which may be the one that switches it off. -/
theorem ofSpecification_append {a w b : String} {p q : Policy}
    (ha : Policy.ofSpecification a = .ok p) (hb : Policy.ofSpecification b = .ok q)
    (hclause : HasClause a.toList ∨ Blank a.toList)
    (hclause' : HasClause b.toList ∨ Blank b.toList) (hw : Blank w.toList) (hne : w ≠ "") :
    Policy.ofSpecification (a ++ w ++ b) = .ok (p.override q) ∧
      ∀ k, (p.override q).get k = if (q.stored k).isSome then q.get k else p.get k := by
  obtain ⟨entries, hfirst⟩ := exists_clauseList ha hclause
  obtain ⟨entries', hsecond⟩ := exists_clauseList hb hclause'
  have hjoined : ClauseList (entries ++ entries') (a ++ w ++ b).toList := by
    rw [String.toList_append, String.toList_append]
    exact hfirst.append hw (by simpa using hne) hsecond
  -- the two policies are what their clauses store, so the entries of both in a row store the
  -- override
  have hp : p = storeAll .empty entries := Except.ok.inj (ha.symm.trans hfirst.ofSpecification_eq)
  have hq : q = storeAll .empty entries' :=
    Except.ok.inj (hb.symm.trans hsecond.ofSpecification_eq)
  refine ⟨?_, Policy.get_override p q⟩
  rw [hjoined.ofSpecification_eq, storeAll_append, storeAll_eq_override, ← hp, ← hq]

/-- A prohibition in front of the white space, and a first part whose age is overridden. -/
theorem ofSpecification_append_of_prohibition :
    ∃ p q, Policy.ofSpecification "age<=9 !user" = .ok p ∧
      Policy.ofSpecification "Length>=8age<=0 " = .ok q ∧
      HasClause "age<=9 !user".toList ∧ HasClause "Length>=8age<=0 ".toList ∧
      Blank "\n".toList ∧ "\n" ≠ "" ∧
      Policy.ofSpecification ("age<=9 !user" ++ "\n" ++ "Length>=8age<=0 ") = .ok (p.override q) ∧
      (p.override q).get .age = 0 ∧ (p.override q).get .user = 1 := by
  have hfirst : (Policy.ofSpecification "age<=9 !user").map (fun p => p.get .user) = .ok 1 := by
    decide +kernel
  have hsecond : (Policy.ofSpecification "Length>=8age<=0 ").map
      (fun q => (q.stored .age, q.stored .user)) = .ok (some 0, none) := by decide +kernel
  obtain ⟨p, hp, hprohibited⟩ := exists_ok_of_map hfirst
  obtain ⟨q, hq, hstored⟩ := exists_ok_of_map hsecond
  obtain ⟨hage, huser⟩ := Prod.mk.inj hstored
  have ha := hasClause_of_ofSpecification hp (by decide)
  have hb := hasClause_of_ofSpecification hq (by decide)
  have hw : Blank "\n".toList := List.forall_mem_singleton.mpr (by decide)
  obtain ⟨hjoined, hget⟩ := ofSpecification_append hp hq (.inl ha) (.inl hb) hw (by decide)
  refine ⟨p, q, hp, hq, ha, hb, hw, by decide, hjoined, ?_, ?_⟩
  · rw [hget, if_pos (by rw [hage]; rfl), Policy.get, hage, Option.getD_some]
  · rw [hget, huser, if_neg (by decide)]
    exact hprohibited

end Specification

end PasswordPolicy
