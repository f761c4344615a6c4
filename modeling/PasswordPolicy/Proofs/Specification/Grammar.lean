import Mathlib.Data.Option.Basic
import PasswordPolicy.Proofs.Specification.Run
import PasswordPolicy.Proofs.Unicode.AsciiForm

/-!
# The grammar of specifications

A specification is a sequence of clauses and white space at its end. The grammar says which texts
these are without a reader: a word is the token of a kind in any case of its letters, a number is a
run of digits that does not go on behind the clause, and white space may stand between any two
parts.

* **`lookup_eq_some_iff`**: looking up a word, whatever characters it holds.
* **`Sequence.run`**, **`Run.sequence`**: the clauses of the grammar are the steps of the reader.
* **`ofSpecification_eq_iff_grammar`**: what the reader answers for a text, in terms of the grammar.
-/

namespace PasswordPolicy.Specification

/-! ### Words that name a kind -/

/-- A word names the kind whose token it is in some case of its ASCII letters. -/
def Names (word : List Char) (k : Kind) : Prop := word.map Char.toLower = k.token.toList

/-- Words hold ASCII characters only: letters, digits and the underscore. -/
theorem toNat_lt_of_isWordChar {c : Char} (h : isWordChar c = true) : c.toNat < 128 := by
  have hcases : (((c.isUpper || c.isLower) || c.isDigit) || c == '_') = true := h
  simp only [Bool.or_eq_true, beq_iff_eq] at hcases
  rcases hcases with ((hupper | hlower) | hdigit) | rfl
  · exact Unicode.toNat_lt_of_isUpper hupper
  · have hlast := of_decide_eq_true (Bool.and_eq_true_iff.mp hlower).2
    exact Nat.lt_of_le_of_lt (UInt32.le_iff_toNat_le.mp hlast) (by decide)
  · have hlast := of_decide_eq_true (Bool.and_eq_true_iff.mp hdigit).2
    exact Nat.lt_of_le_of_lt (UInt32.le_iff_toNat_le.mp hlast) (by decide)
  · decide

/-- A character whose small letter may stand in a word may stand there itself. -/
theorem isWordChar_of_toLower {c : Char} (h : isWordChar c.toLower = true) :
    isWordChar c = true := by
  by_cases hupper : c.isUpper = true
  · show (((c.isUpper || c.isLower) || c.isDigit) || c == '_') = true
    rw [hupper, Bool.true_or, Bool.true_or, Bool.true_or]
  · -- only capital letters are changed, and those are word characters anyway
    rwa [Unicode.toLower_of_not_isUpper hupper] at h

theorem token_word (k : Kind) : Word k.token.toList := by
  have hall : k.token.toList.all isWordChar = true := by cases k <;> rfl
  exact ⟨by cases k <;> decide, List.all_eq_true.mp hall⟩

/-- A text that names a kind is a word, as long as the token and with the same letters in it. -/
theorem Names.word {word : List Char} {k : Kind} (h : Names word k) : Word word := by
  obtain ⟨hne, hall⟩ := token_word k
  rw [← h] at hne hall
  refine ⟨fun hnil => hne (by rw [hnil]; rfl), fun c hc => ?_⟩
  exact isWordChar_of_toLower (hall _ (List.mem_map_of_mem hc))

theorem Names.ascii {word : List Char} {k : Kind} (h : Names word k) :
    ∀ c ∈ word, c.toNat < 128 :=
  fun c hc => toNat_lt_of_isWordChar (h.word.2 c hc)

theorem token_names (k : Kind) : Names k.token.toList k := by cases k <;> rfl

/-- The lower-case form of a word is a token only if the word names it: there is no `k` in a
token, so no character from outside ASCII can stand for one of its letters. -/
theorem lowerCase_eq_token_iff {word : List Char} {k : Kind} :
    Unicode.lowerCase word = k.token.toList ↔ Names word k := by
  have hletters : 'k' ∉ k.token.toList := by cases k <;> decide
  exact Unicode.lowerCase_eq_iff_of_not_mem_k (token_names k).ascii hletters

/-- Looking a word up finds the kind that it names. -/
theorem lookup_eq_some_iff {word : List Char} {k : Kind} :
    lookup word = some k ↔ Names word k := by
  rw [← lowerCase_eq_token_iff, lookup]
  constructor
  · intro h
    have hk := List.find?_some h
    exact (beq_iff_eq.mp hk).symm
  · intro h
    rw [h]
    cases k <;> rfl

/-- Nothing is found exactly for a word that names no kind. -/
theorem lookup_eq_none_iff {word : List Char} :
    lookup word = none ↔ ∀ k, ¬ Names word k := by
  rw [Option.eq_none_iff_forall_ne_some]
  exact forall_congr' fun k => not_congr lookup_eq_some_iff

/-! ### Clauses of the grammar

A number may be followed by any text but a digit, a word without a number by any text but another
character of a word. No white space is asked for. -/

/-- The text is a clause for the entry when it stands before the rest. -/
inductive Spells : Entry → List Char → List Char → Prop
  | bound {k : Kind} {lead word gap gap' digits rest : List Char}
      (hk : k.family = .minimum ∨ k.family = .maximum) (hlead : Blank lead)
      (hword : Names word k) (hgap : Blank gap) (hgap' : Blank gap') (hdigits : Digits digits)
      (hmunch : StartsWithout Char.isDigit rest) :
      Spells ⟨k, some digits⟩
        (lead ++ (word ++ (gap ++ (k.family.sign.toList ++ (gap' ++ digits))))) rest
  | prohibition {k : Kind} {lead gap word rest : List Char} (hk : k.family = .prohibit)
      (hlead : Blank lead) (hgap : Blank gap) (hword : Names word k)
      (hmunch : StartsWithout isWordChar rest) :
      Spells ⟨k, none⟩ (lead ++ (k.family.sign.toList ++ (gap ++ word))) rest

/-- The text is clauses for the entries, one after the other, and the rest. -/
inductive Sequence : List Entry → List Char → List Char → Prop
  | nil {rest : List Char} : Sequence [] rest rest
  | cons {e : Entry} {entries : List Entry} {front middle rest : List Char}
      (hfirst : Spells e front middle) (hmore : Sequence entries middle rest) :
      Sequence (e :: entries) (front ++ middle) rest

/-- White space in front of a clause belongs to the clause. -/
theorem Spells.blank_append {e : Entry} {front rest w : List Char} (h : Spells e front rest)
    (hw : Blank w) : Spells e (w ++ front) rest := by
  cases h with
  | bound hk hlead hword hgap hgap' hdigits hmunch =>
    rw [← List.append_assoc]
    exact .bound hk (hw.append hlead) hword hgap hgap' hdigits hmunch
  | prohibition hk hlead hgap hword hmunch =>
    rw [← List.append_assoc]
    exact .prohibition hk (hw.append hlead) hgap hword hmunch

/-- White space in front of a sequence belongs to its first clause, so there has to be one. -/
theorem Sequence.blank_append {e : Entry} {entries : List Entry} {text rest w : List Char}
    (h : Sequence (e :: entries) text rest) (hw : Blank w) :
    Sequence (e :: entries) (w ++ text) rest := by
  cases h with
  | cons hfirst hmore =>
    rw [← List.append_assoc]
    exact .cons (hfirst.blank_append hw) hmore

/-- Skipping the white space of a clause comes to its `!` or to its word, never to a sign. -/
theorem Spells.not_boundAhead {e : Entry} {front rest : List Char} (h : Spells e front rest)
    (more : List Char) : ¬ BoundAhead (skipSpace (front ++ more)) := by
  have hstart :
      ∃ c text, skipSpace (front ++ more) = c :: text ∧ (c = '!' ∨ isWordChar c = true) := by
    cases h with
    | @bound k lead word gap gap' digits rest hk hlead hword hgap hgap' hdigits hmunch =>
      obtain ⟨hne, hall⟩ := hword.word
      cases word with
      | nil => exact absurd rfl hne
      | cons c word =>
        have hc := hall c List.mem_cons_self
        rw [List.append_assoc, List.cons_append, List.cons_append,
          hlead.skipSpace_append_eq (startsWithout_cons.mpr (isSpace_of_isWordChar hc))]
        exact ⟨c, _, rfl, .inr hc⟩
    | prohibition hk hlead hgap hword hmunch =>
      rw [hk, List.append_assoc]
      exact ⟨'!', _, hlead.skipSpace_append_eq (startsWithout_cons.mpr (by decide)), .inl rfl⟩
  obtain ⟨c, text, htext, hc⟩ := hstart
  -- a bound would start with the first character of a sign
  rintro ⟨bound, front', rest', hbound, heq⟩
  rw [htext] at heq
  cases hbound with
  | @mk comparison _ _ _ _ =>
    cases comparison with
    | atLeast =>
      rw [(List.cons.inj heq).1] at hc
      exact absurd hc (by decide)
    | atMost =>
      rw [(List.cons.inj heq).1] at hc
      exact absurd hc (by decide)

/-! ### Clauses of the grammar and the clauses that are read -/

/-- A clause is an entry exactly if its word names the kind and its form is that of the kind. -/
theorem Clause.entry?_eq_some_iff {clause : Clause} {e : Entry} :
    clause.entry? = some e ↔
      lookup clause.word = some e.kind ∧ clause.demand? e.kind = some e.digits := by
  constructor
  · intro h
    obtain ⟨kind, hkind, h⟩ := Option.bind_eq_some_iff.mp h
    obtain ⟨digits, hdigits, rfl⟩ := Option.map_eq_some_iff.mp h
    exact ⟨hkind, hdigits⟩
  · rintro ⟨hkind, hdigits⟩
    simp [Clause.entry?, hkind, hdigits]

/-- A clause has the form of a bound exactly if it has no `!`, and a comparison with the sign of the
kind, from below or from above. -/
theorem Clause.demand?_eq_some_some_iff {clause : Clause} {k : Kind} {digits : List Char} :
    clause.demand? k = some (some digits) ↔
      (k.family = .minimum ∨ k.family = .maximum) ∧ clause.bang = false ∧
        ∃ comparison, clause.bound = some ⟨comparison, digits⟩ ∧
          comparison.sign = k.family.sign.toList := by
  constructor
  · intro h
    unfold Clause.demand? at h
    split at h
    · next hk hbang hbound => cases h; rw [hk]; exact ⟨.inl rfl, hbang, _, hbound, rfl⟩
    · next hk hbang hbound => cases h; rw [hk]; exact ⟨.inr rfl, hbang, _, hbound, rfl⟩
    all_goals cases h
  · rintro ⟨hk, hbang, comparison, hbound, hsign⟩
    unfold Clause.demand?
    -- each of the two families has one of the two signs, and the other one is refused
    rcases hk with hk | hk <;> rw [hk] at hsign ⊢ <;> rw [hbang, hbound]
    · cases comparison with
      | atLeast => rfl
      | atMost => exact absurd hsign (by decide)
    · cases comparison with
      | atLeast => exact absurd hsign (by decide)
      | atMost => rfl

/-- A clause has the form of a demand exactly if it has a `!` and no bound. -/
theorem Clause.demand?_eq_some_none_iff {clause : Clause} {k : Kind} :
    clause.demand? k = some none ↔
      k.family = .prohibit ∧ clause.bang = true ∧ clause.bound = none := by
  constructor
  · intro h
    unfold Clause.demand? at h
    split at h
    · cases h
    · cases h
    · next hk _ _ => cases k <;> cases hk
    · next hk hbang hbound => exact ⟨hk, hbang, hbound⟩
    · cases h
  · rintro ⟨hk, hbang, hbound⟩
    unfold Clause.demand?
    rw [hk, hbang, hbound]

/-- A clause of the grammar is read as such, unless it has no number and a bound follows. Reading
takes the longest number and the longest word, and what follows starts with neither. -/
theorem Spells.read? {e : Entry} {front rest : List Char} (h : Spells e front rest)
    (hnext : e.digits = none → ¬ BoundAhead (skipSpace rest)) :
    ∃ clause, Clause.read? (front ++ rest) = some (clause, skipSpace rest) ∧
      clause.entry? = some e := by
  obtain ⟨w, hw, hrest⟩ := exists_blank_append_skipSpace rest
  cases h with
  | @bound k lead word gap gap' digits rest hk hlead hword hgap hgap' hdigits hmunch =>
    obtain ⟨comparison, hsign⟩ :
        ∃ comparison : Comparison, comparison.sign = k.family.sign.toList := by
      rcases hk with hk | hk <;> rw [hk]
      · exact ⟨.atLeast, rfl⟩
      · exact ⟨.atMost, rfl⟩
    rw [hrest] at hmunch
    -- the white space behind the clause belongs to its layout, as the reader takes it too
    have hlayout := Layout.bounded (.plain hlead) hword.word hgap
      (@Bound.Written.mk comparison _ _ hgap' hdigits) hw hmunch (startsWithout_skipSpace rest)
    have hread := hlayout.read?_append
    simp only [List.append_assoc] at hread
    rw [← hrest, hsign] at hread
    refine ⟨⟨false, word, some ⟨comparison, digits⟩⟩, ?_, ?_⟩
    · simpa only [List.append_assoc] using hread
    · exact Clause.entry?_eq_some_iff.mpr ⟨lookup_eq_some_iff.mpr hword,
        Clause.demand?_eq_some_some_iff.mpr ⟨hk, rfl, comparison, rfl, hsign⟩⟩
  | @prohibition k lead gap word rest hk hlead hgap hword hmunch =>
    rw [hrest] at hmunch
    -- without a number, only what follows can show that no bound is meant
    have hlayout := Layout.bare (.bang hlead hgap) hword.word hw hmunch (hnext rfl)
      (startsWithout_skipSpace rest)
    have hread := hlayout.read?_append
    simp only [List.append_assoc, List.cons_append] at hread
    rw [← hrest] at hread
    refine ⟨⟨true, word, none⟩, ?_, Clause.entry?_eq_some_iff.mpr
      ⟨lookup_eq_some_iff.mpr hword,
        Clause.demand?_eq_some_none_iff.mpr ⟨hk, rfl, rfl⟩⟩⟩
    rw [hk, show Family.prohibit.sign.toList = ['!'] from rfl]
    simpa only [List.append_assoc, List.cons_append, List.nil_append] using hread

/-- What is read as a clause of the right form is one of the grammar, and white space. The white
space behind a clause is skipped to see whether a bound follows. -/
theorem exists_spells_of_read? {text rest : List Char} {clause : Clause} {e : Entry}
    (hread : Clause.read? text = some (clause, rest)) (hentry : clause.entry? = some e) :
    ∃ front w, Blank w ∧ Spells e front (w ++ rest) ∧ text = front ++ (w ++ rest) := by
  obtain ⟨k, digits⟩ := e
  obtain ⟨hlookup, hdemand⟩ := Clause.entry?_eq_some_iff.mp hentry
  obtain ⟨front, hlayout, rfl⟩ := Clause.read?_eq_some_iff.mp hread
  cases hlayout with
  | @bare bang lead word gap rest hlead hword hgap hmunch hbound hrest =>
    have hname := lookup_eq_some_iff.mp hlookup
    -- a clause without a bound cannot be an entry with a number
    cases digits with
    | some digits =>
      obtain ⟨_, _, _, hnone, _⟩ := Clause.demand?_eq_some_some_iff.mp hdemand
      cases hnone
    | none =>
      obtain ⟨hk, rfl, _⟩ := Clause.demand?_eq_some_none_iff.mp hdemand
      cases hlead with
      | @bang w w' hw hw' =>
        refine ⟨_, gap, hgap, .prohibition hk hw hw' hname hmunch, ?_⟩
        rw [hk]
        simp only [List.append_assoc]
        rfl
  | @bounded bang lead word gap front gap' rest bound hlead hword hgap hbound hgap' hmunch hrest =>
    have hname := lookup_eq_some_iff.mp hlookup
    -- and one with a bound cannot be an entry without
    cases digits with
    | none =>
      obtain ⟨_, _, hnone⟩ := Clause.demand?_eq_some_none_iff.mp hdemand
      cases hnone
    | some digits =>
      obtain ⟨hk, rfl, comparison, hsome, hsign⟩ := Clause.demand?_eq_some_some_iff.mp hdemand
      cases hsome
      cases hlead with
      | plain hlead =>
        cases hbound with
        | mk hinner hdigits =>
          refine ⟨_, gap', hgap', .bound hk hlead hname hgap hinner hdigits hmunch, ?_⟩
          rw [hsign]
          simp only [List.append_assoc]

/-- A clause with a number that is short enough is a step of the reader, if no bound follows. -/
theorem Spells.accepts {e : Entry} {front rest : List Char} (h : Spells e front rest)
    (hshort : e.Short) (hnext : ¬ BoundAhead (skipSpace rest)) :
    Accepts (front ++ rest) e (skipSpace rest) :=
  have ⟨clause, hread, hentry⟩ := h.read? fun _ => hnext
  ⟨clause, hread, hentry, hshort⟩

/-- A clause with a number that is too long is refused, with white space in front of it or not. What
follows does not matter, because its number already shows where it ends. -/
theorem Spells.refuses {e : Entry} {front rest : List Char} (h : Spells e front rest)
    (hlong : ¬ e.Short) : Refuses (front ++ rest) (.numberTooLong e.size) ∧
      Refuses (skipSpace (front ++ rest)) (.numberTooLong e.size) := by
  have hnumber : e.digits ≠ none := by
    intro hnone
    refine hlong ?_
    rw [Entry.Short, Entry.size, hnone]
    exact Nat.zero_le _
  obtain ⟨clause, hread, hentry⟩ := h.read? fun hnone => absurd hnone hnumber
  exact ⟨.numberTooLong hread hentry hlong,
    .numberTooLong ((Clause.read?_skipSpace _).trans hread) hentry hlong⟩

/-! ### Sequences and runs

A sequence leaves the white space behind its last clause to the rest, the reader takes it: so a run
stops where the white space ends. The last clause may be one without a number, and then no bound
must follow. -/

/-- **The clauses of a sequence are the steps of a run.** Between two clauses no bound can begin. -/
theorem Sequence.run {entries : List Entry} {text rest : List Char}
    (h : Sequence entries text rest) (hne : entries ≠ []) (hshort : ∀ e ∈ entries, e.Short)
    (hnext : ¬ BoundAhead (skipSpace rest)) : Run text entries (skipSpace rest) := by
  induction h with
  | nil => exact absurd rfl hne
  | @cons e entries front middle rest hfirst hmore ih =>
    obtain ⟨he, hshort⟩ := List.forall_mem_cons.mp hshort
    cases hmore with
    | nil => exact .step (hfirst.accepts he hnext) .stop
    | @cons e' entries' front' middle' rest hsecond hmore =>
      have hmiddle := hsecond.not_boundAhead middle'
      have hrun := ih (List.cons_ne_nil _ _) hshort hnext
      -- the run goes on behind the white space between the clauses
      cases hrun with
      | step hstep hrun =>
        exact .step (hfirst.accepts he hmiddle) (.step (accepts_skipSpace_iff.mpr hstep) hrun)

/-- **The steps of a run are the clauses of a sequence.** Each step takes a clause with the white
space in front of it. -/
theorem Run.sequence {entries : List Entry} {text rest : List Char} (h : Run text entries rest) :
    ∃ w, Blank w ∧ Sequence entries text (w ++ rest) := by
  induction h with
  | stop => exact ⟨[], blank_nil, .nil⟩
  | @step text middle rest e entries hstep hrun ih =>
    obtain ⟨clause, hread, hentry, _⟩ := hstep
    obtain ⟨front, w, hw, hfront, rfl⟩ := exists_spells_of_read? hread hentry
    obtain ⟨w', hw', hmore⟩ := ih
    cases entries with
    | nil =>
      cases hrun
      exact ⟨w, hw, .cons hfront .nil⟩
    | cons e' entries =>
      -- the white space that this step took goes to the front of the next clause
      exact ⟨w', hw', .cons hfront (hmore.blank_append hw)⟩

/-! ### Blank texts

A text with a clause is not blank, also not by the wider notion of blank that decides whether a
text is read at all. -/

theorem isBlank_of_isWordChar {c : Char} (h : isWordChar c = true) : Unicode.isBlank c = false :=
  Unicode.forall_ascii (P := fun c => isWordChar c = true → Unicode.isBlank c = false)
    (by decide +kernel) (toNat_lt_of_isWordChar h) h

theorem isBlank_of_isSpace {c : Char} (h : isSpace c = true) : Unicode.isBlank c = true := by
  simp only [isSpace, Bool.or_eq_true, beq_iff_eq] at h
  rcases h with ((((rfl | rfl) | rfl) | rfl) | rfl) | rfl <;> decide

theorem Blank.allBlank {w : List Char} (h : Blank w) : Unicode.allBlank w = true :=
  List.all_eq_true.mpr fun c hc => isBlank_of_isSpace (h c hc)

/-- There is a character of a word in every text that names a kind. -/
theorem Names.mem_word {word : List Char} {k : Kind} (h : Names word k) :
    ∃ c ∈ word, isWordChar c = true := by
  obtain ⟨hne, hall⟩ := h.word
  obtain ⟨c, hc⟩ := List.exists_mem_of_ne_nil word hne
  exact ⟨c, hc, hall c hc⟩

/-- There is one in every clause, because a clause names its kind. -/
theorem Spells.exists_isWordChar {e : Entry} {front rest : List Char} (h : Spells e front rest) :
    ∃ c ∈ front, isWordChar c = true := by
  cases h with
  | bound hk hlead hword hgap hgap' hdigits hmunch =>
    obtain ⟨c, hc, hclass⟩ := hword.mem_word
    exact ⟨c, by simp [hc], hclass⟩
  | prohibition hk hlead hgap hword hmunch =>
    obtain ⟨c, hc, hclass⟩ := hword.mem_word
    exact ⟨c, by simp [hc], hclass⟩

/-- So no text that starts with a clause is blank. -/
theorem Spells.allBlank_append {e : Entry} {front rest : List Char} (h : Spells e front rest)
    (more : List Char) : Unicode.allBlank (front ++ more) = false := by
  obtain ⟨c, hc, hclass⟩ := h.exists_isWordChar
  refine List.all_eq_false.mpr ⟨c, List.mem_append_left _ hc, ?_⟩
  rw [isBlank_of_isWordChar hclass]
  decide

/-! ### What the reader answers -/

/-- The stored values that the grammar gives a text: a text that is blank stores nothing, and a
sequence of clauses with white space at the end stores for every kind the value of its last
clause. -/
def Specifies (text : List Char) (stored : Kind → Option Int) : Prop :=
  (Unicode.allBlank text = true ∧ ∀ k, stored k = none) ∨
    ∃ entries tail, Sequence entries text tail ∧ Blank tail ∧ (∀ e ∈ entries, e.Short) ∧
      ∀ k, stored k = (entries.findRev? (·.kind == k)).map Entry.value

/-- After clauses with short numbers, the text goes on with a clause whose number has too many
digits, namely so many. -/
def Overlong (text : List Char) (count : Nat) : Prop :=
  ∃ entries e front rest, Sequence entries text (front ++ rest) ∧ (∀ e ∈ entries, e.Short) ∧
    Spells e front rest ∧ ¬ e.Short ∧ e.size = count

/-- What a run stores in an empty policy for a kind is the value of its last entry of that kind. -/
theorem stored_storeAll_empty (entries : List Entry) (k : Kind) :
    (storeAll .empty entries).stored k =
      (entries.findRev? (·.kind == k)).map Entry.value := by
  rw [stored_storeAll]
  exact Option.or_none

/-- A text is read as a policy exactly if the grammar gives it the values of the policy. -/
theorem read_eq_ok_iff {text : List Char} {policy : Policy} :
    read text = .ok policy ↔ Specifies text policy.stored := by
  constructor
  · intro h
    unfold read at h
    split at h
    · next hblank => cases h; exact .inl ⟨hblank, fun _ => rfl⟩
    · obtain ⟨entries, hrun, rfl⟩ := readClauses_eq_ok_iff.mp h
      obtain ⟨w, hw, hseq⟩ := hrun.sequence
      rw [List.append_nil] at hseq
      exact .inr ⟨entries, w, hseq, hw, hrun.short, stored_storeAll_empty entries⟩
  · rintro (⟨hblank, hstored⟩ | ⟨entries, tail, hseq, htail, hshort, hstored⟩)
    · unfold read
      rw [if_pos hblank]
      exact congrArg Except.ok (Policy.ext (funext fun k => (hstored k).symm))
    · -- a text of clauses stores their last values
      have hpolicy : storeAll .empty entries = policy := by
        refine Policy.ext (funext fun k => ?_)
        rw [stored_storeAll_empty, hstored]
      unfold read
      cases hseq with
      | nil => rw [if_pos htail.allBlank, ← hpolicy]; rfl
      | cons hfirst hmore =>
        -- the last step takes the white space at the end of the text
        have hend : skipSpace tail = [] := by
          have := htail.skipSpace_append []
          rwa [List.append_nil] at this
        have hrun := (Sequence.cons hfirst hmore).run (List.cons_ne_nil _ _) hshort
          (by rw [hend]; exact readBound_eq_none_iff.mp rfl)
        rw [hend] at hrun
        rw [if_neg (by rw [hfirst.allBlank_append]; decide)]
        exact readClauses_eq_ok_iff.mpr ⟨_, hrun, hpolicy.symm⟩

/-- A text is refused for the length of a number exactly where the grammar comes to such a clause
before it comes to an end. -/
theorem read_eq_numberTooLong_iff {text : List Char} {count : Nat} :
    read text = .error (.numberTooLong count) ↔ Overlong text count := by
  constructor
  · intro h
    unfold read at h
    split at h
    · cases h
    · obtain ⟨entries, rest, hrun, hrefuses⟩ := readClauses_eq_error_iff.mp h
      obtain ⟨w, hw, hseq⟩ := hrun.sequence
      cases hrefuses with
      | numberTooLong hread hentry hlong =>
        obtain ⟨front, w', hw', hfront, rfl⟩ := exists_spells_of_read? hread hentry
        rw [← List.append_assoc] at hseq
        exact ⟨entries, _, _, _, hseq, hrun.short, hfront.blank_append hw, hlong, rfl⟩
  · rintro ⟨entries, e, front, rest, hseq, hshort, hfront, hlong, rfl⟩
    have hrefuses := hfront.refuses hlong
    -- a run comes to the clause, with or without white space in front of it
    have htext : ∃ middle, Run text entries middle ∧ Refuses middle (.numberTooLong e.size) := by
      cases hseq with
      | nil => exact ⟨_, .stop, hrefuses.1⟩
      | cons hfirst hmore =>
        exact ⟨_, (Sequence.cons hfirst hmore).run (List.cons_ne_nil _ _) hshort
          (hfront.not_boundAhead rest), hrefuses.2⟩
    have hblank : Unicode.allBlank text = false := by
      cases hseq with
      | nil => exact hfront.allBlank_append rest
      | cons hfirst hmore => exact hfirst.allBlank_append _
    unfold read
    rw [if_neg (by rw [hblank]; decide)]
    exact readClauses_eq_error_iff.mpr ⟨entries, htext⟩

/-- **The reader answers what the grammar says.** It accepts the texts of the grammar with the
stored values that the grammar gives them, it complains about a number exactly where the grammar
comes to one that is too long, and every other text it calls malformed. -/
theorem ofSpecification_eq_iff_grammar (s : String) :
    (∀ policy, Policy.ofSpecification s = .ok policy ↔ Specifies s.toList policy.stored) ∧
      (∀ count, Policy.ofSpecification s = .error (.numberTooLong count) ↔
        Overlong s.toList count) ∧
      ((∃ reason accepted rest,
          Policy.ofSpecification s = .error (.malformed reason accepted rest)) ↔
        (¬ ∃ stored, Specifies s.toList stored) ∧ ¬ ∃ count, Overlong s.toList count) := by
  have hok (policy : Policy) :
      Policy.ofSpecification s = .ok policy ↔ Specifies s.toList policy.stored :=
    ofSpecification_eq_ok_iff.trans read_eq_ok_iff
  have hlong (count : Nat) :
      Policy.ofSpecification s = .error (.numberTooLong count) ↔ Overlong s.toList count :=
    ofSpecification_eq_numberTooLong_iff.trans read_eq_numberTooLong_iff
  refine ⟨hok, hlong, ?_⟩
  constructor
  · rintro ⟨reason, accepted, rest, h⟩
    refine ⟨fun ⟨stored, hstored⟩ => ?_, fun ⟨count, hcount⟩ => ?_⟩
    · have := (hok ⟨stored⟩).mpr hstored
      exact absurd (h.symm.trans this) (by nofun)
    · have := (hlong count).mpr hcount
      exact absurd (h.symm.trans this) (by simp)
  · -- there are three kinds of answers, and two of them are ruled out
    rintro ⟨haccepted, hoverlong⟩
    cases h : Policy.ofSpecification s with
    | ok policy => exact absurd ⟨_, (hok policy).mp h⟩ haccepted
    | error e =>
      cases e with
      | malformed reason accepted rest => exact ⟨reason, accepted, rest, rfl⟩
      | numberTooLong count => exact absurd ⟨count, (hlong count).mp h⟩ hoverlong

end PasswordPolicy.Specification
