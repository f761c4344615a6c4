import PasswordPolicy.Proofs.Specification.Layout
import PasswordPolicy.Specification.Reader

/-!
# Runs of the reader

Reading a specification is taken apart into steps. At each place of the text the reader is at the
end, or gets past one clause (`Accepts`), or refuses the text (`Refuses`), and a run is a sequence
of clauses that it gets past. What the reader answers is then said without recursion.

* **`exists_run`**: from every text a run leads to the end or to a place that is refused.
* **`readClauses_eq_ok_iff`**, **`readClauses_eq_error_iff`**: the answer is the policy that a run
  to the end has stored, or the refusal at the place where a run gets stuck.
* **`Run.of_append`**: a run is the same when the text is cut where it stops.
-/

namespace PasswordPolicy

namespace Specification

/-! ### Entries

What a clause says once its word is looked up and its form is checked, before its number is taken
for short enough. -/

/-- A kind, and the digits of a number if the kind is written with one. -/
structure Entry where
  kind : Kind
  digits : Option (List Char)
deriving DecidableEq

def Entry.value (e : Entry) : Int :=
  match e.digits with
  | none => 1
  | some digits => Text.digitsValue digits

def Entry.size (e : Entry) : Nat :=
  match e.digits with
  | none => 0
  | some digits => digits.length

def Entry.Short (e : Entry) : Prop := e.size ≤ Text.maxDigits

instance (e : Entry) : Decidable e.Short := inferInstanceAs (Decidable (e.size ≤ Text.maxDigits))

/-- The entry that a clause stands for, if its word is known and its form is right. -/
def Clause.entry? (clause : Clause) : Option Entry :=
  (lookup clause.word).bind fun kind => (clause.demand? kind).map fun digits => ⟨kind, digits⟩

/-- A clause with an entry means the kind and the value of the entry, unless the number is too long.
Whether it is, is asked last. -/
theorem Clause.meaning_of_entry? {clause : Clause} {e : Entry} (h : clause.entry? = some e)
    (here : List Char) : clause.meaning here =
      if e.Short then .ok (e.kind, e.value) else .error (.numberTooLong e.size) := by
  obtain ⟨kind, hkind, h⟩ := Option.bind_eq_some_iff.mp h
  obtain ⟨digits, hdemand, rfl⟩ := Option.map_eq_some_iff.mp h
  unfold Clause.meaning
  rw [hkind]
  simp only [hdemand]
  cases digits with
  | none =>
    rw [if_pos (show Entry.Short ⟨kind, none⟩ from Nat.zero_le _)]
    rfl
  | some digits => rfl

/-! ### Storing entries -/

def storeAll (policy : Policy) (entries : List Entry) : Policy :=
  entries.foldl (fun p e => p.set e.kind e.value) policy

@[simp] theorem storeAll_cons (policy : Policy) (e : Entry) (entries : List Entry) :
    storeAll policy (e :: entries) = storeAll (policy.set e.kind e.value) entries := rfl

/-- The last entry of a kind counts; a kind without an entry keeps what it had. -/
theorem stored_storeAll (policy : Policy) (entries : List Entry) (k : Kind) :
    (storeAll policy entries).stored k =
      ((entries.findRev? (·.kind == k)).map Entry.value).or (policy.stored k) := by
  induction entries generalizing policy with
  | nil => rfl
  | cons e entries ih =>
    rw [storeAll_cons, ih, List.findRev?, Policy.stored_set]
    -- an entry further behind hides this one
    cases entries.findRev? (·.kind == k) with
    | some last => rfl
    | none =>
      by_cases hk : k = e.kind
      · simp [hk]
      · simp [hk, Ne.symm hk]

/-! ### Steps -/

/-- The reader gets past a clause with this entry and goes on at the rest. -/
def Accepts (text : List Char) (e : Entry) (rest : List Char) : Prop :=
  ∃ clause, Clause.read? text = some (clause, rest) ∧ clause.entry? = some e ∧ e.Short

/-- The reader refuses a text at its start. -/
inductive Refuses : List Char → Refusal → Prop
  | noClause {text : List Char} (hread : Clause.read? text = none) (hne : text ≠ []) :
      Refuses text (.malformed .noClause text)
  | unknownWord {text rest : List Char} {clause : Clause}
      (hread : Clause.read? text = some (clause, rest)) (hword : lookup clause.word = none) :
      Refuses text (.malformed .unknownWord text)
  | expected {text rest : List Char} {clause : Clause} {kind : Kind}
      (hread : Clause.read? text = some (clause, rest)) (hword : lookup clause.word = some kind)
      (hform : clause.demand? kind = none) : Refuses text (.malformed (.expected kind) text)
  | numberTooLong {text rest : List Char} {clause : Clause} {e : Entry}
      (hread : Clause.read? text = some (clause, rest)) (hentry : clause.entry? = some e)
      (hlong : ¬ e.Short) : Refuses text (.numberTooLong e.size)

/-- At every place the reader is at the end of the text, or gets past a clause, or refuses the text.
The checks are made in the order in which the cases are split: is there a clause, is its word known,
has it the form of its kind, and is its number short enough. -/
theorem step_cases (text : List Char) :
    text = [] ∨ (∃ e rest, Accepts text e rest) ∨ ∃ refusal, Refuses text refusal := by
  -- each stage of a step either goes on or refuses: the clause, its word, its form and its number
  cases hread : Clause.read? text with
  | none =>
    by_cases hnil : text = []
    · exact .inl hnil
    · exact .inr (.inr ⟨_, .noClause hread hnil⟩)
  | some result =>
    obtain ⟨clause, rest⟩ := result
    right
    cases hword : lookup clause.word with
    | none => exact .inr ⟨_, .unknownWord hread hword⟩
    | some kind =>
      cases hform : clause.demand? kind with
      | none => exact .inr ⟨_, .expected hread hword hform⟩
      | some digits =>
        have hentry : clause.entry? = some ⟨kind, digits⟩ := by simp [Clause.entry?, hword, hform]
        by_cases hshort : Entry.Short ⟨kind, digits⟩
        · exact .inl ⟨_, rest, clause, hread, hentry, hshort⟩
        · exact .inr ⟨_, .numberTooLong hread hentry hshort⟩

/-- A clause that the reader gets past is stored, and reading goes on behind it. -/
theorem Accepts.readClauses_eq {text rest : List Char} {e : Entry} (h : Accepts text e rest)
    (policy : Policy) :
    readClauses policy text = readClauses (policy.set e.kind e.value) rest := by
  obtain ⟨clause, hread, hentry, hshort⟩ := h
  rw [readClauses_of_some policy hread, Clause.meaning_of_entry? hentry, if_pos hshort]

/-- A text that is refused is refused whatever was stored before. -/
theorem Refuses.readClauses_eq {text : List Char} {refusal : Refusal} (h : Refuses text refusal)
    (policy : Policy) : readClauses policy text = .error refusal := by
  cases h with
  | noClause hread hne => rw [readClauses_of_none policy hread, if_neg (by simpa using hne)]
  | unknownWord hread hword =>
    rw [readClauses_of_some policy hread]
    unfold Clause.meaning
    rw [hword]
  | expected hread hword hform =>
    rw [readClauses_of_some policy hread]
    unfold Clause.meaning
    rw [hword]
    simp only [hform]
  -- the clause has an entry, so the number is the only thing that can be wrong
  | numberTooLong hread hentry hlong =>
    rw [readClauses_of_some policy hread, Clause.meaning_of_entry? hentry, if_neg hlong]

theorem readClauses_nil (policy : Policy) : readClauses policy [] = .ok policy :=
  readClauses_of_none policy Clause.read?_nil

/-- A step goes forward in the text, -/
theorem Accepts.suffix {text rest : List Char} {e : Entry} (h : Accepts text e rest) :
    rest <:+ text :=
  have ⟨_, hread, _⟩ := h
  Clause.suffix_of_read? hread

/-- and by one character at least. This is what makes runs end. -/
theorem Accepts.length_lt {text rest : List Char} {e : Entry} (h : Accepts text e rest) :
    rest.length < text.length :=
  have ⟨_, hread, _⟩ := h
  Clause.length_lt_of_read? hread

/-- White space in front of a clause makes no difference to a step. -/
theorem accepts_skipSpace_iff {text rest : List Char} {e : Entry} :
    Accepts (skipSpace text) e rest ↔ Accepts text e rest := by
  unfold Accepts
  rw [Clause.read?_skipSpace]

/-- A step does not need what stands at the end of the text behind it. -/
theorem Accepts.of_append {text rest more : List Char} {e : Entry}
    (h : Accepts (text ++ more) e (rest ++ more)) : Accepts text e rest := by
  obtain ⟨clause, hread, hentry⟩ := h
  exact ⟨clause, Clause.read?_of_append hread, hentry⟩

/-! ### Runs -/

/-- Clauses that the reader gets past one after the other, from a text down to a rest. -/
inductive Run : List Char → List Entry → List Char → Prop
  | stop {text : List Char} : Run text [] text
  | step {text middle rest : List Char} {e : Entry} {entries : List Entry}
      (hstep : Accepts text e middle) (hrun : Run middle entries rest) :
      Run text (e :: entries) rest

/-- Reading a text comes to reading what a run leaves of it, with the entries of the run stored. -/
theorem Run.readClauses_eq {text rest : List Char} {entries : List Entry}
    (h : Run text entries rest) (policy : Policy) :
    readClauses policy text = readClauses (storeAll policy entries) rest := by
  induction h generalizing policy with
  | stop => rfl
  | step hstep _ ih => rw [hstep.readClauses_eq, ih, storeAll_cons]

/-- A run goes forward in the text. -/
theorem Run.suffix {text rest : List Char} {entries : List Entry} (h : Run text entries rest) :
    rest <:+ text := by
  induction h with
  | stop => exact List.suffix_refl _
  | step hstep _ ih => exact ih.trans hstep.suffix

/-- The reader gets past short numbers only. -/
theorem Run.short {text rest : List Char} {entries : List Entry} (h : Run text entries rest) :
    ∀ e ∈ entries, e.Short := by
  induction h with
  | stop => nofun
  | step hstep _ ih =>
    obtain ⟨_, _, _, hshort⟩ := hstep
    exact List.forall_mem_cons.mpr ⟨hshort, ih⟩

/-- **Every text has a run to its end or to a refusal.** The text gets shorter at each step. -/
theorem exists_run (text : List Char) :
    ∃ entries rest, Run text entries rest ∧ (rest = [] ∨ ∃ refusal, Refuses rest refusal) := by
  rcases step_cases text with hnil | ⟨e, middle, hstep⟩ | hrefuses
  · exact ⟨[], text, .stop, .inl hnil⟩
  · have := hstep.length_lt
    obtain ⟨entries, rest, hrun, hend⟩ := exists_run middle
    exact ⟨e :: entries, rest, .step hstep hrun, hend⟩
  · exact ⟨[], text, .stop, .inr hrefuses⟩
termination_by text.length

/-- **A text is accepted by a run to its end,** and the policy is what that run stores. The run has
the clauses in the order of the text, so a later one of a kind overrides an earlier one. -/
theorem readClauses_eq_ok_iff {policy result : Policy} {text : List Char} :
    readClauses policy text = .ok result ↔
      ∃ entries, Run text entries [] ∧ result = storeAll policy entries := by
  constructor
  · intro h
    -- there is a run from the text, and the answer shows that it came to the end
    obtain ⟨entries, rest, hrun, rfl | ⟨refusal, hrefuses⟩⟩ := exists_run text
    · rw [hrun.readClauses_eq, readClauses_nil] at h
      cases h
      exact ⟨entries, hrun, rfl⟩
    · rw [hrun.readClauses_eq, hrefuses.readClauses_eq] at h
      cases h
  · rintro ⟨entries, hrun, rfl⟩
    rw [hrun.readClauses_eq, readClauses_nil]

/-- **A text is refused where a run gets stuck,** for the reason there. -/
theorem readClauses_eq_error_iff {policy : Policy} {text : List Char} {refusal : Refusal} :
    readClauses policy text = .error refusal ↔
      ∃ entries rest, Run text entries rest ∧ Refuses rest refusal := by
  constructor
  · intro h
    -- there is a run from the text, and the answer shows that it got stuck
    obtain ⟨entries, rest, hrun, rfl | ⟨refusal', hrefuses⟩⟩ := exists_run text
    · rw [hrun.readClauses_eq, readClauses_nil] at h
      cases h
    · rw [hrun.readClauses_eq, hrefuses.readClauses_eq] at h
      cases h
      exact ⟨entries, rest, hrun, hrefuses⟩
  · rintro ⟨entries, rest, hrun, hrefuses⟩
    rw [hrun.readClauses_eq, hrefuses.readClauses_eq]

/-- **A run is the same when the text is cut where it stops.** Each step in between leaves a text
that still holds what is cut off. -/
theorem Run.of_append {text rest more : List Char} {entries : List Entry}
    (h : Run (text ++ more) entries (rest ++ more)) : Run text entries rest := by
  generalize hfull : text ++ more = full at h
  generalize hend : rest ++ more = last at h
  induction h generalizing text with
  | stop =>
    have htext : text = rest := List.append_cancel_right (hfull.trans hend.symm)
    exact htext ▸ .stop
  | @step full middle last e entries hstep hrun ih =>
    obtain ⟨front, hfront⟩ := hrun.suffix
    -- the place after the step ends in what is cut off, too
    have hmiddle : (front ++ rest) ++ more = middle := by
      rw [List.append_assoc, hend, hfront]
    subst hfull
    rw [← hmiddle] at hstep
    exact .step hstep.of_append (ih hmiddle hend)

/-! ### Results

What a result is mapped to shows whether it is an error, so a single text can be looked at without
comparing policies. -/

section Results
variable {ε α β : Type} {x : Except ε α} {f : α → β}

/-- A result that is mapped to a value is the value of something. -/
theorem exists_ok_of_map {b : β} (h : x.map f = .ok b) : ∃ a, x = .ok a ∧ f a = b := by
  cases x with
  | error e => cases h
  | ok a => exact ⟨a, rfl, Except.ok.inj h⟩

/-- A result that is mapped to an error is that error itself. -/
theorem eq_error_of_map {e : ε} (h : x.map f = .error e) : x = .error e := by
  cases x with
  | error e' => rw [Except.error.inj h]
  | ok a => cases h

end Results

/-! ### The answer for a specification

The errors of `Policy.ofSpecification` are the refusals of the reader, with the accepted part of the
text where there is one. -/

/-- A specification is accepted exactly if its characters are read as the policy. -/
theorem ofSpecification_eq_ok_iff {s : String} {policy : Policy} :
    Policy.ofSpecification s = .ok policy ↔ read s.toList = .ok policy := by
  unfold Policy.ofSpecification
  simp only
  rcases read s.toList with (_ | _) | _ <;> simp

/-- The complaint about a number is passed on as it is. -/
theorem ofSpecification_eq_numberTooLong_iff {s : String} {count : Nat} :
    Policy.ofSpecification s = .error (.numberTooLong count) ↔
      read s.toList = .error (.numberTooLong count) := by
  unfold Policy.ofSpecification
  simp only
  rcases read s.toList with (_ | _) | _ <;> simp

/-- A malformed text is cut at the place of the error, which the reader tells by what is left. -/
theorem ofSpecification_eq_malformed_iff {s : String} {reason : Reason}
    {accepted rest : List Char} :
    Policy.ofSpecification s = .error (.malformed reason accepted rest) ↔
      read s.toList = .error (.malformed reason rest) ∧ accepted = consumed s.toList rest := by
  unfold Policy.ofSpecification
  simp only
  rcases read s.toList with (⟨reason', rest'⟩ | _) | _
  · constructor
    · intro h
      cases h
      exact ⟨rfl, rfl⟩
    · rintro ⟨h, rfl⟩
      cases h
      rfl
  · simp
  · simp

end Specification

end PasswordPolicy
