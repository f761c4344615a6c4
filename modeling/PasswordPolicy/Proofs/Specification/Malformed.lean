import PasswordPolicy.Proofs.Specification.Grammar

/-!
# Malformed specifications

The error for a malformed text says where reading stopped and why. The place is an honest one: what
stands before it is a specification on its own, and what stands behind it is refused for the same
reason when it stands alone. The reason can be read off the rest without knowing how the reader came
there.

* **`Refuses.reason_cases`**: what the rest looks like under each of the reasons.
* **`faultReport_of_malformed`**: everything that the error says.
-/

namespace PasswordPolicy.Specification

/-! ### The first word of a text

The longest run of word characters behind white space and at most one `!`. A text that comes to a
word has exactly one first word. -/

def FirstWord (text word : List Char) : Prop :=
  ∃ (bang : Bool) (lead rest : List Char), Lead bang lead ∧ Word word ∧
    StartsWithout isWordChar rest ∧ text = lead ++ (word ++ rest)

/-- A text with a first word comes to a word. -/
theorem FirstWord.wordAhead {text word : List Char} (h : FirstWord text word) :
    WordAhead text := by
  obtain ⟨bang, lead, rest, hlead, ⟨hne, hall⟩, _, rfl⟩ := h
  cases word with
  | nil => exact absurd rfl hne
  | cons c word => exact ⟨bang, lead, c, word ++ rest, hlead, hall c List.mem_cons_self, rfl⟩

/-- The first word is what the reader takes for it. It is the longest run, because what follows it
starts without a character of a word. -/
theorem FirstWord.eq_takeWhile {text word : List Char} (h : FirstWord text word) :
    word = (readBang text).2.takeWhile isWordChar := by
  obtain ⟨bang, lead, rest, hlead, ⟨hne, hall⟩, hrest, rfl⟩ := h
  cases word with
  | nil => exact absurd rfl hne
  | cons c word =>
    rw [List.cons_append, hlead.readBang_append (hall c List.mem_cons_self), ← List.cons_append,
      hrest.takeWhile_append hall]

/-- So there are no two first words of a text. -/
theorem FirstWord.unique {text word word' : List Char} (h : FirstWord text word)
    (h' : FirstWord text word') : word = word' :=
  h.eq_takeWhile.trans h'.eq_takeWhile.symm

/-- The word of a clause that is read is the first word of the text. -/
theorem firstWord_of_read? {text rest : List Char} {clause : Clause}
    (h : Clause.read? text = some (clause, rest)) : FirstWord text clause.word := by
  obtain ⟨front, hlayout, rfl⟩ := Clause.read?_eq_some_iff.mp h
  cases hlayout with
  | @bare bang lead word gap rest hlead hword hgap hmunch hbound hrest =>
    refine ⟨bang, lead, gap ++ rest, hlead, hword, hmunch, ?_⟩
    simp only [List.append_assoc]
  | @bounded bang lead word gap front gap' rest bound hlead hword hgap hbound hgap' hmunch hrest =>
    refine ⟨bang, lead, gap ++ (front ++ (gap' ++ rest)), hlead, hword, ?_, ?_⟩
    · -- the word may be followed at once by the sign of the bound
      exact hgap.startsWithout_append (hbound.startsWithout _).1
    · simp only [List.append_assoc]

/-! ### Reasons -/

/-- The text is called malformed at the place where it is refused. -/
theorem Refuses.eq_of_malformed {text rest : List Char} {reason : Reason}
    (h : Refuses text (.malformed reason rest)) : rest = text := by
  cases h <;> rfl

/-- Nothing is refused at the end of a text. -/
theorem Refuses.ne_nil {text : List Char} {refusal : Refusal} (h : Refuses text refusal) :
    text ≠ [] := by
  rintro rfl
  cases h with
  | noClause hread hne => exact hne rfl
  | unknownWord hread _ => exact absurd hread (by simp [Clause.read?_nil])
  | expected hread _ _ => exact absurd hread (by simp [Clause.read?_nil])
  | numberTooLong hread _ _ => exact absurd hread (by simp [Clause.read?_nil])

/-- What stands at the place of the error: no word, or a word that names nothing, or a word that
names the kind whose clause was expected. -/
theorem Refuses.reason_cases {text rest : List Char} {reason : Reason}
    (h : Refuses text (.malformed reason rest)) :
    (reason = .noClause ∧ ¬ WordAhead text) ∨
      (∃ word, reason = .unknownWord ∧ FirstWord text word ∧ ∀ k, ¬ Names word k) ∨
      ∃ word k, reason = .expected k ∧ FirstWord text word ∧ Names word k := by
  cases h with
  | noClause hread _ => exact .inl ⟨rfl, Clause.read?_eq_none_iff.mp hread⟩
  | unknownWord hread hlookup =>
    exact .inr (.inl ⟨_, rfl, firstWord_of_read? hread, lookup_eq_none_iff.mp hlookup⟩)
  | expected hread hlookup _ =>
    exact .inr (.inr ⟨_, _, rfl, firstWord_of_read? hread, lookup_eq_some_iff.mp hlookup⟩)

theorem Names.unique {word : List Char} {k l : Kind} (hk : Names word k) (hl : Names word l) :
    k = l :=
  Kind.token_injective (String.toList_inj.mp (hk.symm.trans hl))

/-- The message for a text without a word is that of no other reason: no token makes up the same
text with what is said about it. -/
theorem Reason.message_eq_noClause_iff {reason : Reason} :
    reason.message = "parsing error" ↔ reason = .noClause := by
  cases reason with
  | noClause => simp [Reason.message]
  | unknownWord => simp [Reason.message]
  | expected k => cases k <;> simp [Reason.message] <;> decide

/-- Neither is the message for an unknown word. -/
theorem Reason.message_eq_unknownWord_iff {reason : Reason} :
    reason.message = "unrecognized token" ↔ reason = .unknownWord := by
  cases reason with
  | noClause => simp [Reason.message]
  | unknownWord => simp [Reason.message]
  | expected k => cases k <;> simp [Reason.message] <;> decide

/-! ### The report -/

/-- How the clause of a kind is asked for when it is not written that way. -/
def expectation (k : Kind) : String :=
  match k.family with
  | .minimum => k.token ++ ">=number expected"
  | .maximum => k.token ++ "<=number expected"
  | .require => k.token ++ " expected"
  | .prohibit => "!" ++ k.token ++ " expected"

/-- The message for a clause of the wrong form says how the clause of the kind is written. -/
theorem message_expected (k : Kind) : (Reason.expected k).message = expectation k := by
  cases k <;> rfl

/-- What the error of a malformed text tells. -/
structure FaultReport (s : String) (reason : Reason) (accepted rest : List Char) : Prop where
  /-- The accepted part and the rest make up the text. -/
  split : String.ofList accepted ++ String.ofList rest = s
  /-- The offset counts the characters of the accepted part. -/
  offset : (Error.malformed reason accepted rest).offset = (String.ofList accepted).length
  /-- Something is left. -/
  rest_ne_nil : rest ≠ []
  /-- The message shows the reason, the accepted part and the rest as they are. -/
  message : (Error.malformed reason accepted rest).message =
    reason.message ++ ": " ++ String.ofList accepted ++ "-->" ++ String.ofList rest
  /-- The accepted part is a specification. -/
  accepted_ok : ∃ policy, Policy.ofSpecification (String.ofList accepted) = .ok policy
  /-- The rest, unless it is blank, is refused at its start for the same reason. -/
  rest_malformed : Unicode.allBlank rest = false →
    Policy.ofSpecification (String.ofList rest) = .error (.malformed reason [] rest)
  /-- The text does not go on with a word. -/
  noClause_iff : reason.message = "parsing error" ↔ ¬ WordAhead rest
  /-- The text goes on with a word that names nothing. -/
  unknownWord_iff : reason.message = "unrecognized token" ↔
    ∃ word, FirstWord rest word ∧ ∀ k, ¬ Names word k
  /-- The text goes on with a word that names a kind, whose clause was expected. -/
  expected_of : ∀ word k, FirstWord rest word → Names word k → reason.message = expectation k

/-- A text is malformed exactly if it is not blank and a run gets stuck at a place that is refused
for what stands there. -/
theorem read_eq_malformed_iff {text rest : List Char} {reason : Reason} :
    read text = .error (.malformed reason rest) ↔ Unicode.allBlank text = false ∧
      ∃ entries, Run text entries rest ∧ Refuses rest (.malformed reason rest) := by
  unfold read
  constructor
  · intro h
    split at h
    · cases h
    · next hblank =>
      obtain ⟨entries, place, hrun, hrefuses⟩ := readClauses_eq_error_iff.mp h
      -- the place of the error is where the run ended
      have hplace := hrefuses.eq_of_malformed
      subst hplace
      exact ⟨by simpa using hblank, entries, hrun, hrefuses⟩
  · rintro ⟨hblank, entries, hrun, hrefuses⟩
    rw [if_neg (by rw [hblank]; decide)]
    exact readClauses_eq_error_iff.mpr ⟨entries, rest, hrun, hrefuses⟩

/-- A text that a run comes to the end of is a specification. A blank text is accepted without a
run, and any other one stores what the run stores. -/
theorem Run.exists_ofSpecification {text : List Char} {entries : List Entry}
    (h : Run text entries []) :
    ∃ policy, Policy.ofSpecification (String.ofList text) = .ok policy := by
  by_cases hblank : Unicode.allBlank text = true
  · -- a blank text is accepted without a run
    refine ⟨.empty, ofSpecification_eq_ok_iff.mpr ?_⟩
    unfold read
    rw [String.toList_ofList, if_pos hblank]
  · refine ⟨storeAll .empty entries, ofSpecification_eq_ok_iff.mpr ?_⟩
    unfold read
    rw [String.toList_ofList, if_neg hblank]
    exact readClauses_eq_ok_iff.mpr ⟨entries, h, rfl⟩

/-- **What the error of a malformed specification tells.** -/
theorem faultReport_of_malformed {s : String} {reason : Reason} {accepted rest : List Char}
    (h : Policy.ofSpecification s = .error (.malformed reason accepted rest)) :
    FaultReport s reason accepted rest := by
  obtain ⟨hread, rfl⟩ := ofSpecification_eq_malformed_iff.mp h
  obtain ⟨-, entries, hrun, hrefuses⟩ := read_eq_malformed_iff.mp hread
  have hsplit := consumed_append hrun.suffix
  have hreason := hrefuses.reason_cases
  refine ⟨?split, ?offset, hrefuses.ne_nil, rfl, ?accepted, ?rest, ?noClause, ?unknown, ?expected⟩
  case split => rw [← String.ofList_append, hsplit, String.ofList_toList]
  case offset => exact String.length_ofList.symm
  case accepted =>
    -- the clauses before the place are read in the same way when the text ends there
    rw [← hsplit] at hrun
    have hcut : Run (consumed s.toList rest) entries [] :=
      Run.of_append (show Run (_ ++ rest) entries ([] ++ rest) from hrun)
    exact hcut.exists_ofSpecification
  case rest =>
    -- the rest is refused at its start: the run that leads there is the empty one
    intro hblank
    refine ofSpecification_eq_malformed_iff.mpr ?_
    rw [String.toList_ofList]
    refine ⟨read_eq_malformed_iff.mpr ⟨hblank, [], .stop, hrefuses⟩, ?_⟩
    simp [consumed]
  -- the three reasons exclude each other: a text has a first word or has none
  case noClause =>
    rw [Reason.message_eq_noClause_iff]
    rcases hreason with ⟨rfl, hno⟩ | ⟨word, rfl, hfirst, -⟩ | ⟨word, k, rfl, hfirst, -⟩
    · exact iff_of_true rfl hno
    · refine iff_of_false (fun heq => by cases heq) ?_
      exact fun hno => hno hfirst.wordAhead
    · refine iff_of_false (fun heq => by cases heq) ?_
      exact fun hno => hno hfirst.wordAhead
  case unknown =>
    rw [Reason.message_eq_unknownWord_iff]
    rcases hreason with ⟨rfl, hno⟩ | ⟨word, rfl, hfirst, hnames⟩ | ⟨word, k, rfl, hfirst, hname⟩
    · refine iff_of_false (fun heq => by cases heq) ?_
      rintro ⟨word, hfirst, -⟩
      exact hno hfirst.wordAhead
    · exact iff_of_true rfl ⟨word, hfirst, hnames⟩
    · refine iff_of_false (fun heq => by cases heq) ?_
      rintro ⟨word', hfirst', hnames⟩
      exact hnames k (hfirst.unique hfirst' ▸ hname)
  case expected =>
    intro word' k' hfirst' hname'
    rcases hreason with ⟨rfl, hno⟩ | ⟨word, rfl, hfirst, hnames⟩ | ⟨word, k, rfl, hfirst, hname⟩
    · exact absurd hfirst'.wordAhead hno
    · exact absurd (hfirst.unique hfirst' ▸ hname') (hnames k')
    · have hword := hfirst.unique hfirst'
      subst hword
      rw [message_expected, hname.unique hname']

/-- A place behind a clause without a number, where a bound fails to follow. -/
theorem faultReport_behind_prohibition :
    Policy.ofSpecification "Length>=2 !user>=\x7b0\x7d" =
        .error (.malformed .noClause "Length>=2 !user".toList ">=\x7b0\x7d".toList) ∧
      FaultReport "Length>=2 !user>=\x7b0\x7d" .noClause "Length>=2 !user".toList
        ">=\x7b0\x7d".toList := by
  have hmap : (Policy.ofSpecification "Length>=2 !user>=\x7b0\x7d").map Policy.text =
      .error (.malformed .noClause "Length>=2 !user".toList ">=\x7b0\x7d".toList) := by
    decide +kernel
  have h := eq_error_of_map hmap
  exact ⟨h, faultReport_of_malformed h⟩

end PasswordPolicy.Specification
