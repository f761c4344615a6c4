import PasswordPolicy.Proofs.Console.Verdict
import PasswordPolicy.Proofs.Specification.Malformed

/-!
# Writing a specification in its canonical form

The command `format` writes what a specification says, or reports the place where the text stops
being one. Between the two there is a gap: a number of too many digits is neither written nor
reported. The gap is as narrow as can be: it takes a clause that is right in everything but the
length of its number, with nothing but right clauses before it.

* **`task_formatLine`**: what the command line amounts to.
* **`line_malformedRules`**: the report names the place, whatever the text holds.
* **`format_writes_or_reports`**: the three ends of the command.
-/

namespace PasswordPolicy

namespace Specification

/-! ### Numbers that are too long -/

/-- What is left behind a run of clauses is the end of the text. -/
theorem Sequence.suffix {entries : List Entry} {text rest : List Char}
    (h : Sequence entries text rest) : rest <:+ text := by
  induction h with
  | nil => exact List.suffix_rfl
  | cons hfirst hmore ih => exact ih.trans (List.suffix_append _ _)

/-- A text with a number that is too long holds its digits. -/
theorem Overlong.exists_digits {text : List Char} {count : Nat} (h : Overlong text count) :
    ∃ digits, digits <:+: text ∧ Digits digits ∧ digits.length = count ∧
      Text.maxDigits < count := by
  obtain ⟨entries, ⟨k, digits⟩, front, rest, hseq, -, hfront, hlong, rfl⟩ := h
  have hcount := Nat.lt_of_not_le hlong
  cases digits with
  | none => exact absurd hcount (Nat.not_lt_zero _)
  | some digits =>
    obtain ⟨hdigits, hsuffix⟩ := hfront.digits_suffix
    have hinfix := (hsuffix.isInfix.trans (List.prefix_append front rest).isInfix).trans
      hseq.suffix.isInfix
    exact ⟨digits, hinfix, hdigits, rfl, hcount⟩

/-- A bound on the length with too many digits is such a text. -/
theorem overlong_least {digits : List Char} (hdigits : Digits digits)
    (hcount : Text.maxDigits < digits.length) :
    Overlong ("length>=".toList ++ digits) digits.length := by
  have hspells : Spells ⟨.length, some digits⟩ ("length>=".toList ++ digits) [] :=
    @Spells.bound .length [] "length".toList [] [] digits [] (.inl rfl) blank_nil
      (token_names .length) blank_nil blank_nil hdigits startsWithout_nil
  refine ⟨[], _, _, [], ?_, List.forall_mem_nil _, hspells, Nat.not_le.mpr hcount, rfl⟩
  rw [List.append_nil]
  exact .nil

end Specification

namespace Console

/-! ### The command line -/

/-- The command line that writes a specification. Two dashes stand before it, so that it can start
with a dash itself. -/
def formatLine (debug : Bool) (specification : String) : List String :=
  (if debug then ["-D"] else []) ++ ["format", "--", specification]

/-- The variables that can give what the command line leaves out. -/
def formatVariables : List String :=
  ["PASSWORD_RULES_DEBUG", "PASSWORD_RULES_CONFIG", "PASSWORD_RULES_FORMAT_FIELDS"]

/-- The general options stop at the name of the command. -/
theorem split_formatLine (debug : Bool) (specification : String) :
    split generalChoices false (formatLine debug specification) =
      .ok ⟨if debug then [("debug", "")] else [], ["format", "--", specification]⟩ := by
  cases debug with
  | false => rfl
  | true => rfl

/-- Behind the two dashes the specification is an operand, also one that begins with a dash. -/
theorem readFormat_line {env : Environment}
    (hfields : variableValue? env (variableName ["FORMAT"] "FIELDS") = none)
    (specification : String) :
    readFormat ["--", specification] env = .ok ⟨"", .format ⟨specification, false⟩⟩ := by
  have hsplit : split formatChoices true ["--", specification] = .ok ⟨[], [specification]⟩ := rfl
  rw [readFormat_eq hsplit, flagValue, hfields]
  rfl

/-- **The command line** writes just the specification that it names. The two dashes keep a
specification that begins with a dash from being taken for an option. -/
theorem task_formatLine {inv : Invocation} {debug : Bool} {specification : String}
    (harguments : inv.arguments = formatLine debug specification)
    (hvariables : ∀ name ∈ formatVariables, variableValue? inv.environment name = none) :
    inv.task = .ok ⟨debug, none, "", .format ⟨specification, false⟩⟩ := by
  have hgeneral : split generalChoices false inv.arguments =
      .ok ⟨if debug then [("debug", "")] else [], ["format", "--", specification]⟩ := by
    rw [harguments, split_formatLine]
  have hgeneralVariables : ∀ name ∈ generalVariables, variableValue? inv.environment name = none :=
    fun name hname => hvariables name (List.mem_append_left _ hname)
  have hread : readCommand inv ["format", "--", specification] =
      .ok ⟨"", .format ⟨specification, false⟩⟩ := readFormat_line (hvariables _ (by decide)) _
  rw [task_eq hgeneral]
  exact taskBy_plain debug hgeneralVariables hread

/-! ### The report on a malformed text -/

/-- **The report names the place**, also for a text with control sequences. Control sequences are
taken out of the message as a whole, so the part that tells the place is not touched. -/
theorem line_malformedRules (offset : Nat) (message : String) :
    (Failure.malformedRules offset message).line =
      "Error: Invalid rule specification at offset " ++ toString offset ++ ": " ++
        String.ofList (withoutControls message.toList) ++ "\n" := by
  have hlead : '\x1b' ∉ "Error: Invalid rule specification at offset ".toList := by decide
  have hcolon : '\x1b' ∉ ": ".toList := by decide
  apply Failure.line_of_message _ rfl
  simp only [String.toList_append, List.mem_append, hlead, escape_notMem_toString, hcolon,
    or_self, not_false_eq_true]

/-! ### The ends of the command -/

/-- The ends of a run that writes a specification: it is written, or the place is reported where the
text stops being one. -/
inductive WritesOrReports (debug asFields : Bool) (s : String) : Outcome → Prop
  | writes {p : Policy} (h : Policy.ofSpecification s = .ok p) :
      WritesOrReports debug asFields s
        (.finished 0 ((if asFields then fieldsText p else p.text) ++ "\n")
          (shownLog debug (LogEntry.ofSpecification s)))
  | reports {reason : Specification.Reason} {accepted rest : List Char}
      (h : Policy.ofSpecification s = .error (.malformed reason accepted rest))
      (hsplit : accepted ++ rest = s.toList) :
      WritesOrReports debug asFields s (.finished 65 ""
        ("Error: Invalid rule specification at offset " ++ toString accepted.length ++ ": " ++
          String.ofList (withoutControls
            (Specification.Error.malformed reason accepted rest).message.toList) ++ "\n"))

section

variable {inv : Invocation} {debug asFields : Bool} {file : Option ConfigurationFile} {s : String}

/-- A run that formats a specification reports on that specification, whatever else the command line
has on it. -/
theorem run_of_formatTask (htask : inv.task = .ok ⟨debug, file, "", .format ⟨s, asFields⟩⟩) :
    inv.run = (withRules (givenRules s) (formatReport asFields)).outcome debug := by
  have hreport : inv.report ⟨debug, file, "", .format ⟨s, asFields⟩⟩ =
      withRules (givenRules s) (formatReport asFields) := by
    show Report.after "" (withRules (givenRules s) (formatReport asFields)) = _
    rw [Report.after, String.empty_append]
  exact (run_eq_outcome htask).trans (congrArg (Report.outcome debug) hreport)

/-- A number of too many digits is not converted, and nobody catches that. -/
theorem run_format_of_numberTooLong {count : Nat}
    (htask : inv.task = .ok ⟨debug, file, "", .format ⟨s, asFields⟩⟩)
    (h : Policy.ofSpecification s = .error (.numberTooLong count)) :
    inv.run = .crashed (.specification (.numberTooLong count)) := by
  rw [run_of_formatTask htask]
  unfold withRules givenRules
  rw [h]
  rfl

/-- Otherwise the run writes the policy or reports the first place where the text is not a
clause. -/
theorem writesOrReports_run (htask : inv.task = .ok ⟨debug, file, "", .format ⟨s, asFields⟩⟩)
    (h : ∀ count, Policy.ofSpecification s ≠ .error (.numberTooLong count)) :
    WritesOrReports debug asFields s inv.run := by
  rw [run_of_formatTask htask]
  unfold withRules givenRules
  cases hread : Policy.ofSpecification s with
  | ok p =>
    simp only
    rw [formatReport, outcome_success]
    exact .writes hread
  | error e =>
    cases e with
    | numberTooLong count => exact absurd hread (h count)
    | malformed reason accepted rest =>
      obtain ⟨hrefused, haccepted⟩ := Specification.ofSpecification_eq_malformed_iff.mp hread
      -- the two parts that the message shows are the whole text
      have hsplit : accepted ++ rest = s.toList := by
        obtain ⟨-, entries, hrun, -⟩ := Specification.read_eq_malformed_iff.mp hrefused
        rw [haccepted]
        exact Specification.consumed_append hrun.suffix
      have hlog : shownLog debug [] = "" := by cases debug <;> rfl
      show WritesOrReports debug asFields s (.finished 65 ""
        (shownLog debug [] ++ (Failure.malformedRules accepted.length _).line))
      rw [hlog, String.empty_append, line_malformedRules]
      exact .reports hread hsplit

end

/-- **The three ends of the command.** A command line that names a specification writes it. Whatever
the command line, a run that writes a specification crashes exactly if the text comes, after right
clauses, to one whose number has too many digits; otherwise the specification is written, or the
failure names the offset at which reading stopped. No text crashes whose numbers all have at most as
many digits as can be converted. -/
theorem format_writes_or_reports (s : String) :
    (∀ (inv : Invocation) (debug : Bool), inv.arguments = formatLine debug s →
      (∀ name ∈ formatVariables, variableValue? inv.environment name = none) →
        inv.task = .ok ⟨debug, none, "", .format ⟨s, false⟩⟩) ∧
      ∀ (inv : Invocation) (debug : Bool) (file : Option ConfigurationFile) (asFields : Bool),
        inv.task = .ok ⟨debug, file, "", .format ⟨s, asFields⟩⟩ →
        ((¬ ∃ count, Specification.Overlong s.toList count) →
          WritesOrReports debug asFields s inv.run) ∧
        (∀ crash, inv.run = .crashed crash ↔ ∃ count, Specification.Overlong s.toList count ∧
          crash = .specification (.numberTooLong count)) ∧
        ((∀ digits, digits <:+: s.toList → Specification.Digits digits →
            digits.length ≤ Text.maxDigits) →
          ¬ ∃ count, Specification.Overlong s.toList count) := by
  refine ⟨fun inv debug => task_formatLine, fun inv debug file asFields htask => ?_⟩
  -- whether a number is too long can be told from the text alone
  have hlong (count : Nat) : Policy.ofSpecification s = .error (.numberTooLong count) ↔
      Specification.Overlong s.toList count :=
    Specification.ofSpecification_eq_numberTooLong_iff.trans
      Specification.read_eq_numberTooLong_iff
  have hends (hnone : ¬ ∃ count, Specification.Overlong s.toList count) :
      WritesOrReports debug asFields s inv.run :=
    writesOrReports_run htask fun count h => hnone ⟨count, (hlong count).mp h⟩
  refine ⟨hends, fun crash => ?_, fun hdigits => ?_⟩
  · constructor
    · intro hcrash
      -- a run that crashed has not written anything and has not reported anything
      by_contra hcount
      have hnone : ¬ ∃ count, Specification.Overlong s.toList count := by
        rintro ⟨count, h⟩
        have hrun := run_format_of_numberTooLong htask ((hlong count).mpr h)
        exact hcount ⟨count, h, Outcome.crashed.inj (hcrash.symm.trans hrun)⟩
      have hfinished := hends hnone
      rw [hcrash] at hfinished
      cases hfinished
    · rintro ⟨count, h, rfl⟩
      exact run_format_of_numberTooLong htask ((hlong count).mpr h)
  · rintro ⟨count, h⟩
    obtain ⟨digits, hinfix, hnumber, rfl, hcount⟩ := h.exists_digits
    exact absurd (hdigits digits hinfix hnumber) (Nat.not_le.mpr hcount)

/-- A specification that is written, and one that is refused at its second clause. -/
theorem format_writes_or_reports_at_second_clause :
    (bare (formatLine false "!User Length>=08")).run = .finished 0 "length>=8 !user\n" "" ∧
      ∃ detail, (bare (formatLine true "length>=8 -lower")).run =
        .finished 65 "" ("Error: Invalid rule specification at offset 10: " ++ detail) := by
  have hend {debug : Bool} {s : String} (hlength : s.toList.length ≤ Text.maxDigits) :
      WritesOrReports debug false s (bare (formatLine debug s)).run := by
    obtain ⟨htask, hends⟩ := format_writes_or_reports s
    obtain ⟨hrun, -, hnone⟩ := hends _ _ _ _ (htask _ _ (arguments_bare _) fun _ _ => rfl)
    exact hrun (hnone fun _ hinfix _ => hinfix.length_le.trans hlength)
  constructor
  · have hwritten := @hend false "!User Length>=08" (by decide)
    have htext : (Policy.ofSpecification "!User Length>=08").map Policy.text =
        .ok "length>=8 !user" := by decide +kernel
    generalize (bare (formatLine false "!User Length>=08")).run = outcome at hwritten ⊢
    cases hwritten with
    | writes h =>
      rw [h] at htext
      rw [if_neg (by decide), Except.ok.inj htext]
      rfl
    | reports h =>
      rw [h] at htext
      cases htext
  · have hreported := @hend true "length>=8 -lower" (by decide)
    have hmap : (Policy.ofSpecification "length>=8 -lower").map Policy.text =
        .error (.malformed .noClause "length>=8 ".toList "-lower".toList) := by decide +kernel
    have hread := Specification.eq_error_of_map hmap
    generalize (bare (formatLine true "length>=8 -lower")).run = outcome at hreported ⊢
    cases hreported with
    | writes h => cases hread.symm.trans h
    | reports h =>
      cases hread.symm.trans h
      have hplace : "Error: Invalid rule specification at offset " ++
          toString "length>=8 ".toList.length ++ ": " =
            "Error: Invalid rule specification at offset 10: " := by decide
      rw [hplace, String.append_assoc]
      exact ⟨_, rfl⟩

/-- A clause whose number has one digit too many is neither written nor reported. -/
theorem overlong_number_crashes :
    (bare (formatLine false (String.ofList ("length>=".toList ++ List.replicate 4301 '1')))).run =
      .crashed (.specification (.numberTooLong 4301)) := by
  have hdigits : Specification.Digits (List.replicate 4301 '1') := by
    refine ⟨List.ne_nil_of_length_pos (by rw [List.length_replicate]; decide), fun c hc => ?_⟩
    rw [List.eq_of_mem_replicate hc]
    decide
  have hlong := Specification.overlong_least hdigits (by rw [List.length_replicate]; decide)
  rw [List.length_replicate] at hlong
  -- the text is too long to be read by evaluation, so the grammar tells what becomes of it
  have hread : Policy.ofSpecification
      (String.ofList ("length>=".toList ++ List.replicate 4301 '1')) =
        .error (.numberTooLong 4301) := by
    rw [Specification.ofSpecification_eq_numberTooLong_iff,
      Specification.read_eq_numberTooLong_iff, String.toList_ofList]
    exact hlong
  exact run_format_of_numberTooLong (task_formatLine (arguments_bare _) fun _ _ => rfl) hread

end Console

end PasswordPolicy
