import PasswordPolicy.Proofs.Console.Task
import PasswordPolicy.Proofs.Policy.Clauses
import PasswordPolicy.Proofs.Settings.Variables

/-!
# The verdict of a check

What a check prints says exactly what was found. A violated constraint takes one line, whatever its
limit, as long as numbers are not so long that lines are wrapped; the failure names the same
constraints in the same order; and the printed clauses are a specification of the violated part of
the policy.

* **`linesOf_join`**: printed lines are found again in the output.
* **`ofSpecification_written_restrict`**: the clauses of some constraints are the policy restricted
  to these.
* **`check_tells_violations`**: the verdict of a check.
-/

namespace PasswordPolicy

/-! ### A part of a policy -/

namespace Policy

/-- The policy with the stored values of these kinds only. -/
def restrict (p : Policy) (kinds : List Kind) : Policy :=
  ⟨fun k => if k ∈ kinds then p.stored k else none⟩

variable {p : Policy} {s : String} {kinds : List Kind}

/-- The clauses of constraints that are switched on specify this part of a policy that was read.
They are read as the values that they were written from, and each of these was in the
specification. -/
theorem ofSpecification_written_restrict (h : Policy.ofSpecification s = .ok p)
    (hon : ∀ k ∈ kinds, p.enabled k = true) :
    Policy.ofSpecification
        (String.ofList ([' '].intercalate (kinds.map fun k => k.written (p.get k)))) =
      .ok (p.restrict kinds) := by
  have hrange := Specification.inRange_of_ofSpecification h
  have hread := Specification.read_written
    (fun k hk hbound => hrange.get_nonneg hbound (hon k hk))
    (fun k hk => Specification.short_of_ofSpecification h k _ (stored_of_enabled (hon k hk)))
  rw [Specification.ofSpecification_eq_ok_iff, String.toList_ofList, hread]
  congr 1
  ext k : 2
  show (if k ∈ kinds then _ else _) = if k ∈ kinds then _ else _
  by_cases hk : k ∈ kinds
  · rw [if_pos hk, if_pos hk, stored_of_enabled (hon k hk)]
    by_cases hprohibit : k.family = .prohibit
    · -- a demand that was read has one
      obtain rfl := Kind.family_eq_prohibit_iff.mp hprohibit
      have hne : p.get .user ≠ 0 := enabled_iff.mp (hon .user hk)
      rw [if_pos hprohibit, (Specification.get_user_of_ofSpecification h).resolve_left hne]
    · rw [if_neg hprohibit]
  · rw [if_neg hk, if_neg hk]

end Policy

namespace Console

/-! ### Lines -/

/-- A line ends at its line feed if it holds no other break. -/
theorem linesFrom_append {line : List Char} (done rest : List Char)
    (h : '\n' ∉ line ∧ '\r' ∉ line) :
    linesFrom done (line ++ '\n' :: rest) = (done.reverse ++ line) :: linesFrom [] rest := by
  induction line generalizing done with
  | nil =>
    rw [List.nil_append, List.append_nil]
    rfl
  | cons c line ih =>
    have hfeed : c ≠ '\n' := fun hc => h.1 (by simp [hc])
    have hreturn : c ≠ '\r' := fun hc => h.2 (by simp [hc])
    -- the characters before are collected in reverse, so the statement is about any of them
    have hline := ih (c :: done)
      ⟨fun hmem => h.1 (List.mem_cons_of_mem _ hmem), fun hmem => h.2 (List.mem_cons_of_mem _ hmem)⟩
    rw [List.reverse_cons, List.append_assoc, List.singleton_append] at hline
    rw [List.cons_append, ← hline, linesFrom]
    · exact fun _ hc => absurd hc hreturn
    · exact fun hc => absurd hc hreturn
    · exact fun hc => absurd hc hfeed

/-- **Printed lines are found again**, if they hold no line ends themselves. Each line is found up
to its own line end, and what follows is found by the same argument. -/
theorem linesOf_join {lines : List (List Char)} (h : ∀ line ∈ lines, '\n' ∉ line ∧ '\r' ∉ line) :
    linesOf (String.join (lines.map fun line => String.ofList line ++ "\n")) = lines := by
  unfold linesOf
  rw [String.toList_join]
  induction lines with
  | nil => rfl
  | cons line lines ih =>
    obtain ⟨hline, hlines⟩ := List.forall_mem_cons.mp h
    have hfeed : "\n".toList = ['\n'] := rfl
    rw [List.map_cons, List.flatMap_cons, String.toList_append, String.toList_ofList, hfeed,
      List.append_assoc, List.singleton_append, linesFrom_append [] _ hline, ih hlines]
    rfl

/-- A text that fits into a line is printed as it is. -/
theorem printWrapped_of_length_le {text : List Char} (h : text.length ≤ lineWidth) :
    printWrapped text = String.ofList text ++ "\n" := by
  rw [printWrapped, wrap_of_length_le h, List.map_singleton, String.join_cons, String.join_nil,
    String.append_empty]

/-! ### What is printed of a violation -/

/-- A clause is at most nine characters longer than its number: seven of the longest token and two
of the sign. -/
theorem length_written_le {k : Kind} {v : Int} {n : Nat} (hn : 0 < n)
    (h : k.family ≠ .prohibit → 0 ≤ v ∧ v.natAbs < 10 ^ n) : (k.written v).length ≤ n + 9 := by
  have htoken : k.token.toList.length ≤ 7 := by cases k <;> decide
  have hsign : k.family.sign.toList.length ≤ 2 := by cases k <;> decide
  by_cases hk : k.family = .prohibit
  · rw [Specification.written_of_prohibit hk, List.length_cons]
    omega
  · obtain ⟨hv, hlt⟩ := h hk
    have hnumber : (Text.decimalNat v.natAbs).length ≤ n :=
      (Nat.length_toDigits_le_iff (by decide) hn).mpr hlt
    rw [Specification.written_of_bound (Specification.bound_of_ne_prohibit hk),
      Text.decimal_of_nonneg hv, List.length_append, List.length_append]
    omega

/-- What introduces a violated clause. -/
def violationLead : List Char := "=> violates ".toList

/-- The line on a violated constraint ends with its clause, since only a constraint that is switched
on is violated. -/
theorem violationText_of_enabled {p : Policy} {k : Kind} (h : p.enabled k = true) :
    violationText p k = violationLead ++ k.written (p.get k) := by
  unfold violationText violationLead Kind.clause
  show _ ++ (if p.enabled k = true then k.written (p.get k) else _) = _
  rw [if_pos h]

/-- A report on violations has one line for each, in the order of the kinds. No line has to be
wrapped, so each constraint has exactly one. -/
theorem violationReport_printed {p : Policy} {kinds : List Kind}
    (hon : ∀ k ∈ kinds, p.enabled k = true)
    (hwidth : ∀ k ∈ kinds, (violationLead ++ k.written (p.get k)).length ≤ lineWidth)
    (hne : kinds ≠ []) : violationReport p kinds = .failed
      (String.join ((kinds.map fun k => violationLead ++ k.written (p.get k)).map fun line =>
        String.ofList line ++ "\n")) (.violated kinds) := by
  have hprinted (k : Kind) (hk : k ∈ kinds) : printWrapped (violationText p k) =
      String.ofList (violationLead ++ k.written (p.get k)) ++ "\n" := by
    rw [violationText_of_enabled (hon k hk), printWrapped_of_length_le (hwidth k hk)]
  rw [violationReport, if_neg (by simpa using hne), List.map_congr_left hprinted, List.map_map]
  rfl

/-- A character that is neither in the texts nor in the separator is not in what is put together. -/
theorem notMem_intercalate {c : Char} {sep : List Char} {texts : List (List Char)} (hsep : c ∉ sep)
    (h : ∀ text ∈ texts, c ∉ text) : c ∉ sep.intercalate texts := by
  induction texts with
  | nil => exact List.not_mem_nil
  | cons first texts ih =>
    obtain ⟨hfirst, hmore⟩ := List.forall_mem_cons.mp h
    cases texts with
    | nil => rwa [List.intercalate_singleton]
    | cons second texts =>
      rw [List.intercalate_cons_cons, List.mem_append, List.mem_append]
      simp only [hfirst, hsep, ih hmore, or_self, not_false_eq_true]

theorem escape_notMem_toString (n : Nat) : '\x1b' ∉ (toString n).toList := by
  rw [Nat.toString_eq_ofList_toDigits, String.toList_ofList]
  exact fun h => absurd (Text.isDigit_of_mem_decimalNat h) (by decide)

/-- The message on the violated kinds holds no control sequence, so it is printed as it is. -/
theorem escape_notMem_violated (kinds : List Kind) :
    '\x1b' ∉ (Failure.violated kinds).message.toList := by
  have hlead : '\x1b' ∉ "Error: Password violates ".toList := by decide
  have hmiddle : '\x1b' ∉ " rule(s): ".toList := by decide
  have htokens : '\x1b' ∉ (", ".intercalate (kinds.map Kind.token)).toList := by
    rw [String.toList_intercalate]
    apply notMem_intercalate (by decide)
    intro token htoken
    rw [List.map_map] at htoken
    obtain ⟨k, -, rfl⟩ := List.mem_map.mp htoken
    exact fun h => absurd ((Specification.token_word k).2 _ h) (by decide)
  unfold Failure.message
  simp only [String.toList_append, List.mem_append, hlead, hmiddle, escape_notMem_toString,
    htokens, or_self, not_false_eq_true]

/-- No message about violations holds a control sequence. -/
theorem line_violated (kinds : List Kind) : (Failure.violated kinds).line =
    "Error: Password violates " ++ toString kinds.length ++ " rule(s): " ++
      ", ".intercalate (kinds.map Kind.token) ++ "\n" := by
  rw [Failure.line, withoutControls_eq_self (escape_notMem_violated kinds), String.ofList_toList]
  rfl

/-! ### The outcome of a report -/

/-- A message is printed as it is up to where a control sequence can begin. -/
theorem Failure.line_of_message {f : Failure} {lead rest : String} (hlead : '\x1b' ∉ lead.toList)
    (h : f.message = lead ++ rest) :
    f.line = lead ++ String.ofList (withoutControls rest.toList) ++ "\n" := by
  rw [Failure.line, h, String.toList_append, withoutControls_append hlead, String.ofList_append,
    String.ofList_toList]

/-- What is shown of the log. -/
def shownLog (debug : Bool) (log : List LogEntry) : String :=
  if debug then String.join (log.map LogEntry.line) else ""

theorem outcome_success (text : String) (log : List LogEntry) (debug : Bool) :
    ((Report.success text).withLog log).outcome debug = .finished 0 text (shownLog debug log) := by
  show Outcome.finished 0 text (shownLog debug (log ++ [])) = _
  rw [List.append_nil]

theorem outcome_failed (text : String) (f : Failure) (log : List LogEntry) (debug : Bool) :
    ((Report.failed text f).withLog log).outcome debug =
      .finished f.code text (shownLog debug log ++ f.line) := by
  show Outcome.finished f.code text (shownLog debug (log ++ []) ++ f.line) = _
  rw [List.append_nil]

section

variable {p : Policy} {kinds : List Kind}

theorem violationReport_nil : violationReport p [] = .success "=> password accepted\n" := by
  have hprinted : printWrapped "=> password accepted".toList = "=> password accepted\n" := by
    rw [printWrapped_of_length_le (by decide), String.ofList_toList]
    rfl
  rw [violationReport, hprinted]
  rfl

/-- The printed text read back as lines gives one line for each violation again, since no clause
holds a break. -/
theorem linesOf_violations (p : Policy) (kinds : List Kind) :
    linesOf (String.join ((kinds.map fun k => violationLead ++ k.written (p.get k)).map fun line =>
        String.ofList line ++ "\n")) =
      kinds.map fun k => violationLead ++ k.written (p.get k) := by
  apply linesOf_join
  intro line hline
  obtain ⟨k, -, rfl⟩ := List.mem_map.mp hline
  have hfeed : '\n' ∉ violationLead := by decide
  have hreturn : '\r' ∉ violationLead := by decide
  constructor
  · exact List.not_mem_append hfeed (Specification.notMem_written (by decide) k _)
  · exact List.not_mem_append hreturn (Specification.notMem_written (by decide) k _)

/-- The clauses that an output reports as violated, one a line. -/
def printedClauses (output : String) : List (List Char) :=
  (linesOf output).filterMap (Environment.afterStart? violationLead)

/-- The clauses are read off the lines behind their common lead. -/
theorem printedClauses_of_lines {output : String}
    (h : linesOf output = kinds.map fun k => violationLead ++ k.written (p.get k)) :
    printedClauses output = kinds.map fun k => k.written (p.get k) := by
  have hclause (k : Kind) : Environment.afterStart? violationLead
      (violationLead ++ k.written (p.get k)) = some (k.written (p.get k)) :=
    Environment.afterStart?_append _ _
  rw [printedClauses, h, List.filterMap_map, ← List.filterMap_eq_map]
  exact List.filterMap_congr fun k _ => hclause k

/-! ### The verdict -/

/-- An end of the program that tells that exactly these constraints of a policy are violated. -/
structure Tells (p : Policy) (kinds : List Kind) (log : String) (exit : Nat)
    (output errors : String) : Prop where
  exit : exit = if kinds = [] then 0 else 64
  ordered : kinds.Sublist Kind.all
  accepted : kinds = [] → output = "=> password accepted\n" ∧ errors = log
  lines : kinds ≠ [] →
    linesOf output = kinds.map fun k => violationLead ++ k.written (p.get k)
  message : kinds ≠ [] → errors = log ++ ("Error: Password violates " ++ toString kinds.length ++
    " rule(s): " ++ ", ".intercalate (kinds.map Kind.token) ++ "\n")
  rules : Policy.ofSpecification (String.ofList ([' '].intercalate (printedClauses output))) =
    .ok (p.restrict kinds)

/-- The report on an accepted password tells that nothing is violated. -/
theorem tells_accepted (p : Policy) (log : String) :
    Tells p [] log 0 "=> password accepted\n" log := by
  have hnone : printedClauses "=> password accepted\n" = [] := by decide
  refine ⟨rfl, List.nil_sublist _, fun _ => ⟨rfl, rfl⟩, fun h => absurd rfl h,
    fun h => absurd rfl h, ?_⟩
  rw [hnone]
  rfl

/-- **A report on violations tells them exactly**, if no line of it has to be wrapped. So the
violations can be read back from what is printed, and the clauses are a specification again. -/
theorem tells_of_violationReport {s : String} (hrules : Policy.ofSpecification s = .ok p)
    (hordered : kinds.Sublist Kind.all) (hon : ∀ k ∈ kinds, p.enabled k = true)
    (hwidth : ∀ k ∈ kinds, (violationLead ++ k.written (p.get k)).length ≤ lineWidth)
    (debug : Bool) (log : List LogEntry) : ∃ exit output errors,
      ((violationReport p kinds).withLog log).outcome debug = .finished exit output errors ∧
        Tells p kinds (shownLog debug log) exit output errors := by
  by_cases hkinds : kinds = []
  · subst hkinds
    rw [violationReport_nil, outcome_success]
    exact ⟨_, _, _, rfl, tells_accepted p _⟩
  · -- each line fits, so none is broken and the clauses can be read back
    rw [violationReport_printed hon hwidth hkinds, outcome_failed]
    have hlines := linesOf_violations p kinds
    refine ⟨_, _, _, rfl, ⟨(if_neg hkinds).symm, hordered, fun h => absurd h hkinds,
      fun _ => hlines, fun _ => ?_, ?_⟩⟩
    · rw [line_violated]
    · rw [printedClauses_of_lines hlines]
      exact Policy.ofSpecification_written_restrict hrules hon

end

/-! ### The verdict of a run -/

/-- A run that checks a request by its own rules reports the violations. The log tells where the
rules came from, that the check was started and what it found. -/
theorem run_of_task {inv : Invocation} {debug : Bool} {file : Option ConfigurationFile}
    {r : CheckRequest} {s : String} {p : Policy}
    (htask : inv.task = .ok ⟨debug, file, "", .check r⟩) (hrules : r.rules = some s)
    (h : Policy.ofSpecification s = .ok p) :
    inv.run = ((violationReport p (p.violations r.attempt)).withLog
      (LogEntry.ofSpecification s ++ .checkStarted p.text ::
        LogEntry.ofViolations (p.violations r.attempt))).outcome debug := by
  -- a policy that was read from a text can be written again
  have hwritable := (Specification.short_of_ofSpecification h).isWritable
  have hreport : inv.report ⟨debug, file, "", .check r⟩ =
      (violationReport p (p.violations r.attempt)).withLog (LogEntry.ofSpecification s ++
        .checkStarted p.text :: LogEntry.ofViolations (p.violations r.attempt)) := by
    unfold Invocation.report Command.report withRules
    simp only [hrules, resolveRules, givenRules, h, checkReport, hwritable, if_true]
    generalize violationReport p (p.violations r.attempt) = report
    show Report.mk ("" ++ report.printed) (_ ++ (_ ++ report.log)) report.ending =
      Report.mk report.printed ((_ ++ _) ++ report.log) report.ending
    rw [String.empty_append, List.append_assoc]
  exact (run_eq_outcome htask).trans (congrArg (Report.outcome debug) hreport)

/-- The line about a violated bound is not wrapped, if its number has at most fifty digits. The lead
takes up some of the eighty characters, and the token and the sign of a clause nine more at most. -/
theorem length_violation_le {s : String} {p : Policy} (h : Policy.ofSpecification s = .ok p)
    (hdigits : ∀ digits, digits <:+: s.toList → Specification.Digits digits → digits.length ≤ 50)
    {k : Kind} (hon : p.enabled k = true) :
    (violationLead ++ k.written (p.get k)).length ≤ lineWidth := by
  have hlead : violationLead.length = 12 := by decide
  have hvalue (hk : k.family ≠ .prohibit) : 0 ≤ p.get k ∧ (p.get k).natAbs < 10 ^ 50 :=
    ⟨(Specification.inRange_of_ofSpecification h).get_nonneg hk hon,
      Specification.natAbs_lt_of_ofSpecification h hdigits hk (Policy.stored_of_enabled hon)⟩
  have hclause := length_written_le (by decide) hvalue
  rw [List.length_append, lineWidth]
  omega

/-- **The verdict of a check.** A command line that gives a specification and a password, and at
choice a user and earlier passwords, is a check of these. Whatever the command line, a check by a
specification that is accepted and whose numbers have at most fifty digits tells exactly the
violations that evaluating the password finds. -/
theorem check_tells_violations :
    (∀ (inv : Invocation) (debug : Bool) (s password : String) (user : Option String)
      (previous : List String), inv.arguments = checkLine debug s password user previous →
      (∀ name ∈ checkVariables, variableValue? inv.environment name = none) →
        inv.task = .ok ⟨debug, none, "", .check ⟨some s, user, previous, password⟩⟩) ∧
      ∀ (inv : Invocation) (debug : Bool) (file : Option ConfigurationFile) (r : CheckRequest)
        (s : String) (p : Policy), inv.task = .ok ⟨debug, file, "", .check r⟩ →
        r.rules = some s → Policy.ofSpecification s = .ok p →
        (∀ digits, digits <:+: s.toList → Specification.Digits digits → digits.length ≤ 50) →
          ∃ exit output errors, inv.run = .finished exit output errors ∧
            Tells p (p.violations r.attempt) (shownLog debug (LogEntry.ofSpecification s ++
              .checkStarted p.text :: LogEntry.ofViolations (p.violations r.attempt)))
              exit output errors := by
  refine ⟨?_, ?_⟩
  · intro inv debug s password user previous harguments hvariables
    exact task_checkLine harguments hvariables
  · intro inv debug file r s p htask hrules h hdigits
    -- only what is switched on is violated, and its clause came from the text
    have hon : ∀ k ∈ p.violations r.attempt, p.enabled k = true :=
      fun k hk => (Policy.mem_violations.mp hk).1
    rw [run_of_task htask hrules h]
    exact tells_of_violationReport h (p.violations_sublist r.attempt) hon
      (fun k hk => length_violation_le h hdigits (hon k hk)) debug _

/-- A password that is too short, with a user and an earlier password. -/
theorem check_tells_violations_of_short_password :
    ∃ output, (bare (checkLine false "length>=8" "secret" (some "ann") ["old"])).run =
        .finished 64 output "Error: Password violates 1 rule(s): length\n" ∧
      linesOf output = ["=> violates length>=8".toList] := by
  have hrules := Specification.ofSpecification_least_eight
  have hdigits : ∀ digits, digits <:+: "length>=8".toList → Specification.Digits digits →
      digits.length ≤ 50 := fun digits hinfix _ => hinfix.length_le.trans (by decide)
  obtain ⟨htask, htells⟩ := check_tells_violations
  obtain ⟨exit, output, errors, hrun, htold⟩ := htells _ false none _ _ _
    (htask _ _ _ _ _ _ (arguments_bare _) (variableValue?_bare _)) rfl hrules hdigits
  have hkinds : (Policy.empty.set .length 8).violations (CheckRequest.attempt
      ⟨some "length>=8", some "ann", ["old"], "secret"⟩) = [.length] := by rfl
  rw [hkinds] at htold
  have hexit : exit = 64 := htold.exit
  have herrors : errors = "Error: Password violates 1 rule(s): length\n" :=
    (htold.message (by decide)).trans (by decide)
  have hlines : linesOf output = ["=> violates length>=8".toList] :=
    (htold.lines (by decide)).trans (by decide)
  exact ⟨output, by rw [hrun, hexit, herrors], hlines⟩

end Console

end PasswordPolicy
