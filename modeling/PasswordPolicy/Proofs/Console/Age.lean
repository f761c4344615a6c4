import PasswordPolicy.Proofs.Age.Expiry
import PasswordPolicy.Proofs.Console.Verdict

/-!
# The verdict on an age

The command that checks the age of a password looks at the limit itself, caps it for its message,
and asks the policy whether the password is too old. All three agree with the policy: the exit code
is the policy's answer, whatever the limit and whichever of the two times comes first, and the age
is said not to be limited exactly if the specification gives no limit or the limit zero.

* **`tooOld_naive`**: the policy's answer for two times without offsets.
* **`task_expiredLine`**: what the command line amounts to.
* **`expired_agrees_with_policy`**: the verdict of a run.
-/

namespace PasswordPolicy

variable {p : Policy} {s : String}

/-! ### The policy's answer -/

namespace Policy

/-- Times without offsets can always be compared, so there is an answer. -/
theorem tooOld_naive (p : Policy) (start finish : Int) :
    p.tooOld (.naive start) (.moment (.naive finish)) =
      .ok (decide (0 < p.maxAge) && p.isOverdue (finish - start)) := by
  by_cases h : 0 < p.maxAge
  · rw [tooOld_of_pos h, decide_eq_true h, Bool.true_and]
    rfl
  · rw [tooOld_of_maxAge_le (Int.not_lt.mp h), decide_eq_false h, Bool.false_and]

theorem dated_naive {t : CivilTime} (h : t.valid = true) : (Moment.naive t.microseconds).Dated :=
  ⟨⟨t, h, rfl⟩, nofun⟩

/-- The answer for two times of the calendar. -/
theorem tooOld_civil {start finish : CivilTime} (hstart : start.valid = true)
    (hfinish : finish.valid = true) :
    p.tooOld (.naive start.microseconds) (.moment (.naive finish.microseconds)) =
      .ok (decide (p.Expires start.microseconds finish.microseconds)) := by
  exact tooOld_sameZone (dated_naive hstart) (dated_naive hfinish) (Moment.zone_naive_eq _ _)

/-- A policy that was read limits the age unless its limit is left out or zero. -/
theorem maxAge_le_iff_of_ofSpecification (h : Policy.ofSpecification s = .ok p) :
    p.maxAge ≤ 0 ↔ p.stored .age = none ∨ p.stored .age = some 0 := by
  have hspecifies := Specification.read_eq_ok_iff.mp (Specification.ofSpecification_eq_ok_iff.mp h)
  have hget : p.maxAge = (p.stored .age).getD (-1) := rfl
  cases hage : p.stored .age with
  | none => simp [hget, hage]
  | some v =>
    have hnonneg : 0 ≤ v := (hspecifies.value_cases hage).1
    simp only [hget, hage, Option.getD_some, reduceCtorEq, false_or, Option.some.injEq]
    omega

end Policy

/-! ### Ages in words -/

namespace Duration

/-- A text without escape characters. -/
def Plain (text : String) : Prop := '\x1b' ∉ text.toList

instance : DecidablePred Plain := fun text => inferInstanceAs (Decidable ('\x1b' ∉ text.toList))

theorem Plain.append {a b : String} (ha : Plain a) (hb : Plain b) : Plain (a ++ b) := by
  unfold Plain
  rw [String.toList_append]
  exact List.not_mem_append ha hb

/-- A count of a unit is plain if the name of the unit is. -/
theorem plain_counted (count : Nat) {unit : String} (h : Plain unit) :
    Plain (counted count unit) := by
  have hcount : Plain (toString count) := Console.escape_notMem_toString count
  have hblank : Plain " " := by decide
  have hplural : Plain (if count = 1 then "" else "s") := by split <;> decide
  exact ((hcount.append hblank).append h).append hplural

/-- The words for a part of a day are plain. -/
theorem plain_ofSeconds (seconds : Nat) : Plain (ofSeconds seconds) := by
  unfold ofSeconds
  extract_lets minutes hours
  split_ifs
  · decide
  · decide
  · exact plain_counted seconds (by decide)
  · decide
  · exact plain_counted minutes (by decide)
  · decide
  · exact plain_counted hours (by decide)
  · decide

/-- The words for less than a year are plain. -/
theorem plain_ofDays (days : Nat) : Plain (ofDays days) := by
  unfold ofDays
  extract_lets months
  split_ifs
  · decide
  · exact plain_counted days (by decide)
  · decide
  · exact plain_counted months (by decide)
  · decide

/-- The words for a year and some days are plain. -/
theorem plain_ofYearAndDays (days : Nat) : Plain (ofYearAndDays days) := by
  have hyear : Plain "1 year, " := by decide
  unfold ofYearAndDays
  extract_lets months
  split_ifs
  · decide
  · exact hyear.append (plain_counted days (by decide))
  · exact hyear.append (plain_counted months (by decide))
  · decide

/-- Grouping adds commas only. The digits are grouped from the end, so they are in reverse here. -/
theorem mem_groupThousands_go {digits : List Char} {c : Char}
    (h : c ∈ Text.groupThousands.go digits) : c ∈ digits ∨ c = ',' := by
  fun_induction Text.groupThousands.go digits with
  | case1 a b d e rest ih =>
    simp only [List.mem_cons] at h ih ⊢
    -- the three digits of the group, the comma behind them, and the other groups
    rcases h with h | h | h | h | h
    · simp [h]
    · simp [h]
    · simp [h]
    · exact .inr h
    · rcases ih h with (h | h) | h
      · simp [h]
      · simp [h]
      · exact .inr h
  | case2 rest _ => exact .inl h

/-- The words for several years are plain. -/
theorem plain_ofManyDays (days : Nat) : Plain (ofManyDays days) := by
  have hyears : Plain " years" := by decide
  refine Plain.append ?_ hyears
  unfold Plain Text.groupThousands
  rw [String.toList_ofList, List.mem_reverse]
  intro h
  rcases mem_groupThousands_go h with hdigit | hcomma
  · rw [List.mem_reverse] at hdigit
    exact absurd (Text.isDigit_of_mem_decimalNat hdigit) (by decide)
  · exact absurd hcomma (by decide)

/-- No control sequence is among the words for a time span. -/
theorem plain_words (span : Int) : Plain (words span) := by
  unfold words
  extract_lets size day days
  split_ifs
  · exact plain_ofSeconds _
  · exact plain_ofDays days
  · exact plain_ofYearAndDays _
  · exact plain_ofManyDays days

end Duration

namespace Console

/-! ### The command line -/

/-- The command line that checks the age of a password by a specification. -/
def expiredLine (debug : Bool) (specification date : String) : List String :=
  (if debug then ["-D"] else []) ++
    ["expired", "--rules", specification, "--last-changed", date]

/-- The general options stop at the name of the command. -/
theorem split_expiredLine (debug : Bool) (specification date : String) :
    split generalChoices false (expiredLine debug specification date) =
      .ok ⟨if debug then [("debug", "")] else [],
        ["expired", "--rules", specification, "--last-changed", date]⟩ := by
  cases debug <;> rfl

/-- The command is read with the two options that the line gives. -/
theorem readExpired_line {env : Environment} {date : String} {time : CivilTime}
    (hdate : readCivilTime? date = some time) (specification : String) :
    readExpired ["--rules", specification, "--last-changed", date] env =
      .ok ⟨"", .expired ⟨some specification, time⟩⟩ := by
  have hsplit : split expiredChoices true ["--rules", specification, "--last-changed", date] =
      .ok ⟨[("rules", specification), ("last-changed", date)], []⟩ := rfl
  -- a date on the line goes before one in the environment
  have hgiven : (optionValue? ⟨[("rules", specification), ("last-changed", date)], []⟩ env
      "last-changed" (variableName ["EXPIRED"] "LAST_CHANGED")).bind readCivilTime? =
        some time := hdate
  rw [readExpired_eq hsplit, hgiven]
  rfl

/-- Times that are read are times of the calendar. -/
theorem valid_of_readCivilTime? {date : String} {time : CivilTime}
    (h : readCivilTime? date = some time) : time.valid = true := by
  unfold readCivilTime? at h
  split at h
  · split at h
    · cases h
      assumption
    · cases h
  · cases h

/-- **The command line** checks just the age that it names, by the rules that it names. -/
theorem task_expiredLine {inv : Invocation} {debug : Bool} {specification date : String}
    {time : CivilTime} (harguments : inv.arguments = expiredLine debug specification date)
    (hdate : readCivilTime? date = some time)
    (hvariables : ∀ name ∈ generalVariables, variableValue? inv.environment name = none) :
    inv.task = .ok ⟨debug, none, "", .expired ⟨some specification, time⟩⟩ := by
  rw [task_eq (harguments ▸ split_expiredLine debug specification date)]
  exact taskBy_plain debug hvariables (readExpired_line hdate specification)

/-! ### The report -/

def unlimitedText (age : String) : String :=
  "password age is not limited (last changed " ++ age ++ " ago)\n"

def validText (age limit : String) : String :=
  "password is valid (last changed " ++ age ++ " ago, limit is " ++ limit ++ ")\n"

def expiredText (age limit : String) : String :=
  "Error: Password expired: last changed " ++ age ++ " ago, the limit is " ++ limit ++ "\n"

/-- The message is printed as it is, since the words for time spans hold no control sequences. -/
theorem line_expired {age limit : String} (hage : Duration.Plain age)
    (hlimit : Duration.Plain limit) : (Failure.expired age limit).line = expiredText age limit := by
  have hlead : Duration.Plain "Error: Password expired: last changed " := by decide
  have hmiddle : Duration.Plain " ago, the limit is " := by decide
  have hmessage : Duration.Plain (Failure.expired age limit).message :=
    ((hlead.append hage).append hmiddle).append hlimit
  rw [Failure.line, withoutControls_eq_self hmessage, String.ofList_toList]
  rfl

/-- The ends of a run that checks an age, by whether the password is too old: the exit code, the
output and the messages. -/
inductive AgeVerdict (p : Policy) (age limit log : String) : Bool → Nat → String → String → Prop
  | unlimited (h : p.maxAge ≤ 0) : AgeVerdict p age limit log false 0 (unlimitedText age) log
  | valid (h : 0 < p.maxAge) : AgeVerdict p age limit log false 0 (validText age limit) log
  | expired (h : 0 < p.maxAge) :
      AgeVerdict p age limit log true 64 "" (log ++ expiredText age limit)

def ageWords (lastChanged : CivilTime) (clock : Int) : String :=
  Duration.words (clock - lastChanged.microseconds)

def limitWords (p : Policy) : String := Duration.words (p.ageLimitDays * microsecondsPerDay)

/-- **A report on an age tells the policy's answer.** There are three reports: no limit, a limit
that is kept and one that is exceeded. -/
theorem ageVerdict_of_ageReport (lastChanged : CivilTime) (clock : Int) (p : Policy) (debug : Bool)
    (log : List LogEntry) : ∃ old exit output errors,
      p.tooOld (.naive lastChanged.microseconds) (.moment (.naive clock)) = .ok old ∧
        ((ageReport lastChanged clock p).withLog log).outcome debug =
          .finished exit output errors ∧
        AgeVerdict p (ageWords lastChanged clock) (limitWords p)
          (shownLog debug (log ++ [.lastChanged lastChanged])) old exit output errors := by
  have hlog (report : Report) : (report.withLog [.lastChanged lastChanged]).withLog log =
      report.withLog (log ++ [.lastChanged lastChanged]) := by
    simp only [Report.withLog, List.append_assoc]
  rw [Policy.tooOld_naive]
  unfold ageReport Policy.expirePasswords
  -- whether there is a limit, and whether it is exceeded: the three reports
  by_cases hlimit : 0 < p.maxAge
  · by_cases hover : p.isOverdue (clock - lastChanged.microseconds) = true
    · refine ⟨true, _, _, _, by simp [hlimit, hover], ?_, .expired hlimit⟩
      simp only [hlimit, hover, decide_true, Bool.not_true, Bool.false_eq_true, if_false, if_true]
      rw [hlog, outcome_failed, line_expired (Duration.plain_words _) (Duration.plain_words _)]
      rfl
    · refine ⟨false, _, _, _, by simp [hover], ?_, .valid hlimit⟩
      simp only [hlimit, hover, decide_true, Bool.not_true, Bool.false_eq_true, if_false]
      rw [hlog, outcome_success]
      rfl
  · refine ⟨false, _, _, _, by simp [hlimit], ?_, .unlimited (Int.not_lt.mp hlimit)⟩
    simp only [hlimit, decide_false, Bool.not_false, if_true]
    rw [hlog, outcome_success]
    rfl

theorem AgeVerdict.exit_eq {age limit log output errors : String} {old : Bool} {exit : Nat}
    (h : AgeVerdict p age limit log old exit output errors) : exit = if old then 64 else 0 := by
  cases h <;> rfl

/-- A report on a valid password does not say that the age is not limited. They begin alike, but
part long before the place where the ages stand. -/
theorem validText_ne_unlimitedText (age limit age' : String) :
    validText age limit ≠ unlimitedText age' := by
  intro h
  -- the tenth character already tells the two apart
  have hfirst : (validText age limit).toList.take 10 = (unlimitedText age').toList.take 10 := by
    rw [h]
  unfold validText unlimitedText at hfirst
  simp only [String.toList_append, List.append_assoc] at hfirst
  rw [List.take_append_of_le_length (by decide),
    List.take_append_of_le_length (by decide)] at hfirst
  exact absurd hfirst (by decide)

/-- An empty output does not say so either. -/
theorem empty_ne_unlimitedText (age : String) : "" ≠ unlimitedText age := by
  intro h
  have hlength := congrArg (fun text => text.toList.length) h
  unfold unlimitedText at hlength
  simp only [String.toList_append, List.length_append] at hlength
  have hlead : 0 < "password age is not limited (last changed ".toList.length := by decide
  have hempty : "".toList.length = 0 := by decide
  omega

/-- The age is said not to be limited exactly if it is not. -/
theorem AgeVerdict.unlimited_iff {age limit log output errors : String} {old : Bool} {exit : Nat}
    (h : AgeVerdict p age limit log old exit output errors) :
    output = unlimitedText age ↔ p.maxAge ≤ 0 := by
  cases h with
  | unlimited h => exact iff_of_true rfl h
  | valid h => exact iff_of_false (validText_ne_unlimitedText _ _ _) (Int.not_le.mpr h)
  | expired h => exact iff_of_false (empty_ne_unlimitedText _) (Int.not_le.mpr h)

/-! ### The verdict of a run -/

section

variable {inv : Invocation} {debug : Bool} {file : Option ConfigurationFile} {r : AgeRequest}

/-- A run that checks an age by its own rules reports on it. -/
theorem run_of_expiredTask (htask : inv.task = .ok ⟨debug, file, "", .expired r⟩)
    (hrules : r.rules = some s) (h : Policy.ofSpecification s = .ok p) :
    inv.run = ((ageReport r.lastChanged inv.clock p).withLog
      (LogEntry.ofSpecification s)).outcome debug := by
  rw [run_eq_outcome htask]
  unfold Invocation.report Command.report withRules
  simp only [hrules, resolveRules, givenRules, h]
  unfold Report.after
  rw [String.empty_append]

end

/-- **The verdict on an age agrees with the policy.** A command line that gives a specification and
a date, in any form in which dates are read, is a check of these. Whatever the command line, a check
by a specification that is accepted never crashes: the policy has an answer for the two times, the
exit code is 64 or 0 by that answer, and the age is said not to be limited exactly if the
specification leaves the limit out or sets it to zero. Between two times of the calendar the answer
is that of the limit itself, however large it is. -/
theorem expired_agrees_with_policy :
    (∀ (inv : Invocation) (debug : Bool) (s date : String) (time : CivilTime),
      inv.arguments = expiredLine debug s date → readCivilTime? date = some time →
      (∀ name ∈ generalVariables, variableValue? inv.environment name = none) →
        time.valid = true ∧ inv.task = .ok ⟨debug, none, "", .expired ⟨some s, time⟩⟩) ∧
      ∀ (inv : Invocation) (debug : Bool) (file : Option ConfigurationFile) (r : AgeRequest)
        (s : String) (p : Policy), inv.task = .ok ⟨debug, file, "", .expired r⟩ →
        r.rules = some s → Policy.ofSpecification s = .ok p →
          ∃ old exit output errors,
            p.tooOld (.naive r.lastChanged.microseconds) (.moment (.naive inv.clock)) = .ok old ∧
            inv.run = .finished exit output errors ∧
            AgeVerdict p (ageWords r.lastChanged inv.clock) (limitWords p)
              (shownLog debug (LogEntry.ofSpecification s ++ [.lastChanged r.lastChanged]))
              old exit output errors ∧
            exit = (if old then 64 else 0) ∧
            (output = unlimitedText (ageWords r.lastChanged inv.clock) ↔
              p.stored .age = none ∨ p.stored .age = some 0) ∧
            ∀ now : CivilTime, now.valid = true → r.lastChanged.valid = true →
              inv.clock = now.microseconds →
              (exit = 64 ↔ 0 < p.maxAge ∧
                p.maxAge * (86400 * 10 ^ 6) < now.microseconds - r.lastChanged.microseconds) := by
  refine ⟨?_, ?_⟩
  · intro inv debug s date time harguments hdate hvariables
    exact ⟨valid_of_readCivilTime? hdate, task_expiredLine harguments hdate hvariables⟩
  · intro inv debug file r s p htask hrules h
    obtain ⟨old, exit, output, errors, hold, hrun, hverdict⟩ :=
      ageVerdict_of_ageReport r.lastChanged inv.clock p debug (LogEntry.ofSpecification s)
    refine ⟨old, exit, output, errors, hold, ?_, hverdict, hverdict.exit_eq, ?_, ?_⟩
    · rw [run_of_expiredTask htask hrules h, hrun]
    · rw [hverdict.unlimited_iff, Policy.maxAge_le_iff_of_ofSpecification h]
    · intro now hnow hlast hclock
      rw [hclock, Policy.tooOld_civil hlast hnow] at hold
      have hanswer : old = true ↔ p.Expires r.lastChanged.microseconds now.microseconds := by
        rw [← Except.ok.inj hold, decide_eq_true_iff]
      rw [hverdict.exit_eq, ← Policy.Expires, ← hanswer]
      -- the answer is a truth value, and so is the exit code
      cases old <;> decide

/-- Three days after the change the password is valid under a limit of three days, and a microsecond
later it is not. -/
theorem expired_agrees_with_policy_at_boundary :
    readCivilTime? "2024-05-29T12:00:00" = some ⟨2024, 5, 29, 12, 0, 0, 0⟩ ∧
      Policy.ofSpecification "age<=3" = .ok (Policy.empty.set .age 3) ∧
      Invocation.run { bare (expiredLine false "age<=3" "2024-05-29T12:00:00") with
        clock := 63852840000000000 } = .finished 0 (validText "3 days" "3 days") "" ∧
      Invocation.run { bare (expiredLine false "age<=3" "2024-05-29T12:00:00") with
        clock := 63852840000000001 } = .finished 64 "" (expiredText "3 days" "3 days") := by
  have hdate : readCivilTime? "2024-05-29T12:00:00" = some ⟨2024, 5, 29, 12, 0, 0, 0⟩ := by
    decide +kernel
  have hrules : Policy.ofSpecification "age<=3" = .ok (Policy.empty.set .age 3) :=
    Specification.ofSpecification_written (k := .age) (v := 3) (by decide) (by decide) (by decide)
  obtain ⟨htask, htells⟩ := expired_agrees_with_policy
  have hrun (clock : Int) := htells { bare (expiredLine false "age<=3" "2024-05-29T12:00:00") with
    clock := clock } false none _ _ _ (htask _ _ _ _ _ rfl hdate fun _ _ => rfl).2 rfl hrules
  have hlimit : limitWords (Policy.empty.set .age 3) = "3 days" := by decide +kernel
  refine ⟨hdate, hrules, ?_, ?_⟩
  · obtain ⟨old, exit, output, errors, hold, hfinished, hverdict, -⟩ := hrun 63852840000000000
    obtain rfl : false = old := Except.ok.inj hold
    have hage : ageWords ⟨2024, 5, 29, 12, 0, 0, 0⟩ 63852840000000000 = "3 days" := by
      decide +kernel
    rw [hage, hlimit] at hverdict
    rw [hfinished]
    cases hverdict with
    | unlimited h => exact absurd h (by decide)
    | valid h => rfl
  · obtain ⟨old, exit, output, errors, hold, hfinished, hverdict, -⟩ := hrun 63852840000000001
    obtain rfl : true = old := Except.ok.inj hold
    have hage : ageWords ⟨2024, 5, 29, 12, 0, 0, 0⟩ 63852840000000001 = "3 days" := by
      decide +kernel
    rw [hage, hlimit] at hverdict
    rw [hfinished]
    cases hverdict with
    | expired h => rfl

end Console

end PasswordPolicy
