import PasswordPolicy.Proofs.Console.Task
import PasswordPolicy.Proofs.Specification.RoundTrip

/-!
# Secrecy of a check

Two runs of `check` that differ in the password, the earlier passwords and the user only are told
apart by nothing but the constraints that are violated: what is printed, what is logged and how the
program ends are the same if these are. The runs are followed side by side through the steps of the
program: as long as no password is judged, both do the same, and a judgement reports violations
only.

* **`checkReport_congr`**: the report on a password depends on its violations.
* **`run_eq_of_samePublic`**: two runs with the same violations are the same.
-/

namespace PasswordPolicy.Console

/-! ### The public part of the arguments -/

/-- The options of `check` whose values are secret. -/
def secretKeys : List String := ["password", "previous", "user"]

/-- What the arguments of `check` give away: whether a password is among them, the other options and
the operands. -/
def publicPart (a : Arguments) : Bool × Arguments :=
  (isRequested a "password",
    ⟨a.options.filter fun option => !secretKeys.contains option.1, a.operands⟩)

section

variable {a b : Arguments}

/-- An option that is no secret is in the public part. -/
theorem last?_of_publicPart (h : publicPart a = publicPart b) {key : String}
    (hkey : key ∉ secretKeys) : a.last? key = b.last? key := by
  have hkept : (!secretKeys.contains key) = true := by simpa using hkey
  have hpublic (c : Arguments) : (publicPart c).2.last? key = c.last? key :=
    @Arguments.last?_filter c (fun key => !secretKeys.contains key) key hkept
  rw [← hpublic a, ← hpublic b, h]

/-- A password is given by both or by neither, and without one both ask for the same. Whether there
is one is public, and the prompt reads the same input. -/
theorem givenPassword_of_publicPart (h : publicPart a = publicPart b) (env : Environment)
    (input : String) : givenPassword a env input = givenPassword b env input ∨
      ∃ password password', givenPassword a env input = .known password ∧
        givenPassword b env input = .known password' := by
  -- that there is a password is public
  have hgiven : isRequested a "password" = isRequested b "password" := congrArg Prod.fst h
  unfold isRequested at hgiven
  unfold givenPassword optionValue?
  cases ha : a.last? "password" with
  | none =>
    rw [ha] at hgiven
    have hb : b.last? "password" = none := by simpa using hgiven.symm
    rw [hb]
    exact .inl rfl
  | some password =>
    rw [ha] at hgiven
    obtain ⟨password', hb⟩ := Option.isSome_iff_exists.mp hgiven.symm
    rw [hb]
    exact .inr ⟨password, password', rfl, rfl⟩

end

/-! ### Reading two command lines -/

/-- The arguments are read as the same, or as two checks by the same rules after the same output. -/
def ReadAlike (read read' : Except UsageError ReadCommand) : Prop :=
  read = read' ∨ ∃ printed r r', read = .ok ⟨printed, .check r⟩ ∧
    read' = .ok ⟨printed, .check r'⟩ ∧ r.rules = r'.rules

section

variable {args args' : List String} (env : Environment) (input : String)

/-- Arguments with the same public part are read alike: both end in the same way, or both are checks
by the same rules. -/
theorem readAlike_of_split {a b : Arguments} (ha : split checkChoices true args = .ok a)
    (hb : split checkChoices true args' = .ok b) (h : publicPart a = publicPart b) :
    ReadAlike (readCheck args env input) (readCheck args' env input) := by
  have hhelp : isRequested a "help" = isRequested b "help" :=
    congrArg Option.isSome (last?_of_publicPart h (by decide))
  have hoperands : a.operands = b.operands := congrArg (·.2.operands) h
  have hrules (password password' : String) :
      (givenRequest a env password).rules = (givenRequest b env password').rules :=
    congrArg (Option.or · _) (last?_of_publicPart h (by decide))
  rw [readCheck_eq ha, readCheck_eq hb, hhelp, hoperands]
  -- help, operands that nobody takes, and then the password decide in turn, and each is public, the
  -- text of the password excepted
  cases isRequested b "help" with
  | true => exact .inl rfl
  | false =>
    cases hempty : b.operands.isEmpty with
    | true =>
      rcases givenPassword_of_publicPart h env input with hsame | ⟨password, password', hp, hp'⟩
      · rw [hsame]
        cases (givenPassword b env input).answer with
        | none => exact .inl rfl
        | some password => exact .inr ⟨_, _, _, rfl, rfl, hrules password password⟩
      · rw [hp, hp']
        exact .inr ⟨_, _, _, rfl, rfl, hrules password password'⟩
    | false =>
      -- operands are refused, unless the input ended before
      rcases givenPassword_of_publicPart h env input with hsame | ⟨password, password', hp, hp'⟩
      · rw [hsame]
        cases (givenPassword b env input).answer with
        | none => exact .inl rfl
        | some password => exact .inl rfl
      · rw [hp, hp']
        exact .inl rfl

/-- So are command lines: misuse shows in the public part as well. -/
theorem readAlike (h : (split checkChoices true args).map publicPart =
    (split checkChoices true args').map publicPart) :
    ReadAlike (readCheck args env input) (readCheck args' env input) := by
  cases ha : split checkChoices true args with
  | error e =>
    cases hb : split checkChoices true args' with
    | error e' => exact .inl ((readCheck_of_error ha).trans (readCheck_of_error hb).symm)
    | ok b =>
      rw [ha, hb] at h
      cases h
  | ok a =>
    cases hb : split checkChoices true args' with
    | error e' =>
      rw [ha, hb] at h
      cases h
    | ok b =>
      rw [ha, hb] at h
      exact readAlike_of_split env input ha hb (Except.ok.inj h)

end

/-- The two command lines name the command `check` and differ in its secrets only. -/
def SamePublic (arguments arguments' : List String) : Prop :=
  ∃ options args args', split generalChoices false arguments = .ok ⟨options, "check" :: args⟩ ∧
    split generalChoices false arguments' = .ok ⟨options, "check" :: args'⟩ ∧
    (split checkChoices true args).map publicPart = (split checkChoices true args').map publicPart

/-- **The two tasks** are the same, or two checks by the same rules. The general options in front of
the command are the same, and so is the file that they name. -/
theorem task_of_samePublic {inv : Invocation} {arguments' : List String}
    (h : SamePublic inv.arguments arguments') :
    inv.task = Invocation.task { inv with arguments := arguments' } ∨
      ∃ debug file printed r r', inv.task = .ok ⟨debug, file, printed, .check r⟩ ∧
        Invocation.task { inv with arguments := arguments' } =
          .ok ⟨debug, file, printed, .check r'⟩ ∧ r.rules = r'.rules := by
  obtain ⟨options, args, args', hsplit, hsplit', hpublic⟩ := h
  have htask : inv.task =
      taskBy inv ⟨options, []⟩ (readCheck args inv.environment inv.input) := task_eq hsplit
  have htask' : Invocation.task { inv with arguments := arguments' } =
      taskBy inv ⟨options, []⟩ (readCheck args' inv.environment inv.input) :=
    @task_eq { inv with arguments := arguments' } _ _ hsplit'
  rw [htask, htask']
  rcases readAlike inv.environment inv.input hpublic with
    hread | ⟨printed, r, r', hread, hread', hrules⟩
  · rw [hread]
    exact .inl rfl
  · rw [hread, hread']
    -- the general options are the same, so both end in the same place
    unfold taskBy
    cases isRequested ⟨options, []⟩ "help" with
    | true => exact .inl rfl
    | false =>
      cases flagValue ⟨options, []⟩ inv.environment "debug" "no-debug"
          (variableName [] "DEBUG") with
      | error e => exact .inl rfl
      | ok debug =>
        cases readFile inv ⟨options, []⟩ with
        | error e => exact .inl rfl
        | ok file => exact .inr ⟨debug, file, printed, r, r', rfl, rfl, hrules⟩

/-! ### Judging two passwords -/

/-- Violations are listed in the order of the kinds, so the same kinds make the same list. -/
theorem violations_congr {p : Policy} {a b : Attempt}
    (h : ∀ k, k ∈ p.violations a ↔ k ∈ p.violations b) : p.violations a = p.violations b := by
  unfold Policy.violations at h ⊢
  apply List.filter_congr
  intro k hk
  have hmem := h k
  rw [List.mem_filter, List.mem_filter, and_iff_right hk, and_iff_right hk] at hmem
  exact Bool.eq_iff_iff.mpr hmem

/-- **The report on a password** says nothing of it but what constraints it violates. The lines are
on the constraints and the message counts and names them. -/
theorem checkReport_congr {p : Policy} {r r' : CheckRequest}
    (h : p.violations r.attempt = p.violations r'.attempt) :
    checkReport r p = checkReport r' p := by
  unfold checkReport
  rw [h]

/-- The constraints that a command finds violated, if it gets as far as judging a password. -/
def Command.violated? (s : Surroundings) : Command → Option (List Kind)
  | .check r =>
    match (resolveRules s r.rules).value with
    | .ok p => some (p.violations r.attempt)
    | .error _ => none
  | _ => none

/-- Two checks by the same rules in which the same kinds are violated report the same. -/
theorem report_check_congr {s : Surroundings} {r r' : CheckRequest} (hrules : r.rules = r'.rules)
    (h : ∀ kinds kinds', (Command.check r).violated? s = some kinds →
      (Command.check r').violated? s = some kinds' → ∀ k, k ∈ kinds ↔ k ∈ kinds') :
    (Command.check r).report s = (Command.check r').report s := by
  unfold Command.violated? at h
  unfold Command.report withRules
  simp only [hrules] at h ⊢
  cases hp : (resolveRules s r'.rules).value with
  | error trouble => rfl
  | ok p =>
    rw [hp] at h
    -- the report depends on the password only through its violations
    have hviolations := violations_congr (h _ _ rfl rfl)
    simp only
    rw [checkReport_congr hviolations]

/-- The constraints that the invocation finds violated, if it judges a password. -/
def violated? (inv : Invocation) : Option (List Kind) :=
  match inv.task with
  | .ok t => t.read.command.violated? ⟨t.file, inv.environment, inv.clock⟩
  | .error _ => none

/-- **Nothing but the violated constraints is revealed.** Two runs of `check` that differ in the
password, the earlier passwords and the user only end, print and log the same, if the constraints
that they find violated are the same. -/
theorem run_eq_of_samePublic {inv : Invocation} {arguments' : List String}
    (hpublic : SamePublic inv.arguments arguments')
    (h : ∀ kinds kinds', violated? inv = some kinds →
      violated? { inv with arguments := arguments' } = some kinds' → ∀ k, k ∈ kinds ↔ k ∈ kinds') :
    inv.run = Invocation.run { inv with arguments := arguments' } := by
  unfold violated? at h
  unfold Invocation.run
  rcases task_of_samePublic hpublic with
    htask | ⟨debug, file, printed, r, r', htask, htask', hrules⟩
  · rw [htask]
    rfl
  · rw [htask, htask'] at h ⊢
    -- the two requests differ in what the report does not show
    have hreport := report_check_congr hrules h
    show Report.outcome debug (((Command.check r).report _).after printed) = _
    rw [hreport]
    rfl

/-! ### Command lines by long names -/

/-- What is public about a check are its rules, and that there is a password. The user and the
earlier passwords are among the secret options. -/
theorem publicPart_checkOptions (specification password : String) (user : Option String)
    (previous : List String) :
    publicPart ⟨checkOptions specification password user ++
      previous.map fun old => ("previous", old), []⟩ =
        (true, ⟨[("rules", specification)], []⟩) := by
  have hgiven : isRequested ⟨checkOptions specification password user ++
      previous.map fun old => ("previous", old), []⟩ "password" = true := by
    rw [isRequested, last?_append_previous (by decide)]
    cases user <;> rfl
  have hprevious : (previous.map fun old => ("previous", old)).filter
      (fun option => !secretKeys.contains option.1) = [] := by
    simp [secretKeys]
  have hoptions : (checkOptions specification password user).filter
      (fun option => !secretKeys.contains option.1) = [("rules", specification)] := by
    cases user <;> rfl
  rw [publicPart, hgiven, List.filter_append, hprevious, hoptions, List.append_nil]

/-- Command lines of checks by the same rules have the same public part. -/
theorem samePublic_checkLine (debug : Bool) (specification password password' : String)
    (user user' : Option String) (previous previous' : List String) :
    SamePublic (checkLine debug specification password user previous)
      (checkLine debug specification password' user' previous') := by
  refine ⟨_, _, _, split_checkLine .., split_checkLine .., ?_⟩
  rw [split_checkArguments, split_checkArguments]
  show Except.ok (publicPart _) = Except.ok (publicPart _)
  rw [publicPart_checkOptions, publicPart_checkOptions]

/-- What such a command line finds violated is what the policy finds. -/
theorem violated?_checkLine {inv : Invocation} {debug : Bool} {specification password : String}
    {user : Option String} {previous : List String} {p : Policy}
    (harguments : inv.arguments = checkLine debug specification password user previous)
    (hvariables : ∀ name ∈ checkVariables, variableValue? inv.environment name = none)
    (hrules : Policy.ofSpecification specification = .ok p) :
    violated? inv = some
      (p.violations (CheckRequest.attempt ⟨some specification, user, previous, password⟩)) := by
  unfold violated?
  rw [task_checkLine harguments hvariables]
  simp only [Command.violated?, resolveRules, givenRules, hrules]

/-- Two passwords that are too short, with and without a user and earlier passwords, and the log. -/
theorem run_eq_of_samePublic_of_short_passwords :
    violated? (bare (checkLine true "length>=8" "secret" (some "ann") [])) = some [.length] ∧
      violated? (bare (checkLine true "length>=8" "hunter2" none ["secret", "old"])) =
        some [.length] ∧
      (bare (checkLine true "length>=8" "secret" (some "ann") [])).run =
        (bare (checkLine true "length>=8" "hunter2" none ["secret", "old"])).run := by
  have hrules := Specification.ofSpecification_least_eight
  have h : violated? (bare (checkLine true "length>=8" "secret" (some "ann") [])) =
      some [.length] := by
    rw [violated?_checkLine (arguments_bare _) (variableValue?_bare _) hrules]
    rfl
  have h' : violated? (bare (checkLine true "length>=8" "hunter2" none ["secret", "old"])) =
      some [.length] := by
    rw [violated?_checkLine (arguments_bare _) (variableValue?_bare _) hrules]
    rfl
  refine ⟨h, h', ?_⟩
  apply run_eq_of_samePublic (samePublic_checkLine ..)
  intro kinds kinds' hkinds hkinds' k
  cases h.symm.trans hkinds
  cases h'.symm.trans hkinds'
  exact Iff.rfl

end PasswordPolicy.Console
