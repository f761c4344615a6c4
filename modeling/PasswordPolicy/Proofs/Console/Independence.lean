import PasswordPolicy.Proofs.Console.Configuration

/-!
# What the configuration cannot change

The configuration is looked at only by a command that needs rules and is given none. For every other
run it makes no difference what a configuration file holds and what the variables of the settings
are set to. These variables have names of their own, so the options that variables can give stay the
same; and a file is read before the command is known, but only whether there is one is told then.

* **`SameOptions.readCommand_eq`**: the command does not depend on the variables of the settings.
* **`SameButSettings.task_cases`**: two tasks are the same but for the file.
* **`SameButSettings.run_eq`**: two runs without a need for the configuration are the same.
-/

namespace PasswordPolicy

/-! ### Variables of the settings -/

namespace Environment

/-- The name of a variable for a setting. -/
def NamesSetting (name : String) : Prop := NamesRules name ∨ NamesPolicy name

instance : DecidablePred NamesSetting := fun _ => inferInstanceAs (Decidable (_ ∨ _))

/-- The variables that are for no setting. -/
def others (env : Environment) : Environment :=
  env.filter fun entry => !decide (NamesSetting entry.1)

/-- A variable that names no setting is among the others. -/
theorem get?_others {env : Environment} {name : String} (h : ¬ NamesSetting name) :
    env.others.get? name = env.get? name := by
  unfold get? others
  rw [List.find?_filter]
  congr 2
  funext entry
  by_cases hentry : entry.1 = name
  · simp [hentry, h]
  · simp [hentry]

end Environment

namespace Console

/-! ### Options that variables give -/

/-- The variables that can give an option of the program or of a command. -/
def optionVariables : List String :=
  ["PASSWORD_RULES_DEBUG", "PASSWORD_RULES_CONFIG", "PASSWORD_RULES_CHECK_SPEC",
    "PASSWORD_RULES_CHECK_USER", "PASSWORD_RULES_CHECK_PREVIOUS", "PASSWORD_RULES_CHECK_PASSWORD",
    "PASSWORD_RULES_EXPIRED_SPEC", "PASSWORD_RULES_EXPIRED_LAST_CHANGED",
    "PASSWORD_RULES_FORMAT_FIELDS"]

/-- No variable is both for an option and for a setting. -/
theorem not_namesSetting_of_mem :
    ∀ name ∈ optionVariables, ¬ Environment.NamesSetting name := by decide +kernel

/-- The variables give the same options. -/
def SameOptions (env env' : Environment) : Prop :=
  ∀ name ∈ optionVariables, variableValue? env name = variableValue? env' name

/-- Environments that differ in the settings alone give the same options, since no option is read
from a variable that names a setting. -/
theorem sameOptions_of_others {env env' : Environment} (h : env.others = env'.others) :
    SameOptions env env' := by
  intro name hname
  have hother := not_namesSetting_of_mem name hname
  unfold variableValue?
  rw [← Environment.get?_others hother, h, Environment.get?_others hother]

namespace SameOptions

variable {env env' : Environment} {inv inv' : Invocation} {args : List String} {a : Arguments}

theorem optionValue?_eq (h : SameOptions env env') (key : String) {name : String}
    (hname : name ∈ optionVariables) :
    optionValue? a env key name = optionValue? a env' key name := by
  rw [optionValue?, optionValue?, h name hname]

theorem flagValue_eq (h : SameOptions env env') (on off : String) {name : String}
    (hname : name ∈ optionVariables) :
    flagValue a env on off name = flagValue a env' on off name := by
  rw [flagValue, flagValue, h name hname]

theorem givenPassword_eq (h : SameOptions env env') (input : String) :
    givenPassword a env input = givenPassword a env' input := by
  rw [givenPassword, givenPassword, h.optionValue?_eq "password" (by decide)]

/-- So is the whole request. -/
theorem givenRequest_eq (h : SameOptions env env') (password : String) :
    givenRequest a env password = givenRequest a env' password := by
  have hprevious : givenPrevious a env = givenPrevious a env' := by
    have hvariable := h (variableName ["CHECK"] "PREVIOUS") (by decide)
    rw [givenPrevious, givenPrevious, hvariable]
  rw [givenRequest, givenRequest, h.optionValue?_eq "rules" (by decide),
    h.optionValue?_eq "user" (by decide), hprevious]

/-- The command line of a check is read alike in both environments. -/
theorem readCheck_eq (h : SameOptions env env') (input : String) :
    readCheck args env input = readCheck args env' input := by
  cases hsplit : split checkChoices true args with
  | error e => rw [readCheck_of_error hsplit, readCheck_of_error hsplit]
  | ok a =>
    rw [Console.readCheck_eq hsplit, Console.readCheck_eq hsplit, h.givenPassword_eq]
    simp only [h.givenRequest_eq]

/-- The command line of a question for the age is read alike in both environments. -/
theorem readExpired_eq (h : SameOptions env env') :
    readExpired args env = readExpired args env' := by
  cases hsplit : split expiredChoices true args with
  | error e => rw [readExpired_of_error hsplit, readExpired_of_error hsplit]
  | ok a =>
    rw [Console.readExpired_eq hsplit, Console.readExpired_eq hsplit,
      h.optionValue?_eq "last-changed" (by decide), h.optionValue?_eq "rules" (by decide)]

/-- The command line of a formatting is read alike in both environments. -/
theorem readFormat_eq (h : SameOptions env env') : readFormat args env = readFormat args env' := by
  cases hsplit : split formatChoices true args with
  | error e => rw [readFormat_of_error hsplit, readFormat_of_error hsplit]
  | ok a =>
    rw [Console.readFormat_eq hsplit, Console.readFormat_eq hsplit,
      h.flagValue_eq "fields" "no-fields" (by decide)]

/-- **The command** is read from the arguments, the input and the options that variables give. -/
theorem readCommand_eq (h : SameOptions inv.environment inv'.environment)
    (hinput : inv.input = inv'.input) (operands : List String) :
    readCommand inv operands = readCommand inv' operands := by
  unfold readCommand
  split
  · rw [hinput]
    exact h.readCheck_eq inv'.input
  · exact h.readExpired_eq
  · exact h.readFormat_eq
  · rfl

end SameOptions

/-! ### Two tasks -/

/-- The invocations differ in the variables of the settings, in what files hold, and in what is said
about that, only. -/
structure SameButSettings (inv inv' : Invocation) : Prop where
  arguments : inv.arguments = inv'.arguments
  input : inv.input = inv'.input
  others : inv.environment.others = inv'.environment.others
  exists_eq : ∀ path, (inv.file? path).isSome = (inv'.file? path).isSome
  clock : inv.clock = inv'.clock

/-- Two tasks by the same general options: neither can be done, both are the same page of help, or
both do what was read, with the log shown or not. -/
inductive TasksAlike (sameFiles : Prop) (read read' : Except UsageError ReadCommand) :
    (task task' : Except UsageError Task) → Prop
  | misused : TasksAlike sameFiles read read' (.error .misused) (.error .misused)
  | help (usage : String) : TasksAlike sameFiles read read' (.ok ⟨false, none, "", .help usage⟩)
      (.ok ⟨false, none, "", .help usage⟩)
  | does {debug : Bool} {file file' : Option ConfigurationFile} {command command' : ReadCommand}
      (hread : read = .ok command) (hread' : read' = .ok command')
      (hfile : sameFiles → file = file') :
      TasksAlike sameFiles read read' (.ok ⟨debug, file, command⟩) (.ok ⟨debug, file', command'⟩)

variable {inv inv' : Invocation}

/-- A file that is named can be read or not, whatever it holds. So the two command lines end with
the same usage error, or both go on. -/
theorem readFile_alike {a : Arguments}
    (hnamed : namedFile? inv.environment a = namedFile? inv'.environment a)
    (hfile : ∀ path, (inv.file? path).isSome = (inv'.file? path).isSome) :
    (readFile inv a = .error .misused ∧ readFile inv' a = .error .misused) ∨
      ∃ file file', readFile inv a = .ok file ∧ readFile inv' a = .ok file' ∧
        (inv.file? = inv'.file? ∧ inv.complaint = inv'.complaint → file = file') := by
  unfold readFile
  rw [hnamed]
  cases namedFile? inv'.environment a with
  | none => exact .inr ⟨none, none, rfl, rfl, fun _ => rfl⟩
  | some path =>
    have hpath := hfile path
    simp only
    -- the files may differ, but they are there or missing together
    cases hfirst : inv.file? path with
    | none =>
      rw [hfirst] at hpath
      have hsecond : inv'.file? path = none := by simpa using hpath.symm
      rw [hsecond]
      exact .inl ⟨rfl, rfl⟩
    | some text =>
      rw [hfirst] at hpath
      obtain ⟨text', hsecond⟩ := Option.isSome_iff_exists.mp hpath.symm
      rw [hsecond]
      refine .inr ⟨_, _, rfl, rfl, fun ⟨hsame, hcomplaint⟩ => ?_⟩
      rw [hsame, hsecond] at hfirst
      rw [Option.some.inj hfirst, hcomplaint]

/-- **Two tasks by the same options** are alike, if the commands can both be read or both cannot.
Everything that a task looks at in the environment is an option, and the files are only asked
whether they are there. -/
theorem tasksAlike_taskBy {a : Arguments} {read read' : Except UsageError ReadCommand}
    (h : SameOptions inv.environment inv'.environment)
    (hfile : ∀ path, (inv.file? path).isSome = (inv'.file? path).isSome)
    (hread : read.isOk = read'.isOk) :
    TasksAlike (inv.file? = inv'.file? ∧ inv.complaint = inv'.complaint) read read'
      (taskBy inv a read) (taskBy inv' a read') := by
  have hnamed : namedFile? inv.environment a = namedFile? inv'.environment a :=
    h.optionValue?_eq "config" (by decide)
  have hflag := @SameOptions.flagValue_eq _ _ a h "debug" "no-debug" (variableName [] "DEBUG")
    (by decide)
  -- help, the flag, the file and the command are looked at in this order, and each is the same for
  -- both
  unfold taskBy
  rw [hflag]
  cases isRequested a "help" with
  | true => exact .help _
  | false =>
    simp only [Bool.false_eq_true, if_false]
    cases flagValue a inv'.environment "debug" "no-debug" (variableName [] "DEBUG") with
    | error e => exact .misused
    | ok debug =>
      rcases readFile_alike hnamed hfile with
        ⟨hfirst, hsecond⟩ | ⟨file, file', hfirst, hsecond, hsame⟩
      · rw [hfirst, hsecond]
        exact .misused
      · rw [hfirst, hsecond]
        -- the commands are readable together
        cases read with
        | error e =>
          cases read' with
          | error e' => exact .misused
          | ok command' => cases hread
        | ok command =>
          cases read' with
          | error e' => cases hread
          | ok command' => exact .does rfl rfl hsame

/-- **Two tasks** are the same but for the file. The arguments and the options are the same, and so
are the two commands. -/
theorem SameButSettings.task_cases (h : SameButSettings inv inv') :
    (∃ e, inv.task = .error e ∧ inv'.task = .error e) ∨
      ∃ debug file file' read, inv.task = .ok ⟨debug, file, read⟩ ∧
        inv'.task = .ok ⟨debug, file', read⟩ := by
  have hoptions := sameOptions_of_others h.others
  cases hsplit : split generalChoices false inv.arguments with
  | error e =>
    have hsplit' := hsplit
    rw [h.arguments] at hsplit'
    refine .inl ⟨e, ?_, ?_⟩
    · rw [Invocation.task, hsplit]
      rfl
    · rw [Invocation.task, hsplit']
      rfl
  | ok a =>
    obtain ⟨options, operands⟩ := a
    have hsplit' := hsplit
    rw [h.arguments] at hsplit'
    have halike := @tasksAlike_taskBy inv inv' ⟨options, []⟩ (readCommand inv operands) _ hoptions
      h.exists_eq rfl
    rw [task_eq hsplit, task_eq hsplit', ← hoptions.readCommand_eq h.input]
    -- the two commands are read from the same operands, so only the file can differ
    generalize taskBy inv ⟨options, []⟩ _ = task, taskBy inv' ⟨options, []⟩ _ = task' at halike
    cases halike with
    | misused => exact .inl ⟨_, rfl, rfl⟩
    | help usage => exact .inr ⟨_, _, _, _, rfl, rfl⟩
    | does hread hread' _ =>
      cases hread.symm.trans hread'
      exact .inr ⟨_, _, _, _, rfl, rfl⟩

/-! ### Commands that do not need the configuration -/

theorem report_check_of_given (s : Surroundings) {r : CheckRequest} {specification : String}
    (h : r.rules = some specification) :
    (Command.check r).report s = withRules (givenRules specification) (checkReport r) := by
  rw [Command.report, h, resolveRules]

theorem report_expired_of_given (s : Surroundings) {r : AgeRequest} {specification : String}
    (h : r.rules = some specification) : (Command.expired r).report s =
      withRules (givenRules specification) (ageReport r.lastChanged s.clock) := by
  rw [Command.report, h, resolveRules]

/-- **A command that is given rules, or needs none,** does not look at the configuration. What it
reports depends on the request and the clock alone. -/
theorem report_eq_of_not_isConfigured {command : Command} (h : ¬ command.IsConfigured)
    {s s' : Surroundings} (hclock : s.clock = s'.clock) : command.report s = command.report s' := by
  cases command with
  | help usage => rfl
  | abort => rfl
  | format r => rfl
  | check r =>
    cases hrules : r.rules with
    | none => exact absurd (.check hrules) h
    | some specification => rw [report_check_of_given s hrules, report_check_of_given s' hrules]
  | expired r =>
    cases hrules : r.rules with
    | none => exact absurd (.expired hrules) h
    | some specification =>
      rw [report_expired_of_given s hrules, report_expired_of_given s' hrules, hclock]

/-- **Two runs** without a need for the configuration are the same. Their tasks differ in the file
only, which such a command does not read. -/
theorem SameButSettings.run_eq (h : SameButSettings inv inv')
    (hcommand : ∀ t, inv.task = .ok t → ¬ t.read.command.IsConfigured) : inv.run = inv'.run := by
  rcases h.task_cases with ⟨e, htask, htask'⟩ | ⟨debug, file, file', read, htask, htask'⟩
  · unfold Invocation.run
    rw [htask, htask']
  · have hreport : inv.report ⟨debug, file, read⟩ = inv'.report ⟨debug, file', read⟩ :=
      congrArg (Report.after read.printed)
        (report_eq_of_not_isConfigured (hcommand _ htask) h.clock)
    rw [run_eq_outcome htask, run_eq_outcome htask', hreport]

/-! ### Command lines that do not need it -/

/-- The arguments of a command give rules, unless they cannot be used at all. -/
def GivesRules (choices : List Choice) (args : List String) : Prop :=
  ∀ a, split choices true args = .ok a → isRequested a "rules" = true

/-- The command line names `format`, or gives rules to the command that it names. -/
inductive RulesGiven (arguments : List String) : Prop
  | format {options : List (String × String)} {args : List String}
      (h : split generalChoices false arguments = .ok ⟨options, "format" :: args⟩)
  | check {options : List (String × String)} {args : List String}
      (h : split generalChoices false arguments = .ok ⟨options, "check" :: args⟩)
      (hrules : GivesRules checkChoices args)
  | expired {options : List (String × String)} {args : List String}
      (h : split generalChoices false arguments = .ok ⟨options, "expired" :: args⟩)
      (hrules : GivesRules expiredChoices args)

/-- What a task does is what the command line says, or it prints a help text. -/
theorem read_of_taskBy {a : Arguments} {read : Except UsageError ReadCommand} {t : Task}
    (h : taskBy inv a read = .ok t) :
    (∃ usage, t.read.command = .help usage) ∨ read = .ok t.read := by
  unfold taskBy at h
  split at h
  · cases h
    exact .inl ⟨_, rfl⟩
  · split at h
    · cases h
      exact .inr rfl
    · cases h

/-- A value on the command line counts, whatever variables are set. -/
theorem optionValue?_ne_none {a : Arguments} {key : String} (h : isRequested a key = true)
    (env : Environment) (name : String) : optionValue? a env key name ≠ none := by
  obtain ⟨value, hvalue⟩ := Option.isSome_iff_exists.mp h
  rw [optionValue?, hvalue]
  exact Option.some_ne_none value

/-- A check that is given rules takes nothing from the configuration. It may also end in a help
text, or be broken off at the prompt. -/
theorem not_isConfigured_readCheck {args : List String} {env : Environment} {input : String}
    {read : ReadCommand} (hrules : GivesRules checkChoices args)
    (h : readCheck args env input = .ok read) : ¬ read.command.IsConfigured := by
  cases hsplit : split checkChoices true args with
  | error e =>
    rw [readCheck_of_error hsplit] at h
    cases h
  | ok a =>
    rw [readCheck_eq hsplit] at h
    split at h
    · cases h
      nofun
    · split at h
      · cases h
        nofun
      · split at h
        · cases h
          rintro ⟨hnone⟩
          exact optionValue?_ne_none (hrules a hsplit) _ _ hnone
        · cases h

/-- A question for the age that is given rules takes nothing from it either. -/
theorem not_isConfigured_readExpired {args : List String} {env : Environment} {read : ReadCommand}
    (hrules : GivesRules expiredChoices args) (h : readExpired args env = .ok read) :
    ¬ read.command.IsConfigured := by
  cases hsplit : split expiredChoices true args with
  | error e =>
    rw [readExpired_of_error hsplit] at h
    cases h
  | ok a =>
    rw [readExpired_eq hsplit] at h
    split at h
    · cases h
      nofun
    · split at h
      · cases h
        intro hconfigured
        cases hconfigured with
        | expired hnone => exact optionValue?_ne_none (hrules a hsplit) _ _ hnone
      · cases h

/-- Formatting has no use for a configuration in any case. -/
theorem not_isConfigured_readFormat {args : List String} {env : Environment} {read : ReadCommand}
    (h : readFormat args env = .ok read) : ¬ read.command.IsConfigured := by
  cases hsplit : split formatChoices true args with
  | error e =>
    rw [readFormat_of_error hsplit] at h
    cases h
  | ok a =>
    rw [readFormat_eq hsplit] at h
    split at h
    · cases h
      nofun
    · split at h
      · cases h
        nofun
      · cases h

/-- **A command line that gives rules**, or names a command that needs none. The command is told by
its name, and for each of them its own reader says what it needs. -/
theorem RulesGiven.not_isConfigured (h : RulesGiven inv.arguments) {t : Task}
    (htask : inv.task = .ok t) : ¬ t.read.command.IsConfigured := by
  -- a page of help stands for any command
  have hread {options : List (String × String)} {operands : List String}
      (hgeneral : split generalChoices false inv.arguments = .ok ⟨options, operands⟩)
      (hoperands : readCommand inv operands = .ok t.read → ¬ t.read.command.IsConfigured) :
      ¬ t.read.command.IsConfigured := by
    rw [task_eq hgeneral] at htask
    rcases read_of_taskBy htask with ⟨usage, husage⟩ | hread
    · rw [husage]
      nofun
    · exact hoperands hread
  cases h with
  | check hgeneral hrules => exact hread hgeneral (not_isConfigured_readCheck hrules)
  | expired hgeneral hrules => exact hread hgeneral (not_isConfigured_readExpired hrules)
  | format hgeneral => exact hread hgeneral not_isConfigured_readFormat

end Console

end PasswordPolicy
