import PasswordPolicy.Proofs.Console.Verdict
import PasswordPolicy.Proofs.Settings.Layers

/-!
# Commands by the configuration

A command that is given no rules goes by the configuration. Settings that are accepted have a
policy, and the command ends as with rules of its own; whatever else is wrong with the configuration
is reported, except for a few things that nothing in the program looks for: scalars of a file that
have no value, keys that are no texts, and integers that cannot be written where one has to be.

* **`entries_eq_error_iff`**, **`load_value_eq_error_iff`**: what is wrong with a configuration.
* **`ending_report`**: how a command by the configuration ends.
* **`configuration_reported_or_crashes`**: all of it in one place.
-/

namespace PasswordPolicy.Console

/-! ### What is wrong with a configuration -/

namespace Configuration

/-- A file that gives no entries, and why. -/
inductive Unusable (file : ConfigurationFile) : ConfigurationFault → Prop
  | undecodable (h : Yaml.read file.text = .error .broken) :
      Unusable file (.undecodable file.path file.complaint)
  | defective {defect : Yaml.Defect} (h : Yaml.read file.text = .error (.defective defect)) :
      Unusable file (.defective defect)
  | notMapping {value : Value} (h : Yaml.read file.text = .ok value)
      (htruthy : value.truthy = true) (hrecord : ∀ entries, value ≠ .record entries) :
      Unusable file (.notMapping value.typeName)
  | keysNotText {entries : Entries} (h : Yaml.read file.text = .ok (.record entries))
      (hkey : ∃ entry ∈ entries, isTextKey entry.1 = false) : Unusable file .keysNotText

/-- A configuration that gives no settings, and why. -/
inductive Refused (file : Option ConfigurationFile) (env : Environment) :
    ConfigurationFault → Prop
  | unusable {named : ConfigurationFile} {fault : ConfigurationFault} (hfile : file = some named)
      (h : Unusable named fault) : Refused file env fault
  | invalid {data : Entries} {errors : List FieldError} (hdata : entries file = .ok data)
      (h : Settings.load data env = .error errors) : Refused file env (.invalid errors)

variable {file : Option ConfigurationFile} {env : Environment} {fault : ConfigurationFault}
  {settings : Settings}

/-- A file that is not usable gives no entries but its fault. -/
theorem Unusable.entries_eq {named : ConfigurationFile} (h : Unusable named fault) :
    entries (some named) = .error fault := by
  unfold entries
  cases h with
  | undecodable h => simp only [h]
  | defective h => simp only [h]
  | @notMapping value h htruthy hrecord =>
    simp only [h, htruthy]
    cases value with
    | record entries => exact absurd rfl (hrecord entries)
    | scalar s => rfl
    | list items => rfl
  | @keysNotText records h hkey =>
    -- a record with a key is not empty, so it is not taken for no configuration at all
    have htruthy : (Value.record records).truthy = true := by
      obtain ⟨entry, hentry, -⟩ := hkey
      cases records with
      | nil => cases hentry
      | cons first more => rfl
    have hall : ¬ (records.all fun entry => isTextKey entry.1) = true := by
      rw [Bool.not_eq_true, List.all_eq_false]
      obtain ⟨entry, hentry, hkey⟩ := hkey
      exact ⟨entry, hentry, by rw [hkey]; decide⟩
    simp only [h, htruthy, if_neg hall]
    rfl

/-- **What is wrong with a file.** It cannot be decoded or constructed, or it is no mapping, or not
all keys of the mapping are texts (`Unusable`). -/
theorem entries_eq_error_iff :
    entries file = .error fault ↔ ∃ named, file = some named ∧ Unusable named fault := by
  constructor
  · intro h
    cases file with
    | none => cases h
    | some named =>
      refine ⟨named, rfl, ?_⟩
      -- the file is decoded, then its top level is looked at, and then its keys
      unfold entries at h
      simp only at h
      split at h
      · next hread =>
        cases h
        exact .undecodable hread
      · next defect hread =>
        cases h
        exact .defective hread
      · next value hread =>
        split at h
        · cases h
        · next htruthy =>
          have htruthy : value.truthy = true := by simpa using htruthy
          split at h
          · next records =>
            split at h
            · cases h
            · next hall =>
              cases h
              -- one key that is no text is enough
              rw [Bool.not_eq_true, List.all_eq_false] at hall
              obtain ⟨entry, hentry, hkey⟩ := hall
              exact .keysNotText hread ⟨entry, hentry, eq_false_of_ne_true hkey⟩
          · next hrecord =>
            cases h
            exact .notMapping hread htruthy hrecord
  · rintro ⟨named, rfl, h⟩
    exact h.entries_eq

/-- Loading a configuration is reading its entries and then loading the settings from these. -/
theorem load_value (file : Option ConfigurationFile) (env : Environment) :
    (load file env).value =
      (entries file).bind fun data => (Settings.load data env).mapError .invalid := by
  unfold load
  cases entries file with
  | error fault => rfl
  | ok data => rfl

/-- A configuration is loaded if its file has entries that the settings accept. -/
theorem load_value_eq_ok_iff : (load file env).value = .ok settings ↔
    ∃ data, entries file = .ok data ∧ Settings.load data env = .ok settings := by
  rw [load_value]
  cases entries file with
  | error fault => simp [Except.bind]
  | ok data =>
    show (Settings.load data env).mapError ConfigurationFault.invalid = .ok settings ↔ _
    cases hload : Settings.load data env with
    | error errors => simp [Except.mapError, hload]
    | ok settings' => simp [Except.mapError, hload]

/-- **What is wrong with a configuration.** Either its file cannot be used, or the settings in it
are refused (`Refused`). -/
theorem load_value_eq_error_iff :
    (load file env).value = .error fault ↔ Refused file env fault := by
  rw [load_value]
  cases hdata : entries file with
  | error fault' =>
    constructor
    · rintro ⟨⟩
      obtain ⟨named, hfile, hunusable⟩ := entries_eq_error_iff.mp hdata
      exact .unusable hfile hunusable
    · rintro (⟨hfile, hunusable⟩ | ⟨hdata', -⟩)
      · rw [hfile, hunusable.entries_eq] at hdata
        exact congrArg Except.error (Except.error.inj hdata).symm
      · cases hdata.symm.trans hdata'
  -- with entries the fault can only be one of the settings
  | ok data =>
    show (Settings.load data env).mapError ConfigurationFault.invalid = .error fault ↔ _
    constructor
    · intro h
      cases hload : Settings.load data env with
      | ok settings =>
        rw [hload] at h
        cases h
      | error errors =>
        rw [hload] at h
        cases h
        exact .invalid hdata hload
    · rintro (⟨hfile, hunusable⟩ | ⟨hdata', hload⟩)
      · rw [hfile, hunusable.entries_eq] at hdata
        cases hdata
      · cases hdata.symm.trans hdata'
        rw [hload]
        rfl

end Configuration

/-! ### Commands that need it -/

/-- The command needs rules and is given none. -/
inductive Command.IsConfigured : Command → Prop
  | check {r : CheckRequest} (h : r.rules = none) : IsConfigured (.check r)
  | expired {r : AgeRequest} (h : r.rules = none) : IsConfigured (.expired r)

/-- The crashes of a command that needs the configuration. -/
inductive Crashes (s : Surroundings) (command : Command) : Crash → Prop
  | defective {named : ConfigurationFile} {defect : Yaml.Defect} (hfile : s.file = some named)
      (h : Yaml.read named.text = .error (.defective defect)) :
      Crashes s command (.configuration defect)
  | keysNotText {named : ConfigurationFile} {entries : Entries} (hfile : s.file = some named)
      (h : Yaml.read named.text = .ok (.record entries))
      (hkey : ∃ entry ∈ entries, Configuration.isTextKey entry.1 = false) :
      Crashes s command .keysNotText
  /-- A value that is to be reported holds an integer that cannot be written. -/
  | input {data : Entries} {errors : List FieldError}
      (hdata : Configuration.entries s.file = .ok data)
      (h : Settings.load data s.environment = .error errors)
      (hinput : ∃ e ∈ errors, e.input.isWritable = false) : Crashes s command .unwritable
  /-- The text of the policy holds an integer that cannot be written. -/
  | policy {r : CheckRequest} {data : Entries} {settings : Settings} {p : Policy}
      (hcheck : command = .check r) (hdata : Configuration.entries s.file = .ok data)
      (h : Settings.load data s.environment = .ok settings) (hp : settings.toPolicy = .ok p)
      (hwritable : p.isWritable = false) : Crashes s command .unwritable

/-- The message about what is wrong with a configuration. -/
inductive TellsFault : ConfigurationFault → String → Prop
  | undecodable (path complaint : String) : TellsFault (.undecodable path complaint)
      ("Error: Decoding failed for configuration file " ++ String.ofList (withoutControls
        (Text.quoted path ++ (".\n\n" ++ complaint)).toList) ++ "\n")
  | notMapping (typeName : String) : TellsFault (.notMapping typeName)
      ("Error: Invalid configuration input.\n\n" ++ String.ofList (withoutControls
        ("Expected a mapping at the top level, got " ++ typeName).toList) ++ "\n")
  | invalid (errors : List FieldError) : TellsFault (.invalid errors)
      ("Error: Invalid configuration input.\n\n" ++
        String.ofList (withoutControls (FieldError.displayAll errors).toList) ++ "\n")

/-! ### The ending of a report -/

/-- The command succeeds, or fails with the exit code of a verdict. -/
def Report.IsVerdict (r : Report) : Prop :=
  r.ending = .ok () ∨ ∃ f : Failure, r.ending = .error (.failure f) ∧ f.code = 64

section

variable {s : Surroundings} {command : Command} {p : Policy} {debug : Bool}

/-- A report on violations is a verdict: the password is accepted or it is not. -/
theorem isVerdict_violationReport (p : Policy) (kinds : List Kind) :
    (violationReport p kinds).IsVerdict := by
  unfold violationReport
  split
  · exact .inl rfl
  · exact .inr ⟨_, rfl, rfl⟩

theorem isVerdict_checkReport {r : CheckRequest} (h : p.isWritable = true) :
    (checkReport r p).IsVerdict := by
  rw [checkReport, if_pos h]
  exact isVerdict_violationReport p (p.violations r.attempt)

/-- A report on an age is a verdict, whichever way the limit is kept. Whether there is a limit or
not, the report ends with success or with the code of an expired password. -/
theorem isVerdict_ageReport (lastChanged : CivilTime) (clock : Int) (p : Policy) :
    (ageReport lastChanged clock p).IsVerdict := by
  unfold ageReport
  extract_lets span age limit report
  show report.IsVerdict
  unfold report
  split
  · exact .inl rfl
  · split
    · exact .inr ⟨_, rfl, rfl⟩
    · exact .inl rfl

/-- The message that a file cannot be decoded names the file and ends with the complaint of the
loader. -/
theorem message_undecodableConfiguration (path complaint : String) :
    (Failure.undecodableConfiguration path complaint).message =
      "Error: Decoding failed for configuration file " ++
        (Text.quoted path ++ (".\n\n" ++ complaint)) := by
  show "Error: Decoding failed for configuration file " ++ Text.quoted path ++ ".\n\n" ++
    complaint = _
  rw [String.append_assoc, String.append_assoc]

/-- A trouble with the configuration is a crash or is told. It crashes where the loader itself
fails, where a key is no text, and where an input cannot be written. -/
theorem trouble_cases {fault : ConfigurationFault}
    (h : Configuration.Refused s.file s.environment fault) (command : Command) :
    (∃ crash, Trouble.ofConfiguration fault = .crash crash ∧ Crashes s command crash) ∨
      ∃ f, Trouble.ofConfiguration fault = .failure f ∧ f.code = 1 ∧ TellsFault fault f.line := by
  have hlead : '\x1b' ∉ "Error: Invalid configuration input.\n\n".toList := by decide
  cases h with
  | @unusable named _ hfile hunusable =>
    -- a file that cannot be used is told, unless the loader itself fails or a key is no text
    cases hunusable with
    | undecodable hread =>
      refine .inr ⟨_, rfl, rfl, ?_⟩
      rw [Failure.line_of_message (by decide)
        (message_undecodableConfiguration named.path named.complaint)]
      exact .undecodable _ _
    | defective hread => exact .inl ⟨_, rfl, .defective hfile hread⟩
    | notMapping hread htruthy hrecord =>
      refine .inr ⟨_, rfl, rfl, ?_⟩
      rw [Failure.line_of_message hlead rfl]
      exact .notMapping _
    | keysNotText hread hkey => exact .inl ⟨_, rfl, .keysNotText hfile hread hkey⟩
  | @invalid data errors hdata hload =>
    unfold Trouble.ofConfiguration
    -- a report is told only if all of its inputs can be written
    by_cases hall : (errors.all (·.input.isWritable)) = true
    · simp only [hall]
      refine .inr ⟨_, rfl, rfl, ?_⟩
      rw [Failure.line_of_message hlead rfl]
      exact .invalid errors
    · simp only [hall]
      rw [Bool.not_eq_true, List.all_eq_false] at hall
      obtain ⟨e, he, hinput⟩ := hall
      exact .inl ⟨_, rfl, .input hdata hload ⟨e, he, eq_false_of_ne_true hinput⟩⟩

/-- A configuration that is refused gives no policy, and what was logged while it was loaded is
kept. -/
theorem configuredRules_of_error {fault : ConfigurationFault}
    (h : (Configuration.load s.file s.environment).value = .error fault) :
    configuredRules s = ⟨.configurationUsed :: (Configuration.load s.file s.environment).log,
      .error (.ofConfiguration fault)⟩ := by
  unfold configuredRules
  simp only [h]

/-- The policy of a configuration that is loaded is that of its settings. -/
theorem configuredRules_of_ok {settings : Settings}
    (h : (Configuration.load s.file s.environment).value = .ok settings)
    (hp : settings.toPolicy = .ok p) :
    configuredRules s = ⟨.configurationUsed :: (Configuration.load s.file s.environment).log ++
      Configuration.policyLog settings, .ok p⟩ := by
  unfold configuredRules
  simp only [h, hp]

/-- A command that takes its policy from the configuration ends where that is refused. -/
theorem report_of_refused {fault : ConfigurationFault} (hcommand : command.IsConfigured)
    (h : (Configuration.load s.file s.environment).value = .error fault) :
    command.report s = ⟨"", .configurationUsed :: (Configuration.load s.file s.environment).log,
      .error (.ofConfiguration fault)⟩ := by
  have hrules := configuredRules_of_error h
  -- a check and a question for the age get their policy in the same way
  cases hcommand with
  | check hnone =>
    unfold Command.report withRules
    simp only [hnone, resolveRules, hrules]
  | expired hnone =>
    unfold Command.report withRules
    simp only [hnone, resolveRules, hrules]

/-- A command ends as its judgement ends, unless there is no policy to judge by. -/
theorem ending_withRules (rules : Logged (Except Trouble Policy)) (judge : Policy → Report) :
    (withRules rules judge).ending = rules.value.bind fun p => (judge p).ending := by
  unfold withRules
  cases rules.value with
  | error trouble => rfl
  | ok p => rfl

/-- With a configuration that is loaded, a check ends as the judgement of its policy ends. -/
theorem ending_check_of_accepted {r : CheckRequest} {settings : Settings} (hnone : r.rules = none)
    (h : (Configuration.load s.file s.environment).value = .ok settings)
    (hp : settings.toPolicy = .ok p) :
    ((Command.check r).report s).ending = (checkReport r p).ending := by
  rw [Command.report, hnone, ending_withRules, resolveRules, configuredRules_of_ok h hp]
  rfl

/-- With a configuration that is loaded, a question for the age ends so as well. -/
theorem ending_expired_of_accepted {r : AgeRequest} {settings : Settings} (hnone : r.rules = none)
    (h : (Configuration.load s.file s.environment).value = .ok settings)
    (hp : settings.toPolicy = .ok p) :
    ((Command.expired r).report s).ending = (ageReport r.lastChanged s.clock p).ending := by
  rw [Command.report, hnone, ending_withRules, resolveRules, configuredRules_of_ok h hp]
  rfl

/-- A check by a policy with a value of too many digits crashes, before anything is judged. -/
theorem ending_checkReport_of_unwritable (r : CheckRequest) (h : p.isWritable = false) :
    (checkReport r p).ending = .error (.crash .unwritable) := by
  rw [checkReport, h]
  rfl

/-- **How a command by the configuration ends**: with a verdict, a crash, or the message about what
is wrong with the configuration. -/
theorem ending_report (hcommand : command.IsConfigured) :
    (∃ settings, (Configuration.load s.file s.environment).value = .ok settings ∧
        (command.report s).IsVerdict) ∨
      (∃ crash, Crashes s command crash ∧ (command.report s).ending = .error (.crash crash)) ∨
      ∃ fault f, (Configuration.load s.file s.environment).value = .error fault ∧
        command.report s =
          ⟨"", .configurationUsed :: (Configuration.load s.file s.environment).log,
            .error (.failure f)⟩ ∧ f.code = 1 ∧ TellsFault fault f.line := by
  -- a configuration that is refused leaves no policy to judge by
  cases hload : (Configuration.load s.file s.environment).value with
  | error fault =>
    have hreport := report_of_refused hcommand hload
    rcases trouble_cases (Configuration.load_value_eq_error_iff.mp hload) command with
      ⟨crash, htrouble, hcrash⟩ | ⟨f, htrouble, hcode, htells⟩
    · refine .inr (.inl ⟨crash, hcrash, ?_⟩)
      rw [hreport, htrouble]
    · refine .inr (.inr ⟨fault, f, rfl, ?_, hcode, htells⟩)
      rw [hreport, htrouble]
  | ok settings =>
    obtain ⟨data, hdata, hsettings⟩ := Configuration.load_value_eq_ok_iff.mp hload
    -- settings that are accepted have a policy
    obtain ⟨p, hp⟩ := Settings.exists_toPolicy hsettings
    cases hcommand with
    | @check r hnone =>
      have hending := ending_check_of_accepted hnone hload hp
      -- the check writes the policy to the log before it judges
      cases hwritable : p.isWritable with
      | true =>
        refine .inl ⟨settings, rfl, ?_⟩
        unfold Report.IsVerdict
        rw [hending]
        exact isVerdict_checkReport hwritable
      | false =>
        refine .inr (.inl ⟨_, .policy rfl hdata hsettings hp hwritable, ?_⟩)
        rw [hending, ending_checkReport_of_unwritable r hwritable]
    | @expired r hnone =>
      refine .inl ⟨settings, rfl, ?_⟩
      unfold Report.IsVerdict
      rw [ending_expired_of_accepted hnone hload hp]
      exact isVerdict_ageReport r.lastChanged s.clock p

/-- **Each of the reasons to crash does end the command with that crash.** None of them is caught on
the way to the end of the command. -/
theorem Crashes.ending_eq {crash : Crash} (h : Crashes s command crash)
    (hcommand : command.IsConfigured) :
    (command.report s).ending = .error (.crash crash) := by
  -- a configuration that is refused for a reason that nobody looks for
  have hrefused {fault : ConfigurationFault}
      (hfault : Configuration.Refused s.file s.environment fault)
      (htrouble : Trouble.ofConfiguration fault = .crash crash) :
      (command.report s).ending = .error (.crash crash) := by
    rw [report_of_refused hcommand (Configuration.load_value_eq_error_iff.mpr hfault), htrouble]
  cases h with
  | defective hfile hread => exact hrefused (.unusable hfile (.defective hread)) rfl
  | keysNotText hfile hread hkey => exact hrefused (.unusable hfile (.keysNotText hread hkey)) rfl
  | @input data errors hdata hload hinput =>
    obtain ⟨e, he, hwritable⟩ := hinput
    have hall : (errors.all (·.input.isWritable)) = false :=
      List.all_eq_false.mpr ⟨e, he, by rw [hwritable]; decide⟩
    apply hrefused (.invalid hdata hload)
    rw [Trouble.ofConfiguration, hall]
    rfl
  | @policy r data settings p hcheck hdata hload hp hwritable =>
    subst hcheck
    cases hcommand with
    | check hnone =>
      have hload' := Configuration.load_value_eq_ok_iff.mpr ⟨data, hdata, hload⟩
      rw [ending_check_of_accepted hnone hload' hp, ending_checkReport_of_unwritable r hwritable]

end

/-! ### Command lines that name a configuration -/

/-- The variables that can give rules, or show the log, if the command line does not. -/
def configuredVariables : List String :=
  ["PASSWORD_RULES_DEBUG", "PASSWORD_RULES_CHECK_SPEC", "PASSWORD_RULES_EXPIRED_SPEC"]

section

variable {inv : Invocation} {path text : String}

/-- The command line that names a file and nothing else makes a task with that file, its text and
the loader's complaint about it. -/
theorem taskBy_config {read : Except UsageError ReadCommand} {command : ReadCommand}
    (hfile : inv.file? path = some text)
    (hdebug : variableValue? inv.environment (variableName [] "DEBUG") = none)
    (hread : read = .ok command) :
    taskBy inv ⟨[("config", path)], []⟩ read =
      .ok ⟨false, some ⟨path, text, inv.complaint text⟩, command⟩ := by
  have hnamed : namedFile? inv.environment ⟨[("config", path)], []⟩ = some path := rfl
  have hgiven :
      readFile inv ⟨[("config", path)], []⟩ = .ok (some ⟨path, text, inv.complaint text⟩) := by
    rw [readFile, hnamed]
    simp only [hfile]
  unfold taskBy flagValue
  rw [hdebug, hgiven, hread]
  rfl

/-- **A check by a configuration file**, if no variable gives rules. The password is given on the
command line, and the rules are left to the configuration. -/
theorem task_checkConfigured {password : String}
    (harguments : inv.arguments = ["-c", path, "check", "--password", password])
    (hfile : inv.file? path = some text)
    (hvariables : ∀ name ∈ configuredVariables, variableValue? inv.environment name = none) :
    ∃ r : CheckRequest, r.rules = none ∧ r.password = password ∧
      inv.task = .ok ⟨false, some ⟨path, text, inv.complaint text⟩, "", .check r⟩ := by
  have hgeneral : split generalChoices false inv.arguments =
      .ok ⟨[("config", path)], ["check", "--password", password]⟩ := by
    rw [harguments]
    rfl
  have hsplit : split checkChoices true ["--password", password] =
      .ok ⟨[("password", password)], []⟩ := rfl
  have hspec : variableValue? inv.environment (variableName ["CHECK"] "SPEC") = none :=
    hvariables _ (by decide)
  -- the password is given, so nothing is asked for
  have hread : readCommand inv ["check", "--password", password] =
      .ok ⟨"", .check (givenRequest ⟨[("password", password)], []⟩ inv.environment password)⟩ :=
    readCheck_eq hsplit
  have hrules : (givenRequest ⟨[("password", password)], []⟩ inv.environment password).rules =
      none := by
    rw [givenRequest, optionValue?, hspec]
    rfl
  refine ⟨_, hrules, rfl, ?_⟩
  rw [task_eq hgeneral, taskBy_config hfile (hvariables _ (by decide)) hread]

/-- **A check of an age by a configuration file**, if no variable gives rules. The date is given on
the command line, and the rules are left to the configuration. -/
theorem task_expiredConfigured {date : String} {time : CivilTime}
    (harguments : inv.arguments = ["-c", path, "expired", "-l", date])
    (hfile : inv.file? path = some text) (hdate : readCivilTime? date = some time)
    (hvariables : ∀ name ∈ configuredVariables, variableValue? inv.environment name = none) :
    inv.task = .ok ⟨false, some ⟨path, text, inv.complaint text⟩, "", .expired ⟨none, time⟩⟩ := by
  have hgeneral : split generalChoices false inv.arguments =
      .ok ⟨[("config", path)], ["expired", "-l", date]⟩ := by
    rw [harguments]
    rfl
  have hsplit : split expiredChoices true ["-l", date] = .ok ⟨[("last-changed", date)], []⟩ := rfl
  have hspec : variableValue? inv.environment (variableName ["EXPIRED"] "SPEC") = none :=
    hvariables _ (by decide)
  have hread : readCommand inv ["expired", "-l", date] = .ok ⟨"", .expired ⟨none, time⟩⟩ := by
    show readExpired ["-l", date] inv.environment = _
    have hgiven : (optionValue? ⟨[("last-changed", date)], []⟩ inv.environment "last-changed"
        (variableName ["EXPIRED"] "LAST_CHANGED")).bind readCivilTime? = some time := hdate
    have hrules : optionValue? ⟨[("last-changed", date)], []⟩ inv.environment "rules"
        (variableName ["EXPIRED"] "SPEC") = none := by
      rw [optionValue?, hspec]
      rfl
    rw [readExpired_eq hsplit, hgiven, hrules]
    rfl
  rw [task_eq hgeneral, taskBy_config hfile (hvariables _ (by decide)) hread]

end

/-! ### The outcome -/

section

variable {r : Report} {debug : Bool}

/-- A run crashes exactly if its report ends so. -/
theorem outcome_eq_crashed_iff {crash : Crash} :
    r.outcome debug = .crashed crash ↔ r.ending = .error (.crash crash) := by
  unfold Report.outcome
  constructor
  · intro h
    simp only at h
    split at h
    · cases h
    · cases h
    · next hending =>
      cases h
      exact hending
  · intro h
    simp only [h]

/-- A verdict is told by the exit code: zero or 64. -/
theorem Report.IsVerdict.outcome (h : r.IsVerdict) : ∃ exit output errors,
    r.outcome debug = .finished exit output errors ∧ (exit = 0 ∨ exit = 64) := by
  unfold Report.outcome
  rcases h with hok | ⟨f, hfailure, hcode⟩
  · simp only [hok]
    exact ⟨_, _, _, rfl, .inl rfl⟩
  · simp only [hfailure]
    exact ⟨_, _, _, rfl, .inr hcode⟩

end

/-- A run for which there is a reason to crash crashes for that reason. -/
theorem run_of_crashes {inv : Invocation} {t : Task} {crash : Crash} (htask : inv.task = .ok t)
    (hcommand : t.read.command.IsConfigured)
    (h : Crashes ⟨t.file, inv.environment, inv.clock⟩ t.read.command crash) :
    inv.run = .crashed crash := by
  have hending : (inv.report t).ending =
      (t.read.command.report ⟨t.file, inv.environment, inv.clock⟩).ending := rfl
  rw [run_eq_outcome htask, outcome_eq_crashed_iff, hending]
  exact h.ending_eq hcommand

/-- The file gives settings only, if it gives anything: no name in it is that of a parameter of the
library that reads the settings. -/
def Configuration.SettingsOnly (file : Option ConfigurationFile) : Prop :=
  ∀ data, Configuration.entries file = .ok data → Settings.setsParameter data = false

/-- How a run ends whose task goes by the configuration. -/
structure Configured (inv : Invocation) (t : Task) : Prop where
  /-- It crashes exactly for the reasons that `Crashes` lists. -/
  crashed_iff (crash : Crash) : inv.run = .crashed crash ↔
    Crashes ⟨t.file, inv.environment, inv.clock⟩ t.read.command crash
  /-- Otherwise, if the settings are accepted, it ends with a verdict. -/
  accepted : (¬ ∃ crash, Crashes ⟨t.file, inv.environment, inv.clock⟩ t.read.command crash) →
    ∀ settings, (Configuration.load t.file inv.environment).value = .ok settings →
      ∃ exit output errors, inv.run = .finished exit output errors ∧ (exit = 0 ∨ exit = 64)
  /-- Otherwise, if they are refused, it tells what is wrong with them, and fails. -/
  refused : (¬ ∃ crash, Crashes ⟨t.file, inv.environment, inv.clock⟩ t.read.command crash) →
    ∀ fault, (Configuration.load t.file inv.environment).value = .error fault →
      Configuration.Refused t.file inv.environment fault ∧
      ∃ log message, inv.run = .finished 1 t.read.printed (log ++ message) ∧
        log = shownLog t.debug
          (.configurationUsed :: (Configuration.load t.file inv.environment).log) ∧
        TellsFault fault message

/-- **What a run makes of its configuration** is told from how the report ends: with a verdict, with
a crash, or with a message about the configuration. -/
theorem configured_of_task {inv : Invocation} {t : Task} (htask : inv.task = .ok t)
    (hcommand : t.read.command.IsConfigured) : Configured inv t := by
  -- the three ends exclude each other, so each of them settles all three clauses
  have hrun := run_eq_outcome htask
  have hcrashed {crash : Crash}
      (h : Crashes ⟨t.file, inv.environment, inv.clock⟩ t.read.command crash) :
      inv.run = .crashed crash := run_of_crashes htask hcommand h
  rcases @ending_report ⟨t.file, inv.environment, inv.clock⟩ _ hcommand with
    ⟨settings, hload, hverdict⟩ | ⟨crash, hcrash, -⟩ | ⟨fault, f, hload, hreport, hcode, htells⟩
  · have hverdict' : (inv.report t).IsVerdict := hverdict
    obtain ⟨exit, output, errors, hfinished, hexit⟩ := @Report.IsVerdict.outcome _ t.debug hverdict'
    have hfinished := hrun.trans hfinished
    refine ⟨fun crash => ⟨fun h => ?_, hcrashed⟩, fun _ settings' _ => ?_, fun _ fault h => ?_⟩
    · cases hfinished.symm.trans h
    · exact ⟨exit, output, errors, hfinished, hexit⟩
    · cases hload.symm.trans h
  · refine ⟨fun crash' => ⟨fun h => ?_, hcrashed⟩, fun hnone => absurd ⟨crash, hcrash⟩ hnone,
      fun hnone => absurd ⟨crash, hcrash⟩ hnone⟩
    cases (hcrashed hcrash).symm.trans h
    exact hcrash
  · have hfinished : inv.run = .finished 1 t.read.printed (shownLog t.debug
        (.configurationUsed :: (Configuration.load t.file inv.environment).log) ++ f.line) := by
      rw [hrun, Invocation.report, hreport, ← hcode]
      show Outcome.finished f.code (t.read.printed ++ "") _ = _
      rw [String.append_empty]
      rfl
    refine ⟨fun crash => ⟨fun h => ?_, hcrashed⟩, fun _ settings h => ?_, fun _ fault' h => ?_⟩
    · cases hfinished.symm.trans h
    · cases hload.symm.trans h
    · cases hload.symm.trans h
      exact ⟨Configuration.load_value_eq_error_iff.mp hload, _, _, hfinished, rfl, htells⟩

/-- **A configuration is reported, or it crashes the program.** The two command lines go by the file
that they name. Whatever the command line, a command by a configuration of settings only crashes
exactly for the reasons that `Crashes` lists. Otherwise it ends with a verdict if the settings are
accepted; and if they are refused, the failure tells what is wrong with them. Nothing is said of
files that set parameters of the library that reads the settings. -/
theorem configuration_reported_or_crashes (inv : Invocation) :
    (∀ path text password : String,
      inv.arguments = ["-c", path, "check", "--password", password] →
      inv.file? path = some text →
      (∀ name ∈ configuredVariables, variableValue? inv.environment name = none) →
        ∃ r : CheckRequest, r.rules = none ∧ r.password = password ∧
          inv.task = .ok ⟨false, some ⟨path, text, inv.complaint text⟩, "", .check r⟩) ∧
      (∀ (path text date : String) (time : CivilTime),
        inv.arguments = ["-c", path, "expired", "-l", date] → inv.file? path = some text →
        readCivilTime? date = some time →
        (∀ name ∈ configuredVariables, variableValue? inv.environment name = none) →
          inv.task = .ok ⟨false, some ⟨path, text, inv.complaint text⟩, "",
            .expired ⟨none, time⟩⟩) ∧
      ∀ t : Task, inv.task = .ok t → t.read.command.IsConfigured →
        Configuration.SettingsOnly t.file → Configured inv t :=
  ⟨fun _ _ _ => task_checkConfigured, fun _ _ _ _ => task_expiredConfigured,
    fun _ htask hcommand _ => configured_of_task htask hcommand⟩

/-- The invocation with a configuration file and nothing else. -/
def withFile (path text : String) (arguments : List String) : Invocation where
  arguments := ["-c", path] ++ arguments
  input := ""
  environment := []
  file? := fun other => if other = path then some text else none
  complaint := fun _ => "expected a node"
  clock := 0

theorem file?_withFile (path text : String) (arguments : List String) :
    (withFile path text arguments).file? path = some text := if_pos rfl

/-- A broken file is told, and an empty one configures nothing. -/
theorem configuration_reported_or_crashes_of_small_files :
    (withFile "rules.yaml" "[\n" ["check", "--password", "secret"]).run = .finished 1 ""
        "Error: Decoding failed for configuration file 'rules.yaml'.\n\nexpected a node\n" ∧
      ∃ exit output errors,
        (withFile "rules.yaml" "" ["expired", "-l", "2024-02-29"]).run =
          .finished exit output errors ∧ (exit = 0 ∨ exit = 64) := by
  constructor
  · obtain ⟨hcheck, -, hends⟩ := configuration_reported_or_crashes
      (withFile "rules.yaml" "[\n" ["check", "--password", "secret"])
    have hbroken : Yaml.read "[\n" = .error .broken := by with_unfolding_all rfl
    have hunusable : Configuration.Unusable ⟨"rules.yaml", "[\n", "expected a node"⟩
        (.undecodable "rules.yaml" "expected a node") := .undecodable hbroken
    have hentries := hunusable.entries_eq
    obtain ⟨r, hnone, -, htask⟩ :=
      hcheck "rules.yaml" "[\n" "secret" rfl (file?_withFile ..) fun _ _ => rfl
    have hsettings : Configuration.SettingsOnly
        (some ⟨"rules.yaml", "[\n", "expected a node"⟩) := by
      intro data hdata
      cases hentries.symm.trans hdata
    have hend := hends _ htask (.check hnone) hsettings
    have hcrash : ¬ ∃ crash, Crashes ⟨some ⟨"rules.yaml", "[\n", "expected a node"⟩, [], 0⟩
        (.check r) crash := by
      rintro ⟨_, ⟨hfile, h⟩ | ⟨hfile, h, _⟩ | ⟨hdata, _, _⟩ | ⟨_, hdata, _, _, _⟩⟩
      · cases hfile
        cases hbroken.symm.trans h
      · cases hfile
        cases hbroken.symm.trans h
      · cases hentries.symm.trans hdata
      · cases hentries.symm.trans hdata
    have hload : (Configuration.load (some ⟨"rules.yaml", "[\n", "expected a node"⟩) []).value =
        .error (.undecodable "rules.yaml" "expected a node") :=
      Configuration.load_value_eq_error_iff.mpr (.unusable rfl hunusable)
    obtain ⟨-, log, message, hrun, hlog, htells⟩ := hend.refused hcrash _ hload
    have hshown : log = "" := hlog
    subst hshown
    cases htells with
    | undecodable path complaint =>
      have hquoted : Text.quoted "rules.yaml" = "'rules.yaml'" := by decide +kernel
      rw [hrun, hquoted, withoutControls_eq_self (by decide), String.ofList_toList]
      rfl
  · obtain ⟨-, hexpired, hends⟩ := configuration_reported_or_crashes
      (withFile "rules.yaml" "" ["expired", "-l", "2024-02-29"])
    have hempty : Yaml.read "" = .ok .null := by with_unfolding_all rfl
    have hentries : Configuration.entries (some ⟨"rules.yaml", "", "expected a node"⟩) =
        .ok [] := by
      unfold Configuration.entries
      simp only [hempty]
      rfl
    have hsettings : Settings.load [] [] = .ok ⟨"", none⟩ := rfl
    have hdate : readCivilTime? "2024-02-29" = some ⟨2024, 2, 29, 0, 0, 0, 0⟩ := by decide +kernel
    have htask := hexpired "rules.yaml" "" _ _ rfl (file?_withFile ..) hdate fun _ _ => rfl
    have honly : Configuration.SettingsOnly (some ⟨"rules.yaml", "", "expected a node"⟩) := by
      intro data hdata
      cases hentries.symm.trans hdata
      rfl
    have hend := hends _ htask (.expired rfl) honly
    have hcrash : ¬ ∃ crash, Crashes ⟨some ⟨"rules.yaml", "", "expected a node"⟩, [], 0⟩
        (.expired ⟨none, ⟨2024, 2, 29, 0, 0, 0, 0⟩⟩) crash := by
      rintro ⟨_, ⟨hfile, h⟩ | ⟨hfile, h, _⟩ | ⟨hdata, h, _⟩ | ⟨hcheck, _, _, _, _⟩⟩
      · cases hfile
        cases hempty.symm.trans h
      · cases hfile
        cases hempty.symm.trans h
      · cases hentries.symm.trans hdata
        cases hsettings.symm.trans h
      · cases hcheck
    have hload : (Configuration.load (some ⟨"rules.yaml", "", "expected a node"⟩) []).value =
        .ok ⟨"", none⟩ := Configuration.load_value_eq_ok_iff.mpr ⟨[], hentries, hsettings⟩
    exact hend.accepted hcrash _ hload

/-- The keys of a record; there are none of anything else. -/
def keysOf : Value → List Scalar
  | .record entries => entries.map Prod.fst
  | _ => []

/-- A file whose keys are no texts is not told. -/
theorem key_not_text_crashes :
    (withFile "rules.yaml" "1: 2\n" ["check", "--password", "x"]).run = .crashed .keysNotText := by
  have hmap : (Yaml.read "1: 2\n").map keysOf = .ok [.int 1] := by decide +kernel
  obtain ⟨value, hread, hkeys⟩ := Specification.exists_ok_of_map hmap
  obtain ⟨r, hnone, -, htask⟩ := @task_checkConfigured (withFile "rules.yaml" "1: 2\n" ["check",
    "--password", "x"]) "rules.yaml" "1: 2\n" "x" rfl (file?_withFile ..) fun _ _ => rfl
  cases value with
  | record entries =>
    -- the only key is a number
    have hmem : Scalar.int 1 ∈ keysOf (.record entries) := hkeys ▸ List.mem_singleton_self _
    obtain ⟨entry, hentry, hkey⟩ := List.mem_map.mp hmem
    exact run_of_crashes htask (.check hnone)
      (.keysNotText rfl hread ⟨entry, hentry, by rw [hkey]; rfl⟩)
  | _ => cases hkeys

end PasswordPolicy.Console
