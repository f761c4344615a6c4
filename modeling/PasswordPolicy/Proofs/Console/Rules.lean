import PasswordPolicy.Proofs.Console.Independence

/-!
# Rules by an option and by a variable

Rules that the command line gives make the configuration irrelevant, and rules that a variable of
the settings gives act exactly like the option. The two ways are not alike inside: a variable is
read, checked as a setting and read once more for its policy, and the log tells of it. What is
printed and how the program ends is the same, as both come to the policy of the specification.

* **`configuredRules_of_variable`**: the policy by a variable.
* **`readsRules_check`**, **`readsRules_expired`**: a command with the option and without it.
* **`rules_by_option_and_by_variable`**: both ways, and what they make irrelevant.
-/

namespace PasswordPolicy

/-! ### The policy by a variable -/

namespace Environment

variable {env : Environment} {written text : String}

/-- A variable that names the rules does not name the policy. -/
theorem not_namesPolicy_of_namesRules {name : String} (h : NamesRules name) :
    ¬ NamesPolicy name := by
  unfold NamesPolicy
  rcases h with h | h
  · rw [h]
    decide
  · rw [h]
    decide

/-- What a variable that is the only one for the settings gives to the names of the
specification. -/
theorem SetsOnly.gives (honly : SetsOnly env written text) {name : String}
    (hname : name = "rules" ∨ name = "password_rules_rules") :
    Gives env name (if lowerName written = name then some text else none) := by
  have hother (later : String) (hlater : ¬ NamesRules later) : lowerName later ≠ name :=
    fun heq => hlater (hname.imp heq.trans heq.trans)
  by_cases hwritten : lowerName written = name
  · rw [if_pos hwritten]
    obtain ⟨front, back, rfl, hnone⟩ := honly
    exact .value rfl hwritten fun later hlater =>
      hother later.1 (hnone later (List.mem_append_right _ hlater)).1
  · rw [if_neg hwritten]
    exact .nothing (honly.forall_mem (P := fun other => lowerName other ≠ name) hwritten
      fun other hrules _ => hother other hrules)

end Environment

namespace Console

variable {env : Environment} {written s : String} {p : Policy}

/-- The settings by a variable for the specification, if it is the only one for them. All other
variables name no setting, and there are no data, so the text of this one is the specification. -/
theorem load_of_variable (honly : env.SetsOnly written s) (hname : Environment.NamesRules written)
    (h : Policy.ofSpecification s = .ok p) : Settings.load [] env = .ok ⟨s, none⟩ := by
  have hpolicy : ∀ entry ∈ env, ¬ Environment.NamesPolicy entry.1 :=
    honly.forall_mem (Environment.not_namesPolicy_of_namesRules hname) fun _ _ h => h
  have htop : Settings.topmost
      (if Environment.lowerName written = "rules" then some s else none)
      (if Environment.lowerName written = "password_rules_rules" then some s else none) none =
        .text s := by
    rcases hname with hname | hname
    · rw [if_pos hname]
      rfl
    · rw [if_pos hname, hname]
      rfl
  have hload := Settings.load_entryOf_rules none (honly.gives (.inl rfl)) (honly.gives (.inr rfl))
    hpolicy
  rw [htop, Settings.load_rules h] at hload
  exact hload

/-- **The policy by a variable** is that of the specification. It does not matter which of the two
names the variable has, nor in which case of letters it is written. -/
theorem configuredRules_of_variable (honly : env.SetsOnly written s)
    (hname : Environment.NamesRules written) (h : Policy.ofSpecification s = .ok p) (clock : Int) :
    (configuredRules ⟨none, env, clock⟩).value = .ok p := by
  have hload := load_of_variable honly hname h
  have hvalue : (Configuration.load none env).value = .ok ⟨s, none⟩ :=
    Configuration.load_value_eq_ok_iff.mpr ⟨[], rfl, hload⟩
  rw [@configuredRules_of_ok ⟨none, env, clock⟩ p _ hvalue h]

/-! ### Arguments with rules and without -/

/-- The arguments of a command without the rules. -/
def withoutRules (a : Arguments) : Arguments :=
  ⟨a.options.filter fun option => option.1 != "rules", a.operands⟩

/-- Neither arguments of a command can be used, or the second give the rules `s`, the first give
none, and otherwise they are the same. -/
inductive AddsRulesTo (choices : List Choice) (s : String) (args args' : List String) : Prop
  | misused (h : split choices true args = .error .misused)
      (h' : split choices true args' = .error .misused)
  | adds {a b : Arguments} (ha : split choices true args = .ok a)
      (hb : split choices true args' = .ok b) (hsame : withoutRules a = withoutRules b)
      (hnone : a.last? "rules" = none) (hsome : b.last? "rules" = some s)

/-- Two command lines of `check` or `expired` that differ by the rules `s`. -/
inductive AddsRules (s : String) (arguments arguments' : List String) : Prop
  | check {options : List (String × String)} {args args' : List String}
      (h : split generalChoices false arguments = .ok ⟨options, "check" :: args⟩)
      (h' : split generalChoices false arguments' = .ok ⟨options, "check" :: args'⟩)
      (hadds : AddsRulesTo checkChoices s args args')
  | expired {options : List (String × String)} {args args' : List String}
      (h : split generalChoices false arguments = .ok ⟨options, "expired" :: args⟩)
      (h' : split generalChoices false arguments' = .ok ⟨options, "expired" :: args'⟩)
      (hadds : AddsRulesTo expiredChoices s args args')

section

variable {a b : Arguments}

theorem last?_of_withoutRules (h : withoutRules a = withoutRules b) {key : String}
    (hkey : key ≠ "rules") : a.last? key = b.last? key := by
  have hkept : (key != "rules") = true := by simpa using hkey
  have hwithout (c : Arguments) : (withoutRules c).last? key = c.last? key :=
    @Arguments.last?_filter c (fun key => key != "rules") key hkept
  rw [← hwithout a, h, hwithout b]

theorem operands_of_withoutRules (h : withoutRules a = withoutRules b) :
    a.operands = b.operands := by
  have hwithout : (withoutRules a).operands = (withoutRules b).operands := by rw [h]
  exact hwithout

theorem all_of_withoutRules (h : withoutRules a = withoutRules b) {key : String}
    (hkey : key ≠ "rules") : a.all key = b.all key := by
  have hkept : (key != "rules") = true := by simpa using hkey
  have hwithout (c : Arguments) : (withoutRules c).all key = c.all key :=
    @Arguments.all_filter c (fun key => key != "rules") key hkept
  rw [← hwithout a, h, hwithout b]

end

/-! ### Reading them -/

/-- Two ways to read a command: as the same one without a need for the configuration, or as a
command that goes by the configuration and the same one with the rules `s`. -/
inductive ReadsRules (s : String) :
    (read read' : Except UsageError ReadCommand) → Prop
  | same {read : Except UsageError ReadCommand}
      (h : ∀ command, read = .ok command → ¬ command.command.IsConfigured) : ReadsRules s read read
  | check {printed : String} {r : CheckRequest} (h : r.rules = none) :
      ReadsRules s (.ok ⟨printed, .check r⟩) (.ok ⟨printed, .check { r with rules := some s }⟩)
  | expired {printed : String} {r : AgeRequest} (h : r.rules = none) :
      ReadsRules s (.ok ⟨printed, .expired r⟩) (.ok ⟨printed, .expired { r with rules := some s }⟩)

/-- A page of help, an end of the input and a misuse do not need the configuration. -/
theorem ReadsRules.help (s printed usage : String) :
    ReadsRules s (.ok ⟨printed, .help usage⟩) (.ok ⟨printed, .help usage⟩) := by
  refine .same fun command h => ?_
  cases h
  nofun

theorem ReadsRules.abort (s printed : String) :
    ReadsRules s (.ok ⟨printed, .abort⟩) (.ok ⟨printed, .abort⟩) := by
  refine .same fun command h => ?_
  cases h
  nofun

theorem ReadsRules.misused (s : String) : ReadsRules s (.error .misused) (.error .misused) :=
  .same nofun

/-- The two command lines are read or misused together. -/
theorem ReadsRules.isOk_eq {read read' : Except UsageError ReadCommand}
    (h : ReadsRules s read read') : read.isOk = read'.isOk := by
  cases h with
  | same _ => rfl
  | check _ => rfl
  | expired _ => rfl

section

variable {args args' : List String}

/-- **A check with the option and without it.** All other options are the same, so the two ask for
the same password and make requests that differ in the rules only. -/
theorem readsRules_check (h : AddsRulesTo checkChoices s args args')
    (hspec : variableValue? env (variableName ["CHECK"] "SPEC") = none) (input : String) :
    ReadsRules s (readCheck args env input) (readCheck args' env input) := by
  cases h with
  | misused ha hb =>
    rw [readCheck_of_error ha, readCheck_of_error hb]
    exact .misused s
  | @adds a b ha hb hsame hnone hsome =>
    have hhelp : isRequested a "help" = isRequested b "help" :=
      congrArg Option.isSome (last?_of_withoutRules hsame (by decide))
    have hpassword : givenPassword a env input = givenPassword b env input := by
      rw [givenPassword, givenPassword, optionValue?, optionValue?,
        last?_of_withoutRules hsame (by decide)]
    have hrules (password : String) : (givenRequest a env password).rules = none := by
      rw [givenRequest, optionValue?, hnone, hspec]
      rfl
    -- the two requests differ in the rules alone
    have hrequest (password : String) : givenRequest b env password =
        { givenRequest a env password with rules := some s } := by
      have hprevious : givenPrevious a env = givenPrevious b env := by
        rw [givenPrevious, givenPrevious, isRequested, isRequested,
          last?_of_withoutRules hsame (by decide), all_of_withoutRules hsame (by decide)]
      have huser : optionValue? a env "user" (variableName ["CHECK"] "USER") =
          optionValue? b env "user" (variableName ["CHECK"] "USER") := by
        rw [optionValue?, optionValue?, last?_of_withoutRules hsame (by decide)]
      rw [givenRequest, givenRequest, hprevious, huser, optionValue?, hsome]
      rfl
    -- with the same options the two are read step by step
    rw [readCheck_eq ha, readCheck_eq hb, hhelp, hpassword, operands_of_withoutRules hsame]
    cases isRequested b "help" with
    | true => exact .help ..
    | false =>
      simp only [Bool.false_eq_true, if_false]
      cases (givenPassword b env input).answer with
      | none => exact .abort ..
      | some password =>
        cases b.operands.isEmpty with
        | false => exact .misused s
        | true =>
          simp only [if_true, hrequest]
          exact .check (hrules password)

/-- **A check of an age with the option and without it.** All other options are the same, so the two
requests differ in the rules only. -/
theorem readsRules_expired (h : AddsRulesTo expiredChoices s args args')
    (hspec : variableValue? env (variableName ["EXPIRED"] "SPEC") = none) :
    ReadsRules s (readExpired args env) (readExpired args' env) := by
  cases h with
  | misused ha hb =>
    rw [readExpired_of_error ha, readExpired_of_error hb]
    exact .misused s
  | @adds a b ha hb hsame hnone hsome =>
    have hhelp : isRequested a "help" = isRequested b "help" :=
      congrArg Option.isSome (last?_of_withoutRules hsame (by decide))
    have hlast : optionValue? a env "last-changed" (variableName ["EXPIRED"] "LAST_CHANGED") =
        optionValue? b env "last-changed" (variableName ["EXPIRED"] "LAST_CHANGED") := by
      rw [optionValue?, optionValue?, last?_of_withoutRules hsame (by decide)]
    have hrules : optionValue? a env "rules" (variableName ["EXPIRED"] "SPEC") = none := by
      rw [optionValue?, hnone, hspec]
      rfl
    have hadded : optionValue? b env "rules" (variableName ["EXPIRED"] "SPEC") = some s := by
      rw [optionValue?, hsome]
      rfl
    rw [readExpired_eq ha, readExpired_eq hb, hhelp, hlast, operands_of_withoutRules hsame, hrules,
      hadded]
    cases isRequested b "help" with
    | true => exact .help ..
    | false =>
      simp only [Bool.false_eq_true, if_false]
      cases (optionValue? b env "last-changed"
          (variableName ["EXPIRED"] "LAST_CHANGED")).bind readCivilTime? with
      | none => exact .misused s
      | some lastChanged =>
        cases b.operands with
        | cons operand operands => exact .misused s
        | nil => exact @ReadsRules.expired s "" ⟨none, lastChanged⟩ rfl

end

/-! ### Running them -/

section

variable {inv inv' : Invocation}

/-- Two tasks whose commands are read in two ways, without a configuration file and without the log
shown. -/
theorem ReadsRules.run_eq {read read' : ReadCommand} (h : ReadsRules s (.ok read) (.ok read'))
    (hp : Policy.ofSpecification s = .ok p)
    (hrules : (configuredRules ⟨none, inv.environment, inv.clock⟩).value = .ok p)
    (hclock : inv.clock = inv'.clock) (htask : inv.task = .ok ⟨false, none, read⟩)
    (htask' : inv'.task = .ok ⟨false, none, read'⟩) : inv.run = inv'.run := by
  -- without the log shown, all that is told of the rules is what comes of the policy
  have hjudge {judge : Policy → Report} {rules : Logged (Except Trouble Policy)}
      (hvalue : rules.value = .ok p) (printed : String) :
      ((withRules rules judge).after printed).outcome false =
        ((judge p).after printed).outcome false := by
    unfold withRules
    rw [hvalue]
    rfl
  have hgiven : (givenRules s).value = .ok p := by
    unfold givenRules
    rw [hp]
  rw [run_eq_outcome htask, run_eq_outcome htask']
  cases h with
  | same h =>
    have hreport : inv.report ⟨false, none, read⟩ = inv'.report ⟨false, none, read⟩ :=
      congrArg (Report.after read.printed) (report_eq_of_not_isConfigured (h read rfl) hclock)
    exact congrArg (Report.outcome false) hreport
  | @check printed r hnone =>
    have hfirst : inv.report ⟨false, none, printed, .check r⟩ =
        (withRules (configuredRules ⟨none, inv.environment, inv.clock⟩) (checkReport r)).after
          printed := by
      rw [Invocation.report, Command.report, hnone, resolveRules]
    exact (congrArg (Report.outcome false) hfirst).trans
      ((hjudge hrules printed).trans (hjudge hgiven printed).symm)
  | @expired printed r hnone =>
    have hfirst : inv.report ⟨false, none, printed, .expired r⟩ =
        (withRules (configuredRules ⟨none, inv.environment, inv.clock⟩)
          (ageReport r.lastChanged inv'.clock)).after printed := by
      rw [Invocation.report, Command.report, hnone, resolveRules, ← hclock]
    exact (congrArg (Report.outcome false) hfirst).trans
      ((hjudge hrules printed).trans (hjudge hgiven printed).symm)

end

/-- The variables that can give rules to a command. -/
def rulesVariables : List String := ["PASSWORD_RULES_CHECK_SPEC", "PASSWORD_RULES_EXPIRED_SPEC"]

theorem others_others (env : Environment) : env.others.others = env.others := by
  unfold Environment.others
  rw [List.filter_filter]
  simp

/-- **Rules by a variable act like the option**, if the variable is the only one for the settings,
and there is no configuration file and no log. -/
theorem AddsRules.run_eq {inv : Invocation} {arguments' : List String}
    (hadds : AddsRules s inv.arguments arguments')
    (hspec : ∀ name ∈ rulesVariables, variableValue? inv.environment name = none)
    (hplain : ∀ t, inv.task = .ok t → t.debug = false ∧ t.file = none)
    (honly : inv.environment.SetsOnly written s) (hname : Environment.NamesRules written)
    (hp : Policy.ofSpecification s = .ok p) :
    inv.run =
      Invocation.run
        { inv with arguments := arguments', environment := inv.environment.others } := by
  generalize hinv : ({ inv with arguments := arguments', environment := inv.environment.others } :
    Invocation) = inv'
  -- the variable names a setting, so no option depends on it
  have hoptions : SameOptions inv.environment inv'.environment := by
    rw [← hinv]
    exact sameOptions_of_others (others_others inv.environment).symm
  have hfile : inv.file? = inv'.file? := by rw [← hinv]
  have hcomplaint : inv.complaint = inv'.complaint := by rw [← hinv]
  have hinput : inv.input = inv'.input := by rw [← hinv]
  have hclock : inv.clock = inv'.clock := by rw [← hinv]
  have hrules := configuredRules_of_variable honly hname hp inv.clock
  -- what is left is the same for both commands
  have hrun {options : List (String × String)} {operands operands' : List String}
      (hgeneral : split generalChoices false inv.arguments = .ok ⟨options, operands⟩)
      (hgeneral' : split generalChoices false inv'.arguments = .ok ⟨options, operands'⟩)
      (hread : ReadsRules s (readCommand inv operands) (readCommand inv' operands')) :
      inv.run = inv'.run := by
    have halike := @tasksAlike_taskBy inv inv' ⟨options, []⟩ _ _ hoptions
      (fun path => by rw [hfile]) hread.isOk_eq
    rw [← task_eq hgeneral, ← task_eq hgeneral'] at halike
    generalize htask : inv.task = task, htask' : inv'.task = task' at halike
    cases halike with
    | misused =>
      unfold Invocation.run
      rw [htask, htask']
    -- a help text is printed without looking at any rules
    | help usage => exact (ReadsRules.help s "" usage).run_eq hp hrules hclock htask htask'
    | does hok hok' hsame =>
      obtain ⟨rfl, rfl⟩ := hplain _ htask
      cases hsame ⟨hfile, hcomplaint⟩
      rw [hok, hok'] at hread
      exact hread.run_eq hp hrules hclock htask htask'
  have harguments : inv'.arguments = arguments' := by rw [← hinv]
  rw [← harguments] at hadds
  cases hadds with
  | @check options args args' h h' hadds =>
    apply hrun h h'
    show ReadsRules s (readCheck args inv.environment inv.input)
      (readCheck args' inv'.environment inv'.input)
    rw [← hoptions.readCheck_eq, ← hinput]
    exact readsRules_check hadds (hspec _ (by decide)) inv.input
  | @expired options args args' h h' hadds =>
    apply hrun h h'
    show ReadsRules s (readExpired args inv.environment) (readExpired args' inv'.environment)
    rw [← hoptions.readExpired_eq]
    exact readsRules_expired hadds (hspec _ (by decide))

/-! ### Command lines -/

/-- The arguments after some more options in front. -/
def addOptions (first : List (String × String)) (a : Arguments) : Arguments :=
  ⟨first ++ a.options, a.operands⟩

theorem addFlags_eq (keys : List String) (a : Arguments) :
    addFlags keys a = addOptions (keys.map fun key => (key, "")) a := by
  induction keys with
  | nil => rfl
  | cons key keys ih =>
    show (addFlags keys a).addOption key "" = _
    rw [ih]
    rfl

/-- Flags that are written together with an option that takes a value are put in front of it. -/
theorem addFlags_addOption (keys : List String) (key value : String) (a : Arguments) :
    addFlags keys (a.addOption key value) =
      addOptions ((keys.map fun key => (key, "")) ++ [(key, value)]) a := by
  rw [addFlags_eq]
  unfold addOptions
  rw [List.append_assoc]
  rfl

/-- Options are added whatever operands there are. So a list of options can be read in two parts. -/
theorem map_addOptions {first options : List (String × String)} {operands : List String}
    {read read' : Except UsageError Arguments}
    (h : read.map (addOptions first) = .ok ⟨options, []⟩)
    (hread : ∀ {options}, read = .ok ⟨options, []⟩ → read' = .ok ⟨options, operands⟩) :
    read'.map (addOptions first) = .ok ⟨options, operands⟩ := by
  cases hfirst : read with
  | error e =>
    rw [hfirst] at h
    cases h
  | ok a =>
    obtain ⟨more, rest⟩ := a
    rw [hfirst] at h
    obtain ⟨rfl, rfl⟩ := Arguments.mk.inj (Except.ok.inj h)
    rw [hread hfirst]
    rfl

/-- The first argument that is no option ends the options, where they must come first. -/
theorem split_operand (choices : List Choice) {arg : String} (harg : arg.toList.head? ≠ some '-')
    (rest : List String) : split choices false (arg :: rest) = .ok ⟨[], arg :: rest⟩ := by
  have hdashes : ¬ (arg == "--") = true := by
    intro heq
    rw [beq_iff_eq.mp heq] at harg
    exact harg rfl
  unfold split
  rw [if_neg hdashes]
  split
  · next heq =>
    rw [heq] at harg
    exact absurd rfl harg
  · rfl

section

variable {choices : List Choice} {mixed : Bool} {arg : String} {c : Char} {more : List Char}
  {keys : List String}

/-- An argument of flags only puts them in front of what the rest gives. -/
theorem split_flags (hdashes : ¬ (arg == "--") = true) (hlist : arg.toList = '-' :: c :: more)
    (hoption : readOption choices arg.toList = .ok (.flags keys)) (rest : List String) :
    split choices mixed (arg :: rest) =
      (split choices mixed rest).map (addOptions (keys.map fun key => (key, ""))) := by
  rw [← funext (addFlags_eq keys)]
  rw [hlist] at hoption
  conv_lhs => unfold split
  rw [if_neg hdashes]
  simp only [hlist, hoption]

/-- An option with its value attached puts both in front of what the rest gives. -/
theorem split_attached {key value : String} (hdashes : ¬ (arg == "--") = true)
    (hlist : arg.toList = '-' :: c :: more)
    (hoption : readOption choices arg.toList = .ok (.valued keys key (some value)))
    (rest : List String) : split choices mixed (arg :: rest) = (split choices mixed rest).map
      (addOptions ((keys.map fun key => (key, "")) ++ [(key, value)])) := by
  rw [← funext (addFlags_addOption keys key value)]
  rw [hlist] at hoption
  conv_lhs => unfold split
  rw [if_neg hdashes]
  simp only [hlist, hoption]

/-- An option whose value is the next argument takes that argument away from the rest. -/
theorem split_following {key : String} (hdashes : ¬ (arg == "--") = true)
    (hlist : arg.toList = '-' :: c :: more)
    (hoption : readOption choices arg.toList = .ok (.valued keys key none)) (value : String)
    (rest : List String) : split choices mixed (arg :: value :: rest) =
      (split choices mixed rest).map
        (addOptions ((keys.map fun key => (key, "")) ++ [(key, value)])) := by
  rw [← funext (addFlags_addOption keys key value)]
  rw [hlist] at hoption
  conv_lhs => unfold split
  rw [if_neg hdashes]
  simp only [hlist, hoption]

end

/-- An argument that names no option ends the general options. What follows it is left for the
command, options included. -/
theorem split_general {general : List String} {options : List (String × String)}
    (h : split generalChoices false general = .ok ⟨options, []⟩) {command : String}
    (hcommand : command.toList.head? ≠ some '-') (args : List String) :
    split generalChoices false (general ++ command :: args) = .ok ⟨options, command :: args⟩ := by
  -- the options in front are all read, and so the command is found behind them
  fun_induction split generalChoices false general generalizing options with
  | case1 =>
    cases h
    exact split_operand generalChoices hcommand args
  | case2 arg rest hdashes =>
    cases h
    unfold split
    exact if_pos hdashes
  | case4 arg hdashes c more hlist keys rest hoption ih =>
    rw [funext (addFlags_eq keys)] at h
    rw [List.cons_append, split_flags hdashes hlist hoption]
    exact map_addOptions h ih
  | case5 arg hdashes c more hlist keys key value rest hoption ih =>
    rw [funext (addFlags_addOption keys key value)] at h
    rw [List.cons_append, split_attached hdashes hlist hoption]
    exact map_addOptions h ih
  | case6 arg hdashes c more hlist keys key value rest hoption ih =>
    rw [funext (addFlags_addOption keys key value)] at h
    rw [List.cons_append, List.cons_append, split_following hdashes hlist hoption]
    exact map_addOptions h ih
  | case8 arg rest hdashes hmixed => cases hmixed
  | _ => cases h

/-- The option that gives rules, with its value behind an equals sign. It does not matter what is in
the value: it is not looked at for dashes or further equals signs. -/
theorem split_rules {choices : List Choice}
    (hchoices : choices = checkChoices ∨ choices = expiredChoices) (s : String)
    (args : List String) : split choices true (("--rules=" ++ s) :: args) =
      (split choices true args).map (addOptions [("rules", s)]) := by
  have hlist : ("--rules=" ++ s).toList = '-' :: '-' :: ("rules=".toList ++ s.toList) := by
    rw [String.toList_append]
    rfl
  have hdashes : ¬ (("--rules=" ++ s) == "--") = true := by
    intro heq
    have htoList := congrArg String.toList (beq_iff_eq.mp heq)
    rw [hlist] at htoList
    cases htoList
  -- the text behind the first equals sign is the value, even if there are more of them
  have hequals : splitEquals ("--rules=" ++ s).toList = ("--rules", some s) := by
    rw [hlist]
    show (String.ofList "--rules".toList, some (String.ofList s.toList)) = _
    rw [@String.ofList_toList s]
    rfl
  have hoption : readOption choices ("--rules=" ++ s).toList =
      .ok (.valued [] "rules" (some s)) := by
    unfold readOption
    rw [hequals]
    rcases hchoices with rfl | rfl
    · rfl
    · rfl
  exact split_attached hdashes hlist hoption args

/-- The arguments of a command give no rules. -/
def LeavesRules (choices : List Choice) (args : List String) : Prop :=
  ∀ a, split choices true args = .ok a → isRequested a "rules" = false

/-- Where no rules are given, giving them first adds just these. -/
theorem LeavesRules.addsRulesTo {choices : List Choice} {args : List String}
    (h : LeavesRules choices args) (hchoices : choices = checkChoices ∨ choices = expiredChoices)
    (s : String) : AddsRulesTo choices s args (("--rules=" ++ s) :: args) := by
  have hrules := split_rules hchoices s args
  cases hsplit : split choices true args with
  | error e =>
    rw [hsplit] at hrules
    exact .misused hsplit hrules
  | ok a =>
    rw [hsplit] at hrules
    have hnone : a.last? "rules" = none := by
      have hgiven := h a hsplit
      rw [isRequested] at hgiven
      simpa using hgiven
    -- the options in front of the others do not matter for any key but their own
    refine .adds hsplit hrules ?_ hnone ?_
    · show withoutRules a = ⟨([("rules", s)] ++ a.options).filter _, a.operands⟩
      rw [List.filter_append]
      rfl
    · unfold Arguments.last? at hnone ⊢
      show (((("rules", s) :: a.options).findRev? _).map _) = _
      rw [Option.map_eq_none_iff] at hnone
      rw [List.findRev?, hnone]
      rfl

/-- A general command line of `check`, with the option in front of the other arguments. -/
theorem addsRules_check {general args : List String} {options : List (String × String)}
    (h : split generalChoices false general = .ok ⟨options, []⟩)
    (hargs : LeavesRules checkChoices args) (s : String) :
    AddsRules s (general ++ "check" :: args) (general ++ "check" :: ("--rules=" ++ s) :: args) :=
  .check (split_general h (by decide) args) (split_general h (by decide) _)
    (hargs.addsRulesTo (.inl rfl) s)

/-- Rules can be added right behind the name of the command, in front of its other arguments. -/
theorem addsRules_expired {general args : List String} {options : List (String × String)}
    (h : split generalChoices false general = .ok ⟨options, []⟩)
    (hargs : LeavesRules expiredChoices args) (s : String) :
    AddsRules s (general ++ "expired" :: args)
      (general ++ "expired" :: ("--rules=" ++ s) :: args) :=
  .expired (split_general h (by decide) args) (split_general h (by decide) _)
    (hargs.addsRulesTo (.inr rfl) s)

/-- **Rules by an option and by a variable.** A run of `format`, and a run of `check` or `expired`
that gives rules, is the same whatever existing files hold and whatever the variables of the
settings are set to. A run of `check` or `expired` that gives no rules, with a variable for the
specification as the only variable of the settings, and without a configuration file and the log
shown, is the same as the run with the option and without the variable, if the specification is
accepted. The command line with the option can be any that is the same otherwise; one that has it
right behind the command is. -/
theorem rules_by_option_and_by_variable :
    (∀ inv inv' : Invocation, RulesGiven inv.arguments → SameButSettings inv inv' →
      inv.run = inv'.run) ∧
      (∀ (s : String) (general args : List String) (options : List (String × String)),
        split generalChoices false general = .ok ⟨options, []⟩ →
          (LeavesRules checkChoices args → AddsRules s (general ++ "check" :: args)
            (general ++ "check" :: ("--rules=" ++ s) :: args)) ∧
          (LeavesRules expiredChoices args → AddsRules s (general ++ "expired" :: args)
            (general ++ "expired" :: ("--rules=" ++ s) :: args))) ∧
      ∀ (inv : Invocation) (arguments' : List String) (written s : String) (p : Policy),
        AddsRules s inv.arguments arguments' →
        (∀ name ∈ rulesVariables, variableValue? inv.environment name = none) →
        (∀ t, inv.task = .ok t → t.debug = false ∧ t.file = none) →
        inv.environment.SetsOnly written s → Environment.NamesRules written →
        Policy.ofSpecification s = .ok p → inv.run = Invocation.run
          { inv with arguments := arguments', environment := inv.environment.others } := by
  refine ⟨fun inv inv' hrules hsame => hsame.run_eq fun t => hrules.not_isConfigured,
    fun s general args options h => ⟨fun hargs => addsRules_check h hargs s,
      fun hargs => addsRules_expired h hargs s⟩,
    fun inv arguments' written s p hadds hspec hplain honly hname hp => ?_⟩
  exact hadds.run_eq hspec hplain honly hname hp

/-- Least lengths by the variable and by the option; and a rule that is written, beside a broken
file and a malformed policy, and without them. -/
theorem rules_by_option_and_by_variable_of_least_lengths :
    Invocation.run { bare ["check", "--password", "secret"] with
        environment := [("HOME", "/"), ("PASSWORD_RULES_RULES", "length>=8")] } =
      Invocation.run { bare ["check", "--rules=length>=8", "--password", "secret"] with
        environment := [("HOME", "/")] } ∧
      Invocation.run { withFile "rules.yaml" "[\n" ["format", "length>=08"] with
        environment := [("PASSWORD_RULES_POLICY", "none")] } =
      Invocation.run (withFile "rules.yaml" "rules: length>=9\n" ["format", "length>=08"]) := by
  obtain ⟨hsame, hlines, hvariable⟩ := rules_by_option_and_by_variable
  constructor
  · have hleaves : LeavesRules checkChoices ["--password", "secret"] := by
      intro a ha
      cases ha
      rfl
    have honly : Environment.SetsOnly [("HOME", "/"), ("PASSWORD_RULES_RULES", "length>=8")]
        "PASSWORD_RULES_RULES" "length>=8" := ⟨[("HOME", "/")], [], rfl, by decide +kernel⟩
    have hothers : Environment.others
        [("HOME", "/"), ("PASSWORD_RULES_RULES", "length>=8")] = [("HOME", "/")] := by
      decide +kernel
    have hadds := (hlines "length>=8" [] ["--password", "secret"] [] rfl).1 hleaves
    have hplain (t : Task) (ht : Invocation.task { bare ["check", "--password", "secret"] with
        environment := [("HOME", "/"), ("PASSWORD_RULES_RULES", "length>=8")] } = .ok t) :
        t.debug = false ∧ t.file = none := by
      cases ht
      exact ⟨rfl, rfl⟩
    have hrun := hvariable { bare ["check", "--password", "secret"] with
      environment := [("HOME", "/"), ("PASSWORD_RULES_RULES", "length>=8")] } _ _ "length>=8" _
      hadds (by decide) hplain honly (by decide +kernel) Specification.ofSpecification_least_eight
    rw [hothers] at hrun
    exact hrun
  · refine hsame _ _ (.format rfl) ⟨rfl, rfl, by decide +kernel, fun path => ?_, rfl⟩
    show (if path = "rules.yaml" then some _ else none).isSome =
      (if path = "rules.yaml" then some _ else none).isSome
    split <;> rfl

end Console

end PasswordPolicy
