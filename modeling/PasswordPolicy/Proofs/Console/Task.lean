import PasswordPolicy.Console.Invocation

/-!
# The task of a command line

What a command line that names a command amounts to: a request to the command, a page of help, a
password that was asked for in vain, or arguments that cannot be used.

* **`readCheck_eq`**, **`readExpired_eq`**, **`readFormat_eq`**: reading the arguments of a command.
* **`task_eq`**: reading the general arguments.
* **`task_checkLine`**: the command line of a check that gives everything by long names.
-/

namespace PasswordPolicy.Console

/-! ### The arguments of `check` -/

/-- The password that arguments or a variable give, or else the one that is asked for. -/
def givenPassword (a : Arguments) (env : Environment) (input : String) : Prompted :=
  match optionValue? a env "password" (variableName ["CHECK"] "PASSWORD") with
  | some password => .known password
  | none => .ask (linesOf input)

/-- The earlier passwords that arguments give, or else a variable. -/
def givenPrevious (a : Arguments) (env : Environment) : List String :=
  if isRequested a "previous" then a.all "previous"
  else
    let listed := (variableValue? env (variableName ["CHECK"] "PREVIOUS")).getD ""
    (Unicode.words listed.toList).map String.ofList

/-- The request to check a password that arguments and variables describe otherwise. -/
def givenRequest (a : Arguments) (env : Environment) (password : String) : CheckRequest where
  rules := optionValue? a env "rules" (variableName ["CHECK"] "SPEC")
  user := optionValue? a env "user" (variableName ["CHECK"] "USER")
  previous := givenPrevious a env
  password := password

section

variable {args : List String} {env : Environment} {input : String} {a : Arguments}

/-- Arguments that cannot be split into options and operands are refused before anything else is
looked at. -/
theorem readCheck_of_error {e : UsageError} (h : split checkChoices true args = .error e) :
    readCheck args env input = .error e := by
  rw [readCheck, h]
  rfl

/-- How `check` reads its arguments: a wish for help comes first, then the password, which may have
to be asked for, and only then it is an error that there are operands. -/
theorem readCheck_eq (h : split checkChoices true args = .ok a) : readCheck args env input =
    if isRequested a "help" then .ok ⟨"", .help "Usage: password-rules check [OPTIONS]"⟩
    else match (givenPassword a env input).answer with
      | none => .ok ⟨(givenPassword a env input).printed, .abort⟩
      | some password =>
        if a.operands.isEmpty then
          .ok ⟨(givenPassword a env input).printed, .check (givenRequest a env password)⟩
        else .error .misused := by
  rw [readCheck, h]
  rfl

end

/-! ### The arguments of the other commands -/

section

variable {args : List String} {env : Environment} {a : Arguments}

/-- The same for `expired`, -/
theorem readExpired_of_error {e : UsageError} (h : split expiredChoices true args = .error e) :
    readExpired args env = .error e := by
  rw [readExpired, h]
  rfl

/-- which needs a date that can be read and takes no operands. -/
theorem readExpired_eq (h : split expiredChoices true args = .ok a) : readExpired args env =
    if isRequested a "help" then .ok ⟨"", .help "Usage: password-rules expired [OPTIONS]"⟩
    else match (optionValue? a env "last-changed"
        (variableName ["EXPIRED"] "LAST_CHANGED")).bind readCivilTime?, a.operands with
      | some lastChanged, [] => .ok ⟨"", .expired
        ⟨optionValue? a env "rules" (variableName ["EXPIRED"] "SPEC"), lastChanged⟩⟩
      | _, _ => .error .misused := by
  rw [readExpired, h]
  rfl

/-- The same for `format`, -/
theorem readFormat_of_error {e : UsageError} (h : split formatChoices true args = .error e) :
    readFormat args env = .error e := by
  rw [readFormat, h]
  rfl

/-- which takes exactly one operand, the specification, and a flag. -/
theorem readFormat_eq (h : split formatChoices true args = .ok a) : readFormat args env =
    if isRequested a "help" then .ok ⟨"", .help "Usage: password-rules format [OPTIONS] SPEC"⟩
    else match flagValue a env "fields" "no-fields" (variableName ["FORMAT"] "FIELDS"),
        a.operands with
      | .ok asFields, [specification] => .ok ⟨"", .format ⟨specification, asFields⟩⟩
      | _, _ => .error .misused := by
  rw [readFormat, h]
  show (if isRequested a "help" then _ else
    (flagValue a env "fields" "no-fields" (variableName ["FORMAT"] "FIELDS")).bind _) = _
  cases isRequested a "help" with
  | true => rfl
  | false =>
    cases flagValue a env "fields" "no-fields" (variableName ["FORMAT"] "FIELDS") with
    | error e => rfl
    | ok asFields =>
      -- one operand is a specification, any other number is refused
      rcases a.operands with _ | ⟨specification, _ | ⟨second, more⟩⟩
      · rfl
      · rfl
      · rfl

end

/-! ### General arguments -/

/-- The task by general options, once the command has been read. -/
def taskBy (inv : Invocation) (a : Arguments) (read : Except UsageError ReadCommand) :
    Except UsageError Task :=
  if isRequested a "help" then
    .ok ⟨false, none, "", .help "Usage: password-rules [OPTIONS] COMMAND [ARGS]..."⟩
  else
    match flagValue a inv.environment "debug" "no-debug" (variableName [] "DEBUG"),
      readFile inv a, read with
    | .ok debug, .ok file, .ok command => .ok ⟨debug, file, command⟩
    | _, _, _ => .error .misused

/-- **The general options come first**, and each of the steps can find that the arguments cannot be
used. What stands behind them does not matter to them. -/
theorem task_eq {inv : Invocation} {options : List (String × String)} {operands : List String}
    (h : split generalChoices false inv.arguments = .ok ⟨options, operands⟩) :
    inv.task = taskBy inv ⟨options, []⟩ (readCommand inv operands) := by
  have htask : inv.task = inv.taskOf ⟨options, operands⟩ := by
    rw [Invocation.task, h]
    rfl
  have hoptions : isRequested ⟨options, operands⟩ "help" = isRequested ⟨options, []⟩ "help" := rfl
  rw [htask]
  unfold Invocation.taskOf taskBy
  rw [hoptions]
  -- the steps fail one after the other on the one side and are matched together on the other
  cases isRequested ⟨options, []⟩ "help" with
  | true => rfl
  | false =>
    show (flagValue ⟨options, []⟩ inv.environment "debug" "no-debug" (variableName [] "DEBUG")).bind
      (fun debug => (readFile inv ⟨options, []⟩).bind fun file =>
        (readCommand inv operands).bind fun command => .ok (Task.mk debug file command)) = _
    cases flagValue ⟨options, []⟩ inv.environment "debug" "no-debug" (variableName [] "DEBUG") with
    | error e => rfl
    | ok debug =>
      cases readFile inv ⟨options, []⟩ with
      | error e => rfl
      | ok file =>
        cases readCommand inv operands with
        | error e => rfl
        | ok command => rfl

/-- The variables that can give general options. -/
def generalVariables : List String := ["PASSWORD_RULES_DEBUG", "PASSWORD_RULES_CONFIG"]

/-- Without variables for them, and with no option but the one that shows the log, the general
options name no file. -/
theorem taskBy_plain {inv : Invocation} {read : Except UsageError ReadCommand}
    {command : ReadCommand} (debug : Bool)
    (hvariables : ∀ name ∈ generalVariables, variableValue? inv.environment name = none)
    (hread : read = .ok command) :
    taskBy inv ⟨if debug then [("debug", "")] else [], []⟩ read = .ok ⟨debug, none, command⟩ := by
  have hdebug : variableValue? inv.environment (variableName [] "DEBUG") = none :=
    hvariables _ (by decide)
  have hconfig : variableValue? inv.environment (variableName [] "CONFIG") = none :=
    hvariables _ (by decide)
  unfold taskBy flagValue readFile namedFile? optionValue?
  rw [hread, hdebug, hconfig]
  cases debug <;> rfl

/-- Once the task is known, a run is nothing but its report, shown with the log or without it. -/
theorem run_eq_outcome {inv : Invocation} {t : Task} (h : inv.task = .ok t) :
    inv.run = (inv.report t).outcome t.debug := by
  unfold Invocation.run
  rw [h]

/-! ### A command line by long names -/

/-- A long name that takes a value is read together with the argument behind it, and the rest is
read as if the two were not there. -/
theorem split_valued {name key : String} (rest : List String) (value : String)
    (h : (name, key) ∈ [("--rules", "rules"), ("--user", "user"), ("--previous", "previous"),
      ("--password", "password")]) :
    split checkChoices true (name :: value :: rest) =
      (split checkChoices true rest).map (·.addOption key value) := by
  -- the four names are different texts, so each is looked up by computing
  simp only [List.mem_cons, Prod.mk.injEq, List.not_mem_nil, or_false] at h
  rcases h with ⟨rfl, rfl⟩ | ⟨rfl, rfl⟩ | ⟨rfl, rfl⟩ | ⟨rfl, rfl⟩
  · rfl
  · rfl
  · rfl
  · rfl

/-- The option for earlier passwords may be repeated, and all of its values are kept in their
order. -/
theorem split_previous (previous : List String) :
    split checkChoices true (previous.flatMap fun old => ["--previous", old]) =
      .ok ⟨previous.map fun old => ("previous", old), []⟩ := by
  induction previous with
  | nil => rfl
  | cons old previous ih =>
    show split checkChoices true
      ("--previous" :: old :: previous.flatMap fun old => ["--previous", old]) = _
    rw [@split_valued "--previous" "previous" _ _ (by decide), ih]
    rfl

/-- An option is requested exactly if it has a value, as every occurrence of it leaves one. -/
theorem Arguments.isRequested_iff {a : Arguments} {key : String} :
    isRequested a key = true ↔ a.all key ≠ [] := by
  unfold isRequested Arguments.last? Arguments.all
  rw [Option.isSome_map, List.findRev?_eq_find?_reverse, List.find?_isSome, ne_eq,
    List.map_eq_nil_iff, List.filter_eq_nil_iff]
  simp

/-- Leaving out options of other keys does not change the value of an option. -/
theorem Arguments.last?_filter (a : Arguments) {keep : String → Bool} {key : String}
    (hkey : keep key = true) :
    Arguments.last? ⟨a.options.filter fun option => keep option.1, a.operands⟩ key =
      a.last? key := by
  unfold Arguments.last?
  rw [List.findRev?_eq_find?_reverse, List.findRev?_eq_find?_reverse, ← List.filter_reverse,
    List.find?_filter]
  congr 2
  funext option
  by_cases hoption : option.1 = key
  · simp [hoption, hkey]
  · simp [hoption]

/-- Nor does it change the values of an option that may be repeated. -/
theorem Arguments.all_filter (a : Arguments) {keep : String → Bool} {key : String}
    (hkey : keep key = true) :
    Arguments.all ⟨a.options.filter fun option => keep option.1, a.operands⟩ key = a.all key := by
  unfold Arguments.all
  rw [List.filter_filter]
  congr 2
  funext option
  by_cases hoption : option.1 = key
  · simp [hoption, hkey]
  · simp [hoption]

section

variable {options : List (String × String)} {operands previous : List String} {key : String}

/-- Earlier passwords at the end do not hide the value of any other option. -/
theorem last?_append_previous (hkey : key ≠ "previous") :
    Arguments.last? ⟨options ++ previous.map fun old => ("previous", old), operands⟩ key =
      Arguments.last? ⟨options, operands⟩ key := by
  -- the last value is looked for from the end, where there are other keys only
  have hnone : (previous.map fun old => ("previous", old)).reverse.find? (·.1 == key) = none := by
    simp [Ne.symm hkey]
  unfold Arguments.last?
  simp only [List.findRev?_eq_find?_reverse, List.reverse_append, List.find?_append, hnone,
    Option.none_or]

/-- All earlier passwords are found, if the options before them hold none. -/
theorem all_append_previous (h : Arguments.all ⟨options, operands⟩ "previous" = []) :
    Arguments.all ⟨options ++ previous.map fun old => ("previous", old), operands⟩ "previous" =
      previous := by
  unfold Arguments.all at h ⊢
  rw [List.filter_append, List.map_append, h]
  simp [List.filter_map, Function.comp_def]

/-- The earlier passwords of a check are those that the arguments give. Only a command line that
gives none at all would turn to a variable. -/
theorem givenPrevious_of_all {env : Environment} (h : Arguments.all ⟨options, operands⟩ "previous" =
    previous) (hnone : variableValue? env (variableName ["CHECK"] "PREVIOUS") = none) :
    givenPrevious ⟨options, operands⟩ env = previous := by
  unfold givenPrevious
  -- without any, the variable counts, and that is not set
  by_cases hprevious : previous = []
  · have hrequested : ¬ isRequested ⟨options, operands⟩ "previous" = true :=
      fun hgiven => Arguments.isRequested_iff.mp hgiven (h.trans hprevious)
    rw [if_neg hrequested, hnone, hprevious]
    rfl
  · have hrequested : isRequested ⟨options, operands⟩ "previous" = true :=
      Arguments.isRequested_iff.mpr fun hnil => hprevious (h.symm.trans hnil)
    rw [if_pos hrequested, h]

end

/-- The arguments of `check` that give everything by long names. -/
def checkArguments (specification password : String) (user : Option String)
    (previous : List String) : List String :=
  "--rules" :: specification :: "--password" :: password ::
    ((user.toList.flatMap fun name => ["--user", name]) ++
      previous.flatMap fun old => ["--previous", old])

/-- The options that these arguments are split into. -/
def checkOptions (specification password : String) (user : Option String) :
    List (String × String) :=
  ("rules", specification) :: ("password", password) :: user.toList.map fun name => ("user", name)

/-- The arguments of a check by long names are split into their options, and no operand is left. -/
theorem split_checkArguments (specification password : String) (user : Option String)
    (previous : List String) :
    split checkChoices true (checkArguments specification password user previous) =
      .ok ⟨checkOptions specification password user ++
        previous.map fun old => ("previous", old), []⟩ := by
  have hsplit := split_previous previous
  unfold checkArguments checkOptions
  rw [@split_valued "--rules" "rules" _ _ (by decide),
    @split_valued "--password" "password" _ _ (by decide)]
  -- with a user there is one more option between the password and the earlier ones
  cases user with
  | none =>
    show ((split checkChoices true (previous.flatMap fun old =>
      ["--previous", old])).map _).map _ = _
    rw [hsplit]
    rfl
  | some name =>
    show ((split checkChoices true ("--user" :: name :: previous.flatMap fun old =>
      ["--previous", old])).map _).map _ = _
    rw [@split_valued "--user" "user" _ _ (by decide), hsplit]
    rfl

/-- The command line that gives everything by long names. -/
def checkLine (debug : Bool) (specification password : String) (user : Option String)
    (previous : List String) : List String :=
  (if debug then ["-D"] else []) ++
    "check" :: checkArguments specification password user previous

/-- The flag for the log is a general option, and what follows the name of the command is left to
that command. -/
theorem split_checkLine (debug : Bool) (specification password : String) (user : Option String)
    (previous : List String) :
    split generalChoices false (checkLine debug specification password user previous) =
      .ok ⟨if debug then [("debug", "")] else [],
        "check" :: checkArguments specification password user previous⟩ := by
  cases debug with
  | false => rfl
  | true => rfl

/-- The variables that can give what a command line leaves out. -/
def checkVariables : List String :=
  ["PASSWORD_RULES_DEBUG", "PASSWORD_RULES_CONFIG", "PASSWORD_RULES_CHECK_USER",
    "PASSWORD_RULES_CHECK_PREVIOUS"]

/-- What a check by long names asks for, if no variable gives a user or earlier passwords in their
place. -/
theorem readCheck_checkArguments {env : Environment} {specification password : String}
    {user : Option String} {previous : List String} (input : String)
    (huser : variableValue? env (variableName ["CHECK"] "USER") = none)
    (hprevious : variableValue? env (variableName ["CHECK"] "PREVIOUS") = none) :
    readCheck (checkArguments specification password user previous) env input =
      .ok ⟨"", .check ⟨some specification, user, previous, password⟩⟩ := by
  rw [readCheck_eq (split_checkArguments specification password user previous)]
  generalize ha : (⟨checkOptions specification password user ++
    previous.map fun old => ("previous", old), []⟩ : Arguments) = a
  -- an option is looked for among those that are given once
  have hlast {key : String} (hkey : key ≠ "previous") :
      a.last? key = Arguments.last? ⟨checkOptions specification password user, []⟩ key := by
    rw [← ha]
    exact last?_append_previous hkey
  have hhelp : isRequested a "help" = false := by
    rw [isRequested, hlast (by decide)]
    cases user <;> rfl
  have hpassword : givenPassword a env input = .known password := by
    have hgiven : a.last? "password" = some password := by
      rw [hlast (by decide)]
      cases user <;> rfl
    rw [givenPassword, optionValue?, hgiven]
    rfl
  have hrequest : givenRequest a env password = ⟨some specification, user, previous, password⟩ := by
    have hrules : a.last? "rules" = some specification := by
      rw [hlast (by decide)]
      cases user <;> rfl
    have hname : a.last? "user" = user := by
      rw [hlast (by decide)]
      cases user <;> rfl
    have hall : a.all "previous" = previous := by
      rw [← ha]
      apply all_append_previous
      cases user <;> rfl
    have hgiven : givenPrevious a env = previous := givenPrevious_of_all hall hprevious
    rw [givenRequest, optionValue?, optionValue?, hrules, hname, huser, hgiven, Option.or_none]
    rfl
  have hoperands : a.operands = [] := by rw [← ha]
  rw [hhelp, hpassword, hoperands]
  show Except.ok (ReadCommand.mk "" (.check (givenRequest a env password))) = _
  rw [hrequest]

/-- **A command line by long names**, without a variable for what it leaves out, is the check of
what it gives. -/
theorem task_checkLine {inv : Invocation} {debug : Bool} {specification password : String}
    {user : Option String} {previous : List String}
    (harguments : inv.arguments = checkLine debug specification password user previous)
    (hvariables : ∀ name ∈ checkVariables, variableValue? inv.environment name = none) :
    inv.task = .ok ⟨debug, none, "", .check ⟨some specification, user, previous, password⟩⟩ := by
  have hgeneral : split generalChoices false inv.arguments =
      .ok ⟨if debug then [("debug", "")] else [],
        "check" :: checkArguments specification password user previous⟩ := by
    rw [harguments, split_checkLine]
  -- the variables that must not be set include those of the general options
  have hgeneralVariables : ∀ name ∈ generalVariables, variableValue? inv.environment name = none :=
    fun name hname => hvariables name (List.mem_append_left _ hname)
  have huser : variableValue? inv.environment (variableName ["CHECK"] "USER") = none :=
    hvariables _ (by decide)
  have hprevious : variableValue? inv.environment (variableName ["CHECK"] "PREVIOUS") = none :=
    hvariables _ (by decide)
  have hread : readCommand inv ("check" :: checkArguments specification password user previous) =
      .ok ⟨"", .check ⟨some specification, user, previous, password⟩⟩ :=
    readCheck_checkArguments inv.input huser hprevious
  rw [task_eq hgeneral]
  exact taskBy_plain debug hgeneralVariables hread

/-- The invocation with nothing but arguments. -/
def bare (arguments : List String) : Invocation :=
  ⟨arguments, "", [], fun _ => none, fun _ => "", 0⟩

theorem arguments_bare (arguments : List String) : (bare arguments).arguments = arguments := rfl

theorem variableValue?_bare (arguments : List String) :
    ∀ name ∈ checkVariables, variableValue? (bare arguments).environment name = none :=
  fun _ _ => rfl

end PasswordPolicy.Console
