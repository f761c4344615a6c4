/-!
# Command-line arguments

Splitting arguments into options and operands. A long option is given by its whole name, a short one
by a letter, and letters of options without a value can be joined. The value of an option follows
its name, behind an equals sign for a long name or directly for a letter, or else is the next
argument, whatever that looks like. Two dashes end the options. A command that has commands of its
own also ends its options at the first operand.
-/

namespace PasswordPolicy.Console

/-- An option: the key it is known by, its letters, its long names, and whether it has a value. -/
structure Choice where
  key : String
  letters : List Char
  names : List String
  hasValue : Bool
deriving DecidableEq, Repr

/-- Split arguments: the options in the order given, each with its value, and the operands. -/
structure Arguments where
  options : List (String × String)
  operands : List String
deriving DecidableEq, Repr

/-- The arguments cannot be used. -/
inductive UsageError
  | misused
deriving DecidableEq, Repr

namespace Arguments

/-- The arguments after one more option. -/
def addOption (key value : String) (a : Arguments) : Arguments :=
  { a with options := (key, value) :: a.options }

/-- The arguments after one more operand. -/
def addOperand (operand : String) (a : Arguments) : Arguments :=
  { a with operands := operand :: a.operands }

/-- The last value given for an option. -/
def last? (a : Arguments) (key : String) : Option String :=
  (a.options.findRev? (·.1 == key)).map (·.2)

/-- All values given for an option, in order. -/
def all (a : Arguments) (key : String) : List String :=
  (a.options.filter (·.1 == key)).map (·.2)

end Arguments

/-! ### Splitting -/

/-- The name and the value of an argument such as `--name=value`. -/
def splitEquals (arg : List Char) : String × Option String :=
  match arg.dropWhile (· != '=') with
  | '=' :: value => (String.ofList (arg.takeWhile (· != '=')), some (String.ofList value))
  | _ => (String.ofList arg, none)

/-- What the letters behind a dash stand for. -/
inductive Cluster
  /-- Options without values. -/
  | flags (keys : List String)
  /-- Options without values and then one with a value, which follows directly if it is given. -/
  | valued (keys : List String) (key : String) (value : Option String)
deriving DecidableEq, Repr

/-- Reads the letters behind a dash. -/
def readLetters (choices : List Choice) : List Char → Except UsageError Cluster
  | [] => .ok (.flags [])
  | c :: rest =>
    match choices.find? (·.letters.contains c) with
    | none => .error .misused
    | some choice =>
      if choice.hasValue then
        .ok (.valued [] choice.key (if rest.isEmpty then none else some (String.ofList rest)))
      else
        match readLetters choices rest with
        | .error e => .error e
        | .ok (.flags keys) => .ok (.flags (choice.key :: keys))
        | .ok (.valued keys key value) => .ok (.valued (choice.key :: keys) key value)

/-- What an argument that starts with a dash stands for. -/
def readOption (choices : List Choice) (arg : List Char) : Except UsageError Cluster :=
  let (name, value) := splitEquals arg
  match choices.find? (·.names.contains name) with
  | some choice =>
    if choice.hasValue then .ok (.valued [] choice.key value)
    else if value.isSome then .error .misused
    else .ok (.flags [choice.key])
  | none =>
    match arg with
    | '-' :: '-' :: _ => .error .misused
    | _ => readLetters choices (arg.drop 1)

/-- Adds options without values. -/
def addFlags (keys : List String) (a : Arguments) : Arguments :=
  keys.foldr (fun key a => a.addOption key "") a

/-- Splits arguments. If `mixed`, options may follow operands. -/
def split (choices : List Choice) (mixed : Bool) : List String → Except UsageError Arguments
  | [] => .ok ⟨[], []⟩
  | arg :: rest =>
    if arg == "--" then .ok ⟨[], rest⟩
    else match arg.toList with
      | '-' :: _ :: _ =>
        match readOption choices arg.toList, rest with
        | .error e, _ => .error e
        | .ok (.flags keys), rest => (split choices mixed rest).map (addFlags keys)
        | .ok (.valued keys key (some value)), rest =>
          (split choices mixed rest).map fun a => addFlags keys (a.addOption key value)
        | .ok (.valued keys key none), value :: rest =>
          (split choices mixed rest).map fun a => addFlags keys (a.addOption key value)
        | .ok (.valued _ _ none), [] => .error .misused
      | _ =>
        if mixed then (split choices mixed rest).map (·.addOperand arg) else .ok ⟨[], arg :: rest⟩

end PasswordPolicy.Console
