import PasswordPolicy.Age
import PasswordPolicy.Evaluation
import PasswordPolicy.Fields.Build
import PasswordPolicy.Specification.Reader

/-!
# Sessions

A session works on policies that can be shared. It knows three of them by name: the *current* one,
a *saved* one and the one that is *held* for evaluation. Two names may stand for the same policy
object, and then a value stored through one of them is seen through the other. Steps either store
values in the current object, or make the name of the current or saved one stand for another
object; they never change any other object. A step that fails changes nothing, except that a step
that stores several values keeps those stored before the failure.
-/

namespace PasswordPolicy

/-! ### Objects and names -/

/-- The policy objects of a session, and the objects that its names stand for. Objects are numbered
in the order in which they came up. -/
structure Session where
  object : Nat → Policy
  size : Nat
  current : Nat
  saved : Nat
  held : Nat

namespace Session

/-- A new session: the given policy is current, and the other names stand for empty policies. -/
def start (p : Policy) : Session where
  object := fun i => if i = 0 then p else .empty
  size := 3
  current := 0
  saved := 1
  held := 2

def currentPolicy (s : Session) : Policy := s.object s.current

def savedPolicy (s : Session) : Policy := s.object s.saved

def heldPolicy (s : Session) : Policy := s.object s.held

/-- Stores a value in the current object. -/
def store (s : Session) (k : Kind) (value : Int) : Session :=
  { s with object := fun i => if i = s.current then (s.object i).set k value else s.object i }

/-- Adds an object, whose number is the former size. -/
def add (s : Session) (p : Policy) : Session :=
  { s with object := fun i => if i = s.size then p else s.object i, size := s.size + 1 }

/-- Makes a new object the current one. -/
def replace (s : Session) (p : Policy) : Session := { s.add p with current := s.size }

/-! ### Steps -/

inductive Step
  | set (word : String) (value : Int)
  | setMany (pairs : List (String × Int))
  | get (word : String)
  | properties
  | display
  | parse (specification : Option String)
  | fromFields (fields : Value)
  | toFields
  | fieldsRoundTrip
  | textRoundTrip
  | copy
  | alias
  | swap
  | equalsSaved
  | hold
  | evaluate (attempt : Attempt)
  | evaluateHeld (attempt : Attempt)
  | tooOld (lastChanged : Moment) (now : Now)
  | tooOldHeld (lastChanged : Moment) (now : Now)

/-- Why a step fails. -/
inductive StepError
  | unknownKind (e : UnknownKind)
  | specification (e : Specification.Error)
  | build (e : BuildError)
  | moment (e : MomentError)
  /-- The text of the policy holds an integer of too many digits to be written. -/
  | unwritable

/-- What a step answers. -/
inductive Reply
  | done
  | integer (value : Int)
  | properties (p : Policy)
  | text (s : String)
  | fields (fields : Fields)
  | truth (b : Bool)
  | kinds (ks : List Kind)

/-- A step's answer with the session after it. -/
abbrev Outcome := Session × Except StepError Reply

/-- The session stays as it is. -/
def answer (s : Session) (reply : Reply) : Outcome := (s, .ok reply)

/-- The step fails and the session stays as it is. -/
def fail (s : Session) (e : StepError) : Outcome := (s, .error e)

/-- Stores values one after the other, up to the first unknown word. -/
def storeAll (s : Session) : List (String × Int) → Outcome
  | [] => s.answer .done
  | (word, value) :: rest =>
    match Kind.ofToken word with
    | .ok k => (s.store k value).storeAll rest
    | .error e => s.fail (.unknownKind e)

/-- Replaces the current policy by a rebuilt one and tells whether both are equivalent. -/
def rebuild (s : Session) (p : Policy) : Outcome :=
  (s.replace p, .ok (.truth (decide (s.currentPolicy ≈ p))))

/-- Goes on with the text of the current policy, if that can be written. -/
def withText (s : Session) (next : String → Outcome) : Outcome :=
  if s.currentPolicy.isWritable then next s.currentPolicy.text else s.fail .unwritable

/-- Answers whether a password is too old by a policy. -/
def judgeAge (s : Session) (p : Policy) (lastChanged : Moment) (now : Now) : Outcome :=
  match p.tooOld lastChanged now with
  | .ok b => s.answer (.truth b)
  | .error e => s.fail (.moment e)

def step (s : Session) : Step → Outcome
  | .set word value => s.storeAll [(word, value)]
  | .setMany pairs => s.storeAll pairs
  | .get word =>
    match Kind.ofToken word with
    | .ok k => s.answer (.integer (s.currentPolicy.get k))
    | .error e => s.fail (.unknownKind e)
  | .properties => s.answer (.properties s.currentPolicy)
  | .display => s.withText fun _ => s.answer (.text s.currentPolicy.display)
  | .parse specification =>
    match Policy.ofSpecification? specification with
    | .ok p => (s.replace p, .ok .done)
    | .error e => s.fail (.specification e)
  | .fromFields fields =>
    match Policy.ofFields fields [] with
    | .ok p => (s.replace p, .ok .done)
    | .error e => s.fail (.build e)
  | .toFields =>
    match Fields.ofPolicy s.currentPolicy with
    | .ok fields => s.answer (.fields fields)
    | .error errors => s.fail (.build (.faulty errors))
  | .fieldsRoundTrip =>
    match Fields.ofPolicy s.currentPolicy with
    | .ok fields => s.rebuild fields.toPolicy
    | .error errors => s.fail (.build (.faulty errors))
  | .textRoundTrip => s.withText fun text =>
    match Policy.ofSpecification text with
    | .ok p => s.rebuild p
    | .error e => s.fail (.specification e)
  | .copy => ({ s.add s.currentPolicy with saved := s.size }, .ok .done)
  | .alias => ({ s with saved := s.current }, .ok .done)
  | .swap => ({ s with current := s.saved, saved := s.current }, .ok .done)
  | .equalsSaved => s.answer (.truth (decide (s.currentPolicy ≈ s.savedPolicy)))
  | .hold => ({ s with held := s.current }, .ok .done)
  | .evaluate attempt => s.answer (.kinds (s.currentPolicy.violations attempt))
  | .evaluateHeld attempt => s.answer (.kinds (s.heldPolicy.violations attempt))
  | .tooOld lastChanged now => s.judgeAge s.currentPolicy lastChanged now
  | .tooOldHeld lastChanged now => s.judgeAge s.heldPolicy lastChanged now

/-- The session after some steps. -/
def run (s : Session) (steps : List Step) : Session := steps.foldl (fun s step => (s.step step).1) s

theorem withText_of_isWritable {s : Session} (h : s.currentPolicy.isWritable = true)
    (next : String → Outcome) : s.withText next = next s.currentPolicy.text := if_pos h

theorem withText_of_not_isWritable {s : Session} (h : s.currentPolicy.isWritable = false)
    (next : String → Outcome) : s.withText next = s.fail .unwritable := by rw [withText, h]; rfl

/-! ### Objects under the operations -/

@[simp] theorem object_add_size (s : Session) (p : Policy) : (s.add p).object s.size = p := by
  simp [add]

theorem object_add_of_lt (s : Session) (p : Policy) {i : Nat} (h : i < s.size) :
    (s.add p).object i = s.object i := by
  have : i ≠ s.size := by omega
  simp [add, this]

end Session

end PasswordPolicy
