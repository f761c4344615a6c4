import PasswordPolicy.Proofs.Session.Proper
import PasswordPolicy.Proofs.Specification.Join

/-!
# What a step changes

A step does one of a few things: it stores values in the current object, makes a new object the
current one, gives one of the names another object, or only looks. So an object that is there
already changes in one way only, by the values that are stored while it is the current one.

* **`moves_step`**: all that a step can do.
* **`object_run`**: what becomes of an object in a run.
-/

namespace PasswordPolicy

namespace Policy

/-! ### Overriding -/

@[simp] theorem override_empty (p : Policy) : p.override .empty = p := rfl

/-- Of three policies, the last one that stores a value for a kind decides, however they are
grouped. -/
theorem override_assoc (p q r : Policy) :
    (p.override q).override r = p.override (q.override r) := by
  refine Policy.ext (funext fun k => ?_)
  show (r.stored k).or ((q.stored k).or (p.stored k)) =
    ((r.stored k).or (q.stored k)).or (p.stored k)
  exact Option.or_assoc.symm

/-- Setting one value is overriding by the policy that stores nothing else. So all that a session
ever does to an object is an override. -/
theorem set_eq_override (p : Policy) (k : Kind) (v : Int) :
    p.set k v = p.override (Policy.empty.set k v) := by
  refine Policy.ext (funext fun l => ?_)
  rw [stored_override, stored_set, stored_set]
  -- only the kind that is set differs, and there the stored value hides the old one
  by_cases hl : l = k
  · rw [if_pos hl, if_pos hl]
    rfl
  · rw [if_neg hl, if_neg hl]
    rfl

end Policy

/-! ### Given values

Pairs of a word and a value are stored one after the other, up to the first word that is no token.
So the last value that is given to a kind in front of that word counts. -/

def isToken (word : String) : Bool := Kind.all.any fun k => k.token == word

/-- The last value that is given to the kind in front of the first word that is no token. -/
def lastGiven (pairs : List (String × Int)) (k : Kind) : Option Int :=
  ((pairs.takeWhile fun pair => isToken pair.1).findRev? fun pair => pair.1 == k.token).map (·.2)

/-- The policy that stores just the given values. -/
def Policy.given (pairs : List (String × Int)) : Policy := ⟨lastGiven pairs⟩

theorem isToken_token (k : Kind) : isToken k.token = true :=
  List.any_eq_true.mpr ⟨k, Kind.mem_all k, beq_self_eq_true k.token⟩

/-- A word that is read as a kind is its token. -/
theorem token_of_ofToken {word : String} {k : Kind} (h : Kind.ofToken word = .ok k) :
    k.token = word := by
  unfold Kind.ofToken at h
  split at h
  · next hfind =>
    cases h
    simpa using List.find?_some hfind
  · cases h

/-- A word that is refused is no token of any kind. -/
theorem isToken_of_ofToken_eq_error {word : String} {e : UnknownKind}
    (h : Kind.ofToken word = .error e) : isToken word = false := by
  by_contra hword
  -- a token would have been read as its kind
  obtain ⟨k, -, hk⟩ := List.any_eq_true.mp (Bool.not_eq_false _ ▸ hword)
  rw [← beq_iff_eq.mp hk, Kind.ofToken_token] at h
  cases h

/-- A pair in front whose word is a token is stored first, so everything that is given behind it
overrides it. -/
theorem Policy.given_cons_token (k : Kind) (v : Int) (pairs : List (String × Int)) :
    given ((k.token, v) :: pairs) = (Policy.empty.set k v).override (given pairs) := by
  refine Policy.ext (funext fun l => ?_)
  rw [stored_override, stored_set]
  show lastGiven ((k.token, v) :: pairs) l = (lastGiven pairs l).or _
  have hfirst : ((k.token, v) :: pairs).takeWhile (fun pair => isToken pair.1) =
      (k.token, v) :: pairs.takeWhile fun pair => isToken pair.1 :=
    List.takeWhile_cons_of_pos (isToken_token k)
  unfold lastGiven
  rw [hfirst, List.findRev?]
  -- a later value of the kind hides this one
  cases (pairs.takeWhile fun pair => isToken pair.1).findRev? fun pair => pair.1 == l.token with
  | some pair => rfl
  | none =>
    by_cases hl : l = k
    · subst hl
      simp
    · have htoken : k.token ≠ l.token := fun h => hl (Kind.token_injective h).symm
      simp [hl, htoken, Policy.empty]

/-- Nothing is given once the first word is no token: storing stops there. -/
theorem Policy.given_cons_of_not_isToken {word : String} (h : isToken word = false) (v : Int)
    (pairs : List (String × Int)) : given ((word, v) :: pairs) = .empty := by
  refine Policy.ext (funext fun k => ?_)
  show lastGiven ((word, v) :: pairs) k = none
  have hnone : ((word, v) :: pairs).takeWhile (fun pair => isToken pair.1) = [] :=
    List.takeWhile_cons_of_neg (Bool.eq_false_iff.mp h)
  unfold lastGiven
  rw [hnone]
  rfl

theorem Policy.given_token (k : Kind) (v : Int) :
    given [(k.token, v)] = Policy.empty.set k v :=
  given_cons_token k v []

namespace Session

variable {s s' : Session} {step : Step} {i : Nat}

/-! ### Storing -/

/-- Overrides the values of the current object. -/
def amend (s : Session) (p : Policy) : Session :=
  { s with object := fun i => if s.current = i then (s.object i).override p else s.object i }

theorem amend_empty (s : Session) : s.amend .empty = s := by simp [amend]

/-- Storing one value is an override of the current object, and of no other. -/
theorem store_eq_amend (s : Session) (k : Kind) (v : Int) :
    s.store k v = s.amend (Policy.empty.set k v) := by
  have hobject (i : Nat) : (if i = s.current then (s.object i).set k v else s.object i) =
      if s.current = i then (s.object i).override (Policy.empty.set k v) else s.object i := by
    -- the object under one name only; all the others are the same on both sides
    by_cases hi : i = s.current
    · rw [if_pos hi, if_pos hi.symm, Policy.set_eq_override]
    · rw [if_neg hi, if_neg (Ne.symm hi)]
  simp only [store, amend, hobject]

/-- Two overrides of the current object make one. The current object is the same for both, because
an override does not change the names. -/
theorem amend_amend (s : Session) (p q : Policy) :
    (s.amend p).amend q = s.amend (p.override q) := by
  -- the sessions differ in their objects at most, so those are compared one by one
  have hobject (i : Nat) : ((s.amend p).amend q).object i = (s.amend (p.override q)).object i := by
    show (if s.current = i then ((s.amend p).object i).override q else (s.amend p).object i) = _
    unfold amend
    by_cases hi : s.current = i
    · simp only [if_pos hi, Policy.override_assoc]
    · simp only [if_neg hi]
  show ({ s with object := ((s.amend p).amend q).object } : Session) = _
  rw [funext hobject]
  rfl

/-- **Storing values one after the other** overrides the current object by the given ones. This
holds whether all of the words are tokens or storing stops at one that is not. -/
theorem storeAll_fst (s : Session) (pairs : List (String × Int)) :
    (s.storeAll pairs).1 = s.amend (.given pairs) := by
  induction pairs generalizing s with
  | nil => exact (amend_empty s).symm
  | cons pair pairs ih =>
    obtain ⟨word, v⟩ := pair
    rw [storeAll]
    cases hword : Kind.ofToken word with
    | ok k =>
      obtain rfl := token_of_ofToken hword
      show ((s.store k v).storeAll pairs).1 = _
      rw [ih, store_eq_amend, amend_amend, Policy.given_cons_token]
    -- the first word is refused: nothing is stored, and nothing counts as given
    | error e =>
      rw [Policy.given_cons_of_not_isToken (isToken_of_ofToken_eq_error hword), amend_empty]
      rfl

/-! ### Steps by what they do -/

/-- What a step does, if it succeeds. -/
inductive Role
  | stores
  | replaces
  | copies
  | aliases
  | swaps
  | holds
  | looks
deriving DecidableEq

def Step.role : Step → Role
  | .set _ _ | .setMany _ => .stores
  | .parse _ | .fromFields _ | .fieldsRoundTrip | .textRoundTrip => .replaces
  | .copy => .copies
  | .alias => .aliases
  | .swap => .swaps
  | .hold => .holds
  | .get _ | .properties | .display | .toFields | .equalsSaved => .looks
  | .evaluate _ | .evaluateHeld _ | .tooOld _ _ | .tooOldHeld _ _ => .looks

/-- The values that a step stores. -/
def Step.stored : Step → Policy
  | .set word value => .given [(word, value)]
  | .setMany pairs => .given pairs
  | _ => .empty

/-- Only the steps of one role store values at all. -/
theorem Step.stored_eq_empty (h : step.role ≠ .stores) : step.stored = .empty := by
  cases step with
  | set word value => exact absurd rfl h
  | setMany pairs => exact absurd rfl h
  | _ => rfl

/-- All that a step can do to a session. -/
inductive Moves (s : Session) : Step → Session → Prop
  | stores {step : Step} (h : step.role = .stores) : Moves s step (s.amend step.stored)
  | replaces {step : Step} {reply : Reply} (p : Policy) (h : step.role = .replaces)
      (hok : (s.step step).2 = .ok reply) : Moves s step (s.replace p)
  | fails {step : Step} {e : StepError} (h : step.role = .replaces)
      (herror : (s.step step).2 = .error e) : Moves s step s
  | copies : Moves s .copy { s.add s.currentPolicy with saved := s.size }
  | aliases : Moves s .alias { s with saved := s.current }
  | swaps : Moves s .swap { s with current := s.saved, saved := s.current }
  | holds : Moves s .hold { s with held := s.current }
  | looks {step : Step} (h : step.role = .looks) : Moves s step s

/-- A step that stores overrides the current object by its values, also if it fails half-way. -/
theorem step_fst_of_stores (s : Session) (h : step.role = .stores) :
    (s.step step).1 = s.amend step.stored := by
  cases step with
  | set word value => exact s.storeAll_fst [(word, value)]
  | setMany pairs => exact s.storeAll_fst pairs
  | _ => cases h

/-- A step that would make a new object either does so and answers, or it fails and leaves
everything as it was. -/
theorem replaces_or_fails (s : Session) (h : step.role = .replaces) :
    (∃ p reply, s.step step = (s.replace p, .ok reply)) ∨ ∃ e, s.step step = (s, .error e) := by
  cases step with
  | parse specification =>
    simp only [Session.step]
    split
    · exact .inl ⟨_, _, rfl⟩
    · exact .inr ⟨_, rfl⟩
  | fromFields fields =>
    simp only [Session.step]
    split
    · exact .inl ⟨_, _, rfl⟩
    · exact .inr ⟨_, rfl⟩
  | fieldsRoundTrip =>
    simp only [Session.step]
    split
    · exact .inl ⟨_, _, rfl⟩
    · exact .inr ⟨_, rfl⟩
  -- here the text may fail to be written, and then to be read
  | textRoundTrip =>
    simp only [Session.step, withText]
    split
    · split
      · exact .inl ⟨_, _, rfl⟩
      · exact .inr ⟨_, rfl⟩
    · exact .inr ⟨_, rfl⟩
  | _ => cases h

/-- A step that only looks changes nothing, whatever it answers. -/
theorem step_fst_of_looks (s : Session) (h : step.role = .looks) : (s.step step).1 = s := by
  cases step with
  | get word =>
    simp only [Session.step]
    split <;> rfl
  | toFields =>
    simp only [Session.step]
    split <;> rfl
  | tooOld lastChanged now => exact judgeAge_fst lastChanged now
  | tooOldHeld lastChanged now => exact judgeAge_fst lastChanged now
  | properties => rfl
  | display =>
    simp only [Session.step, withText]
    split <;> rfl
  | equalsSaved => rfl
  | evaluate attempt => rfl
  | evaluateHeld attempt => rfl
  | _ => cases h

/-- **All that a step can do.** The cases are the roles of the steps; a step that makes a new object
has the failure as a case of its own. -/
theorem moves_step (s : Session) (step : Step) : s.Moves step (s.step step).1 := by
  -- one argument for each role, and then every kind of step by its role
  have hstoring {step : Step} (h : step.role = .stores) : s.Moves step (s.step step).1 := by
    rw [s.step_fst_of_stores h]
    exact .stores h
  have hreplacing {step : Step} (h : step.role = .replaces) : s.Moves step (s.step step).1 := by
    rcases s.replaces_or_fails h with ⟨p, reply, hstep⟩ | ⟨e, hstep⟩
    · rw [congrArg Prod.fst hstep]
      exact .replaces p h (congrArg Prod.snd hstep)
    · rw [congrArg Prod.fst hstep]
      exact .fails h (congrArg Prod.snd hstep)
  have hlooking {step : Step} (h : step.role = .looks) : s.Moves step (s.step step).1 := by
    rw [s.step_fst_of_looks h]
    exact .looks h
  cases step with
  | set word value => exact hstoring rfl
  | setMany pairs => exact hstoring rfl
  | parse specification => exact hreplacing rfl
  | fromFields fields => exact hreplacing rfl
  | fieldsRoundTrip => exact hreplacing rfl
  | textRoundTrip => exact hreplacing rfl
  | copy => exact .copies
  | «alias» => exact .aliases
  | swap => exact .swaps
  | hold => exact .holds
  | _ => exact hlooking rfl

/-! ### Objects -/

/-- The names stand for objects of the session. -/
structure WellNamed (s : Session) : Prop where
  current : s.current < s.size
  saved : s.saved < s.size
  held : s.held < s.size

/-- At the start there are three objects, one for each name. -/
theorem wellNamed_start (p : Policy) : (start p).WellNamed :=
  ⟨Nat.lt_of_sub_eq_succ rfl, Nat.lt_of_sub_eq_succ rfl, Nat.lt_of_sub_eq_succ rfl⟩

/-- Objects are made and never lost. -/
theorem Moves.size_le (h : s.Moves step s') : s.size ≤ s'.size := by
  cases h with
  | replaces p _ _ => exact Nat.le_succ s.size
  | copies => exact Nat.le_succ s.size
  | _ => exact Nat.le_refl s.size

/-- No step leaves a name without an object: names are given to objects that exist or that the step
has just made. -/
theorem Moves.wellNamed (h : s.Moves step s') (hs : s.WellNamed) : s'.WellNamed := by
  obtain ⟨hcurrent, hsaved, hheld⟩ := hs
  cases h with
  | replaces p _ _ => exact ⟨Nat.lt_succ_self _, Nat.lt_succ_of_lt hsaved, Nat.lt_succ_of_lt hheld⟩
  | copies => exact ⟨Nat.lt_succ_of_lt hcurrent, Nat.lt_succ_self _, Nat.lt_succ_of_lt hheld⟩
  | aliases => exact ⟨hcurrent, hcurrent, hheld⟩
  | swaps => exact ⟨hsaved, hcurrent, hheld⟩
  | holds => exact ⟨hcurrent, hsaved, hcurrent⟩
  | _ => exact ⟨hcurrent, hsaved, hheld⟩

/-- **What a step does to an object that is there**: the values of the step override it if it is the
current one. New objects have numbers of their own and are not concerned. -/
theorem Moves.object_eq (h : s.Moves step s') (hi : i < s.size) : s'.object i =
    if s.current = i then (s.object i).override step.stored else s.object i := by
  -- a step that stores nothing leaves the objects alone, new ones apart
  have hkept (hrole : step.role ≠ .stores) (hobject : s'.object i = s.object i) :
      s'.object i = if s.current = i then (s.object i).override step.stored else s.object i := by
    rw [Step.stored_eq_empty hrole, Policy.override_empty, ite_self]
    exact hobject
  cases h with
  | stores h => rfl
  | replaces p h hok => exact hkept (by simp [h]) (object_add_of_lt s p hi)
  | fails h herror => exact hkept (by simp [h]) rfl
  | copies => exact hkept nofun (object_add_of_lt s s.currentPolicy hi)
  | aliases => exact hkept nofun rfl
  | swaps => exact hkept nofun rfl
  | holds => exact hkept nofun rfl
  | looks h => exact hkept (by simp [h]) rfl

/-! ### Runs -/

theorem run_cons (s : Session) (step : Step) (steps : List Step) :
    s.run (step :: steps) = (s.step step).1.run steps := rfl

theorem run_append (s : Session) (steps steps' : List Step) :
    s.run (steps ++ steps') = (s.run steps).run steps' := List.foldl_append

/-- The names stand for objects after every run, as each step preserves this. -/
theorem WellNamed.run (hs : s.WellNamed) (steps : List Step) : (s.run steps).WellNamed := by
  induction steps generalizing s with
  | nil => exact hs
  | cons step steps ih => exact ih ((s.moves_step step).wellNamed hs)

/-- The values that are stored in an object by those steps that find it the current one. -/
def storedIn (s : Session) (i : Nat) : List Step → Policy
  | [] => .empty
  | step :: steps =>
    (if s.current = i then step.stored else .empty).override ((s.step step).1.storedIn i steps)

/-- **What becomes of an object in a run**: the values that are stored while it is the current one
override its values, and nothing else happens to it. -/
theorem object_run (hi : i < s.size) (steps : List Step) :
    (s.run steps).object i = (s.object i).override (s.storedIn i steps) := by
  -- by induction on the steps from any session that has the object already
  induction steps generalizing s with
  | nil => rfl
  | cons step steps ih =>
    have hmoves := s.moves_step step
    have hlater := ih (Nat.lt_of_lt_of_le hi hmoves.size_le)
    rw [run_cons, hlater, hmoves.object_eq hi, storedIn, ← Policy.override_assoc]
    by_cases hcurrent : s.current = i
    · rw [if_pos hcurrent, if_pos hcurrent]
    · rw [if_neg hcurrent, if_neg hcurrent, Policy.override_empty]

/-! ### Conditions on a run -/

/-- Each step of the run stands in the relation to the session that it is taken in. -/
def Throughout (R : Session → Step → Prop) (s : Session) (steps : List Step) : Prop :=
  ∀ earlier step later, steps = earlier ++ step :: later → R (s.run earlier) step

variable {R : Session → Step → Prop} {steps : List Step}

theorem throughout_nil (s : Session) : s.Throughout R [] := by
  intro earlier step later h
  have hnil := (List.append_eq_nil_iff.mp h.symm).2
  cases hnil

/-- A condition on a run is one on what is left of it after its first step. -/
theorem Throughout.tail (h : s.Throughout R (step :: steps)) :
    (s.step step).1.Throughout R steps := by
  intro earlier step' later hsteps
  have hwhole : step :: steps = (step :: earlier) ++ step' :: later := by
    rw [hsteps, List.cons_append]
  exact h (step :: earlier) step' later hwhole

/-- The end of a list that has a last element is either that element or ends with it. -/
theorem end_of_concat_eq {α : Type} {l front back : List α} {a b : α}
    (h : l ++ [a] = front ++ b :: back) :
    (back = [] ∧ l = front ∧ a = b) ∨ ∃ more, back = more ++ [a] ∧ l = front ++ b :: more := by
  rcases List.eq_nil_or_concat back with rfl | ⟨more, last, rfl⟩
  · exact .inl ⟨rfl, List.append_singleton_inj.mp h⟩
  · rw [List.concat_eq_append, ← List.cons_append, ← List.append_assoc] at h
    obtain ⟨hfront, rfl⟩ := List.append_singleton_inj.mp h
    exact .inr ⟨more, List.concat_eq_append, hfront⟩

/-- A condition on a run with a last step is one on the run before it and one on that step. This is
what an induction on the last step of a run needs. -/
theorem throughout_concat_iff :
    s.Throughout R (steps ++ [step]) ↔ s.Throughout R steps ∧ R (s.run steps) step := by
  constructor
  · intro h
    refine ⟨fun earlier step' later hsteps => ?_, h steps step [] rfl⟩
    apply h earlier step' (later ++ [step])
    rw [hsteps, List.append_assoc, List.cons_append]
  · -- a step of the longer run is the last one or a step of the shorter run
    rintro ⟨hsteps, hlast⟩ earlier step' later heq
    rcases end_of_concat_eq heq with ⟨-, rfl, rfl⟩ | ⟨more, -, hfront⟩
    · exact hlast
    · exact hsteps earlier step' more hfront

/-- Whenever the run stores something, the object is the current one. -/
def StoresOnlyIn (s : Session) (i : Nat) (steps : List Step) : Prop :=
  s.Throughout (fun s step => step.role = .stores → s.current = i) steps

/-- **An object keeps its values in a run that stores in another one.** The steps of the run may
still make that other object the current one and give it other names. -/
theorem StoresOnlyIn.object_run {j : Nat} (h : s.StoresOnlyIn i steps) (hj : j < s.size)
    (hne : j ≠ i) : (s.run steps).object j = s.object j := by
  -- nothing is stored in the object at any step, and so nothing is at all
  have hnothing : s.storedIn j steps = .empty := by
    induction steps generalizing s with
    | nil => rfl
    | cons step steps ih =>
      have hlater := ih h.tail (Nat.lt_of_lt_of_le hj (s.moves_step step).size_le)
      rw [storedIn, hlater, Policy.override_empty]
      by_cases hrole : step.role = .stores
      · have hcurrent : s.current = i := h [] step steps rfl hrole
        have hother : s.current ≠ j := fun hj => hne (hj.symm.trans hcurrent)
        rw [if_neg hother]
      · rw [Step.stored_eq_empty hrole, ite_self]
  rw [Session.object_run hj, hnothing, Policy.override_empty]

end Session

end PasswordPolicy
