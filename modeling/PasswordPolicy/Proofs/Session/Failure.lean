import PasswordPolicy.Proofs.Age.Expiry
import PasswordPolicy.Proofs.Fields.RoundTrip
import PasswordPolicy.Proofs.Session.Frame

/-!
# Steps that fail

A step converts, reads, writes or compares before it changes anything, so a failure finds the
session as it was. The one exception is the step that stores several values, which stops at the
first unknown word and keeps what it has stored until then. That goes into the current object, so it
is seen through another name exactly if that name stands for the same object.

* **`step_eq_error_iff`**: which steps fail, and with what error.
* **`step_fst_of_error`**, **`step_setMany_of_unknown`**: the session after a failure.
* **`fails_intact_or_keeps_front`**: all of it in one place.
-/

namespace PasswordPolicy.Session

variable {s : Session} {step : Step} {e : StepError} {front back : List (String × Int)}
  {word : String} {value : Int}

/-! ### Words -/

/-- A word that is no token names no kind, and the error gives the word. -/
theorem ofToken_of_not_isToken (h : isToken word = false) : Kind.ofToken word = .error ⟨word⟩ := by
  cases hword : Kind.ofToken word with
  | ok k =>
    rw [← token_of_ofToken hword, isToken_token] at h
    cases h
  | error e =>
    unfold Kind.ofToken at hword
    split at hword
    · cases hword
    · exact hword.symm

/-- **Which words are unknown**, and with what error. -/
theorem ofToken_eq_error_iff {e : UnknownKind} :
    Kind.ofToken word = .error e ↔ isToken word = false ∧ e = ⟨word⟩ := by
  constructor
  · intro h
    have hword := isToken_of_ofToken_eq_error h
    exact ⟨hword, Except.error.inj (h.symm.trans (ofToken_of_not_isToken hword))⟩
  · rintro ⟨hword, rfl⟩
    exact ofToken_of_not_isToken hword

theorem exists_ofToken_of_isToken (h : isToken word = true) : ∃ k, Kind.ofToken word = .ok k := by
  cases hword : Kind.ofToken word with
  | ok k => exact ⟨k, rfl⟩
  | error e =>
    rw [isToken_of_ofToken_eq_error hword] at h
    cases h

/-! ### Storing up to an unknown word -/

/-- The words of all pairs are tokens. -/
def AllTokens (pairs : List (String × Int)) : Prop := ∀ pair ∈ pairs, isToken pair.1 = true

/-- The steps that store the values one at a time. -/
def setEach (pairs : List (String × Int)) : List Step := pairs.map fun pair => .set pair.1 pair.2

/-- **Pairs in front of an unknown word** are stored as one at a time, the others not at all.
Nothing is taken back when the word turns out to be unknown. -/
theorem storeAll_of_unknown (hfront : AllTokens front) (hword : isToken word = false) :
    s.storeAll (front ++ (word, value) :: back) =
      (s.run (setEach front), .error (.unknownKind ⟨word⟩)) := by
  induction front generalizing s with
  | nil =>
    rw [List.nil_append, storeAll, ofToken_of_not_isToken hword]
    rfl
  | cons pair front ih =>
    obtain ⟨first, v⟩ := pair
    obtain ⟨hfirst, hfront⟩ := List.forall_mem_cons.mp hfront
    obtain ⟨k, hk⟩ := exists_ofToken_of_isToken hfirst
    -- a pair with a token is stored as it would be by itself
    have hstep : (s.step (.set first v)).1 = s.store k v := by
      show (s.storeAll [(first, v)]).1 = _
      rw [storeAll, hk]
      rfl
    rw [List.cons_append, storeAll, hk]
    show (s.store k v).storeAll _ = (s.run (.set first v :: setEach front), _)
    rw [ih hfront, run_cons, hstep]

/-- Storing fails exactly at the first unknown word. The pairs behind it are not looked at, so there
may be more of them. -/
theorem storeAll_eq_error_iff {pairs : List (String × Int)} :
    (s.storeAll pairs).2 = .error e ↔ ∃ front word value back,
      pairs = front ++ (word, value) :: back ∧ AllTokens front ∧ isToken word = false ∧
        e = .unknownKind ⟨word⟩ := by
  constructor
  · intro h
    induction pairs generalizing s with
    | nil => cases h
    | cons pair pairs ih =>
      obtain ⟨first, v⟩ := pair
      rw [storeAll] at h
      cases hfirst : Kind.ofToken first with
      | ok k =>
        rw [hfirst] at h
        -- a known word is one more in front of the first unknown one
        obtain ⟨front, word, value, back, rfl, hfront, hword, he⟩ := ih h
        have htoken : isToken first = true := token_of_ofToken hfirst ▸ isToken_token k
        exact ⟨(first, v) :: front, word, value, back, rfl,
          List.forall_mem_cons.mpr ⟨htoken, hfront⟩, hword, he⟩
      | error unknown =>
        rw [hfirst] at h
        obtain ⟨hunknown, rfl⟩ := ofToken_eq_error_iff.mp hfirst
        exact ⟨[], first, v, pairs, rfl, List.forall_mem_nil _, hunknown,
          (Except.error.inj h).symm⟩
  · rintro ⟨front, word, value, back, rfl, hfront, hword, rfl⟩
    rw [storeAll_of_unknown hfront hword]

/-- Storing a single value fails if its word is unknown. -/
theorem storeAll_singleton_eq_error_iff :
    (s.storeAll [(word, value)]).2 = .error e ↔
      isToken word = false ∧ e = .unknownKind ⟨word⟩ := by
  rw [storeAll_eq_error_iff]
  constructor
  · rintro ⟨front, unknown, v, back, hpairs, -, hunknown, he⟩
    -- there is nothing in front of the only word
    cases front with
    | nil =>
      cases hpairs
      exact ⟨hunknown, he⟩
    | cons pair front =>
      have hnil := (List.append_eq_nil_iff.mp (List.cons.inj hpairs).2.symm).2
      cases hnil
  · rintro ⟨hword, he⟩
    exact ⟨[], word, value, [], rfl, List.forall_mem_nil _, hword, he⟩

/-! ### The steps that fail -/

/-- The step fails with the error. -/
inductive Fails (s : Session) : Step → StepError → Prop
  | set {word : String} {value : Int} (h : isToken word = false) :
      Fails s (.set word value) (.unknownKind ⟨word⟩)
  | setMany {front back : List (String × Int)} {word : String} {value : Int}
      (hfront : AllTokens front) (hword : isToken word = false) :
      Fails s (.setMany (front ++ (word, value) :: back)) (.unknownKind ⟨word⟩)
  | get {word : String} (h : isToken word = false) : Fails s (.get word) (.unknownKind ⟨word⟩)
  | parse {specification : Option String} {e : Specification.Error}
      (h : Policy.ofSpecification? specification = .error e) :
      Fails s (.parse specification) (.specification e)
  | fromFields {fields : Value} {e : BuildError} (h : Policy.ofFields fields [] = .error e) :
      Fails s (.fromFields fields) (.build e)
  /-- A bound is below what a field can hold. -/
  | offends {step : Step} (htrip : step = .toFields ∨ step = .fieldsRoundTrip)
      (h : ∃ k, s.currentPolicy.Offends k) : Fails s step (.build (.faulty
        ((Kind.all.filter s.currentPolicy.Offends).map s.currentPolicy.offence)))
  /-- A value has too many digits for the text of the policy. -/
  | unwritable {step : Step} (htext : step = .display ∨ step = .textRoundTrip)
      (h : s.currentPolicy.isWritable = false) : Fails s step .unwritable
  | textRoundTrip {e : Specification.Error} (hwritable : s.currentPolicy.isWritable = true)
      (h : Policy.ofSpecification s.currentPolicy.text = .error e) :
      Fails s .textRoundTrip (.specification e)
  | tooOld {lastChanged : Moment} {now : Now} {e : MomentError}
      (h : s.currentPolicy.Undecided lastChanged now e) :
      Fails s (.tooOld lastChanged now) (.moment e)
  | tooOldHeld {lastChanged : Moment} {now : Now} {e : MomentError}
      (h : s.heldPolicy.Undecided lastChanged now e) :
      Fails s (.tooOldHeld lastChanged now) (.moment e)

/-- A policy cannot be written as fields exactly if a bound offends; the report is on those. They
are reported in the order of the fields. -/
theorem ofPolicy_eq_error_iff {p : Policy} {errors : List FieldError} :
    Fields.ofPolicy p = .error errors ↔
      (∃ k, p.Offends k) ∧ errors = (Kind.all.filter p.Offends).map p.offence := by
  cases h : Fields.ofPolicy p with
  | ok fields =>
    have hnone := Fields.exists_ofPolicy_iff.mp ⟨fields, h⟩
    exact iff_of_false nofun fun hoffends => (not_exists.mpr hnone) hoffends.1
  | error errors' =>
    have hsome : ∃ k, p.Offends k := by
      by_contra hnone
      obtain ⟨fields, hfields⟩ := Fields.exists_ofPolicy_iff.mpr (not_exists.mp hnone)
      cases h.symm.trans hfields
    rw [Except.error.injEq, Fields.eq_of_ofPolicy_eq_error h, and_iff_right hsome]
    exact eq_comm

/-- The question for an age fails where the policy cannot decide. -/
theorem judgeAge_eq_error_iff {p : Policy} {lastChanged : Moment} {now : Now} :
    (s.judgeAge p lastChanged now).2 = .error e ↔
      ∃ e', p.Undecided lastChanged now e' ∧ e = .moment e' := by
  simp only [← Policy.tooOld_eq_error_iff, judgeAge]
  cases p.tooOld lastChanged now with
  | ok old => exact iff_of_false nofun nofun
  | error e' =>
    constructor
    · rintro ⟨⟩
      exact ⟨e', rfl, rfl⟩
    · rintro ⟨_, ⟨⟩, rfl⟩
      rfl

/-- Each error of a step is one of those that `Fails` lists for it. The steps are gone through one
by one; those with a text or a report fail where that fails. -/
theorem fails_of_step (h : (s.step step).2 = .error e) : s.Fails step e := by
  cases step with
  | set word value =>
    obtain ⟨hword, rfl⟩ := storeAll_singleton_eq_error_iff.mp h
    exact .set hword
  | setMany pairs =>
    obtain ⟨front, word, value, back, rfl, hfront, hword, rfl⟩ := storeAll_eq_error_iff.mp h
    exact .setMany hfront hword
  | get word =>
    simp only [Session.step] at h
    split at h
    · cases h
    · next hread =>
      cases h
      obtain ⟨hword, rfl⟩ := ofToken_eq_error_iff.mp hread
      exact .get hword
  | parse specification =>
    simp only [Session.step] at h
    split at h
    · cases h
    · next hread =>
      cases h
      exact .parse hread
  | fromFields fields =>
    simp only [Session.step] at h
    split at h
    · cases h
    · next hread =>
      cases h
      exact .fromFields hread
  -- a policy with bounds that no field can hold is reported on, here and on the way back
  | toFields =>
    simp only [Session.step] at h
    split at h
    · cases h
    · next hwrite =>
      cases h
      obtain ⟨hoffends, rfl⟩ := ofPolicy_eq_error_iff.mp hwrite
      exact .offends (.inl rfl) hoffends
  | fieldsRoundTrip =>
    simp only [Session.step] at h
    split at h
    · cases h
    · next hwrite =>
      cases h
      obtain ⟨hoffends, rfl⟩ := ofPolicy_eq_error_iff.mp hwrite
      exact .offends (.inr rfl) hoffends
  -- where the text can be written it is printed
  | display =>
    cases hwritable : s.currentPolicy.isWritable with
    | true =>
      simp only [Session.step, withText_of_isWritable hwritable] at h
      cases h
    | false =>
      simp only [Session.step, withText_of_not_isWritable hwritable] at h
      cases h
      exact .unwritable (.inl rfl) hwritable
  -- the text is written first, so that fails before the reading does
  | textRoundTrip =>
    cases hwritable : s.currentPolicy.isWritable with
    | true =>
      simp only [Session.step, withText_of_isWritable hwritable] at h
      split at h
      · cases h
      · next hread =>
        cases h
        exact .textRoundTrip hwritable hread
    | false =>
      simp only [Session.step, withText_of_not_isWritable hwritable] at h
      cases h
      exact .unwritable (.inr rfl) hwritable
  | tooOld lastChanged now =>
    obtain ⟨e, hundecided, rfl⟩ := judgeAge_eq_error_iff.mp h
    exact .tooOld hundecided
  | tooOldHeld lastChanged now =>
    obtain ⟨e, hundecided, rfl⟩ := judgeAge_eq_error_iff.mp h
    exact .tooOldHeld hundecided
  -- the other steps always succeed
  | _ => cases h

/-- Each error that `Fails` lists is the answer of the step. So the list has nothing in it that does
not happen. -/
theorem Fails.step_snd (h : s.Fails step e) : (s.step step).2 = .error e := by
  cases h with
  | set hword => exact storeAll_singleton_eq_error_iff.mpr ⟨hword, rfl⟩
  | setMany hfront hword => exact congrArg Prod.snd (storeAll_of_unknown hfront hword)
  | get hword =>
    simp only [Session.step, ofToken_of_not_isToken hword]
    rfl
  | parse hread =>
    simp only [Session.step, hread]
    rfl
  | fromFields hread =>
    simp only [Session.step, hread]
    rfl
  | offends htrip hoffends =>
    -- both ways through the fields begin by writing them
    have hwrite := ofPolicy_eq_error_iff.mpr ⟨hoffends, rfl⟩
    rcases htrip with rfl | rfl
    · simp only [Session.step, hwrite]
      rfl
    · simp only [Session.step, hwrite]
      rfl
  | unwritable htext hwritable =>
    rcases htext with rfl | rfl
    · simp only [Session.step, withText_of_not_isWritable hwritable]
      rfl
    · simp only [Session.step, withText_of_not_isWritable hwritable]
      rfl
  | textRoundTrip hwritable hread =>
    simp only [Session.step, withText_of_isWritable hwritable, hread]
    rfl
  | tooOld hundecided => exact judgeAge_eq_error_iff.mpr ⟨_, hundecided, rfl⟩
  | tooOldHeld hundecided => exact judgeAge_eq_error_iff.mpr ⟨_, hundecided, rfl⟩

/-- **Which steps fail, and with what error.** -/
theorem step_eq_error_iff : (s.step step).2 = .error e ↔ s.Fails step e :=
  ⟨fails_of_step, Fails.step_snd⟩

/-! ### The session after a failure -/

/-- **A step that fails leaves the session as it was**, unless it stores several values. Storing a
single value has nothing in front of the word, and replacing needs the new policy first. -/
theorem Fails.step_fst (h : s.Fails step e) (hone : ∀ pairs, step ≠ .setMany pairs) :
    (s.step step).1 = s := by
  cases hrole : step.role with
  | stores =>
    cases h with
    | @set word value hword =>
      have hnothing : Policy.given [(word, value)] = .empty :=
        Policy.given_cons_of_not_isToken hword value []
      rw [s.step_fst_of_stores hrole, Step.stored, hnothing, amend_empty]
    | setMany hfront hword => exact absurd rfl (hone _)
    | offends htrip _ => rcases htrip with rfl | rfl <;> cases hrole
    | unwritable htext _ => rcases htext with rfl | rfl <;> cases hrole
    | _ => cases hrole
  | replaces =>
    rcases s.replaces_or_fails hrole with ⟨p, reply, hstep⟩ | ⟨e', hstep⟩
    · cases (congrArg Prod.snd hstep).symm.trans h.step_snd
    · exact congrArg Prod.fst hstep
  | looks => exact s.step_fst_of_looks hrole
  | _ =>
    -- naming an object cannot fail
    cases h with
    | offends htrip _ => rcases htrip with rfl | rfl <;> cases hrole
    | unwritable htext _ => rcases htext with rfl | rfl <;> cases hrole
    | _ => cases hrole

/-- Storing one value at a time overrides the current object by the given values. Later values go
before earlier ones, as they do in what `given` makes of the pairs. -/
theorem run_setEach (s : Session) (hpairs : AllTokens front) :
    s.run (setEach front) = s.amend (.given front) := by
  induction front generalizing s with
  | nil => exact (amend_empty s).symm
  | cons pair front ih =>
    obtain ⟨word, v⟩ := pair
    obtain ⟨hword, hfront⟩ := List.forall_mem_cons.mp hpairs
    obtain ⟨k, hk⟩ := exists_ofToken_of_isToken hword
    obtain rfl := token_of_ofToken hk
    have hstep : (s.step (.set k.token v)).1 = s.amend (Policy.empty.set k v) := by
      rw [s.step_fst_of_stores rfl, Step.stored, Policy.given_token]
    show (s.run (.set k.token v :: setEach front)) = _
    rw [run_cons, hstep, ih _ hfront, amend_amend, Policy.given_cons_token]

/-- What is stored in the current object is seen through a name of that object only. -/
theorem object_amend (s : Session) (p : Policy) (i : Nat) : (s.amend p).object i =
    if i = s.current then (s.amend p).currentPolicy else s.object i := by
  by_cases hi : i = s.current
  · rw [if_pos hi, hi]
    rfl
  · rw [if_neg hi]
    exact if_neg (Ne.symm hi)

/-- **A failure leaves the session intact or keeps the front.** The steps that fail are those that
`Fails` lists, with its errors. A step that fails leaves the session as it was, unless it stores
several values. If it stores several values, the session is then the one after storing the values in
front of the first unknown word, one at a time: they override the values of the current object, and
the saved and the held policy see them exactly if they are that object. The names stand for the same
objects as before, and no other object changes. -/
theorem fails_intact_or_keeps_front (s : Session) :
    (∀ step e, (s.step step).2 = .error e ↔ s.Fails step e) ∧
      (∀ step e, (s.step step).2 = .error e → (∀ pairs, step ≠ .setMany pairs) →
        (s.step step).1 = s) ∧
      ∀ front word value back, AllTokens front → isToken word = false →
        ∃ s', s.step (.setMany (front ++ (word, value) :: back)) =
            (s', .error (.unknownKind ⟨word⟩)) ∧
          s' = s.run (setEach front) ∧
          s'.current = s.current ∧ s'.saved = s.saved ∧ s'.held = s.held ∧
          s'.currentPolicy = s.currentPolicy.override (.given front) ∧
          s'.savedPolicy = (if s.saved = s.current then s'.currentPolicy else s.savedPolicy) ∧
          s'.heldPolicy = (if s.held = s.current then s'.currentPolicy else s.heldPolicy) ∧
          ∀ i, i ≠ s.current → s'.object i = s.object i := by
  refine ⟨fun step e => step_eq_error_iff,
    fun step e h hone => (step_eq_error_iff.mp h).step_fst hone,
    fun front word value back hfront hword => ?_⟩
  -- what was stored in front is one override of the current object
  have hamend := s.run_setEach hfront
  refine ⟨s.run (setEach front), storeAll_of_unknown hfront hword, rfl, ?_⟩
  rw [hamend]
  refine ⟨rfl, rfl, rfl, if_pos rfl, s.object_amend _ s.saved, s.object_amend _ s.held,
    fun i hi => ?_⟩
  rw [object_amend, if_neg hi]

/-- A session that holds the current policy and has saved a copy of it. A malformed text, an unknown
word and moments that cannot be compared change nothing; what is stored in front of an unknown word
is seen through the held name, but not through the saved one. -/
theorem fails_intact_or_keeps_front_of_held : ∃ s s' : Session,
    s = (start ((Policy.empty.set .length 8).set .age 3)).run [.hold, .copy] ∧
      (s.step (.parse (some "upper>=1 lower"))).1 = s ∧ (s.step (.get "bogus")).1 = s ∧
      s.step (.tooOld (.naive 0) (.moment (.atOffset 0 0))) = (s, .error (.moment .mixedOffsets)) ∧
      s.step (.setMany [("digit", 2), ("digit", 4), ("bogus", 7), ("lower", 1)]) =
        (s', .error (.unknownKind ⟨"bogus"⟩)) ∧
      s'.heldPolicy.text = "length>=8 digit>=4 age<=3" ∧
      s'.savedPolicy.text = "length>=8 age<=3" := by
  obtain ⟨hfails, hintact, hfront⟩ := fails_intact_or_keeps_front
    ((start ((Policy.empty.set .length 8).set .age 3)).run [.hold, .copy])
  have htokens : AllTokens [("digit", 2), ("digit", 4)] :=
    List.forall_mem_cons.mpr ⟨isToken_token .digit,
      List.forall_mem_singleton.mpr (isToken_token .digit)⟩
  obtain ⟨s', hstep, hrun, -⟩ := hfront _ "bogus" 7 [("lower", 1)] htokens (by decide)
  have hundecided : Policy.Undecided ((Policy.empty.set .length 8).set .age 3) (.naive 0)
      (.moment (.atOffset 0 0)) .mixedOffsets := .mixed (by decide) (by decide)
  have hmixed := (hfails (.tooOld (.naive 0) (.moment (.atOffset 0 0))) _).mpr (.tooOld hundecided)
  refine ⟨_, s', rfl, ?_, ?_, ?_, hstep, ?_, ?_⟩
  · have hform : (Policy.ofSpecification? (some "upper>=1 lower")).map Policy.text =
        .error (.malformed (.expected .lowercase) "upper>=1 ".toList "lower".toList) := by
      decide +kernel
    have he := Specification.eq_error_of_map hform
    exact hintact _ _ ((hfails _ _).mpr (.parse he)) fun _ h => by cases h
  · exact hintact _ _ ((hfails _ _).mpr (.get (by decide))) fun _ h => by cases h
  · exact Prod.ext (hintact _ _ hmixed fun _ h => by cases h) hmixed
  · rw [hrun]
    decide +kernel
  · rw [hrun]
    decide +kernel

end PasswordPolicy.Session
