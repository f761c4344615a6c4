import PasswordPolicy.Proofs.Fields.Proper
import PasswordPolicy.Session

/-!
# Proper values in a session

A session stores what it is given without looking at it. As long as it is given proper values only,
every object that it ever holds has proper values only: a step stores a given value, or adds an
object that was read or copied, or makes a name stand for another object. So at every time the
current policy can be written as fields and as a text, and read again without a change.

* **`Proper.step`**, **`Proper.run`**: the invariant of a step and of a run.
* **`proper_run_and_round_trips`**: what holds at every time.
-/

namespace PasswordPolicy

/-- The ways to come by the first policy of a session, with values that are in order. -/
inductive Policy.Origin : Policy → Prop
  | tokens {pairs : List (String × Int)} {p : Policy}
      (hpairs : ∀ pair ∈ pairs, ProperFor pair.1 pair.2) (h : ofTokens pairs = .ok p) : Origin p
  | fields {value : Value} {p : Policy} (hshort : value.ShortIntegers)
      (h : ofFields value [] = .ok p) : Origin p
  | specification {specification : Option String} {p : Policy}
      (h : ofSpecification? specification = .ok p) : Origin p

/-- **A session starts with proper values**, however it comes by its first policy. -/
theorem Policy.Origin.proper {p : Policy} (h : p.Origin) : p.Proper := by
  cases h with
  | tokens hpairs h => exact proper_of_ofTokens hpairs h
  | fields hshort h => exact proper_of_ofFields hshort h
  | specification h => exact proper_of_ofSpecification? h

namespace Session

/-- The values that a step gives are in order: proper for the kinds that they are stored for, and
integers of fields not too long. Texts need no condition. -/
def Step.Proper : Step → Prop
  | set word value => ProperFor word value
  | setMany pairs => ∀ pair ∈ pairs, ProperFor pair.1 pair.2
  | fromFields fields => fields.ShortIntegers
  | _ => True

/-- Every object of the session has proper values only. -/
def Proper (s : Session) : Prop := ∀ i, (s.object i).Proper

variable {s : Session} {p : Policy}

/-- The first policy is the only object that stores anything yet. -/
theorem proper_start (h : p.Proper) : (start p).Proper := by
  intro i
  unfold start
  dsimp only
  -- every name stands for the first object, and beyond it there is nothing stored
  split
  · exact h
  · exact Policy.proper_empty

/-! ### Operations -/

theorem Proper.store (h : s.Proper) {k : Kind} {v : Int} (hv : k.Proper v) :
    (s.store k v).Proper := by
  intro i
  unfold Session.store
  dsimp only
  split
  · exact (h i).set hv
  · exact h i

theorem Proper.add (h : s.Proper) (hp : p.Proper) : (s.add p).Proper := by
  intro i
  unfold Session.add
  dsimp only
  split
  · exact hp
  · exact h i

theorem Proper.replace (h : s.Proper) (hp : p.Proper) : (s.replace p).Proper := h.add hp

/-- Storing several values keeps the session proper, however far it gets. -/
theorem Proper.storeAll (h : s.Proper) {pairs : List (String × Int)}
    (hpairs : ∀ pair ∈ pairs, ProperFor pair.1 pair.2) :
    (s.storeAll pairs).1.Proper := by
  induction pairs generalizing s with
  | nil => exact h
  | cons pair pairs ih =>
    obtain ⟨hpair, hpairs⟩ := List.forall_mem_cons.mp hpairs
    rw [Session.storeAll]
    split
    · next k hk => exact ih (h.store (hpair k hk)) hpairs
    · exact h

theorem judgeAge_fst (lastChanged : Moment) (now : Now) : (s.judgeAge p lastChanged now).1 = s := by
  unfold judgeAge
  split <;> rfl

/-! ### Steps and runs -/

/-- **A step keeps the values proper**, also one that fails. What a step stores was given to it,
read by it or copied, and each of these is proper. -/
theorem Proper.step (h : s.Proper) {step : Step} (hstep : step.Proper) :
    (s.step step).1.Proper := by
  cases step with
  | set word value => exact h.storeAll (List.forall_mem_singleton.mpr hstep)
  | setMany pairs => exact h.storeAll hstep
  | get word =>
    simp only [Session.step]
    split <;> exact h
  | parse specification =>
    simp only [Session.step]
    split
    · next hread => exact h.replace (Policy.proper_of_ofSpecification? hread)
    · exact h
  | fromFields fields =>
    simp only [Session.step]
    split
    · next hread => exact h.replace (proper_of_ofFields hstep hread)
    · exact h
  | toFields =>
    simp only [Session.step]
    split <;> exact h
  | fieldsRoundTrip =>
    -- the current policy can be written as fields, so the step does not fail
    obtain ⟨fields, hfields, hproper, -⟩ := (h s.current).exists_ofPolicy
    unfold Session.step currentPolicy
    rw [hfields]
    exact h.replace hproper
  | display =>
    simp only [Session.step, withText]
    split <;> exact h
  | textRoundTrip =>
    simp only [Session.step, withText]
    split
    · split
      · next rebuilt hread =>
        -- what comes out of a text is proper, so it does not matter what the text was written from
        have hread' : Policy.ofSpecification? (some s.currentPolicy.text) = .ok rebuilt := hread
        exact h.replace (Policy.proper_of_ofSpecification? hread')
      · exact h
    · exact h
  | copy => exact h.add (h s.current)
  | tooOld lastChanged now =>
    simp only [Session.step]
    rw [judgeAge_fst]
    exact h
  | tooOldHeld lastChanged now =>
    simp only [Session.step]
    rw [judgeAge_fst]
    exact h
  | _ =>
    -- the others only look, or make a name stand for another object
    exact h

/-- **A run keeps the values proper.** The induction is on the steps, with the session that each of
them leaves. -/
theorem Proper.run (h : s.Proper) {steps : List Step} (hsteps : ∀ step ∈ steps, step.Proper) :
    (s.run steps).Proper := by
  induction steps generalizing s with
  | nil => exact h
  | cons step steps ih =>
    obtain ⟨hstep, hsteps⟩ := List.forall_mem_cons.mp hsteps
    exact ih (h.step hstep) hsteps

/-! ### Round trips -/

theorem currentPolicy_replace (s : Session) (p : Policy) : (s.replace p).currentPolicy = p :=
  s.object_add_size p

/-- Rebuilding the current policy as an equivalent one does not show. -/
theorem rebuild_of_equiv (h : p ≈ s.currentPolicy) :
    (s.rebuild p).2 = .ok (.truth true) ∧
      (s.rebuild p).1.currentPolicy.text = s.currentPolicy.text := by
  constructor
  · show Except.ok (Reply.truth (decide (s.currentPolicy ≈ p))) = _
    rw [decide_eq_true (Setoid.symm h)]
  · show (s.replace p).currentPolicy.text = _
    rw [currentPolicy_replace, Policy.text_congr h]

/-- The round trip through the fields succeeds and does not show. -/
theorem Proper.fieldsRoundTrip (h : s.Proper) :
    (s.step .fieldsRoundTrip).2 = .ok (.truth true) ∧
      (s.step .fieldsRoundTrip).1.currentPolicy.text = s.currentPolicy.text := by
  obtain ⟨fields, hfields, -, hequiv⟩ := (h s.current).exists_ofPolicy
  simp only [Session.step]
  rw [show Fields.ofPolicy s.currentPolicy = .ok fields from hfields]
  exact rebuild_of_equiv hequiv

/-- The round trip through the canonical text succeeds and does not show. -/
theorem Proper.textRoundTrip (h : s.Proper) :
    (s.step .textRoundTrip).2 = .ok (.truth true) ∧
      (s.step .textRoundTrip).1.currentPolicy.text = s.currentPolicy.text := by
  obtain ⟨hread, hequiv⟩ := Policy.Proper.read_text (h s.current)
  simp only [Session.step]
  -- proper values can be written, so the text is there to be read
  rw [withText_of_isWritable (h s.current).short.isWritable,
    show Policy.ofSpecification s.currentPolicy.text = _ from hread]
  exact rebuild_of_equiv hequiv

/-- **What holds at every time of a session** that is given proper values only. The current and the
saved policy have proper values. The current one can be written as fields, and both round trips
succeed, find the rebuilt policy equivalent and do not change the canonical text. -/
theorem proper_run_and_round_trips {p : Policy} (hp : p.Origin) {steps : List Step}
    (hsteps : ∀ step ∈ steps, step.Proper) {s : Session} (hs : s = (start p).run steps) :
    s.currentPolicy.Proper ∧ s.savedPolicy.Proper ∧
      (∃ fields, s.step .toFields = (s, .ok (.fields fields)) ∧
        fields.toPolicy ≈ s.currentPolicy) ∧
      ∀ trip, trip = Step.textRoundTrip ∨ trip = Step.fieldsRoundTrip →
        (s.step trip).2 = .ok (.truth true) ∧
          (s.step trip).1.currentPolicy.text = s.currentPolicy.text := by
  have hproper : s.Proper := hs ▸ (proper_start hp.proper).run hsteps
  refine ⟨hproper s.current, hproper s.saved, ?_, ?_⟩
  · obtain ⟨fields, hfields, -, hequiv⟩ := (hproper s.current).exists_ofPolicy
    refine ⟨fields, ?_, hequiv⟩
    simp only [Session.step]
    rw [show Fields.ofPolicy s.currentPolicy = .ok fields from hfields]
    rfl
  · rintro trip (rfl | rfl)
    · exact hproper.textRoundTrip
    · exact hproper.fieldsRoundTrip

/-- A session in which one step fails half-way and one is refused. The digits that were stored
before the unknown word are kept, and the refused text changes nothing. -/
theorem proper_run_and_round_trips_of_failing_steps :
    ∃ (p : Policy) (steps : List Step) (s : Session), p.Origin ∧
      steps = [.set "age" (-1), .copy, .setMany [("digit", 2), ("bogus", 7)], .swap,
        .parse (some "repeat=5"), .parse (some "repeat>=05"), .swap] ∧
      (∀ step ∈ steps, step.Proper) ∧ s = (start p).run steps ∧
      s.currentPolicy.Proper ∧ s.savedPolicy.Proper ∧
      s.currentPolicy.text = "length>=8 digit>=2 !user" ∧ s.savedPolicy.text = "repeat>=5" ∧
      (s.step .textRoundTrip).2 = .ok (.truth true) ∧
      (s.step .fieldsRoundTrip).1.currentPolicy.text = "length>=8 digit>=2 !user" := by
  have hdigit {i : Int} (h : i.natAbs < 10 ^ 1) : Text.Short i :=
    Text.short_of_natAbs_lt (by decide) h
  have horigin : Policy.Origin ((Policy.empty.set .length 8).set .user 1) := by
    have hread : Policy.ofTokens [("length", 8), ("user", 1)] =
        .ok ((Policy.empty.set .length 8).set .user 1) := rfl
    refine .tokens (List.forall_mem_cons.mpr ⟨?_, List.forall_mem_singleton.mpr ?_⟩) hread
    · exact Kind.Proper.properFor (k := .length) ⟨by decide, hdigit (by decide)⟩
    · exact Kind.Proper.properFor (k := .user) ⟨by decide, hdigit (by decide)⟩
  have hsteps : ∀ step ∈ [Step.set "age" (-1), .copy, .setMany [("digit", 2), ("bogus", 7)], .swap,
      .parse (some "repeat=5"), .parse (some "repeat>=05"), .swap], step.Proper := by
    have hage : (Step.set "age" (-1)).Proper :=
      Kind.Proper.properFor (k := .age) ⟨by decide, hdigit (by decide)⟩
    have hdigits : (Step.setMany [("digit", 2), ("bogus", 7)]).Proper := by
      have hbogus : ProperFor "bogus" 7 := properFor_of_error rfl 7
      refine List.forall_mem_cons.mpr ⟨?_, List.forall_mem_singleton.mpr hbogus⟩
      exact Kind.Proper.properFor (k := .digit) ⟨by decide, hdigit (by decide)⟩
    simp only [List.forall_mem_cons]
    exact ⟨hage, trivial, hdigits, trivial, trivial, trivial, trivial, List.forall_mem_nil _⟩
  obtain ⟨hcurrent, hsaved, -, htrip⟩ := proper_run_and_round_trips horigin hsteps rfl
  have htext : (((start ((Policy.empty.set .length 8).set .user 1)).run
      [.set "age" (-1), .copy, .setMany [("digit", 2), ("bogus", 7)], .swap,
        .parse (some "repeat=5"), .parse (some "repeat>=05"), .swap]).currentPolicy).text =
      "length>=8 digit>=2 !user" := by decide +kernel
  refine ⟨_, _, _, horigin, rfl, hsteps, rfl, hcurrent, hsaved, htext, by decide +kernel,
    (htrip _ (.inl rfl)).1, ((htrip _ (.inr rfl)).2).trans htext⟩

end Session

end PasswordPolicy
