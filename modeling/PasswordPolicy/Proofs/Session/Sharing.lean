import PasswordPolicy.Proofs.Session.Frame

/-!
# Which names share an object

Whether a stored value is seen through another name depends on the objects that the names stand for,
and these depend on the steps that were taken. The saved policy is the current object exactly since
the last aliasing, unless a copy or a replacement came after it. The held policy is the object that
was current at the last hold, whichever name has it now.

* **`saved_eq_current_iff`**, **`held_run`**: the objects of the names, by the steps of the run.
* **`stored_and_shared`**: what is stored where, and through which names it is seen.
-/

namespace PasswordPolicy.Session

variable {s s' : Session} {step : Step} {p : Policy} {steps : List Step} {i : Nat}

/-! ### The saved policy -/

/-- The step makes the saved or the current policy a new object. -/
def Separates (s : Session) (step : Step) : Prop :=
  step.role = .copies ∨ step.role = .replaces ∧ ∃ reply, (s.step step).2 = .ok reply

/-- No step of the run makes the saved or the current policy a new object. -/
def StaysJoined (s : Session) (steps : List Step) : Prop :=
  s.Throughout (fun s step => ¬ s.Separates step) steps

/-- A step that neither copies nor replaces separates nothing. -/
theorem not_separates (hcopies : step.role ≠ .copies) (hreplaces : step.role ≠ .replaces) :
    ¬ s.Separates step := by
  rintro (h | ⟨h, -⟩)
  · exact hcopies h
  · exact hreplaces h

/-- **When a step leaves the saved policy the current object.** An aliasing joins the two, a new
object for one of them separates them, and all other steps leave them as they are or exchange
them. -/
theorem Moves.saved_eq_current_iff (h : s.Moves step s') (hs : s.WellNamed) :
    s'.saved = s'.current ↔ step = .alias ∨ s.saved = s.current ∧ ¬ s.Separates step := by
  -- most steps neither alias nor separate
  have hkept (haliases : step.role ≠ .aliases) (hseparates : ¬ s.Separates step) :
      s.saved = s.current ↔ step = .alias ∨ s.saved = s.current ∧ ¬ s.Separates step := by
    have hstep : step ≠ .alias := by
      rintro rfl
      exact haliases rfl
    rw [or_iff_right hstep, and_iff_left hseparates]
  -- a new object is neither of the two that were there
  have hnew (hstep : step ≠ .alias) (hseparates : s.Separates step) :
      ¬ (step = .alias ∨ s.saved = s.current ∧ ¬ s.Separates step) := by
    rintro (h | ⟨-, hnot⟩)
    · exact hstep h
    · exact hnot hseparates
  cases h with
  | stores h => exact hkept (by simp [h]) (not_separates (by simp [h]) (by simp [h]))
  | replaces p h hok =>
    have hne : s.saved ≠ s.size := Nat.ne_of_lt hs.saved
    have hstep : step ≠ .alias := by
      rintro rfl
      cases h
    exact iff_of_false hne (hnew hstep (.inr ⟨h, _, hok⟩))
  | fails h herror =>
    have hseparates : ¬ s.Separates step := by
      rintro (hcopies | ⟨-, reply, hok⟩)
      · cases h.symm.trans hcopies
      · cases herror.symm.trans hok
    exact hkept (by simp [h]) hseparates
  | copies =>
    have hne : s.size ≠ s.current := (Nat.ne_of_lt hs.current).symm
    exact iff_of_false hne (hnew nofun (.inl rfl))
  | aliases => exact iff_of_true rfl (.inl rfl)
  | swaps =>
    have hsame : s.current = s.saved ↔ s.saved = s.current := eq_comm
    exact hsame.trans (hkept nofun (not_separates nofun nofun))
  | holds => exact hkept nofun (not_separates nofun nofun)
  | looks h => exact hkept (by simp [h]) (not_separates (by simp [h]) (by simp [h]))

/-- **The saved policy is the current object** exactly if the last of the steps that decide about it
is an aliasing. -/
theorem saved_eq_current_iff (p : Policy) (steps : List Step) :
    ((start p).run steps).saved = ((start p).run steps).current ↔
      ∃ earlier later, steps = earlier ++ .alias :: later ∧
        ((start p).run (earlier ++ [.alias])).StaysJoined later := by
  -- the last step decides, or it leaves the decision to the steps before it
  induction steps using List.reverseRecOn with
  | nil =>
    have hne : (start p).saved ≠ (start p).current := nofun
    refine iff_of_false hne ?_
    rintro ⟨earlier, later, h, -⟩
    have hnil := (List.append_eq_nil_iff.mp h.symm).2
    cases hnil
  | append_singleton steps step ih =>
    have hmoves := ((start p).run steps).moves_step step
    have hlast : (start p).run (steps ++ [step]) = (((start p).run steps).step step).1 :=
      run_append (start p) steps [step]
    have hrun (earlier later : List Step) : ((start p).run (earlier ++ [.alias])).run later =
        (start p).run (earlier ++ .alias :: later) := by
      rw [← run_append, List.append_assoc, List.singleton_append]
    rw [hlast, hmoves.saved_eq_current_iff ((wellNamed_start p).run steps), ih]
    constructor
    · rintro (rfl | ⟨⟨earlier, later, rfl, hjoined⟩, hseparates⟩)
      · exact ⟨steps, [], rfl, throughout_nil _⟩
      · refine ⟨earlier, later ++ [step], ?_, throughout_concat_iff.mpr ⟨hjoined, ?_⟩⟩
        · rw [List.append_assoc, List.cons_append]
        · rwa [hrun]
    · rintro ⟨earlier, later, hsteps, hjoined⟩
      rcases end_of_concat_eq hsteps with ⟨-, -, hstep⟩ | ⟨more, rfl, rfl⟩
      · exact .inl hstep
      · obtain ⟨hjoined, hseparates⟩ := throughout_concat_iff.mp hjoined
        rw [hrun] at hseparates
        exact .inr ⟨⟨earlier, more, rfl, hjoined⟩, hseparates⟩

/-! ### The held policy -/

/-- Only holding changes what the held name stands for. -/
theorem Moves.held_eq (h : s.Moves step s') (hstep : step ≠ .hold) : s'.held = s.held := by
  cases h with
  | holds => exact absurd rfl hstep
  | _ => rfl

/-- Where nothing is held, the held name stays with its object, over a run of any length. -/
theorem held_run_of_not_mem (h : .hold ∉ steps) : (s.run steps).held = s.held := by
  induction steps generalizing s with
  | nil => rfl
  | cons step steps ih =>
    obtain ⟨hstep, hsteps⟩ := not_or.mp (List.mem_cons.not.mp h)
    rw [run_cons, ih hsteps, (s.moves_step step).held_eq (Ne.symm hstep)]

/-- **The held policy is the object that was current at the last hold.** -/
theorem held_run (s : Session) {earlier later : List Step} (h : .hold ∉ later) :
    (s.run (earlier ++ .hold :: later)).held = (s.run earlier).current := by
  rw [run_append, run_cons, held_run_of_not_mem h]
  rfl

/-- The object is there, but it is neither the current nor the saved policy. -/
structure Unnamed (s : Session) (i : Nat) : Prop where
  lt_size : i < s.size
  ne_current : i ≠ s.current
  ne_saved : i ≠ s.saved

/-- An object that neither the saved nor the current name stands for is not found again: the names
move to each other's objects or to a new one. -/
theorem Moves.unnamed (h : s.Moves step s') (hi : s.Unnamed i) : s'.Unnamed i := by
  obtain ⟨hlt, hcurrent, hsaved⟩ := hi
  have hfresh : i ≠ s.size := Nat.ne_of_lt hlt
  refine ⟨Nat.lt_of_lt_of_le hlt h.size_le, ?_, ?_⟩
  · cases h with
    | replaces p _ _ => exact hfresh
    | swaps => exact hsaved
    | _ => exact hcurrent
  · cases h with
    | copies => exact hfresh
    | aliases => exact hcurrent
    | swaps => exact hcurrent
    | _ => exact hsaved

/-- So it is not changed again either, since only the current object ever is. -/
theorem Unnamed.run (hi : s.Unnamed i) (steps : List Step) :
    (s.run steps).Unnamed i ∧ (s.run steps).object i = s.object i := by
  induction steps generalizing s with
  | nil => exact ⟨hi, rfl⟩
  | cons step steps ih =>
    -- it stays without a name after the first step, so the others miss it as well
    have hmoves := s.moves_step step
    obtain ⟨hlater, hobject⟩ := ih (hmoves.unnamed hi)
    refine ⟨hlater, ?_⟩
    rw [run_cons, hobject, hmoves.object_eq hi.lt_size, if_neg hi.ne_current.symm]

/-- **Without a hold** the held policy is an object of its own, and it stays empty. It is the third
object of a session, and no name ever moves to it. -/
theorem unnamed_held_of_not_mem (p : Policy) (h : .hold ∉ steps) :
    ((start p).run steps).Unnamed ((start p).run steps).held ∧
      ((start p).run steps).heldPolicy = .empty := by
  have hstart : (start p).Unnamed (start p).held := ⟨Nat.lt_of_sub_eq_succ rfl, nofun, nofun⟩
  obtain ⟨hunnamed, hobject⟩ := hstart.run steps
  unfold heldPolicy
  rw [held_run_of_not_mem h]
  exact ⟨hunnamed, hobject⟩

/-! ### Seeing a stored value -/

/-- A value that is stored in the current object is seen in that object only. -/
theorem get_object_amend_iff {k : Kind} {v : Int} (h : (s.object i).get k ≠ v) :
    ((s.amend (Policy.empty.set k v)).object i).get k = v ↔ i = s.current := by
  show (if s.current = i then _ else s.object i).get k = v ↔ _
  by_cases hi : s.current = i
  · rw [if_pos hi, ← Policy.set_eq_override, Policy.get_set_self]
    exact iff_of_true rfl hi.symm
  · rw [if_neg hi]
    exact iff_of_false h (Ne.symm hi)

/-! ### Copies -/

/-- **A copy and its original** go apart: where later steps store values in one of them only, the
other keeps the values that both had. -/
theorem WellNamed.object_run_copy (hs : s.WellNamed) :
    (s.step .copy).1.saved ≠ s.current ∧
      (∀ later, (s.step .copy).1.StoresOnlyIn s.current later →
        ((s.step .copy).1.run later).object (s.step .copy).1.saved = s.currentPolicy) ∧
      ∀ later, (s.step .copy).1.StoresOnlyIn (s.step .copy).1.saved later →
        ((s.step .copy).1.run later).object s.current = s.currentPolicy := by
  have hne : s.size ≠ s.current := (Nat.ne_of_lt hs.current).symm
  have hcopy : (s.step .copy).1.object s.size = s.currentPolicy :=
    object_add_size s s.currentPolicy
  have horiginal : (s.step .copy).1.object s.current = s.currentPolicy :=
    object_add_of_lt s s.currentPolicy hs.current
  refine ⟨hne, fun later hlater => ?_, fun later hlater => ?_⟩
  · exact (hlater.object_run (Nat.lt_succ_self s.size) hne).trans hcopy
  · exact (hlater.object_run (Nat.lt_succ_of_lt hs.current) hne.symm).trans horiginal

/-- The answer on an age depends on the policy that is asked, not on the session around it. -/
theorem judgeAge_snd_congr (lastChanged : Moment) (now : Now) :
    (s.judgeAge p lastChanged now).2 = (s'.judgeAge p lastChanged now).2 := by
  unfold judgeAge
  split <;> rfl

/-- What is stored where in a session after some steps, and through which names it is seen. -/
structure SharingLaw (p : Policy) (steps : List Step) (s : Session) : Prop where
  /-- The values that a step stores override those of the current object; no step does anything else
  to an object that is there. -/
  object_step (step : Step) (i : Nat) : i < s.size → (s.step step).1.object i =
    if s.current = i then (s.object i).override step.stored else s.object i
  /-- A step that stores values keeps the names. -/
  names_step (step : Step) : step.role = .stores → (s.step step).1.current = s.current ∧
    (s.step step).1.saved = s.saved ∧ (s.step step).1.held = s.held
  /-- A new value is seen through the saved name exactly if that stands for the current object. -/
  seen_saved_iff (k : Kind) (v : Int) : s.savedPolicy.get k ≠ v →
    ((s.step (.set k.token v)).1.savedPolicy.get k = v ↔ s.saved = s.current)
  /-- It does exactly if there was an aliasing and nothing parted the two after it. -/
  saved_iff : s.saved = s.current ↔ ∃ earlier later, steps = earlier ++ .alias :: later ∧
    ((start p).run (earlier ++ [.alias])).StaysJoined later
  /-- A copy is another object than its original. -/
  copy_ne : (s.step .copy).1.saved ≠ s.current
  /-- A copy keeps its values where later steps store in the original only. -/
  copy_keeps (later : List Step) : (s.step .copy).1.StoresOnlyIn s.current later →
    ((s.step .copy).1.run later).object (s.step .copy).1.saved = s.currentPolicy
  /-- The original keeps its values where later steps store in the copy only. -/
  original_keeps (later : List Step) : (s.step .copy).1.StoresOnlyIn (s.step .copy).1.saved later →
    ((s.step .copy).1.run later).object s.current = s.currentPolicy
  /-- A new value is seen through the held name exactly if that stands for the current object. -/
  seen_held_iff (k : Kind) (v : Int) : s.heldPolicy.get k ≠ v →
    ((s.step (.set k.token v)).1.heldPolicy.get k = v ↔ s.held = s.current)
  /-- The held name stands for the object that was current at the last hold. -/
  held_eq (earlier later : List Step) : steps = earlier ++ .hold :: later → .hold ∉ later →
    s.held = ((start p).run earlier).current
  /-- Without a hold it stands for an object that is never changed. -/
  held_of_not_mem : .hold ∉ steps → s.held ≠ s.current ∧ s.heldPolicy = .empty
  /-- The held policy judges passwords as the current one would if it were that object. -/
  evaluateHeld_eq (attempt : Attempt) : (s.step (.evaluateHeld attempt)).2 =
    (({ s with current := s.held } : Session).step (.evaluate attempt)).2
  /-- It judges the age of passwords likewise. -/
  tooOldHeld_eq (lastChanged : Moment) (now : Now) : (s.step (.tooOldHeld lastChanged now)).2 =
    (({ s with current := s.held } : Session).step (.tooOld lastChanged now)).2

/-- **What is stored where, and who sees it.** At any time of a session a step that stores values
changes the current object only, by exactly the given values, and keeps the names; no other step
changes an object that is there. A stored value is seen through the saved name exactly if that
stands for the current object, that is, if there was an aliasing and no copy and no replacement
after it. A copy and its original go apart. The held name stands for the object that was current at
the last hold, and without a hold for one that is never changed; so a stored value is seen through
it exactly if that object is current again. What the held policy answers is what the current one
would answer if it were that object. -/
theorem stored_and_shared (p : Policy) (steps : List Step) {s : Session}
    (hs : s = (start p).run steps) : SharingLaw p steps s := by
  have hset (k : Kind) (v : Int) :
      (s.step (.set k.token v)).1 = s.amend (Policy.empty.set k v) := by
    rw [s.step_fst_of_stores rfl, Step.stored, Policy.given_token]
  -- every name stands for an object of the session, at the start and so after any run
  have hnamed : s.WellNamed := hs ▸ (wellNamed_start p).run steps
  obtain ⟨hapart, hcopy, horiginal⟩ := hnamed.object_run_copy
  exact {
    object_step := fun step i hi => (s.moves_step step).object_eq hi
    names_step := fun step hstores => by
      rw [s.step_fst_of_stores hstores]
      exact ⟨rfl, rfl, rfl⟩
    seen_saved_iff := fun k v hv => by
      rw [hset]
      exact get_object_amend_iff hv
    saved_iff := by
      rw [hs]
      exact saved_eq_current_iff p steps
    copy_ne := hapart
    copy_keeps := hcopy
    original_keeps := horiginal
    seen_held_iff := fun k v hv => by
      rw [hset]
      exact get_object_amend_iff hv
    held_eq := fun earlier later hsteps hlater => by
      rw [hs, hsteps]
      exact held_run _ hlater
    held_of_not_mem := fun hnone => by
      rw [hs]
      obtain ⟨hunnamed, hempty⟩ := unnamed_held_of_not_mem p hnone
      exact ⟨hunnamed.ne_current, hempty⟩
    evaluateHeld_eq := fun attempt => rfl
    tooOldHeld_eq := fun lastChanged now => judgeAge_snd_congr lastChanged now }

/-- A session in which the held object is replaced, saved and brought back. The digits that were
stored before the replacement are still there, and a value that is stored now is seen through the
held name, but not through the saved one. -/
theorem stored_and_shared_of_return :
    ∃ s : Session, s = (start (Policy.empty.set .length 8)).run
        [.alias, .hold, .set "digit" 2, .parse (some "upper>=1"), .swap] ∧
      s.held = s.current ∧ s.saved ≠ s.current ∧ s.heldPolicy.text = "length>=8 digit>=2" ∧
      (s.step (.set "special" 4)).1.heldPolicy.get .special = 4 ∧
      (s.step (.set "special" 4)).1.savedPolicy.get .special ≠ 4 := by
  refine ⟨_, rfl, ?_⟩
  have hlaw := stored_and_shared (Policy.empty.set .length 8)
    [.alias, .hold, .set "digit" 2, .parse (some "upper>=1"), .swap] rfl
  have hobject :=
    hlaw.held_eq [.alias] [.set "digit" 2, .parse (some "upper>=1"), .swap] rfl (by simp)
  generalize hs : (start (Policy.empty.set .length 8)).run
    [.alias, .hold, .set "digit" 2, .parse (some "upper>=1"), .swap] = s at *
  have hcurrent : s.current = 0 := by rw [← hs]; decide +kernel
  have hother : s.saved = 3 := by rw [← hs]; decide +kernel
  have hsame : s.held = s.current := hobject.trans hcurrent.symm
  have hdiffer : s.saved ≠ s.current := by
    rw [hcurrent, hother]
    decide
  have htext : s.heldPolicy.text = "length>=8 digit>=2" := by rw [← hs]; decide +kernel
  have hunheld : s.heldPolicy.get .special ≠ 4 := by rw [← hs]; decide +kernel
  have hunsaved : s.savedPolicy.get .special ≠ 4 := by rw [← hs]; decide +kernel
  refine ⟨hsame, hdiffer, htext, (hlaw.seen_held_iff .special 4 hunheld).mpr hsame,
    fun hseen => ?_⟩
  exact hdiffer ((hlaw.seen_saved_iff .special 4 hunsaved).mp hseen)

end PasswordPolicy.Session
