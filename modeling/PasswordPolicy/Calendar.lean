/-!
# Calendar

Points of civil time in the proleptic Gregorian calendar, counted in microseconds since the start
of year 1, and points of time that may carry a time zone.

A zone may change its offset from UTC, as where the clocks are put forward for the summer. Times of
two different zones are compared in UTC. Times of one and the same zone, or of none, are compared by
what its clocks show, so that a night in which they are put forward counts as long as any other.
-/

namespace PasswordPolicy

/-! ### Dates -/

def isLeapYear (year : Nat) : Bool := year % 4 == 0 && (year % 100 != 0 || year % 400 == 0)

/-- The days of a month; months are counted from 1. -/
def daysInMonth (year month : Nat) : Nat :=
  if month = 2 then if isLeapYear year then 29 else 28
  else if month = 4 ∨ month = 6 ∨ month = 9 ∨ month = 11 then 30
  else 31

/-- The days of all years before a year, counted from year 1. -/
def daysBeforeYear (year : Nat) : Nat :=
  let past := year - 1
  past * 365 + past / 4 - past / 100 + past / 400

def daysBeforeMonth (year month : Nat) : Nat :=
  (List.range' 1 (month - 1)).foldl (fun days past => days + daysInMonth year past) 0

/-! ### Civil time -/

/-- A date with a time of day. -/
structure CivilTime where
  year : Nat
  month : Nat
  day : Nat
  hour : Nat
  minute : Nat
  second : Nat
  microsecond : Nat
deriving DecidableEq, Repr

namespace CivilTime

/-- Is there such a date and time, in the years 1 to 9999? -/
def valid (t : CivilTime) : Bool :=
  1 ≤ t.year && t.year ≤ 9999 && 1 ≤ t.month && t.month ≤ 12 &&
    1 ≤ t.day && t.day ≤ daysInMonth t.year t.month &&
    t.hour ≤ 23 && t.minute ≤ 59 && t.second ≤ 59 && t.microsecond ≤ 999999

/-- The days before the date, counted from the first day of year 1. -/
def days (t : CivilTime) : Nat :=
  daysBeforeYear t.year + daysBeforeMonth t.year t.month + (t.day - 1)

/-- The microseconds before the time, counted from the start of year 1. -/
def microseconds (t : CivilTime) : Int :=
  (((t.days * 24 + t.hour) * 60 + t.minute) * 60 + t.second : Nat) * 1000000 + t.microsecond

/-- The year, counted from 1, that holds a day counted from the first day of year 1. -/
def yearOfDay (day : Nat) : Nat :=
  -- Years have 365.2425 days on average, so this estimate is off by at most one.
  let estimate := day * 400 / 146097 + 1
  if daysBeforeYear (estimate + 1) ≤ day then estimate + 1
  else if day < daysBeforeYear estimate then estimate - 1
  else estimate

/-- The month that holds a day of a year; days are counted from 0. -/
def monthOfDay (year day : Nat) : Nat :=
  ((List.range' 1 12).filter fun month => daysBeforeMonth year month ≤ day).length

/-- The time after so many microseconds since the start of year 1, if it is in the years 1 to
9999. -/
def ofMicroseconds? (microseconds : Int) : Option CivilTime :=
  let seconds := microseconds / 1000000
  let day := seconds / 86400
  let year := yearOfDay day.toNat
  if microseconds < 0 ∨ 9999 < year then none
  else
    let dayOfYear := day.toNat - daysBeforeYear year
    let month := monthOfDay year dayOfYear
    let second := (seconds % 86400).toNat
    some {
      year := year
      month := month
      day := dayOfYear - daysBeforeMonth year month + 1
      hour := second / 3600
      minute := second / 60 % 60
      second := second % 60
      microsecond := (microseconds % 1000000).toNat }

/-- A number with at least `width` digits. -/
def padded (width n : Nat) : String :=
  let digits := Nat.toDigits 10 n
  String.ofList (List.replicate (width - digits.length) '0' ++ digits)

/-- The time in the ISO format, without a fraction of a second. -/
def iso (t : CivilTime) : String :=
  padded 4 t.year ++ "-" ++ padded 2 t.month ++ "-" ++ padded 2 t.day ++ "T" ++
    padded 2 t.hour ++ ":" ++ padded 2 t.minute ++ ":" ++ padded 2 t.second

end CivilTime

/-! ### Zones -/

def microsecondsPerMinute : Int := 60 * 1000000

def microsecondsPerDay : Int := 24 * 60 * microsecondsPerMinute

/-- The microseconds from the start of year 1 to the end of year 9999. -/
def calendarEnd : Int := daysBeforeYear 10000 * microsecondsPerDay

/-- A time zone: the minutes by which its clocks are ahead of UTC, at first and from each of its
changes on. A change has its time in UTC, in microseconds since the start of year 1; the changes are
in the order of time. Zones of different names are different ones, even if their clocks agree. -/
structure Zone where
  name : String
  initial : Int
  changes : List (Int × Int)
deriving DecidableEq, Repr

namespace Zone

/-- The zone whose clocks are always ahead of UTC by so many minutes. -/
def fixed (minutes : Int) : Zone := ⟨"", minutes, []⟩

/-- The offset after all changes up to the first one that has not been reached. Whether a change has
been reached may depend on the offset before it. -/
def offsetAfter (reached : Int → Int × Int → Bool) (offset : Int) : List (Int × Int) → Int
  | [] => offset
  | change :: more => if reached offset change then offsetAfter reached change.2 more else offset

/-- The offset at a time in UTC. -/
def offsetAt (z : Zone) (time : Int) : Int :=
  offsetAfter (fun _ change => decide (change.1 ≤ time)) z.initial z.changes

/-- The offset at which the clocks of the zone show a reading. When they are put back they show some
readings twice, the second time at the offset of the `later` of the two times. When they are put
forward they skip some readings; these count by the offset before, or after it for the `later`. -/
def offsetOf (z : Zone) (clock : Int) (later : Bool) : Int :=
  offsetAfter (fun offset change =>
    let shift := if later then min offset change.2 else max offset change.2
    decide (change.1 + shift * microsecondsPerMinute ≤ clock)) z.initial z.changes

end Zone

/-! ### Moments -/

/-- A reading of a clock in microseconds since the start of year 1, and the zone of that clock if
it is known. -/
structure Moment where
  clock : Int
  zone : Option Zone
  /-- Of two times at which the clock shows the reading, is it the later one? -/
  later : Bool
deriving DecidableEq, Repr

/-- Why the time between two moments cannot be told. -/
inductive MomentError
  /-- The zone of only one of the moments is known. -/
  | mixedOffsets
  /-- A moment cannot be read in a zone, because that reading is not in the years 1 to 9999. -/
  | outOfCalendar
deriving DecidableEq, Repr

/-- The text of the error. -/
def MomentError.message : MomentError → String
  | mixedOffsets => "can't subtract offset-naive and offset-aware datetimes"
  | outOfCalendar => "date value out of range"

namespace Moment

/-- A reading of a clock of which no zone is known. -/
def naive (clock : Int) : Moment := ⟨clock, none, false⟩

theorem zone_naive_eq (clock clock' : Int) : (naive clock).zone = (naive clock').zone := rfl

/-- A reading of a clock that is always ahead of UTC by so many minutes. -/
def atOffset (clock minutes : Int) : Moment := ⟨clock, some (.fixed minutes), false⟩

/-- The minutes by which the clock is ahead of UTC at the moment, if its zone is known. -/
def offset (m : Moment) : Option Int := m.zone.map fun z => z.offsetOf m.clock m.later

/-- The microseconds from one moment to another. Within one zone, or without any, this is what the
clock has moved on; offsets count only between different zones. -/
def elapsed (start finish : Moment) : Except MomentError Int :=
  if start.zone = finish.zone then .ok (finish.clock - start.clock)
  else
    match start.offset, finish.offset with
    | some o, some o' =>
      .ok ((finish.clock - o' * microsecondsPerMinute) - (start.clock - o * microsecondsPerMinute))
    | _, _ => .error .mixedOffsets

theorem elapsed_of_zone_eq {start finish : Moment} (h : start.zone = finish.zone) :
    elapsed start finish = .ok (finish.clock - start.clock) := if_pos h

end Moment

/-! ### The current moment -/

/-- What counts as the current moment: a given one, or what a clock shows. -/
inductive Now
  | moment (m : Moment)
  | clock (reading : Int)
deriving DecidableEq, Repr

/-- The current moment, to be compared with another one. A clock has no known zone if the other
moment has none. Otherwise it shows UTC, and it is read in the zone of the other moment: at the
offset that this zone has now, which need not be the one that it had at the other moment. -/
def Now.beside (other : Moment) : Now → Except MomentError Moment
  | moment m => .ok m
  | clock reading =>
    match other.zone with
    | none => .ok (.naive reading)
    | some zone =>
      let offset := zone.offsetAt reading
      let shifted := reading + offset * microsecondsPerMinute
      if 0 ≤ shifted ∧ shifted < calendarEnd then
        .ok ⟨shifted, some zone, decide (zone.offsetOf shifted false ≠ offset)⟩
      else .error .outOfCalendar

/-- A clock is read in the zone of the other moment. -/
theorem Now.zone_of_beside_clock {other m : Moment} {reading : Int}
    (h : Now.beside other (clock reading) = .ok m) : m.zone = other.zone := by
  cases hzone : other.zone with
  | none =>
    simp only [Now.beside, hzone, Except.ok.injEq] at h
    rw [← h]
    rfl
  | some zone =>
    simp only [Now.beside, hzone] at h
    split at h
    · rw [← Except.ok.inj h]
    · cases h

end PasswordPolicy
