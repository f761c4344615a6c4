import PasswordPolicy.Calendar
import PasswordPolicy.Number.Nearest
import PasswordPolicy.Text.Decimal

/-!
# Durations in words

A rough description of a time span in English. The span is measured in the largest unit that fits,
rounded to the nearest whole number of it; years are of 365 days and months of 30½ days, and a span
between one and two years names the months or days beyond the year. Whether the span lies in the
past or the future does not show.

The wording and the rounding are those of `naturaldelta` in humanize 4.17; other versions may round
otherwise.
-/

namespace PasswordPolicy.Duration

/-- A count of units, in the plural unless it is one. -/
def counted (count : Nat) (unit : String) : String :=
  toString count ++ " " ++ unit ++ (if count = 1 then "" else "s")

/-- A span of less than a day, in seconds. -/
def ofSeconds (seconds : Nat) : String :=
  if seconds = 0 then "a moment"
  else if seconds = 1 then "a second"
  else if seconds < 60 then counted seconds "second"
  else
    let minutes := divNearest seconds 60
    if minutes = 1 then "a minute"
    else if minutes < 60 then counted minutes "minute"
    else
      let hours := divNearest seconds 3600
      if hours ≤ 1 then "an hour"
      else if hours < 24 then counted hours "hour"
      else "a day"

/-- The months of so many days. -/
def monthsOf (days : Nat) : Nat := divNearest (2 * days) 61

/-- A span of at least a day and less than a year, in days. -/
def ofDays (days : Nat) : String :=
  let months := monthsOf days
  if days = 1 then "a day"
  else if months = 0 then counted days "day"
  else if months = 1 then "a month"
  else if months < 12 then counted months "month"
  else "a year"

/-- A span of a year and so many days, fewer than a year has. -/
def ofYearAndDays (days : Nat) : String :=
  let months := monthsOf days
  if days = 0 then "a year"
  else if months = 0 then "1 year, " ++ counted days "day"
  else if months < 12 then "1 year, " ++ counted months "month"
  else "2 years"

/-- A span of at least two years, in days. -/
def ofManyDays (days : Nat) : String :=
  String.ofList (Text.groupThousands (Text.decimalNat (divNearest days 365))) ++ " years"

/-- A time span, in microseconds, in words. -/
def words (span : Int) : String :=
  let size := span.natAbs
  let day := microsecondsPerDay.toNat
  let days := size / day
  if days = 0 then ofSeconds (size / 1000000)
  else if days < 365 then ofDays days
  else if days < 2 * 365 then ofYearAndDays (days - 365)
  else ofManyDays days

end PasswordPolicy.Duration
