import PasswordPolicy.Calendar
import PasswordPolicy.Policy

/-!
# Password age

A password is too old if the policy limits its age and more days than the limit have passed since
it was last changed.
-/

namespace PasswordPolicy

/-- The longest time span that is told apart from longer ones, in days. -/
def maxSpanDays : Int := 999999999

namespace Policy

/-- The limit on the age of a password in days, capped at the longest time span. -/
def ageLimitDays (p : Policy) : Int := min p.maxAge maxSpanDays

/-- Is the time span, in microseconds, longer than the limit on the age of a password? -/
def isOverdue (p : Policy) (span : Int) : Bool :=
  decide (p.ageLimitDays * microsecondsPerDay < span)

/-- Is a password that was last changed at the moment too old now? The moments are compared, and a
clock is read, only if there is a limit. -/
def tooOld (p : Policy) (lastChanged : Moment) (now : Now) : Except MomentError Bool :=
  if p.maxAge ≤ 0 then .ok false
  else do
    let now ← now.beside lastChanged
    let span ← Moment.elapsed lastChanged now
    return p.isOverdue span

theorem tooOld_of_maxAge_le {p : Policy} (h : p.maxAge ≤ 0) (lastChanged : Moment) (now : Now) :
    p.tooOld lastChanged now = .ok false := by simp [tooOld, h]

end Policy

end PasswordPolicy
