import PasswordPolicy.Calendar
import PasswordPolicy.Unicode.Blank
import PasswordPolicy.Unicode.Digit

/-!
# Dates on the command line

A date is written as year, month and day, and may be followed by a time of day behind a `T` or white
space. The year has four digits; the other numbers have one or two. The digits may be those of any
script, except where their place in a number is restricted.
-/

namespace PasswordPolicy.Console

/-- A part of a date with what follows it. -/
abbrev Part := Option (Nat × List Char)

/-- Reads four digits. -/
def readYear : List Char → Part
  | a :: b :: c :: d :: rest => do
    let thousands := (← Unicode.digitValue? a) * 1000 + (← Unicode.digitValue? b) * 100
    return (thousands + (← Unicode.digitValue? c) * 10 + (← Unicode.digitValue? d), rest)
  | _ => none

/-- Reads two digits of which the first one is ASCII, if the number is one of the allowed ones. -/
def readTwoDigits (allowed : Nat → Bool) : List Char → Part
  | a :: b :: rest =>
    if a.isDigit then do
      let value := (a.toNat - 48) * 10 + (← Unicode.digitValue? b)
      if allowed value then some (value, rest) else none
    else none
  | _ => none

/-- Reads two ASCII digits, if the number is one of the allowed ones. -/
def readTwoAsciiDigits (allowed : Nat → Bool) (text : List Char) : Part :=
  match text with
  | _ :: b :: _ => if b.isDigit then readTwoDigits allowed text else none
  | _ => none

def readDigit : List Char → Part
  | a :: rest => (Unicode.digitValue? a).map fun value => (value, rest)
  | [] => none

/-- Reads one ASCII digit other than zero. -/
def readNonzeroDigit : List Char → Part
  | a :: rest => if a.isDigit && a != '0' then some (a.toNat - 48, rest) else none
  | [] => none

def readMonth (text : List Char) : Part :=
  (readTwoAsciiDigits (fun n => 1 ≤ n && n ≤ 12) text).or (readNonzeroDigit text)

/-- Reads a day of a month; a space may stand for its first digit. -/
def readDay (text : List Char) : Part :=
  let withSpace : Part := match text with
    | ' ' :: rest => readNonzeroDigit rest
    | _ => none
  ((readTwoAsciiDigits (fun n => (1 ≤ n && n ≤ 9) || n == 30 || n == 31) text).or
    (readTwoDigits (fun n => 10 ≤ n && n ≤ 29) text)).or
      ((readNonzeroDigit text).or withSpace)

def readHour (text : List Char) : Part :=
  ((readTwoAsciiDigits (fun n => 20 ≤ n && n ≤ 23) text).or
    (readTwoDigits (fun n => n ≤ 19) text)).or (readDigit text)

/-- Reads a minute or a second. -/
def readSixtieth (text : List Char) : Part :=
  (readTwoDigits (fun n => n ≤ 59) text).or (readDigit text)

def readMark (marks : List Char) : List Char → Option (List Char)
  | c :: rest => if marks.contains c then some rest else none
  | [] => none

/-- What follows white space, of which there has to be some. -/
def readBlanks : List Char → Option (List Char)
  | c :: rest => if Unicode.isBlank c then some (rest.dropWhile Unicode.isBlank) else none
  | [] => none

def readDate (text : List Char) : Option (CivilTime × List Char) := do
  let (year, rest) ← readYear text
  let (month, rest) ← readMonth (← readMark ['-'] rest)
  let (day, rest) ← readDay (← readMark ['-'] rest)
  return (⟨year, month, day, 0, 0, 0, 0⟩, rest)

/-- Reads a time of day. -/
def readTime (date : CivilTime) (text : List Char) : Option (CivilTime × List Char) := do
  let (hour, rest) ← readHour text
  let (minute, rest) ← readSixtieth (← readMark [':'] rest)
  let (second, rest) ← readSixtieth (← readMark [':'] rest)
  return ({ date with hour := hour, minute := minute, second := second }, rest)

/-- Reads a date, or a date and a time of day. -/
def readMoment (text : List Char) : Option (CivilTime × List Char) := do
  let (date, rest) ← readDate text
  if rest.isEmpty then some (date, rest)
  else readTime date (← (readMark ['T', 't'] rest).or (readBlanks rest))

/-- The time that a text gives, if it does so completely and there is such a time. -/
def readCivilTime? (text : String) : Option CivilTime :=
  match readMoment text.toList with
  | some (time, []) => if time.valid then some time else none
  | _ => none

end PasswordPolicy.Console
