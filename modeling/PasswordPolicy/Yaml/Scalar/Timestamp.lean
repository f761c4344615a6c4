import PasswordPolicy.Value
import PasswordPolicy.Yaml.Character
import PasswordPolicy.Yaml.Failure

/-!
# Timestamps

A plain scalar such as `2024-05-31` is a date, and one such as `2024-05-31 08:30:00.25 +2` a time.
A time of day follows the date behind a `T` or blanks; it may have a fraction of a second and an
offset from UTC, which is subtracted.
-/

namespace PasswordPolicy.Yaml

/-- A time of day as it is written. -/
structure WrittenTime where
  hour : Nat
  minute : Nat
  second : Nat
  /-- The digits behind the point of the seconds. -/
  fraction : List Char
  /-- The offset from UTC in minutes. -/
  offset : Int
deriving DecidableEq, Repr

/-- A timestamp as it is written. -/
structure Timestamp where
  year : Nat
  month : Nat
  day : Nat
  time : Option WrittenTime
deriving DecidableEq, Repr

/-! ### Reading -/

/-- Reads as many digits as there are, but at most `most`, and not fewer than `least`. -/
def readDigits (least most : Nat) (text : List Char) : Option (Nat × List Char) :=
  let digits := (text.take most).takeWhile Char.isDigit
  if digits.length < least then none
  else some (Text.digitsValue digits, text.drop digits.length)

/-- What follows a given character. -/
def afterMark (mark : Char) : List Char → Option (List Char)
  | c :: rest => if c == mark then some rest else none
  | [] => none

/-- What follows the mark between a date and a time of day. -/
def afterSeparator : List Char → Option (List Char)
  | 'T' :: rest => some rest
  | 't' :: rest => some rest
  | c :: rest => if isBlankChar c then some (rest.dropWhile isBlankChar) else none
  | [] => none

/-- Reads a fraction of a second, which may be missing. -/
def readFraction : List Char → List Char × List Char
  | '.' :: rest => (rest.takeWhile Char.isDigit, rest.dropWhile Char.isDigit)
  | rest => ([], rest)

/-- Reads hours and minutes of an offset; the minutes may be missing. -/
def readOffsetSize (text : List Char) : Option Nat := do
  let (hours, rest) ← readDigits 1 2 text
  match rest with
  | [] => some (hours * 60)
  | ':' :: rest =>
    let (minutes, rest) ← readDigits 2 2 rest
    if rest.isEmpty then some (hours * 60 + minutes) else none
  | _ => none

/-- Reads an offset up to the end of the text. Without one there is nothing left to read. -/
def readOffset (text : List Char) : Option Int :=
  if text.isEmpty then some 0
  else match text.dropWhile isBlankChar with
    | ['Z'] => some 0
    | '+' :: rest => (readOffsetSize rest).map Int.ofNat
    | '-' :: rest => (readOffsetSize rest).map fun minutes => -(minutes : Int)
    | _ => none

/-- Reads a time of day up to the end of the text. -/
def readWrittenTime (text : List Char) : Option WrittenTime := do
  let (hour, rest) ← readDigits 1 2 text
  let (minute, rest) ← readDigits 2 2 (← afterMark ':' rest)
  let (second, rest) ← readDigits 2 2 (← afterMark ':' rest)
  let (fraction, rest) := readFraction rest
  return ⟨hour, minute, second, fraction, ← readOffset rest⟩

def Timestamp.ofText? (text : List Char) : Option Timestamp := do
  let (year, rest) ← readDigits 4 4 text
  let (month, rest) ← readDigits 1 2 (← afterMark '-' rest)
  let (day, rest) ← readDigits 1 2 (← afterMark '-' rest)
  if rest.isEmpty then return ⟨year, month, day, none⟩
  else return ⟨year, month, day, some (← readWrittenTime (← afterSeparator rest))⟩

/-- Is a plain scalar with this text a timestamp? In a date alone the month and the day have two
digits. -/
def isTimestamp (text : List Char) : Bool :=
  match Timestamp.ofText? text with
  | some stamp => stamp.time.isSome || text.length == 10
  | none => false

/-! ### Values -/

/-- The microseconds that digits behind the point stand for; the seventh digit rounds. -/
def fractionMicroseconds (fraction : List Char) : Nat :=
  let digits := (fraction.take 6).rightpad 6 '0'
  Text.digitsValue digits + if ('4' < (fraction.drop 6).headD '0') then 1 else 0

/-- What does not exist about a time, if anything. -/
def timeDefect? (t : CivilTime) : Option Defect :=
  if t.year = 0 then some (.noSuchYear t.year)
  else if t.month < 1 ∨ 12 < t.month then some .noSuchMonth
  else if t.day < 1 ∨ daysInMonth t.year t.month < t.day then some .noSuchDay
  else if 23 < t.hour then some .noSuchHour
  else if 59 < t.minute then some .noSuchMinute
  else if 59 < t.second then some .noSuchSecond
  else none

def Timestamp.value (stamp : Timestamp) : Except Defect Scalar :=
  let start : CivilTime := ⟨stamp.year, stamp.month, stamp.day, 0, 0, 0, 0⟩
  let time := match stamp.time with
    | none => start
    | some time => { start with hour := time.hour, minute := time.minute, second := time.second }
  match timeDefect? time, stamp.time with
  | some defect, _ => .error defect
  | none, none => .ok (.date stamp.year stamp.month stamp.day)
  | none, some written =>
    let microseconds := time.microseconds + fractionMicroseconds written.fraction -
      written.offset * microsecondsPerMinute
    match CivilTime.ofMicroseconds? microseconds with
    | some time => .ok (.dateTime time)
    | none => .error .timeOutOfRange

end PasswordPolicy.Yaml
