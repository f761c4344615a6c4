import PasswordPolicy.Number.Shortest
import PasswordPolicy.Text.Quoted
import PasswordPolicy.Text.Decimal
import PasswordPolicy.Value

/-!
# Values in messages

The notation in which messages show values: texts are quoted, lists stand in square brackets,
records in braces with a colon behind each key. Dates and times are shown by their numbers, of which
the seconds and their fraction are left out where they are zero.
-/

namespace PasswordPolicy

/-- Parts between an opening and a closing mark, with a comma between neighbours. -/
def enclosed (opening closing : String) (parts : List String) : String :=
  opening ++ ", ".intercalate parts ++ closing

/-- The numbers of a time in messages. -/
def CivilTime.parts (t : CivilTime) : List Nat :=
  let fraction := if t.microsecond = 0 then [] else [t.microsecond]
  let seconds := if t.second = 0 ∧ t.microsecond = 0 then [] else t.second :: fraction
  [t.year, t.month, t.day, t.hour, t.minute] ++ seconds

/-- A scalar in messages. -/
def Scalar.display : Scalar → String
  | null => "None"
  | bool b => if b then "True" else "False"
  | int i => String.ofList (Text.decimal i)
  | real x => x.text
  | text s => Text.quoted s
  | date year month day => enclosed "datetime.date(" ")" ([year, month, day].map toString)
  | dateTime time => enclosed "datetime.datetime(" ")" (time.parts.map toString)
  | listKey shown => shown

/-- A value in messages. -/
def Value.display : Value → String
  | .scalar s => s.display
  | .list items => enclosed "[" "]" (items.attach.map fun ⟨item, _⟩ => item.display)
  | .record entries =>
    enclosed "\x7b" "\x7d" <| entries.attach.map fun ⟨(key, value), _⟩ =>
      key.display ++ ": " ++ value.display
termination_by value => sizeOf value
decreasing_by
  · have := List.sizeOf_lt_of_mem ‹_›; simp; omega
  · next h => have := List.sizeOf_lt_of_mem h; simp at this ⊢; omega

/-- Can the scalar be shown in a message? -/
def Scalar.isWritable : Scalar → Bool
  | int i => Text.isWritable i
  | _ => true

/-- Can the value be shown in a message, with all that is in it? -/
def Value.isWritable : Value → Bool
  | .scalar s => s.isWritable
  | .list items => items.attach.all fun ⟨item, _⟩ => item.isWritable
  | .record entries =>
    entries.attach.all fun ⟨(key, value), _⟩ => key.isWritable && value.isWritable
termination_by value => sizeOf value
decreasing_by
  · have := List.sizeOf_lt_of_mem ‹_›; simp; omega
  · next h => have := List.sizeOf_lt_of_mem h; simp at this ⊢; omega

end PasswordPolicy
