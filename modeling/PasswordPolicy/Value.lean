import PasswordPolicy.Calendar
import PasswordPolicy.Number.Binary64

/-!
# Values

The data that configuration files and variables hold: scalars, lists and records. The keys of a
record are scalars, nearly always texts, and no key occurs twice. A list can serve as a key too; it
is then kept by the way messages show it. A record keeps the order of its entries, because messages
show it.
-/

namespace PasswordPolicy

/-- A value without parts. -/
inductive Scalar
  | null
  | bool (b : Bool)
  | int (i : Int)
  | real (x : Binary64)
  | text (s : String)
  | date (year month day : Nat)
  | dateTime (time : CivilTime)
  /-- A list that serves as a key, as messages show it. -/
  | listKey (shown : String)
deriving DecidableEq, Repr

/-- A value: a scalar, a list, or a record of entries under keys. -/
inductive Value
  | scalar (s : Scalar)
  | list (items : List Value)
  | record (entries : List (Scalar × Value))
deriving Repr

/-- The entries of a record. -/
abbrev Entries := List (Scalar × Value)

namespace Value

@[match_pattern] def null : Value := .scalar .null

/-- A truth value. -/
@[match_pattern] def bool (b : Bool) : Value := .scalar (.bool b)

/-- An integer. -/
@[match_pattern] def int (i : Int) : Value := .scalar (.int i)

/-- A floating-point number. -/
@[match_pattern] def real (x : Binary64) : Value := .scalar (.real x)

@[match_pattern] def text (s : String) : Value := .scalar (.text s)

/-- A record whose keys are texts. -/
def object (fields : List (String × Value)) : Value :=
  .record (fields.map fun (name, value) => (.text name, value))

instance : Inhabited Value := ⟨null⟩

end Value

/-- Does a scalar count as given rather than empty? -/
def Scalar.truthy : Scalar → Bool
  | null => false
  | bool b => b
  | int i => i != 0
  | real x => !x.isZero
  | text s => s != ""
  | date _ _ _ => true
  | dateTime _ => true
  | listKey shown => shown != "()"

/-- Does a value count as given rather than empty? -/
def Value.truthy : Value → Bool
  | scalar s => s.truthy
  | list items => !items.isEmpty
  | record entries => !entries.isEmpty

/-- The name of the type of a scalar in messages. -/
def Scalar.typeName : Scalar → String
  | null => "NoneType"
  | bool _ => "bool"
  | int _ => "int"
  | real _ => "float"
  | text _ => "str"
  | date _ _ _ => "date"
  | dateTime _ => "datetime"
  | listKey _ => "tuple"

/-- The name of the type of a value in messages. -/
def Value.typeName : Value → String
  | scalar s => s.typeName
  | list _ => "list"
  | record _ => "dict"

/-! ### Entries -/

namespace Entries

/-- The value under a key. -/
def get? (entries : Entries) (key : Scalar) : Option Value :=
  (entries.find? fun entry => entry.1 == key).map (·.2)

/-- Puts a value under a key: in place of the value before, or at the end. -/
def put (entries : Entries) (key : Scalar) (value : Value) : Entries :=
  if entries.any (·.1 == key) then
    entries.map fun entry => if entry.1 == key then (key, value) else entry
  else entries ++ [(key, value)]

/-- Puts all later entries in order. -/
def override (entries later : Entries) : Entries :=
  later.foldl (fun merged entry => merged.put entry.1 entry.2) entries

@[simp] theorem get?_nil (key : Scalar) : get? [] key = none := rfl

theorem get?_cons (key other : Scalar) (value : Value) (entries : Entries) :
    get? ((other, value) :: entries) key =
      if other = key then some value else get? entries key := by
  by_cases h : other = key <;> simp [get?, h]

/-- Only the value under the key changes. -/
theorem get?_put (entries : Entries) (key other : Scalar) (value : Value) :
    (entries.put key value).get? other =
      if other = key then some value else entries.get? other := by
  unfold put
  split
  · next hany =>
    induction entries with
    | nil => simp at hany
    | cons entry entries ih =>
      obtain ⟨first, v⟩ := entry
      by_cases hfirst : first = key
      · subst hfirst
        by_cases hother : other = first
        · simp [get?_cons, hother]
        · have hne : first ≠ other := fun h => hother h.symm
          simp only [List.map_cons, BEq.rfl, if_true, get?_cons, hne, if_false, hother]
          by_cases hrest : entries.any (·.1 == first) = true
          · rw [ih hrest, if_neg hother]
          · congr 1
            conv => rhs; rw [← List.map_id entries]
            apply List.map_congr_left
            intro e he
            have : e.1 ≠ first := by
              intro h
              exact hrest (List.any_eq_true.mpr ⟨e, he, by simp [h]⟩)
            simp [this]
      · have hany' : entries.any (·.1 == key) = true := by simpa [hfirst] using hany
        simp only [List.map_cons, beq_eq_false_iff_ne.mpr hfirst, Bool.false_eq_true, if_false,
          get?_cons, ih hany']
        by_cases hfo : first = other
        · subst hfo; simp [hfirst]
        · simp [hfo]
  · next hany =>
    induction entries with
    | nil => simp [get?_cons, eq_comm]
    | cons entry entries ih =>
      obtain ⟨first, v⟩ := entry
      have hfirst : first ≠ key := by
        intro h; exact hany (by simp [h])
      have hany' : ¬ entries.any (·.1 == key) = true := by
        intro h; exact hany (by simp [h])
      rw [List.cons_append, get?_cons, get?_cons, ih hany']
      by_cases hfo : first = other
      · subst hfo; simp [hfirst]
      · simp [hfo]

end Entries

end PasswordPolicy
