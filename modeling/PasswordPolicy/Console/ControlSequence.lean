/-!
# Control sequences

A terminal control sequence is an escape character and an opening bracket, then any number of
parameter characters (digits and `:;<=>?`), then any number of intermediate characters (the space
and the signs up to the slash), and at last one final character (from the at sign to the tilde).
Messages are printed without them.

Main statement: a text without escape characters is printed as it is.
-/

namespace PasswordPolicy.Console

def isParameter (c : Char) : Bool := '0' ≤ c && c ≤ '?'

/-- Is the character one that stands between the parameters and the end of a control sequence? -/
def isIntermediate (c : Char) : Bool := ' ' ≤ c && c ≤ '/'

/-- Does the character end a control sequence? -/
def isFinal (c : Char) : Bool := '@' ≤ c && c ≤ '~'

/-- What follows the control sequence at the start of a text behind its opening bracket, if there is
one. -/
def afterControl? (text : List Char) : Option (List Char) :=
  match (text.dropWhile isParameter).dropWhile isIntermediate with
  | c :: rest => if isFinal c then some rest else none
  | [] => none

theorem length_lt_of_afterControl? {text rest : List Char} (h : afterControl? text = some rest) :
    rest.length < text.length := by
  unfold afterControl? at h
  have hle := (List.dropWhile_suffix (l := text) isParameter).length_le
  have hle' := (List.dropWhile_suffix (l := text.dropWhile isParameter) isIntermediate).length_le
  split at h
  · next c more heq =>
    split at h
    · cases h
      rw [heq] at hle'
      simp only [List.length_cons] at hle'
      omega
    · cases h
  · cases h

def withoutControls : List Char → List Char
  | [] => []
  | '\x1b' :: '[' :: text =>
    match h : afterControl? text with
    | some rest =>
      have := length_lt_of_afterControl? h
      withoutControls rest
    | none => '\x1b' :: withoutControls ('[' :: text)
  | c :: rest => c :: withoutControls rest
termination_by text => text.length

/-- No control sequence begins in a part of a text that has no escape characters. -/
theorem withoutControls_append {front : List Char} (h : '\x1b' ∉ front) (text : List Char) :
    withoutControls (front ++ text) = front ++ withoutControls text := by
  induction front with
  | nil => rfl
  | cons c front ih =>
    have hc : c ≠ '\x1b' := fun heq => h (by simp [heq])
    have hfront : '\x1b' ∉ front := fun hmem => h (List.mem_cons_of_mem _ hmem)
    rw [List.cons_append, withoutControls]
    · rw [ih hfront, List.cons_append]
    · intro more heq _
      exact hc heq

/-- A text without escape characters has no control sequences. -/
theorem withoutControls_eq_self {text : List Char} (h : '\x1b' ∉ text) :
    withoutControls text = text := by
  have happend := withoutControls_append h []
  rwa [withoutControls, List.append_nil] at happend

end PasswordPolicy.Console
