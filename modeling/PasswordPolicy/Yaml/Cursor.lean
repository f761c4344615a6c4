import PasswordPolicy.Yaml.Character

/-!
# Cursors

A place in a document: the text behind it, and where it is. Readers of parts of a document take a
text and give the rest of it, and the cursor is then moved to where that rest starts.

Main statement: a cursor that is moved over characters stands before what is left of the text
without them.
-/

namespace PasswordPolicy.Yaml

/-- A place in a document. -/
structure Cursor where
  /-- The text behind the place. -/
  rest : List Char
  /-- How many characters are before it. -/
  index : Nat
  /-- How many line feeds are before it. -/
  line : Nat
  /-- How many characters are before it on its line; marks of byte order are not counted. -/
  column : Nat
deriving DecidableEq, Repr

namespace Cursor

def start (text : List Char) : Cursor := ⟨text, 0, 0, 0⟩

/-- The place behind the next character. -/
def next (c : Cursor) : Cursor :=
  match c.rest with
  | [] => c
  | char :: rest =>
    if char == '\n' then ⟨rest, c.index + 1, c.line + 1, 0⟩
    else ⟨rest, c.index + 1, c.line, if char == '\ufeff' then c.column else c.column + 1⟩

/-- The place behind the next characters. -/
def forward (c : Cursor) : Nat → Cursor
  | 0 => c
  | count + 1 => c.next.forward count

theorem rest_next (c : Cursor) : c.next.rest = c.rest.drop 1 := by
  unfold next
  split
  · next h => simp [h]
  · next h => split <;> simp [h]

/-- Moving over characters drops them. -/
@[simp] theorem rest_forward (c : Cursor) (count : Nat) :
    (c.forward count).rest = c.rest.drop count := by
  induction count generalizing c with
  | zero => rfl
  | succ count ih => rw [forward, ih, rest_next, List.drop_drop, Nat.add_comm]

/-- The place before a rest of the text. -/
def upTo (c : Cursor) (rest : List Char) : Cursor := c.forward (c.rest.length - rest.length)

/-- No more is left behind a place before a rest than that rest. -/
theorem length_rest_upTo_le {c : Cursor} {rest : List Char}
    (h : rest.length ≤ c.rest.length) : (c.upTo rest).rest.length ≤ rest.length := by
  rw [upTo, rest_forward, List.length_drop]
  omega

/-- Does a marker of three marks stand at the start of a line here? -/
def atMarker (mark : Char) (c : Cursor) : Bool := c.column == 0 && startsMarker mark c.rest

end Cursor

end PasswordPolicy.Yaml
