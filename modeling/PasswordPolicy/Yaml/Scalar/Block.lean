import PasswordPolicy.Yaml.Cursor

/-!
# Block scalars

A scalar that takes whole lines, given below its indicator. All its lines have the same indentation
at least, which is not part of the scalar: the one of the first line that is not empty, unless the
indicator gives it. A folded scalar joins its lines, save where one starts with a blank; a literal
one keeps them. The indicator also says what becomes of the line breaks at the end.

Main statement: taking empty lines leaves no more of the text than there was.
-/

namespace PasswordPolicy.Yaml

/-! ### The indicator -/

/-- What becomes of the line breaks at the end of a block scalar. -/
inductive Chomping
  /-- The first one is kept. -/
  | clip
  | strip
  | keep
deriving DecidableEq, Repr

/-- What the indicator of a block scalar says. -/
structure BlockHeader where
  chomping : Chomping
  /-- By how much the lines are indented more than the parent. -/
  indentation : Option Nat
deriving DecidableEq, Repr

/-- Takes a sign that tells the chomping. -/
def takeChomping : List Char → Chomping × List Char
  | '+' :: rest => (.keep, rest)
  | '-' :: rest => (.strip, rest)
  | rest => (.clip, rest)

/-- Takes a digit that tells the indentation. -/
def takeIndentation : List Char → Option Nat × List Char
  | c :: rest => if c.isDigit then (some (c.toNat - 48), rest) else (none, c :: rest)
  | [] => (none, [])

/-- What follows the line break before which a text may hold spaces and a comment. -/
def afterLineEnd? (text : List Char) : Option (List Char) :=
  let afterSpaces := text.dropWhile (· == ' ')
  let atEnd := if afterSpaces.head? == some '#' then afterSpaces.dropWhile (!isBreak ·)
    else afterSpaces
  if endsLine atEnd then some (atEnd.drop 1) else none

/-- Reads the rest of the line behind the character that starts a block scalar. The chomping and the
indentation may come in either order. -/
def readBlockHeader (text : List Char) : Option (BlockHeader × List Char) :=
  let (header, rest) : BlockHeader × List Char := match takeChomping text with
    | (.clip, _) =>
      let (indentation, rest) := takeIndentation text
      let (chomping, rest) := if indentation.isSome then takeChomping rest else (.clip, rest)
      (⟨chomping, indentation⟩, rest)
    | (chomping, rest) =>
      let (indentation, rest) := takeIndentation rest
      (⟨chomping, indentation⟩, rest)
  let endsHeader := match rest with
    | [] => true
    | c :: _ => c == ' ' || isBreak c
  if header.indentation == some 0 || !endsHeader then none
  else (afterLineEnd? rest).map fun rest => (header, rest)

/-! ### Empty lines -/

/-- Line breaks, with the place behind them. -/
structure EmptyLines where
  breaks : List Char
  cursor : Cursor

/-- Moves over spaces up to the column `indent`. -/
def skipIndentation (indent : Nat) (c : Cursor) : Cursor :=
  c.forward (min (indent - c.column) (c.rest.takeWhile (· == ' ')).length)

theorem length_rest_skipIndentation_le (indent : Nat) (c : Cursor) :
    (skipIndentation indent c).rest.length ≤ c.rest.length := by
  simp [skipIndentation]

/-- Takes the empty lines of a block scalar, and of the next line its indentation. -/
def takeBlockBreaks (indent : Nat) (c : Cursor) : EmptyLines :=
  let inner := skipIndentation indent c
  match h : inner.rest with
  | [] => ⟨[], inner⟩
  | char :: rest =>
    if isBreak char then
      have : inner.next.rest.length < c.rest.length := by
        have hle : inner.rest.length ≤ c.rest.length := length_rest_skipIndentation_le indent c
        rw [Cursor.rest_next, List.length_drop]
        rw [h, List.length_cons] at hle ⊢
        omega
      let following := takeBlockBreaks indent inner.next
      { following with breaks := meaningOfBreak char :: following.breaks }
    else ⟨[], inner⟩
termination_by c.rest.length

/-- Taking empty lines leaves no more of the text than there was. -/
theorem length_takeBlockBreaks_le (indent : Nat) (c : Cursor) :
    (takeBlockBreaks indent c).cursor.rest.length ≤ c.rest.length := by
  fun_induction takeBlockBreaks indent c with
  | case1 c inner h => exact length_rest_skipIndentation_le indent c
  | case2 c inner char rest h _ hlt following ih => exact Nat.le_of_lt (Nat.lt_of_le_of_lt ih hlt)
  | case3 c inner char rest h _ => exact length_rest_skipIndentation_le indent c

/-- The indentation of a block scalar that does not give it. -/
structure FoundIndentation where
  /-- The column of the first line break, if there is an empty line. -/
  first : Option Nat
  /-- The last column that spaces reach on any line. -/
  most : Nat
  emptyLines : EmptyLines

/-- Takes the empty lines before the first line of a block scalar and the spaces before that
line. -/
def findIndentation (c : Cursor) : FoundIndentation :=
  match h : c.rest with
  | [] => ⟨none, 0, [], c⟩
  | char :: rest =>
    have : c.next.rest.length < c.rest.length := by
      rw [Cursor.rest_next, List.length_drop, h, List.length_cons]
      omega
    if char == ' ' then
      let found := findIndentation c.next
      { found with most := max found.most c.next.column }
    else if isBreak char then
      let found := findIndentation c.next
      let breaks := meaningOfBreak char :: found.emptyLines.breaks
      ⟨some c.column, found.most, breaks, found.emptyLines.cursor⟩
    else ⟨none, 0, [], c⟩
termination_by c.rest.length

/-! ### Lines -/

/-- The text of a block scalar up to its last line, and what follows that. -/
structure BlockText where
  text : List Char
  /-- The line break behind its last line, if there is one. -/
  ending : Option Char
  /-- The empty lines behind its last line. -/
  emptyLines : EmptyLines

def startsBlank : List Char → Bool
  | [] => false
  | c :: _ => isBlankChar c

/-- What stands between a line of a block scalar and the next one, for the break behind the line and
the empty lines between them. Where lines are folded they are joined, if neither starts with a
blank. -/
def lineSeparator (folds : Bool) (ending : Option Char) (line next emptyLines : List Char) :
    List Char :=
  if folds && ending == some '\n' && !startsBlank line && !startsBlank next then
    if emptyLines.isEmpty then [' '] else emptyLines
  else ending.toList ++ emptyLines

/-- Reads the lines of a block scalar, the first one from the column `indent` on. At the top of a
document a marker ends the scalar. -/
def readBlockLines (folds atTop : Bool) (indent : Nat) (c : Cursor) : BlockText :=
  let line := c.rest.takeWhile (!isBreak ·)
  let atEnd := c.forward line.length
  let emptyLines := takeBlockBreaks indent atEnd.next
  let after := emptyLines.cursor
  let ending := atEnd.rest.head?.map meaningOfBreak
  let isMarked := atTop && (after.atMarker '-' || after.atMarker '.')
  if h : after.column = indent ∧ after.rest ≠ [] ∧ isMarked = false then
    have : after.rest.length < c.rest.length := by
      have hle : after.rest.length ≤ c.rest.length - line.length - 1 := by
        have := length_takeBlockBreaks_le indent atEnd.next
        simpa [Cursor.rest_next, atEnd, Nat.sub_sub] using this
      have hpos : 0 < after.rest.length := List.length_pos_iff.mpr h.2.1
      omega
    let following := readBlockLines folds atTop indent after
    let separator := lineSeparator folds ending line after.rest emptyLines.breaks
    { following with text := line ++ separator ++ following.text }
  else ⟨line, ending, emptyLines⟩
termination_by c.rest.length

/-- Reads the lines of a block scalar behind empty lines; it has none if the place is not at the
column `indent`. -/
def readBlockText (folds atTop : Bool) (indent : Nat) (before : EmptyLines) : BlockText :=
  if before.cursor.column = indent ∧ before.cursor.rest ≠ [] then
    let block := readBlockLines folds atTop indent before.cursor
    { block with text := before.breaks ++ block.text }
  else ⟨[], none, before⟩

/-- Reads a block scalar behind the character that starts it. Its lines are indented by `least` at
least. If the first empty line is indented, no line behind it may be indented more. -/
def readBlock (folds : Bool) (least : Nat) (c : Cursor) : Option (String × Cursor) := do
  let (header, rest) ← readBlockHeader c.rest
  let start := c.upTo rest
  let (indent, before) ← match header.indentation with
    | some more =>
      let indent := max 1 least + more - 1
      some (indent, takeBlockBreaks indent start)
    | none =>
      let found := findIndentation start
      let first := found.first.getD 0
      if 0 < first && first < found.most then none
      else some (max least found.most, found.emptyLines)
  let block := readBlockText folds (least == 0) indent before
  let ending := match header.chomping with
    | .clip => block.ending.toList
    | .strip => []
    | .keep => block.ending.toList ++ block.emptyLines.breaks
  return (String.ofList (block.text ++ ending), block.emptyLines.cursor)

end PasswordPolicy.Yaml
