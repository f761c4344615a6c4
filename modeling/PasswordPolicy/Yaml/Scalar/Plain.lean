import PasswordPolicy.Yaml.Cursor

/-!
# Plain scalars

The text of a scalar without quotes: words with spaces between them, which may go on over several
lines. A word ends where a colon with a blank behind it ends a key and, inside a flow collection, at
the marks that structure it. A comment ends the scalar, and so does a line that is not indented
enough or starts with a marker of a document. Tabs cannot stand between words.
-/

namespace PasswordPolicy.Yaml

/-- How many characters at the start of a text make up a word of a plain scalar. -/
def wordLength (inFlow : Bool) : List Char → Nat
  | [] => 0
  | c :: rest =>
    if endsWord (c :: rest) || (c == ':' && endsWord rest) || (inFlow && isFlowMark c) then 0
    else wordLength inFlow rest + 1

theorem wordLength_le (inFlow : Bool) (text : List Char) :
    wordLength inFlow text ≤ text.length := by
  induction text with
  | nil => simp [wordLength]
  | cons c rest ih =>
    unfold wordLength
    split
    · exact Nat.zero_le _
    · simpa using ih

/-! ### Between the words -/

/-- What stands between two words. -/
structure Gap where
  /-- What it adds to the scalar; nothing is known if a marker of a document follows. -/
  text? : Option (List Char)
  /-- Does it hold a line break? -/
  breaksLine : Bool
  rest : List Char

/-- Takes the empty lines at the start of a line and the spaces behind them, after a line break
`first` and further ones (last one first). -/
def takeEmptyLines (first : Char) (breaks : List Char) (text : List Char) : Gap :=
  if startsDocumentMarker text then ⟨none, true, text⟩
  else match h : text.dropWhile (· == ' ') with
    | [] => ⟨some (folded first breaks.reverse), true, []⟩
    | c :: rest =>
      if isBreak c then
        have : rest.length < text.length := by
          have := (List.dropWhile_suffix (l := text) (· == ' ')).length_le
          rw [h, List.length_cons] at this
          exact this
        takeEmptyLines first (meaningOfBreak c :: breaks) rest
      else ⟨some (folded first breaks.reverse), true, c :: rest⟩
termination_by text.length

/-- Takes what stands between the word before a text and the next one. -/
def takeGap (text : List Char) : Gap :=
  match text.dropWhile (· == ' ') with
  | [] => ⟨some (text.takeWhile (· == ' ')), false, []⟩
  | c :: rest =>
    if isBreak c then takeEmptyLines (meaningOfBreak c) [] rest
    else ⟨some (text.takeWhile (· == ' ')), false, c :: rest⟩

theorem length_takeEmptyLines_le (first : Char) (breaks text : List Char) :
    (takeEmptyLines first breaks text).rest.length ≤ text.length := by
  fun_induction takeEmptyLines first breaks text with
  | case1 => simp
  | case2 => simp
  | case3 _ _ _ _ _ _ _ hlt ih => exact Nat.le_of_lt (Nat.lt_of_le_of_lt ih hlt)
  | case4 breaks text _ c rest hdrop _ =>
    rw [← hdrop]
    exact (List.dropWhile_suffix _).length_le

/-- A gap is followed by a part of the text. -/
theorem length_takeGap_le (text : List Char) : (takeGap text).rest.length ≤ text.length := by
  have hdrop := (List.dropWhile_suffix (l := text) (· == ' ')).length_le
  unfold takeGap
  split
  · simp
  · next c rest h =>
    rw [h] at hdrop
    split
    · have := length_takeEmptyLines_le (meaningOfBreak c) [] rest
      simp only [List.length_cons] at hdrop
      omega
    · exact hdrop

/-! ### Scalars -/

/-- A plain scalar with the place behind it. -/
structure PlainText where
  text : List Char
  /-- Does the scalar end with its line? -/
  breaksLine : Bool
  cursor : Cursor

/-- Reads the words of a plain scalar, of which `before` stands before the place. Outside of flow
collections its words stand at the column `indent` at least. -/
def readPlainFrom (inFlow : Bool) (indent : Nat) (before : List Char) (breaksLine : Bool)
    (c : Cursor) : PlainText :=
  let size := wordLength inFlow c.rest
  if h : size = 0 ∨ c.rest.head? = some '#' then ⟨[], breaksLine, c⟩
  else
    let gap := takeGap (c.rest.drop size)
    let after := c.upTo gap.rest
    let ends := gap.rest.head? == some '#' || (!inFlow && after.column < indent)
    let word := before ++ c.rest.take size
    match gap.text? with
    | none | some [] => ⟨word, gap.breaksLine, after⟩
    | some more =>
      if ends then ⟨word, gap.breaksLine, after⟩
      else
        have : after.rest.length < c.rest.length := by
          have hgap : gap.rest.length ≤ c.rest.length - size := by
            rw [← List.length_drop]
            exact length_takeGap_le _
          have hafter : after.rest.length ≤ gap.rest.length :=
            Cursor.length_rest_upTo_le (by omega)
          have hsize : size ≤ c.rest.length := wordLength_le inFlow c.rest
          simp only [not_or] at h
          omega
        let following := readPlainFrom inFlow indent more gap.breaksLine after
        { following with text := word ++ following.text }
termination_by c.rest.length

/-- Reads a plain scalar at a place. -/
def readPlain (inFlow : Bool) (indent : Nat) (c : Cursor) : PlainText :=
  readPlainFrom inFlow indent [] false c

/-- Can a plain scalar start here? -/
def startsPlain (inFlow : Bool) : List Char → Bool
  | [] => false
  | c :: rest =>
    if c == '-' then !endsWord rest
    else if c == '?' then !inFlow && !endsWord rest
    else if c == ':' then !endsWord rest
    else !(isFlowMark c || isBlankChar c || isBreak c || c == '#' || c == '&' || c == '*' ||
      c == '!' || c == '|' || c == '>' || c == '\x27' || c == '\x22' || c == '%' || c == '@' ||
      c == '\x60')

end PasswordPolicy.Yaml
