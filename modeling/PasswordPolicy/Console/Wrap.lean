/-!
# Wrapping lines

Breaking a line so that it fits a width. Words go to the next line if they do not fit the rest of
the current one, together with the blanks behind them; a word that is too long for any line starts a
new line and is cut to the width. Blanks at the end of a line may stay beyond what fits only up to
the width.

Main statement: a text that fits the width is one line.
-/

namespace PasswordPolicy.Console

/-- Cuts off the first word with the blanks around it. -/
def takeWord (text : List Char) : List Char × List Char :=
  let isBlank (c : Char) : Bool := c == ' '
  let lead := text.takeWhile isBlank
  let afterLead := text.dropWhile isBlank
  let word := afterLead.takeWhile fun c => !isBlank c
  let afterWord := afterLead.dropWhile fun c => !isBlank c
  (lead ++ word ++ afterWord.takeWhile isBlank, afterWord.dropWhile isBlank)

/-- The first word and the rest make up the text. -/
theorem takeWord_append (text : List Char) : (takeWord text).1 ++ (takeWord text).2 = text := by
  simp only [takeWord, List.append_assoc, List.takeWhile_append_dropWhile]

/-- Cutting off a word leaves a shorter text. -/
theorem length_takeWord_lt {text : List Char} (h : text ≠ []) :
    (takeWord text).2.length < text.length := by
  have happend := congrArg List.length (takeWord_append text)
  rw [List.length_append] at happend
  have hne : (takeWord text).1 ≠ [] := by
    obtain ⟨c, rest, rfl⟩ := List.exists_cons_of_ne_nil h
    by_cases hc : c = ' ' <;> simp [takeWord, hc]
  have hpos := List.length_pos_iff.mpr hne
  omega

/-- The words of a text, each with the blanks behind it; the argument bounds their number. -/
def wordsOf : Nat → List Char → List (List Char)
  | 0, _ => []
  | fuel + 1, text =>
    if text.isEmpty then []
    else
      let (word, rest) := takeWord text
      word :: wordsOf fuel rest

/-- The words make up the text. -/
theorem flatten_wordsOf {fuel : Nat} {text : List Char} (h : text.length ≤ fuel) :
    (wordsOf fuel text).flatten = text := by
  induction fuel generalizing text with
  | zero => simp_all [wordsOf]
  | succ fuel ih =>
    rw [wordsOf]
    split
    · simp_all
    · next hne =>
      have htext : text ≠ [] := by simpa using hne
      have hlt := length_takeWord_lt htext
      rw [List.flatten_cons, ih (by omega), takeWord_append]

def withoutEndBlanks (text : List Char) : List Char :=
  (text.reverse.dropWhile (· == ' ')).reverse

theorem length_withoutEndBlanks_le (text : List Char) :
    (withoutEndBlanks text).length ≤ text.length := by
  have := (List.dropWhile_suffix (l := text.reverse) (· == ' ')).length_le
  simpa [withoutEndBlanks] using this

/-- Cuts a text into pieces of a positive width; the argument bounds their number. -/
def chop (width : Nat) : Nat → List Char → List (List Char)
  | 0, _ => []
  | fuel + 1, text =>
    if text.length ≤ width then [text] else text.take width :: chop width fuel (text.drop width)

/-- Lays out words after the lines already complete (last one first) and the current line. -/
def layOut (width : Nat) (lines : List (List Char)) (line : List Char) :
    List (List Char) → List (List Char)
  | [] => (line :: lines).reverse
  | word :: rest =>
    let size := (withoutEndBlanks word).length
    if line.length + size ≤ width then layOut width lines (line ++ word) rest
    else if width < size then
      let pieces := chop width word.length word
      let done := (if line.isEmpty then lines else line :: lines)
      layOut width (pieces.dropLast.reverse ++ done) (pieces.getLast?.getD []) rest
    else if line.isEmpty then layOut width lines word rest
    else layOut width (line :: lines) word rest

/-- Words that fit the width behind the current line all go there. -/
theorem layOut_of_length_le {width : Nat} {lines words : List (List Char)} {line : List Char}
    (h : (line ++ words.flatten).length ≤ width) :
    layOut width lines line words = ((line ++ words.flatten) :: lines).reverse := by
  induction words generalizing line with
  | nil => simp [layOut]
  | cons word rest ih =>
    have hword := length_withoutEndBlanks_le word
    simp only [List.flatten_cons, List.length_append] at h
    rw [layOut, if_pos (by omega), ih (by simp only [List.length_append]; omega)]
    simp

/-- Cuts blanks at the end of a line that do not fit the width. -/
def cropEnd (width : Nat) (line : List Char) : List Char :=
  let blanks := line.length - (withoutEndBlanks line).length
  line.take (line.length - min blanks (line.length - width))

/-- The lines of a text, wrapped to a width. -/
def wrap (width : Nat) (text : List Char) : List (List Char) :=
  (layOut width [] [] (wordsOf text.length text)).map (cropEnd width)

/-- A text that fits the width is one line. -/
theorem wrap_of_length_le {width : Nat} {text : List Char} (h : text.length ≤ width) :
    wrap width text = [text] := by
  have hflat := flatten_wordsOf (Nat.le_refl text.length)
  rw [wrap, layOut_of_length_le (by simpa [hflat] using h)]
  simp [hflat, cropEnd, Nat.sub_eq_zero_of_le h]

end PasswordPolicy.Console
