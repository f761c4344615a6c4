import PasswordPolicy.Unicode.Run

/-!
# Blank text

Which characters count as white space when a text is asked to be blank or split at its spaces:
the bidirectional classes WS, B and S together with the space separators. Against the property
White_Space this adds the four information separators U+001C to U+001F, so that number texts,
which are trimmed by White_Space, keep a second table.
-/

namespace PasswordPolicy.Unicode

/-- Characters a blank text is made of. -/
def blanks : List Run :=
  [⟨0x9, 0xD, 1⟩, ⟨0x1C, 0x20, 1⟩, ⟨0x85, 0x85, 1⟩, ⟨0xA0, 0xA0, 1⟩, ⟨0x1680, 0x1680, 1⟩,
   ⟨0x2000, 0x200A, 1⟩, ⟨0x2028, 0x2029, 1⟩, ⟨0x202F, 0x202F, 1⟩, ⟨0x205F, 0x205F, 1⟩,
   ⟨0x3000, 0x3000, 1⟩]

/-- The property White_Space. -/
def whiteSpace : List Run :=
  [⟨0x9, 0xD, 1⟩, ⟨0x20, 0x20, 1⟩, ⟨0x85, 0x85, 1⟩, ⟨0xA0, 0xA0, 1⟩, ⟨0x1680, 0x1680, 1⟩,
   ⟨0x2000, 0x200A, 1⟩, ⟨0x2028, 0x2029, 1⟩, ⟨0x202F, 0x202F, 1⟩, ⟨0x205F, 0x205F, 1⟩,
   ⟨0x3000, 0x3000, 1⟩]

def isBlank (c : Char) : Bool := inRuns blanks c

/-- Does `c` have the property White_Space? -/
def isWhiteSpace (c : Char) : Bool := inRuns whiteSpace c

/-- Is the text empty or made of blanks only? -/
def allBlank (text : List Char) : Bool := text.all isBlank

/-- Drops white space at both ends. -/
def trimWhiteSpace (text : List Char) : List Char :=
  ((text.dropWhile isWhiteSpace).reverse.dropWhile isWhiteSpace).reverse

/-- Drops blanks at both ends. -/
def trimBlanks (text : List Char) : List Char :=
  ((text.dropWhile isBlank).reverse.dropWhile isBlank).reverse

/-- Collects the current word, given in reverse, and the words after it. -/
def wordsFrom (word : List Char) : List Char → List (List Char)
  | [] => if word.isEmpty then [] else [word.reverse]
  | c :: rest =>
    if isBlank c then
      if word.isEmpty then wordsFrom [] rest else word.reverse :: wordsFrom [] rest
    else wordsFrom (c :: word) rest

/-- The words of a text: its longest stretches without blanks, in order. -/
def words (text : List Char) : List (List Char) := wordsFrom [] text

end PasswordPolicy.Unicode
