/-!
# Characters of documents

Which characters a document may hold, and which of them end its lines and words. A carriage return,
with or without a line feed behind it, counts as a line feed. Besides the line feed there are three
more line breaks: the next-line character, which stands for a line feed in the text of a scalar, and
the line and paragraph separators, which stand for themselves. Only a line feed starts a new line to
count columns by.
-/

namespace PasswordPolicy.Yaml

def isDocumentChar (c : Char) : Bool :=
  c == '\t' || c == '\n' || c == '\r' || (0x20 ≤ c.toNat && c.toNat ≤ 0x7e) || c.toNat == 0x85 ||
    (0xa0 ≤ c.toNat && c.toNat ≤ 0xfffd) || 0x10000 ≤ c.toNat

/-- The text with line feeds for carriage returns. -/
def normalizeBreaks : List Char → List Char
  | '\r' :: '\n' :: rest => '\n' :: normalizeBreaks rest
  | '\r' :: rest => '\n' :: normalizeBreaks rest
  | c :: rest => c :: normalizeBreaks rest
  | [] => []

/-- Is the character a line break? -/
def isBreak (c : Char) : Bool := c == '\n' || c == '\u0085' || c == '\u2028' || c == '\u2029'

/-- What a line break stands for in the text of a scalar. -/
def meaningOfBreak (c : Char) : Char := if c == '\u0085' then '\n' else c

/-- Is the character a space or a tab? -/
def isBlankChar (c : Char) : Bool := c == ' ' || c == '\t'

/-- Is the character one that structures flow collections? -/
def isFlowMark (c : Char) : Bool := c == ',' || c == '[' || c == ']' || c == '\x7b' || c == '\x7d'

/-- Does the line end here? -/
def endsLine : List Char → Bool
  | [] => true
  | c :: _ => isBreak c

/-- Does the word end here? -/
def endsWord : List Char → Bool
  | [] => true
  | c :: _ => isBlankChar c || isBreak c

/-- Does a line break follow? -/
def startsBreak : List Char → Bool
  | [] => false
  | c :: _ => isBreak c

/-- Does a marker of three marks follow, as it separates documents at the start of a line? -/
def startsMarker (mark : Char) : List Char → Bool
  | a :: b :: c :: rest => a == mark && b == mark && c == mark && endsWord rest
  | _ => false

/-- Does a marker follow that starts or ends a document? -/
def startsDocumentMarker (text : List Char) : Bool := startsMarker '-' text || startsMarker '.' text

/-- What a line break and the further breaks behind it stand for where lines are joined: a line feed
alone stands for a space, and another line feed is left out. -/
def folded (first : Char) (further : List Char) : List Char :=
  if first != '\n' then first :: further
  else if further.isEmpty then [' ']
  else further

end PasswordPolicy.Yaml
