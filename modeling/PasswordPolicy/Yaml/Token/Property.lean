import PasswordPolicy.Text.Decimal
import PasswordPolicy.Yaml.Character
import PasswordPolicy.Yaml.Token

/-!
# Names in front of nodes

Anchors, aliases and tags, and the directives in front of a document. Of the tags, those of the
standard are known. A document may say that it follows version 1.2 of the format; other directives
are not looked at.
-/

namespace PasswordPolicy.Yaml

/-- May the character stand in a name of an anchor? -/
def isNameChar (c : Char) : Bool :=
  !isFlowMark c && c != '\ufeff' &&
    ((0x21 ≤ c.toNat && c.toNat ≤ 0x7e) || (0xa0 ≤ c.toNat && c.toNat ≤ 0xfffd) ||
      0x10000 ≤ c.toNat)

/-- Reads the name of an anchor. -/
def readName (text : List Char) : Option (String × List Char) :=
  let name := text.takeWhile isNameChar
  let rest := text.dropWhile isNameChar
  let isEnd := endsWord rest || (rest.head?.map isFlowMark).getD false
  if name.isEmpty || !isEnd then none else some (String.ofList name, rest)

/-- Does the character go on with a tag? -/
def isTagChar (c : Char) : Bool := c != ' ' && !isBreak c

/-- Reads a tag behind its first exclamation mark. -/
def readTag (text : List Char) : Option (WrittenTag × List Char) :=
  let rest := text.dropWhile isTagChar
  match text.takeWhile isTagChar with
  | [] => some (.unspecific, rest)
  | ['!'] => some (.unspecific, rest)
  | '!' :: name => (Tag.ofName? (String.ofList name)).map fun tag => (.specific tag, rest)
  | _ => none

/-- May the character stand in the name of a directive? -/
def isDirectiveChar (c : Char) : Bool :=
  c.isAlphanum || c == '-' || c == '_' || c == ':' || c == '.'

/-- Reads the number of version 1.2; leading zeros do not count. -/
def readVersion (text : List Char) : Option (List Char) :=
  let afterMajor := text.dropWhile Char.isDigit
  let afterPoint := afterMajor.drop 1
  let isKnown := Text.digitsValue (text.takeWhile Char.isDigit) == 1 &&
    afterMajor.head? == some '.' && Text.digitsValue (afterPoint.takeWhile Char.isDigit) == 2
  if isKnown then some (afterPoint.dropWhile Char.isDigit) else none

/-- Reads a directive behind its percent sign, up to the end of its line. The result tells whether
it is about the version. -/
def readDirective (text : List Char) : Option (Bool × List Char) :=
  let name := text.takeWhile isDirectiveChar
  let afterName := text.dropWhile isDirectiveChar
  let line := afterName.takeWhile (!isBreak ·)
  let rest := afterName.dropWhile (!isBreak ·)
  let startsArguments := afterName.head? == some ' ' || endsLine afterName
  if name.isEmpty || !startsArguments then none
  else if name == ['Y', 'A', 'M', 'L'] then
    match readVersion (line.dropWhile (· == ' ')) with
    | some after =>
      let afterSpaces := after.dropWhile (· == ' ')
      let isComment := afterSpaces.head? == some '#' && after.head? == some ' '
      if afterSpaces.isEmpty || isComment then some (true, rest) else none
    | none => none
  else some (false, rest)

end PasswordPolicy.Yaml
