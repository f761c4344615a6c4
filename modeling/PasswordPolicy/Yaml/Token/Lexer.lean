import PasswordPolicy.Yaml.Cursor
import PasswordPolicy.Yaml.Scalar.Block
import PasswordPolicy.Yaml.Scalar.Plain
import PasswordPolicy.Yaml.Scalar.Quoted
import PasswordPolicy.Yaml.Token.Property

/-!
# Cutting a document into tokens

A key has no sign in front of it and shows only by the colon behind it. So the last place where a
key may have started is remembered for every level of nesting, and once a colon is found the token
of the key, and if need be the one that starts a block, are put in there. Such a key stands on one
line and takes at most 1024 characters. Where the indentation leaves no other choice, what starts at
a remembered place has to be a key.
-/

namespace PasswordPolicy.Yaml

/-- A place where a key may have started. -/
structure PossibleKey where
  /-- How many tokens are before it. -/
  position : Nat
  index : Nat
  line : Nat
  column : Nat
  /-- Can nothing but a key start here? -/
  required : Bool
deriving DecidableEq, Repr

/-- How far a document has been cut into tokens. -/
structure Lexer where
  cursor : Cursor
  tokens : Array Token
  /-- The indentation of the current block; outside of all blocks it is -1. -/
  indent : Int
  /-- The indentations of the blocks around it, from inside out. -/
  outerIndents : List Int
  /-- Can a key start here? -/
  allowsKey : Bool
  /-- Where a key of the current level may have started. -/
  key : Option PossibleKey
  /-- The flow collections around the place, from inside out: whether each is a sequence, and where
  a key of the level around it may have started. -/
  flows : List (Bool × Option PossibleKey)

namespace Lexer

/-- Before the first token of a text. A mark of byte order at its start is left out. -/
def start (text : List Char) : Lexer where
  cursor := match text with
    | '\ufeff' :: _ => (Cursor.start text).next
    | _ => Cursor.start text
  tokens := #[]
  indent := -1
  outerIndents := []
  allowsKey := true
  key := none
  flows := []

/-- Is the place inside a flow collection? -/
def inFlow (l : Lexer) : Bool := !l.flows.isEmpty

def push (l : Lexer) (token : Token) : Lexer := { l with tokens := l.tokens.push token }

/-- Moves to where the rest of the text starts. -/
def moveTo (l : Lexer) (rest : List Char) : Lexer := { l with cursor := l.cursor.upTo rest }

/-- Moves over characters. -/
def skip (l : Lexer) (count : Nat) : Lexer := { l with cursor := l.cursor.forward count }

/-! ### Between tokens -/

/-- Drops the spaces, line breaks and comments at the start of a text, and inside flow collections
the tabs. The result tells whether there was a line break. -/
def dropIgnored (inFlow : Bool) : List Char → Bool × List Char
  | [] => (false, [])
  | c :: rest =>
    if c == ' ' || (inFlow && c == '\t') then dropIgnored inFlow rest
    else if c == '#' then
      have := (List.dropWhile_suffix (l := rest) (!isBreak ·)).length_le
      dropIgnored inFlow (rest.dropWhile (!isBreak ·))
    else if isBreak c then (true, (dropIgnored inFlow rest).2)
    else (false, c :: rest)
termination_by text => text.length
decreasing_by all_goals simp only [List.length_cons]; omega

/-- Moves to the next token. A new line outside of flow collections may start with a key. -/
def skipIgnored (l : Lexer) : Lexer :=
  let (breaksLine, rest) := dropIgnored l.inFlow l.cursor.rest
  { l.moveTo rest with allowsKey := l.allowsKey || (breaksLine && !l.inFlow) }

/-- The possible key if it can still be one here; a required key has to be one. -/
def stillPossible (c : Cursor) : Option PossibleKey → Except Failure (Option PossibleKey)
  | none => .ok none
  | some key =>
    if key.line = c.line ∧ c.index ≤ key.index + 1024 then .ok (some key)
    else if key.required then .error .broken
    else .ok none

/-- Forgets the possible keys that cannot be keys any more. -/
def forgetOldKeys (l : Lexer) : Except Failure Lexer := do
  let key ← stillPossible l.cursor l.key
  let flows ← l.flows.mapM fun (isSequence, key) => do
    return (isSequence, ← stillPossible l.cursor key)
  return { l with key := key, flows := flows }

/-- The tokens and indentations after the blocks that are indented more than a column have ended. -/
def endBlocks (column : Int) (tokens : Array Token) (indent : Int) :
    List Int → Array Token × Int × List Int
  | [] => (tokens, indent, [])
  | outer :: rest =>
    if column < indent then endBlocks column (tokens.push .blockEnd) outer rest
    else (tokens, indent, outer :: rest)

/-- Ends the blocks that are indented more than a column. -/
def unindent (l : Lexer) (column : Int) : Lexer :=
  if l.inFlow then l
  else
    let (tokens, indent, outerIndents) := endBlocks column l.tokens l.indent l.outerIndents
    { l with tokens := tokens, indent := indent, outerIndents := outerIndents }

/-! ### Keys and blocks -/

/-- Gives up the possible key of the level, which must not be a required one. -/
def dropKey (l : Lexer) : Except Failure Lexer :=
  match l.key with
  | some key => if key.required then .error .broken else .ok { l with key := none }
  | none => .ok l

/-- Remembers the place, if a key can start here. -/
def saveKey (l : Lexer) : Except Failure Lexer :=
  if l.allowsKey then do
    let l ← l.dropKey
    let c := l.cursor
    let required := !l.inFlow && l.indent == c.column
    return { l with key := some ⟨l.tokens.size, c.index, c.line, c.column, required⟩ }
  else .ok l

/-- The tokens with more of them put in at a position. -/
def putIn (tokens : Array Token) (position : Nat) (more : Array Token) : Array Token :=
  tokens.extract 0 position ++ more ++ tokens.extract position tokens.size

/-- Starts a block at a column, with its token at a position, if the column is indented more than
the current block. -/
def startBlock (l : Lexer) (token : Token) (column position : Nat) : Lexer :=
  if !l.inFlow && l.indent < column then
    { l with
      tokens := putIn l.tokens position #[token]
      indent := column
      outerIndents := l.indent :: l.outerIndents }
  else l

/-- Starts an entry of a block, behind a sign of one character that has to stand where a key can
start. Inside a flow collection no block is started. -/
def startEntry (l : Lexer) (block entry : Token) : Except Failure Lexer := do
  if !l.inFlow && !l.allowsKey then throw .broken
  let l ← (l.startBlock block l.cursor.column l.tokens.size).dropKey
  return (l.push entry).skip 1

/-- The token of a colon that ends a key. -/
def readColon (l : Lexer) : Except Failure Lexer :=
  match l.key with
  | some key =>
    let tokens := putIn l.tokens key.position #[.key]
    let l := { l with tokens := tokens, key := none, allowsKey := false }
    .ok (((l.startBlock .blockMappingStart key.column key.position).push .value).skip 1)
  | none => do
    let l ← l.startEntry .blockMappingStart .value
    return { l with allowsKey := !l.inFlow }

/-! ### The kinds of tokens -/

/-- The token of a marker between documents. -/
def readMarker (l : Lexer) (token : Token) : Except Failure Lexer := do
  let l ← (l.unindent (-1)).dropKey
  return { (l.push token).skip 3 with allowsKey := false }

def readDirectiveLine (l : Lexer) : Except Failure Lexer := do
  let l ← (l.unindent (-1)).dropKey
  match readDirective (l.cursor.rest.drop 1) with
  | some (tellsVersion, rest) =>
    return { (l.push (.directive tellsVersion)).moveTo rest with allowsKey := false }
  | none => throw .broken

/-- The token that opens a flow collection. -/
def openFlow (l : Lexer) (isSequence : Bool) : Except Failure Lexer := do
  let l ← l.saveKey
  let token := if isSequence then Token.flowSequenceStart else .flowMappingStart
  let l := (l.push token).skip 1
  return { l with flows := (isSequence, l.key) :: l.flows, key := none, allowsKey := true }

/-- The token that closes a flow collection. -/
def closeFlow (l : Lexer) (isSequence : Bool) : Except Failure Lexer := do
  let l ← l.dropKey
  let token := if isSequence then Token.flowSequenceEnd else .flowMappingEnd
  let l := (l.push token).skip 1
  match l.flows with
  | [] => return { l with allowsKey := false }
  | (_, key) :: flows => return { l with flows := flows, key := key, allowsKey := false }

/-- The token between the entries of a flow collection. -/
def readComma (l : Lexer) : Except Failure Lexer := do
  let l ← l.dropKey
  return { (l.push .flowEntry).skip 1 with allowsKey := true }

/-- The token of an entry of a block sequence. -/
def readDash (l : Lexer) : Except Failure Lexer := do
  let l ← l.startEntry .blockSequenceStart .blockEntry
  return { l with allowsKey := true }

/-- The token of a key that has a sign of its own. -/
def readQuestionMark (l : Lexer) : Except Failure Lexer := do
  let l ← l.startEntry .blockMappingStart .key
  return { l with allowsKey := !l.inFlow }

/-- The token of something that may be a key, or start one, and has been read up to a rest. -/
def pushPossibleKey (l : Lexer) (token : Token) (rest : List Char) : Except Failure Lexer := do
  let l ← l.saveKey
  return { (l.push token).moveTo rest with allowsKey := false }

/-- The token of a plain scalar. If the scalar ends with its line, a key can follow. -/
def readPlainScalar (l : Lexer) : Except Failure Lexer := do
  let read := readPlain l.inFlow (l.indent + 1).toNat l.cursor
  let l ← l.saveKey
  let l := l.push (.scalar true (String.ofList read.text))
  return { l with cursor := read.cursor, allowsKey := read.breaksLine }

def readBlockScalar (l : Lexer) (folds : Bool) : Except Failure Lexer := do
  let l ← l.dropKey
  match readBlock folds (l.indent + 1).toNat l.cursor.next with
  | some (text, after) =>
    return { l.push (.scalar false text) with cursor := after, allowsKey := true }
  | none => throw .broken

/-- Does a colon before this text end a key? Inside a sequence in brackets, as in a block, a blank
has to follow it. -/
def colonEndsKey (l : Lexer) (rest : List Char) : Bool :=
  match l.flows with
  | (false, _) :: _ => true
  | _ => endsWord rest

/-- The next token of a text that starts with the character. -/
def readToken (l : Lexer) (c : Char) (rest : List Char) : Except Failure Lexer :=
  if c == '%' && l.cursor.column == 0 then l.readDirectiveLine
  else if l.cursor.atMarker '-' then l.readMarker .documentStart
  else if l.cursor.atMarker '.' then l.readMarker .documentEnd
  else if c == '[' then l.openFlow true
  else if c == '\x7b' then l.openFlow false
  else if c == ']' then l.closeFlow true
  else if c == '\x7d' then l.closeFlow false
  else if c == ',' then l.readComma
  else if c == '-' && endsWord rest then l.readDash
  else if c == '?' && (l.inFlow || endsWord rest) then l.readQuestionMark
  else if c == ':' && l.colonEndsKey rest then l.readColon
  else if c == '*' || c == '&' then
    match readName rest with
    | some (name, rest) =>
      l.pushPossibleKey (if c == '*' then .alias name else .anchor name) rest
    | none => .error .broken
  else if c == '!' then
    match readTag rest with
    | some (tag, rest) => l.pushPossibleKey (.tag tag) rest
    | none => .error .broken
  else if c == '|' && !l.inFlow then l.readBlockScalar false
  else if c == '>' && !l.inFlow then l.readBlockScalar true
  else if c == '\x27' || c == '\x22' then
    match (if c == '\x27' then readSingle [] rest else readDouble [] rest) with
    | .ok (text, rest) => l.pushPossibleKey (.scalar false text) rest
    | .error failure => .error failure
  else if startsPlain l.inFlow (c :: rest) then l.readPlainScalar
  else .error .broken

/-! ### All tokens -/

/-- Moves to the next token and makes ready for it. -/
def settle (l : Lexer) : Except Failure Lexer := do
  let l ← l.skipIgnored.forgetOldKeys
  return l.unindent l.cursor.column

/-- The tokens of the rest of a text. Every token takes characters of it. -/
def finish (l : Lexer) : Except Failure (Array Token) :=
  match l.settle with
  | .error failure => .error failure
  | .ok settled =>
    match settled.cursor.rest with
    | [] => (settled.unindent (-1)).dropKey.map (·.tokens)
    | c :: rest =>
      match settled.readToken c rest with
      | .error failure => .error failure
      | .ok after =>
        if after.cursor.rest.length < l.cursor.rest.length then after.finish
        else .error .broken
termination_by l.cursor.rest.length

end Lexer

/-- The tokens of a text whose line breaks are normalized. -/
def Token.ofText (text : List Char) : Except Failure (List Token) :=
  (Lexer.start text).finish.map (·.toList)

end PasswordPolicy.Yaml
