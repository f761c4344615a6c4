import PasswordPolicy.Yaml.Node.Reader
import PasswordPolicy.Yaml.Token.Lexer

/-!
# Documents

The value of the single document that a text holds. Directives and a marker may stand in front of
it, and a marker behind it. A text without a document is null.
-/

namespace PasswordPolicy.Yaml

/-- Drops the directives in front of a document; the version is told once at most. -/
def dropDirectives? (knowsVersion : Bool) : List Token → Option (List Token)
  | .directive tellsVersion :: rest =>
    if tellsVersion && knowsVersion then none
    else dropDirectives? (tellsVersion || knowsVersion) rest
  | tokens => some tokens

/-- Does a document without content end here? -/
def endsDocument : List Token → Bool
  | [] => true
  | .directive _ :: _ => true
  | .documentStart :: _ => true
  | .documentEnd :: _ => true
  | _ => false

/-- The node of the first document, with the tokens behind it. -/
def firstDocument? (tokens : List Token) : Option (Node × List Token) :=
  match tokens with
  | .directive _ :: _ | .documentStart :: _ =>
    match dropDirectives? false tokens with
    | some (.documentStart :: rest) =>
      if endsDocument rest then some (.empty, rest) else Node.ofTokens? rest
    | _ => none
  | tokens => Node.ofTokens? tokens

def onlyDocument? (tokens : List Token) : Option Node :=
  if tokens.isEmpty then some .empty
  else match firstDocument? tokens with
    | some (node, []) => some node
    | some (node, [.documentEnd]) => some node
    | _ => none

def read (text : String) : Except Failure Value := do
  let chars := text.toList
  if !chars.all isDocumentChar then throw .broken
  match onlyDocument? (← Token.ofText (normalizeBreaks chars)) with
  | some node => node.value?
  | none => throw .broken

end PasswordPolicy.Yaml
