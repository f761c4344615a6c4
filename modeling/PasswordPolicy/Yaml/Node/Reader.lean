import PasswordPolicy.Yaml.Node
import PasswordPolicy.Yaml.Token

/-!
# Building nodes from tokens

Reading the node that a list of tokens starts with. Anchors name nodes for aliases behind them. A
missing node is null.
-/

namespace PasswordPolicy.Yaml

/-- The nodes that have names, the last one first. -/
abbrev Anchors := List (String × Node)

/-- What has been read, with the anchors known then and the tokens behind it. -/
abbrev Reading (α : Type) := Option (α × Anchors × List Token)

/-- What stands in front of a node. -/
structure Properties where
  anchor : Option String
  tag : Option WrittenTag

/-- Takes what stands in front of a node: an anchor and a tag, in either order. -/
def takeNodeProperties : List Token → Properties × List Token
  | .anchor name :: .tag tag :: rest => (⟨some name, some tag⟩, rest)
  | .anchor name :: rest => (⟨some name, none⟩, rest)
  | .tag tag :: .anchor name :: rest => (⟨some name, some tag⟩, rest)
  | .tag tag :: rest => (⟨none, some tag⟩, rest)
  | tokens => (⟨none, none⟩, tokens)

namespace Properties

/-- Is there anything in front of the node? -/
def isGiven (p : Properties) : Bool := p.anchor.isSome || p.tag.isSome

/-- The tag of a collection that has the given tag unless another one is said. -/
def collectionTag (p : Properties) (usual : Tag) : Tag :=
  match p.tag with
  | some (.specific tag) => tag
  | _ => usual

/-- The tag of a scalar. An unspecific tag makes a quoted scalar count as a plain one. -/
def scalarTag (p : Properties) (isPlain : Bool) (text : String) : Tag :=
  match p.tag with
  | some (.specific tag) => tag
  | some .unspecific => Tag.ofPlain text.toList
  | none => if isPlain then Tag.ofPlain text.toList else .text

/-- Gives the node its name, if there is one in front of it. -/
def bind (p : Properties) (read : Node × Anchors × List Token) : Node × Anchors × List Token :=
  match p.anchor with
  | some name => (read.1, (name, read.1) :: read.2.1, read.2.2)
  | none => read

end Properties

/-- Does the next part of a block follow here instead of a node? -/
def endsBlockPart : List Token → Bool
  | .key :: _ => true
  | .value :: _ => true
  | .blockEnd :: _ => true
  | _ => false

/-- Does the next item of a sequence follow here, or its end? The sequence is in a block of its own
or, if it is `bare`, directly in a mapping. -/
def endsItem (bare : Bool) : List Token → Bool
  | .blockEntry :: _ => true
  | .blockEnd :: _ => true
  | tokens => bare && endsBlockPart tokens

/-- Does an entry of a flow collection end here, so that its value is missing? -/
def endsFlowEntry (closing : Token) : List Token → Bool
  | token :: _ => token == .flowEntry || token == closing
  | [] => false

/-- Does an entry of a flow collection end here, or go on with its value, so that its key is
missing? -/
def endsFlowKey (closing : Token) : List Token → Bool
  | .value :: _ => true
  | tokens => endsFlowEntry closing tokens

/-- Takes the token between entries of a flow collection; there is none before the first entry. -/
def takeFlowEntry (isFirst : Bool) : List Token → Option (List Token)
  | .flowEntry :: rest => if isFirst then some (.flowEntry :: rest) else some rest
  | tokens => if isFirst then some tokens else none

mutual

/-- Reads a node, within a block or within a flow collection. A value in a mapping may be a bare
sequence, which has no block of its own. The first argument bounds the nodes that are read. -/
def readNode : Nat → (inBlock allowsBare : Bool) → Anchors → List Token → Reading Node
  | 0, _, _, _, _ => none
  | fuel + 1, inBlock, allowsBare, anchors, tokens =>
    match tokens with
    | .alias name :: rest => (anchors.lookup name).map fun node => (node, anchors, rest)
    | _ =>
      let (p, tokens) := takeNodeProperties tokens
      match tokens, inBlock, allowsBare with
      | .blockEntry :: _, _, true =>
        (readItems fuel true [] anchors tokens).map fun (items, after) =>
          p.bind (.sequence (p.collectionTag .sequence) items, after)
      | .scalar isPlain text :: rest, _, _ =>
        some (p.bind (.scalar (p.scalarTag isPlain text) text, anchors, rest))
      | .flowSequenceStart :: rest, _, _ =>
        (readFlowItems fuel true [] anchors rest).map fun (items, after) =>
          p.bind (.sequence (p.collectionTag .sequence) items, after)
      | .flowMappingStart :: rest, _, _ =>
        (readFlowEntries fuel true [] anchors rest).map fun (entries, after) =>
          p.bind (.mappingOf (p.collectionTag .mapping) entries, after)
      | .blockSequenceStart :: rest, true, _ =>
        (readItems fuel false [] anchors rest).map fun (items, after) =>
          p.bind (.sequence (p.collectionTag .sequence) items, after)
      | .blockMappingStart :: rest, true, _ =>
        (readEntries fuel [] anchors rest).map fun (entries, after) =>
          p.bind (.mappingOf (p.collectionTag .mapping) entries, after)
      | _, _, _ =>
        if p.isGiven then some (p.bind (.scalar (p.scalarTag true "") "", anchors, tokens))
        else none

/-- Reads the items of a sequence in a block, after those already read (last one first). -/
def readItems : Nat → (bare : Bool) → List Node → Anchors → List Token → Reading (List Node)
  | 0, _, _, _, _ => none
  | fuel + 1, bare, items, anchors, tokens =>
    match tokens with
    | .blockEntry :: rest =>
      if endsItem bare rest then readItems fuel bare (.empty :: items) anchors rest
      else match readNode fuel true false anchors rest with
        | some (item, anchors, rest) => readItems fuel bare (item :: items) anchors rest
        | none => none
    | .blockEnd :: rest => some (items.reverse, anchors, if bare then tokens else rest)
    | _ => if bare then some (items.reverse, anchors, tokens) else none

/-- Reads a part of an entry of a mapping in a block, behind the token that starts it. -/
def readPart : Nat → Anchors → List Token → Reading Node
  | 0, _, _ => none
  | fuel + 1, anchors, tokens =>
    if endsBlockPart tokens then some (.empty, anchors, tokens)
    else readNode fuel true true anchors tokens

/-- Reads the entries of a mapping in a block, after those already read (last one first). -/
def readEntries : Nat → List (Node × Node) → Anchors → List Token →
    Reading (List (Node × Node))
  | 0, _, _, _ => none
  | fuel + 1, entries, anchors, tokens =>
    let key : Reading Node := match tokens with
      | .key :: rest => readPart fuel anchors rest
      | .value :: _ => some (.empty, anchors, tokens)
      | _ => none
    match tokens, key with
    | .blockEnd :: rest, _ => some (entries.reverse, anchors, rest)
    | _, none => none
    | _, some (key, anchors, .value :: rest) =>
      match readPart fuel anchors rest with
      | some (value, anchors, rest) => readEntries fuel ((key, value) :: entries) anchors rest
      | none => none
    | _, some (key, anchors, rest) => readEntries fuel ((key, .empty) :: entries) anchors rest

/-- Reads an entry of a flow collection up to what closes it or separates it from the next one. The
tokens start with that of the key or, if that is missing, with that of the value. -/
def readFlowEntry : Nat → (closing : Token) → Anchors → List Token → Reading (Node × Node)
  | 0, _, _, _ => none
  | fuel + 1, closing, anchors, tokens =>
    let key : Reading Node := match tokens with
      | .key :: rest =>
        if endsFlowKey closing rest then some (.empty, anchors, rest)
        else readNode fuel false false anchors rest
      | _ => some (.empty, anchors, tokens)
    match key with
    | none => none
    | some (key, anchors, .value :: rest) =>
      if endsFlowEntry closing rest then some ((key, .empty), anchors, rest)
      else (readNode fuel false false anchors rest).map fun (value, after) => ((key, value), after)
    | some (key, anchors, rest) => some ((key, .empty), anchors, rest)

/-- Reads the items of a sequence in brackets, after those already read (last one first). An entry
of a mapping that stands there is a mapping of its own. -/
def readFlowItems : Nat → (isFirst : Bool) → List Node → Anchors → List Token →
    Reading (List Node)
  | 0, _, _, _, _ => none
  | fuel + 1, isFirst, items, anchors, tokens =>
    match tokens with
    | .flowSequenceEnd :: rest => some (items.reverse, anchors, rest)
    | _ =>
      match takeFlowEntry isFirst tokens with
      | none => none
      | some (.flowSequenceEnd :: rest) => some (items.reverse, anchors, rest)
      | some (.key :: rest) =>
        match readFlowEntry fuel .flowSequenceEnd anchors (.key :: rest) with
        | some (entry, anchors, rest) =>
          readFlowItems fuel false (.mappingOf .mapping [entry] :: items) anchors rest
        | none => none
      | some tokens =>
        match readNode fuel false false anchors tokens with
        | some (item, anchors, rest) => readFlowItems fuel false (item :: items) anchors rest
        | none => none

/-- Reads the entries of a mapping in braces, after those already read (last one first). A node that
stands alone is a key without a value. -/
def readFlowEntries : Nat → (isFirst : Bool) → List (Node × Node) → Anchors → List Token →
    Reading (List (Node × Node))
  | 0, _, _, _, _ => none
  | fuel + 1, isFirst, entries, anchors, tokens =>
    match tokens with
    | .flowMappingEnd :: rest => some (entries.reverse, anchors, rest)
    | _ =>
      match takeFlowEntry isFirst tokens with
      | none => none
      | some (.flowMappingEnd :: rest) => some (entries.reverse, anchors, rest)
      | some tokens =>
        let entry : Reading (Node × Node) := match tokens with
          | .key :: _ => readFlowEntry fuel .flowMappingEnd anchors tokens
          | .value :: _ => readFlowEntry fuel .flowMappingEnd anchors tokens
          | _ => (readNode fuel false false anchors tokens).map fun (key, after) =>
            ((key, .empty), after)
        match entry with
        | some (entry, anchors, rest) =>
          readFlowEntries fuel false (entry :: entries) anchors rest
        | none => none

end

/-- The node that tokens start with, and the tokens behind it. Every node that is read takes a token
or stands between two of them, so their number bounds the nodes. -/
def Node.ofTokens? (tokens : List Token) : Option (Node × List Token) :=
  (readNode (4 * tokens.length + 4) true false [] tokens).map fun (node, _, rest) => (node, rest)

end PasswordPolicy.Yaml
