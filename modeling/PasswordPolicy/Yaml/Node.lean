import PasswordPolicy.Value.Display
import PasswordPolicy.Yaml.Tag

/-!
# Nodes

A document as a tree of tagged nodes, and the values that nodes have. A mapping may have the entries
of other mappings merged into it; its own entries then override those. Otherwise no key may occur
twice, where numbers and truth values are the same key if they are equal as numbers.

A tree can hold several things without a value. The one that counts is the first on the highest
level: the scalars and keys of a collection are looked at before the collections in it.
-/

namespace PasswordPolicy.Yaml

/-- A part of a document with its tag. -/
inductive Node
  | scalar (tag : Tag) (text : String)
  | sequence (tag : Tag) (items : List Node)
  /-- A mapping; if entries were merged into it, a key may occur more than once. -/
  | mapping (tag : Tag) (isMerged : Bool) (entries : List (Node × Node))
  /-- A mapping into which something was to be merged that cannot be. -/
  | unmergeable

namespace Node

/-- The node that stands where there is nothing. -/
def empty : Node := .scalar .null ""

/-! ### Merging -/

/-- The entries that a node contributes where it is merged into a mapping: a mapping its own, and a
sequence of mappings those of its items, the last one first, so that earlier items count. -/
def contribution? : Node → Option (List (Node × Node))
  | mapping _ _ entries => some entries
  | sequence _ items => do
    let parts ← items.mapM fun
      | mapping _ _ entries => some entries
      | _ => none
    return parts.reverse.flatten
  | _ => none

/-- The merged entries of a mapping after those merged so far. Entries can be merged in by one key
only. -/
def mergedEntries? (merged : List (Node × Node)) :
    List (Node × Node) → Option (List (Node × Node))
  | [] => some merged
  | (.scalar .merge _, value) :: rest =>
    if merged.isEmpty then value.contribution?.bind fun merged => mergedEntries? merged rest
    else none
  | _ :: rest => mergedEntries? merged rest

/-- An entry of a mapping itself, if it is not one for merging. The sign of a default value is a
text as a key. -/
def ownEntry? : Node × Node → Option (Node × Node)
  | (.scalar .merge _, _) => none
  | (.scalar .defaultValue text, value) => some (.scalar .text text, value)
  | entry => some entry

/-- The mapping with the entries as they are written. -/
def mappingOf (tag : Tag) (entries : List (Node × Node)) : Node :=
  match mergedEntries? [] entries with
  | some merged => .mapping tag (!merged.isEmpty) (merged ++ entries.filterMap ownEntry?)
  | none => .unmergeable

/-! ### Keys -/

/-- A list that serves as a key, as messages show it. -/
def displayListKey : List Value → String
  | [item] => "(" ++ item.display ++ ",)"
  | items => enclosed "(" ")" (items.map Value.display)

/-- The key that a value serves as. -/
def keyOf : Value → Scalar
  | .scalar s => s
  | .list items => .listKey (displayListKey items)
  | .record _ => .null

/-- What stands for all keys that are the same: truth values and whole numbers count as integers. -/
def keyClass : Scalar → Scalar
  | .bool b => .int (if b then 1 else 0)
  | .real x =>
    match x.toInt? with
    | some i => .int i
    | none => .real x
  | key => key

/-- Puts a value under a key. A key that is the same as one before keeps its place and its form. -/
def putUnder (entries : Entries) (key : Scalar) (value : Value) : Entries :=
  match entries.find? fun entry => keyClass entry.1 == keyClass key with
  | some (before, _) => entries.put before value
  | none => entries ++ [(key, value)]

/-- Is the value one that may stand in a list that serves as a key? -/
def isSimple : Value → Bool
  | .scalar _ => true
  | _ => false

/-- Why a value cannot serve as a key, if it cannot: records cannot, and lists in which there are
other collections are found out only where keys are compared. -/
def keyDefect? : Value → Option Defect
  | .list items => (items.find? (!isSimple ·)).map fun item => .unusableKey item.typeName
  | _ => none

/-! ### Values -/

/-- The value of a scalar; null if it has none. -/
def scalarOrNull (tag : Tag) (text : String) : Scalar :=
  match tag.scalarValue text with
  | .ok s => s
  | .error _ => .null

mutual

/-- The value of a node. What has no value counts as null. -/
def value : Node → Value
  | .scalar tag text => .scalar (scalarOrNull tag text)
  | .sequence _ items => .list (values items)
  | .mapping _ _ entries => .record (entriesAfter [] entries)
  | .unmergeable => .null

/-- The values of nodes. -/
def values : List Node → List Value
  | [] => []
  | node :: rest => node.value :: values rest

/-- The entries that nodes give after those already there. -/
def entriesAfter (done : Entries) : List (Node × Node) → Entries
  | [] => done
  | (key, value) :: rest => entriesAfter (putUnder done (keyOf key.value) value.value) rest

end

/-! ### Failures -/

/-- The failures of several parts, level by level. -/
def joinLevels : List (List Failure) → List (List Failure) → List (List Failure)
  | [], levels => levels
  | levels, [] => levels
  | here :: below, other :: otherBelow => (here ++ other) :: joinLevels below otherBelow

/-- The failures of a key that is a record. -/
def recordFailures : Value → List Failure
  | .record _ => [.broken]
  | _ => []

/-- The failures of a key as such, among keys that are used already. -/
def keyFailures (isMerged : Bool) (used : List Scalar) (key : Value) : List Failure :=
  match keyDefect? key with
  | some defect => [.defective defect]
  | none =>
    if !isMerged && (used.map keyClass).contains (keyClass (keyOf key)) then [.broken] else []

mutual

/-- The failures in a node, level by level. A scalar is looked at on the level where it stands, and
what is in a collection on the levels below. -/
def failures : Node → List (List Failure)
  | .scalar tag text =>
    match tag.scalarValue text with
    | .ok _ => []
    | .error failure => [[failure]]
  | .sequence tag items =>
    [] :: if tag = .sequence then itemFailures items else [[.broken]]
  | .mapping tag isMerged entries =>
    [] :: if tag = .mapping then entryFailures isMerged [] entries else [[.broken]]
  | .unmergeable => [[], [.broken]]

/-- The failures in the items of a sequence, level by level. -/
def itemFailures : List Node → List (List Failure)
  | [] => []
  | node :: rest => joinLevels node.failures (itemFailures rest)

/-- The failures in the entries of a mapping, level by level. All those in a key count as failures
of the mapping itself. -/
def entryFailures (isMerged : Bool) (used : List Scalar) :
    List (Node × Node) → List (List Failure)
  | [] => []
  | (key, value) :: rest =>
    let inKey := key.failures.flatten ++ recordFailures key.value
    let ofKey := keyFailures isMerged used key.value
    let here := joinLevels [inKey] (joinLevels value.failures [ofKey])
    joinLevels here (entryFailures isMerged (keyOf key.value :: used) rest)

end

/-- The value of a node, if there is nothing in it without a value. -/
def value? (node : Node) : Except Failure Value :=
  match node.failures.flatten with
  | [] => .ok node.value
  | failure :: _ => .error failure

end Node

end PasswordPolicy.Yaml
