import SuiteRunner.Yaml.Node
import SuiteRunner.Yaml.PlainValue

/-!
The data of a document. A file holds at most one document; without any its data are null.

A plain key `<<` merges the fields of other maps into its map, where the fields of the map itself come last and
so prevail. A plain key `=` is text like any other. Where several parts of a document mean nothing, the fault of
the outermost part counts, and on one level the first.
-/

namespace SuiteRunner.Yaml

/-- What a node stands for when its parts are considered one by one. -/
inductive Tree where
  | scalar (value : Except Fault Scalar)
  | list (items : List Tree)
  | map (fields : List (Except Fault Scalar × Tree))
  /-- A map that is to take in what is no map. -/
  | unmergeable

/-- The plain key under which a map takes in others. -/
def mergeKey : Text :=
  "<<".toList

/-- The plain key that is text although the word means nothing elsewhere. -/
def valueKey : Text :=
  "=".toList

def scalarValue (t : Text) (plain : Bool) : Except Fault Scalar :=
  if plain then plainValue t else .ok (.text t)

/-- The scalar that a node is as a key. Lists and maps cannot be keys. -/
def Node.asKey : Node → Except Fault Scalar
  | .scalar t plain => if t = valueKey then .ok (.text t) else scalarValue t plain
  | _ => .error .malformed

/-- The fields that a map takes in when the tree is merged into it: its own if it is a map, and those of all its
items, the last one first, if it is a list of maps. -/
def Tree.merged? : Tree → Option (List (Except Fault Scalar × Tree))
  | .map fields => some fields
  | .list items => do
    let parts ← items.mapM fun
      | .map fields => some fields
      | _ => none
    return parts.reverse.flatten
  | _ => none

mutual

def Node.tree : Node → Tree
  | .scalar t plain => .scalar (scalarValue t plain)
  | .list items => .list (itemTrees items)
  | .map fields =>
    match fieldTrees fields with
    | none => .unmergeable
    | some (merged, own) => .map (merged ++ own)

def itemTrees : List Node → List Tree
  | [] => []
  | item :: rest => item.tree :: itemTrees rest

/-- The fields that a map takes in and its own ones, unless something cannot be merged. -/
def fieldTrees : List (Node × Node) →
    Option (List (Except Fault Scalar × Tree) × List (Except Fault Scalar × Tree))
  | [] => some ([], [])
  | (key, value) :: rest =>
    match fieldTrees rest with
    | none => none
    | some (merged, own) =>
      match key with
      | .scalar t plain =>
        if plain && t = mergeKey then value.tree.merged?.map fun fields => (fields ++ merged, own)
        else some (merged, (key.asKey, value.tree) :: own)
      | _ => some (merged, (key.asKey, value.tree) :: own)

end

/-- Joins lists of levels, level by level. -/
def joinLevels {α : Type} : List (List α) → List (List α) → List (List α)
  | [], others => others
  | levels, [] => levels
  | level :: levels, other :: others => (level ++ other) :: joinLevels levels others

/-- The fault of a value. -/
def faultOf {α : Type} : Except Fault α → List Fault
  | .error fault => [fault]
  | .ok _ => []

mutual

/-- The faults of a tree, level by level. A scalar is on the level on which it stands; a list or a map opens the
level below, for its own fault and the scalars in it. -/
def Tree.faults : Tree → List (List Fault)
  | .scalar value => [faultOf value]
  | .list items => [] :: itemFaults items
  | .map fields => [] :: fieldFaults fields
  | .unmergeable => [[], [.malformed]]

def itemFaults : List Tree → List (List Fault)
  | [] => []
  | item :: rest => joinLevels item.faults (itemFaults rest)

def fieldFaults : List (Except Fault Scalar × Tree) → List (List Fault)
  | [] => []
  | (key, value) :: rest => joinLevels (joinLevels [faultOf key] value.faults) (fieldFaults rest)

end

mutual

/-- The data, unless a part means nothing. -/
def Tree.data? : Tree → Option Data
  | .scalar value => value.toOption.map Data.scalar
  | .list items => (itemData? items).map Data.list
  | .map fields => (fieldData? fields).map fun fields =>
    .map (fields.foldl (fun done (key, value) => Data.putField key value done) [])
  | .unmergeable => none

def itemData? : List Tree → Option (List Data)
  | [] => some []
  | item :: rest => do
    let first ← item.data?
    let others ← itemData? rest
    return first :: others

def fieldData? : List (Except Fault Scalar × Tree) → Option (List (Scalar × Data))
  | [] => some []
  | (key, value) :: rest => do
    let key ← key.toOption
    let value ← value.data?
    let others ← fieldData? rest
    return (key, value) :: others

end

/-- The data of the node, or the fault that counts. -/
def Node.data (node : Node) : Except Fault Data :=
  match node.tree.data? with
  | some data => .ok data
  | none => .error (node.tree.faults.flatten.head?.getD .malformed)

/-- The data that a text in YAML stands for, if it is the text of at most one document. What can be read of a longer
text stands for nothing; it shows faults or that the text ends too early. -/
def load (t : Text) (whole : Bool) : Except Fault Data := do
  match ← (TokenStream.ofText t whole).document with
  | none => return .null
  | some node => node.data

end SuiteRunner.Yaml
