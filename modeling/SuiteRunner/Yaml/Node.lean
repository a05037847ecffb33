import SuiteRunner.Yaml.Lexer

/-!
The nodes of a document: its scalars as they are written, its lists and its maps. Whatever is left out, such as
the value of a key after which nothing stands, is an empty plain scalar.
-/

namespace SuiteRunner.Yaml

inductive Node where
  | scalar (text : Text) (plain : Bool)
  | list (items : List Node)
  | map (fields : List (Node × Node))

/-- The node that is left out. -/
def Node.empty : Node :=
  .scalar [] true

/-- Why no node can be read. -/
inductive Stop where
  /-- The next token cannot stand where it stands. -/
  | misplaced
  /-- There are no more tokens. -/
  | cutShort
  deriving DecidableEq, Repr

/-- A node, and the tokens after it. -/
abbrev Read := Except Stop (Node × List Token)

/-- Why the tokens that are left do not go on as they should. -/
def stopAt : List Token → Stop
  | [] => .cutShort
  | _ => .misplaced

/-- The tokens before which a node may be left out. -/
structure Follow where
  tokens : List Token

/-- The empty node, if one of the tokens that may follow is next, else what is read. -/
def Follow.orRead (follow : Follow) (read : List Token → Read) (ts : List Token) : Read :=
  if ts.head?.any follow.tokens.contains then .ok (.empty, ts) else read ts

def afterBlockEntry : Follow := ⟨[.blockEntry, .blockEnd]⟩

def afterIndentless : Follow := ⟨[.blockEntry, .key, .value, .blockEnd]⟩

def inBlockMap : Follow := ⟨[.key, .value, .blockEnd]⟩

def inFlowMap : Follow := ⟨[.value, .flowEntry, .flowMapEnd]⟩

def inFlowPair : Follow := ⟨[.value, .flowEntry, .flowListEnd]⟩

def asDocument : Follow := ⟨[.documentStart, .documentEnd, .streamEnd]⟩

mutual

/-- Reads a node in block or in flow style. As the value of a map in block style a list need not be indented. The
number bounds the depth and the length of what is read. -/
def readNode (block indentless : Bool) : Nat → List Token → Read
  | 0, ts => .error (stopAt ts)
  | steps + 1, ts =>
    match ts with
    | .scalar t plain :: rest => .ok (.scalar t plain, rest)
    | .flowListStart :: rest => readFlowList steps [] rest
    | .flowMapStart :: rest => readFlowMap steps [] rest
    | .blockListStart :: rest => if block then readBlockList steps [] rest else .error .misplaced
    | .blockMapStart :: rest => if block then readBlockMap steps [] rest else .error .misplaced
    | .blockEntry :: rest =>
      if indentless then readIndentless steps [] (.blockEntry :: rest) else .error .misplaced
    | ts => .error (stopAt ts)

/-- The entries of a list in block style up to its end. -/
def readBlockList : Nat → List Node → List Token → Read
  | _ + 1, items, .blockEnd :: rest => .ok (.list items, rest)
  | steps + 1, items, .blockEntry :: rest => do
    let (item, rest) ← afterBlockEntry.orRead (readNode true false steps) rest
    readBlockList steps (items ++ [item]) rest
  | _, _, ts => .error (stopAt ts)

/-- The entries of a list that is not indented; it ends where no entry follows. -/
def readIndentless : Nat → List Node → List Token → Read
  | 0, _, ts => .error (stopAt ts)
  | steps + 1, items, .blockEntry :: rest => do
    let (item, rest) ← afterIndentless.orRead (readNode true false steps) rest
    readIndentless steps (items ++ [item]) rest
  | _ + 1, items, rest => .ok (.list items, rest)

/-- The fields of a map in block style up to its end. Each starts with its key, which may be left out only where
its place is marked. -/
def readBlockMap : Nat → List (Node × Node) → List Token → Read
  | _ + 1, fields, .blockEnd :: rest => .ok (.map fields, rest)
  | steps + 1, fields, .key :: rest => do
    let (key, rest) ← inBlockMap.orRead (readNode true true steps) rest
    readBlockValue steps fields key rest
  | _, _, ts => .error (stopAt ts)

/-- The value of a field in block style, if there is one, and the fields after it. -/
def readBlockValue : Nat → List (Node × Node) → Node → List Token → Read
  | 0, _, _, ts => .error (stopAt ts)
  | steps + 1, fields, key, .value :: rest => do
    let (value, rest) ← inBlockMap.orRead (readNode true true steps) rest
    readBlockMap steps (fields ++ [(key, value)]) rest
  | steps + 1, fields, key, rest => readBlockMap steps (fields ++ [(key, .empty)]) rest

/-- The items of a list in flow style up to its end. An item may be a map of one field. -/
def readFlowList : Nat → List Node → List Token → Read
  | 0, _, ts => .error (stopAt ts)
  | _ + 1, items, .flowListEnd :: rest => .ok (.list items, rest)
  | steps + 1, items, .key :: rest => do
    let (key, rest) ← inFlowPair.orRead (readNode false false steps) rest
    let (value, rest) ← match rest with
      | .value :: rest => inFlowPair.orRead (readNode false false steps) rest
      | rest => .ok (.empty, rest)
    readFlowListEnd steps (items ++ [.map [(key, value)]]) rest
  | steps + 1, items, rest => do
    let (item, rest) ← readNode false false steps rest
    readFlowListEnd steps (items ++ [item]) rest

/-- What follows an item: a comma and further items, or the end. -/
def readFlowListEnd : Nat → List Node → List Token → Read
  | _ + 1, items, .flowListEnd :: rest => .ok (.list items, rest)
  | steps + 1, items, .flowEntry :: rest => readFlowList steps items rest
  | _, _, ts => .error (stopAt ts)

/-- The fields of a map in flow style up to its end. A key may stand alone. -/
def readFlowMap : Nat → List (Node × Node) → List Token → Read
  | 0, _, ts => .error (stopAt ts)
  | _ + 1, fields, .flowMapEnd :: rest => .ok (.map fields, rest)
  | steps + 1, fields, .key :: rest => do
    let (key, rest) ← inFlowMap.orRead (readNode false false steps) rest
    let (value, rest) ← match rest with
      | .value :: rest => inFlowMap.orRead (readNode false false steps) rest
      | rest => .ok (.empty, rest)
    readFlowMapEnd steps (fields ++ [(key, value)]) rest
  | steps + 1, fields, rest => do
    let (key, rest) ← readNode false false steps rest
    readFlowMapEnd steps (fields ++ [(key, .empty)]) rest

/-- What follows a field: a comma and further fields, or the end. -/
def readFlowMapEnd : Nat → List (Node × Node) → List Token → Read
  | _ + 1, fields, .flowMapEnd :: rest => .ok (.map fields, rest)
  | steps + 1, fields, .flowEntry :: rest => readFlowMap steps fields rest
  | _, _, ts => .error (stopAt ts)

end

/-- Behind the only document there are at most end marks. -/
def readDocumentEnd (found : Option Node) : List Token → Except Stop (Option Node)
  | .streamEnd :: _ => .ok found
  | .documentEnd :: rest => readDocumentEnd found rest
  | ts => .error (stopAt ts)

/-- The node of the only document, if there is one. Behind a start mark the node may be left out. -/
def readDocument (ts : List Token) : Except Stop (Option Node) := do
  let read := readNode true false (2 * ts.length + 2)
  match ts with
  | [.streamEnd] => return none
  | .documentStart :: rest =>
    let (node, rest) ← asDocument.orRead read rest
    readDocumentEnd (some node) rest
  | ts =>
    let (node, rest) ← read ts
    readDocumentEnd (some node) rest

/-- The node of the only document that the tokens make up. A token out of place is found before a fault in the
text behind it. -/
def TokenStream.document (stream : TokenStream) : Except Fault (Option Node) :=
  match readDocument stream.tokens with
  | .ok node => .ok node
  | .error .misplaced => .error .malformed
  | .error .cutShort => .error (stream.fault.getD .malformed)

end SuiteRunner.Yaml
