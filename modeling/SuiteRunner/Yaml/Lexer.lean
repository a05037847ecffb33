import SuiteRunner.Yaml.Scalar

/-!
Cutting a document into tokens. In block style the indentation opens and closes collections; a scalar or a
collection turns out to be a key only when the mark `:` comes up behind it, and the tokens that announce the key
are then put in front of it.
-/

namespace SuiteRunner.Yaml

/-- The tokens that can be had from a text, and the fault that keeps those after them away. -/
structure TokenStream where
  tokens : List Token
  fault : Option Fault

/-- Where a key could start: the number of its first token, the place, and whether a key must start there. -/
structure KeyStart where
  token : Nat
  required : Bool
  line : Nat
  column : Nat
  index : Nat

/-- The state between two tokens. The indentations are those of the open block collections, innermost first; the
topmost level is unindented and has no collection. Possible keys are kept by the depth of flow collections. -/
structure Lexer where
  rest : Text
  index : Nat := 0
  line : Nat := 0
  column : Nat := 0
  indents : List Nat := []
  flowDepth : Nat := 0
  keyAllowed : Bool := true
  keys : List (Nat × KeyStart) := []
  tokens : List Token := []
  ended : Bool := false

/-- The character that tells the order of octets at the start of a text. -/
def octetOrderMark : Char :=
  Char.ofNat 0xFEFF

/-- A key does not extend over more characters than this. -/
def maxKeyLength : Nat := 1024

namespace Lexer

def inFlow (s : Lexer) : Bool :=
  0 < s.flowDepth

def emit (s : Lexer) (token : Token) : Lexer :=
  { s with tokens := s.tokens ++ [token] }

/-- Moves over one character. A mark of the octet order has no width. -/
def advanceOver (s : Lexer) (c : Char) : Lexer :=
  if isBreak c then { s with index := s.index + 1, line := s.line + 1, column := 0 }
  else if c = octetOrderMark then { s with index := s.index + 1 }
  else { s with index := s.index + 1, column := s.column + 1 }

/-- Moves up to the given rest. -/
def advanceTo (s : Lexer) (rest : Text) : Lexer :=
  let passed := s.rest.take (s.rest.length - rest.length)
  { passed.foldl advanceOver s with rest := rest }

/-- What follows a gap with its comments, and whether a line ends in the gap. -/
def skipGap : Bool → Text → Bool × Text
  | _, [] => (false, [])
  | comment, c :: rest =>
    if isBreak c then (true, (skipGap false rest).2)
    else if comment then skipGap true rest
    else if c == ' ' then skipGap false rest
    else if c == '#' then skipGap true rest
    else (false, c :: rest)

/-- Goes to the next token. A new line in block style may start with a key. -/
def toNextToken (s : Lexer) : Lexer :=
  let (newLine, rest) := skipGap false s.rest
  let s := s.advanceTo rest
  if newLine && ! s.inFlow then { s with keyAllowed := true } else s

/-- Whether a key that started there is no longer possible: it stands on one line and is not too long. -/
def isStale (s : Lexer) (key : KeyStart) : Bool :=
  key.line != s.line || maxKeyLength < s.index - key.index

/-- Gives up the possible keys that are no longer possible; a required one must not be given up. -/
def dropStaleKeys (s : Lexer) : Except Fault Lexer :=
  if s.keys.any fun entry => s.isStale entry.2 && entry.2.required then .error .malformed
  else .ok { s with keys := s.keys.filter fun entry => ! s.isStale entry.2 }

/-- Closes the block collections that are indented more than the column. -/
def unindent (s : Lexer) (column : Nat) : Lexer :=
  if s.inFlow then s
  else
    let closed := s.indents.takeWhile (column < ·)
    { s with
      indents := s.indents.drop closed.length
      tokens := s.tokens ++ List.replicate closed.length .blockEnd }

/-- Closes all block collections. -/
def unindentAll (s : Lexer) : Lexer :=
  if s.inFlow then s
  else { s with indents := [], tokens := s.tokens ++ List.replicate s.indents.length .blockEnd }

/-- Whether the column opens a new block collection. -/
def opensBlock (s : Lexer) (column : Nat) : Bool :=
  match s.indents with
  | [] => true
  | indent :: _ => indent < column

/-- Opens a block collection at the column if that is new, with its token at the given place. -/
def openBlock (s : Lexer) (column : Nat) (place : Nat) (token : Token) : Lexer :=
  if s.opensBlock column then
    { s with indents := column :: s.indents, tokens := s.tokens.take place ++ token :: s.tokens.drop place }
  else s

/-- Gives up the possible key of the current flow depth. -/
def dropKey (s : Lexer) : Except Fault Lexer :=
  match s.keys.lookup s.flowDepth with
  | none => .ok s
  | some key =>
    if key.required then .error .malformed
    else .ok { s with keys := s.keys.filter fun entry => entry.1 != s.flowDepth }

/-- Remembers that a key may start here. It is required at the indentation of the innermost block collection. -/
def saveKey (s : Lexer) : Except Fault Lexer :=
  if s.keyAllowed then do
    let required := ! s.inFlow && s.indents.head? == some s.column
    let s ← s.dropKey
    return { s with keys := (s.flowDepth, ⟨s.tokens.length, required, s.line, s.column, s.index⟩) :: s.keys }
  else .ok s

/-- Passes over so many characters. -/
def skip (s : Lexer) (count : Nat) : Lexer :=
  s.advanceTo (s.rest.drop count)

def lexDocumentMark (s : Lexer) (token : Token) : Except Fault Lexer := do
  let s ← s.unindentAll.dropKey
  return ({ s with keyAllowed := false }.skip 3).emit token

def lexFlowStart (s : Lexer) (token : Token) : Except Fault Lexer := do
  let s ← s.saveKey
  return ({ s with flowDepth := s.flowDepth + 1, keyAllowed := true }.skip 1).emit token

/-- A flow collection that is not open cannot be closed. -/
def lexFlowEnd (s : Lexer) (token : Token) : Except Fault Lexer := do
  let s ← s.dropKey
  if s.flowDepth = 0 then .error .malformed
  else return ({ s with flowDepth := s.flowDepth - 1, keyAllowed := false }.skip 1).emit token

def lexFlowEntry (s : Lexer) : Except Fault Lexer := do
  let s ← { s with keyAllowed := true }.dropKey
  return (s.skip 1).emit .flowEntry

def lexBlockEntry (s : Lexer) : Except Fault Lexer := do
  if ! s.inFlow && ! s.keyAllowed then .error .malformed
  else
    let s := if s.inFlow then s else s.openBlock s.column s.tokens.length .blockListStart
    let s ← { s with keyAllowed := true }.dropKey
    return (s.skip 1).emit .blockEntry

def lexKey (s : Lexer) : Except Fault Lexer := do
  if ! s.inFlow && ! s.keyAllowed then .error .malformed
  else
    let s := if s.inFlow then s else s.openBlock s.column s.tokens.length .blockMapStart
    let s ← { s with keyAllowed := ! s.inFlow }.dropKey
    return (s.skip 1).emit .key

/-- The mark between a key and its value. A possible key becomes one; without it the key is empty. -/
def lexValue (s : Lexer) : Except Fault Lexer :=
  match s.keys.lookup s.flowDepth with
  | some key =>
    let s := { s with
      keys := s.keys.filter fun entry => entry.1 != s.flowDepth
      tokens := s.tokens.take key.token ++ Token.key :: s.tokens.drop key.token
      keyAllowed := false }
    let s := if s.inFlow then s else s.openBlock key.column key.token .blockMapStart
    .ok ((s.skip 1).emit .value)
  | none => do
    if ! s.inFlow && ! s.keyAllowed then .error .malformed
    else
      let s := if s.inFlow then s else s.openBlock s.column s.tokens.length .blockMapStart
      let s ← { s with keyAllowed := ! s.inFlow }.dropKey
      return (s.skip 1).emit .value

def lexQuoted (s : Lexer) (double : Bool) : Except Fault Lexer := do
  let s ← s.saveKey
  let (t, rest) ← quotedScalar double (s.rest.drop 1)
  return ({ s with keyAllowed := false }.advanceTo rest).emit (.scalar t false)

/-- Continuation lines of a plain scalar are indented more than the innermost block collection. -/
def lexPlain (s : Lexer) : Except Fault Lexer := do
  let s ← s.saveKey
  let indent := match s.indents with
    | [] => 0
    | indent :: _ => indent + 1
  let found := plainScalar s.inFlow indent s.rest
  return ({ s with keyAllowed := found.breaks }.advanceTo found.rest).emit (.scalar found.text true)

/-- The characters that no plain scalar starts with. -/
def indicators : List Char :=
  "-?:,[]#&*!|>'\"%@".toList ++ [Char.ofNat 0x60, Char.ofNat 0x7B, Char.ofNat 0x7D]

/-- Whether a plain scalar can start with the character, given what follows. -/
def startsPlain (flow : Bool) (c : Char) (rest : Text) : Bool :=
  ! (atGap [c] || indicators.contains c) ||
    (! atGap rest && (c == '-' || (! flow && (c == '?' || c == ':'))))

/-- The next token, which starts with the given character. -/
def lexToken (s : Lexer) (c : Char) (rest : Text) : Except Fault Lexer :=
  let marked := s.column = 0 ∧ atDocumentMark (c :: rest)
  if marked ∧ c = '-' then s.lexDocumentMark .documentStart
  else if marked then s.lexDocumentMark .documentEnd
  else if c = '[' then s.lexFlowStart .flowListStart
  else if c = Char.ofNat 0x7B then s.lexFlowStart .flowMapStart
  else if c = ']' then s.lexFlowEnd .flowListEnd
  else if c = Char.ofNat 0x7D then s.lexFlowEnd .flowMapEnd
  else if c = ',' then s.lexFlowEntry
  else if c = '-' ∧ atGap rest then s.lexBlockEntry
  else if c = '?' ∧ (s.inFlow ∨ atGap rest) then s.lexKey
  else if c = ':' ∧ (s.inFlow ∨ atGap rest) then s.lexValue
  else if c = '\'' then s.lexQuoted false
  else if c = '"' then s.lexQuoted true
  else if startsPlain s.inFlow c rest then s.lexPlain
  else .error .malformed

/-- The end of the text, where all collections in flow style must be closed. -/
def lexEnd (s : Lexer) : Except Fault Lexer := do
  let s ← s.unindentAll.dropKey
  if s.inFlow then .error .malformed
  else return { s.emit .streamEnd with ended := true }

/-- The tokens in front of which none can come any more: those before the first that a key may start with. -/
def settled (s : Lexer) : List Token :=
  match ((s.keys.filter fun entry => ! s.isStale entry.2).map fun entry => entry.2.token).min? with
  | none => s.tokens
  | some token => s.tokens.take token

/-- Goes over a gap and the token behind it, or to the end. A text that is not whole must not be used up, because
what comes next decides where a token ends. -/
def lexNext (whole : Bool) (s : Lexer) : Except Fault Lexer := do
  let here := s.toNextToken
  if here.rest.isEmpty && ! whole then .error .endOfText
  else
    let here ← here.dropStaleKeys
    match here.rest with
    | [] => here.lexEnd
    | c :: rest =>
      let next ← (here.unindent here.column).lexToken c rest
      if next.rest.isEmpty && ! whole then .error .endOfText else return next

/-- Cuts what is left into tokens; each step takes at least one character. -/
def lexAll (whole : Bool) : Nat → Lexer → TokenStream
  | 0, s => ⟨s.settled, some .malformed⟩
  | steps + 1, s =>
    match s.lexNext whole with
    | .error fault => ⟨s.settled, some fault⟩
    | .ok next => if next.ended then ⟨next.tokens, none⟩ else lexAll whole steps next

end Lexer

/-- The same tokens, with the given fault where the text ends too early. -/
def TokenStream.endingIn (stream : TokenStream) (fault : Fault) : TokenStream :=
  { stream with fault := if stream.fault = some .endOfText then some fault else stream.fault }

/-- The tokens of allowed characters. A mark of the octet order at the start does not count. -/
def tokensOf (t : Text) (whole : Bool) : TokenStream :=
  let t := if t.head? = some octetOrderMark then t.drop 1 else t
  Lexer.lexAll whole (t.length + 1) { rest := t }

/-- Texts are read in blocks of so many characters, and at the start two blocks at once. -/
def blockLength : Nat := 4096

/-- What has been read of a text before the block with the character at the place. -/
def readBefore (place : Nat) (t : Text) : Text :=
  if place < 2 * blockLength then [] else t.take (place / blockLength * blockLength)

/-- The tokens of a whole text, or of what can be read of a longer one. A character that is not allowed shows as soon
as its block is read. -/
def TokenStream.ofText (t : Text) (whole : Bool) : TokenStream :=
  let allowed := (t.takeWhile isAllowed).length
  if allowed = t.length then
    let stream := tokensOf t whole
    if whole then stream.endingIn .malformed else stream
  else (tokensOf (readBefore allowed t) false).endingIn .malformed

end SuiteRunner.Yaml
