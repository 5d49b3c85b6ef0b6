import DocPress.Yaml.Error
import DocPress.Yaml.Schema
import DocPress.Yaml.Token

/-!
# Documents from tokens

The tokens of a text are read as one document, which is a node. An anchor gives a node a name that
an alias can refer to later on; a tag says its kind, with a handle for what many tags begin with.
Where a node may stand and there is none, there is an empty scalar.

The tokens may end in a fault. It counts when something beyond them is asked for, so a fault in
the structure of the tokens before it comes first.
-/

namespace DocPress.Yaml

/-- The tokens that are left, and what has been named so far. -/
structure Composer where
  tokens : List Token
  /-- The fault that ends the tokens. -/
  fault : Option Error
  /-- What the handles of tags stand for. -/
  handles : List (Text × Text) := []
  /-- The named nodes; inside a node its name stands for a loop. -/
  anchors : List (Text × Node) := []

/-- The handles that need no directive. -/
def standardHandles : List (Text × Text) := [(['!'], ['!']), (['!', '!'], tagStart)]

/-- A step that reads tokens. -/
abbrev Compose (α : Type) := StateT Composer (Except Error) α

namespace Compose

/-- The next token. -/
def peek : Compose Token := do
  match (← get).tokens with
  | t :: _ => return t
  | [] => throw ((← get).fault.getD .document)

/-- Passes a token. -/
def skip : Compose Unit := modify fun s => { s with tokens := s.tokens.drop 1 }

/-- The next token is one of these. -/
def sees (ts : List Token) : Compose Bool := do return ts.contains (← peek)

/-- Passes the next token if it is this one. -/
def accept (t : Token) : Compose Bool := do
  if (← peek) = t then
    skip
    return true
  return false

/-- Passes the next token, which has to be this one. -/
def expect (t : Token) : Compose Unit := do
  unless ← accept t do throw .document

/-! ## Properties -/

/-- An anchor, if there is one. -/
def anchor? : Compose (Option Text) := do
  match ← peek with
  | .anchor name => skip; return some name
  | _ => return none

/-- A tag as it is written, if there is one. -/
def writtenTag? : Compose (Option (Option Text × Text)) := do
  match ← peek with
  | .tag name rest => skip; return some (name, rest)
  | _ => return none

/-- The tag that is meant by a handle and what follows it. -/
def meantTag (written : Option Text × Text) : Compose Text := do
  match written.1 with
  | none => return written.2
  | some name => match (← get).handles.lookup name with
    | some start => return start ++ written.2
    | none => throw .document

/-- The anchor and the tag of a node, in either order. -/
def properties : Compose (Option Text × Option Text) := do
  let (name, written) ← match ← anchor? with
    | some name => do pure (some name, ← writtenTag?)
    | none => do
      match ← writtenTag? with
      | some written => do pure (← anchor?, some written)
      | none => pure (none, none)
  match written with
  | none => return (name, none)
  | some written => return (name, some (← meantTag written))

/-- The kind that a tag says, or the one that follows if there is none. A lone exclamation mark
says nothing. -/
def kindOf (written : Option Text) (implied : Kind) : Kind :=
  match written with
  | none => implied
  | some t => if t = ['!'] then implied else Kind.ofTag t

/-- The scalar of a text. -/
def scalarNode (written : Option Text) (text : Text) (isPlain : Bool) : Node :=
  let implied := if isPlain || written = some ['!'] then Kind.ofPlain text else .str
  .scalar (kindOf written implied) text

/-- The scalar where there is no node. -/
def emptyNode : Node := scalarNode none [] true

/-- Names a node. -/
def bind (name : Option Text) (n : Node) : Compose Unit :=
  match name with
  | none => return
  | some name => modify fun s =>
    { s with anchors := (name, n) :: s.anchors.filter (·.1 ≠ name) }

/-- A name must not be taken. -/
def checkName (name : Option Text) : Compose Unit := do
  let taken := (← get).anchors
  if name.any fun name => (taken.lookup name).isSome then throw .reference

/-- The node that a name refers to. -/
def referred (name : Text) : Compose Node := do
  match (← get).anchors.lookup name with
  | none => throw .reference
  | some n => return n

/-! ## Nodes -/

/-- The empty scalar of properties without a node. -/
def absent (name written : Option Text) : Compose Node := do
  if name.isNone && written.isNone then throw .document
  checkName name
  let n := scalarNode written [] (written.isNone)
  bind name n
  return n

mutual

/-- A node. One that is told by indentation can stand only where `inBlock` says so, and items
without an indentation of their own only where `loose` does. -/
def node (inBlock loose : Bool) : (fuel : Nat) → Compose Node
  | 0 => throw .document
  | fuel + 1 => do
    if let .alias name ← peek then
      skip
      return ← referred name
    let (name, written) ← properties
    let named (isMapping : Bool) (read : Compose Node) : Compose Node := do
      checkName name
      bind name (.loop isMapping)
      let n ← read
      bind name n
      return n
    match ← peek with
    | .item =>
      if loose then
        named false do return .sequence (kindOf written .seq) (← looseItems fuel)
      else absent name written
    | .scalar text isPlain =>
      skip
      named false do return scalarNode written text isPlain
    | .openBracket =>
      named false do
        skip
        return .sequence (kindOf written .seq) (← flowItems true fuel)
    | .openBrace =>
      named true do
        skip
        return .mapping (kindOf written .map) (← flowEntries true fuel)
    | .blockSequence =>
      if inBlock then
        named false do
          skip
          return .sequence (kindOf written .seq) (← blockItems fuel)
      else absent name written
    | .blockMapping =>
      if inBlock then
        named true do
          skip
          return .mapping (kindOf written .map) (← blockEntries fuel)
      else absent name written
    | _ => absent name written

/-- A node, unless one of these tokens is next. -/
def nodeUnless (ends : List Token) (inBlock loose : Bool) : (fuel : Nat) → Compose Node
  | 0 => throw .document
  | fuel + 1 => do
    if ← sees ends then return emptyNode
    node inBlock loose fuel

/-- The items of a sequence up to the end of its indentation. -/
def blockItems : (fuel : Nat) → Compose (List Node)
  | 0 => throw .document
  | fuel + 1 => do
    if ← accept .item then
      let n ← nodeUnless [.item, .blockEnd] true false fuel
      return n :: (← blockItems fuel)
    expect .blockEnd
    return []

/-- The items of a sequence that stands at the column of its key. -/
def looseItems : (fuel : Nat) → Compose (List Node)
  | 0 => throw .document
  | fuel + 1 => do
    if ← accept .item then
      let n ← nodeUnless [.item, .key, .value, .blockEnd] true false fuel
      return n :: (← looseItems fuel)
    return []

/-- The entries of a mapping up to the end of its indentation. -/
def blockEntries : (fuel : Nat) → Compose (List (Node × Node))
  | 0 => throw .document
  | fuel + 1 => do
    if ← accept .key then
      let ends : List Token := [.key, .value, .blockEnd]
      let k ← nodeUnless ends true true fuel
      let v ← do
        if ← accept .value then nodeUnless ends true true fuel else pure emptyNode
      return (k, v) :: (← blockEntries fuel)
    expect .blockEnd
    return []

/-- The items of a sequence in brackets. An item with a key is a mapping of one entry. -/
def flowItems (isFirst : Bool) : (fuel : Nat) → Compose (List Node)
  | 0 => throw .document
  | fuel + 1 => do
    if ← accept .closeBracket then return []
    unless isFirst do expect .comma
    if ← accept .key then
      let entry ← flowEntry .closeBracket fuel
      return .mapping .map [entry] :: (← flowItems false fuel)
    if ← accept .closeBracket then return []
    let n ← node false false fuel
    return n :: (← flowItems false fuel)

/-- The entries of a mapping in braces. An item without a key is a key without a value. -/
def flowEntries (isFirst : Bool) : (fuel : Nat) → Compose (List (Node × Node))
  | 0 => throw .document
  | fuel + 1 => do
    if ← accept .closeBrace then return []
    unless isFirst do expect .comma
    if ← accept .key then
      let entry ← flowEntry .closeBrace fuel
      return entry :: (← flowEntries false fuel)
    if ← accept .closeBrace then return []
    let k ← node false false fuel
    return (k, emptyNode) :: (← flowEntries false fuel)

/-- The key and the value of an entry in brackets of the given end. -/
def flowEntry (close : Token) : (fuel : Nat) → Compose (Node × Node)
  | 0 => throw .document
  | fuel + 1 => do
    let k ← nodeUnless [.value, .comma, close] false false fuel
    let v ← do
      if ← accept .value then nodeUnless [.comma, close] false false fuel else pure emptyNode
    return (k, v)

end

/-! ## Documents -/

/-- The directives before a document, of which `isVersioned` tells whether one was a version. -/
def directives (isVersioned : Bool) : (fuel : Nat) → Compose Unit
  | 0 => throw .document
  | fuel + 1 => do
    match ← peek with
    | .directive d =>
      skip
      match d with
      | .version major _ =>
        if isVersioned || major ≠ 1 then throw .document
        directives true fuel
      | .handle name start =>
        if ((← get).handles.lookup name).isSome then throw .document
        modify fun s => { s with handles := s.handles ++ [(name, start)] }
        directives isVersioned fuel
      | .other => directives isVersioned fuel
    | _ => return

/-- The directives and the sign that begin a document. -/
def opening (fuel : Nat) : Compose Unit := do
  modify fun s => { s with handles := [] }
  directives false fuel
  expect .documentStart
  modify fun s => { s with handles := s.handles ++ standardHandles }

/-- Passes signs that end a document. -/
def skipEnds : (fuel : Nat) → Compose Unit
  | 0 => return
  | fuel + 1 => do if ← accept .documentEnd then skipEnds fuel

/-- The node of a document that begins with a sign. -/
def signedDocument (fuel : Nat) : Compose Node := do
  opening fuel
  match ← peek with
  | .directive _ | .documentStart | .documentEnd | .streamEnd => return emptyNode
  | _ => node true false fuel

/-- The document that the tokens are, or nothing if there is none. There must be only one. -/
def document (fuel : Nat) : Compose (Option Node) := do
  let n ← match ← peek with
    | .streamEnd => return none
    | .directive _ | .documentStart => signedDocument fuel
    | _ => do
      modify fun s => { s with handles := standardHandles }
      node true false fuel
  let _ ← accept .documentEnd
  skipEnds fuel
  unless ← sees [.streamEnd] do
    opening fuel
    throw .reference
  return some n

end Compose

/-- The document that tokens are, or nothing if there is none. -/
def Node.ofTokens (tokens : List Token) (fault : Option Error) : Except Error (Option Node) :=
  ((Compose.document (4 * tokens.length + 8)).run { tokens, fault }).map (·.1)

end DocPress.Yaml
