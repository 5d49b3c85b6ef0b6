import DocPress.Yaml.PlainScalar
import DocPress.Yaml.Property

/-!
# Scanning

A text is cut into tokens from left to right. Outside of brackets the columns at which
collections begin are kept on a stack: a deeper column opens a collection and one that lies less
deep closes all that are deeper.

That something is a key is seen only at the colon behind it. Where a key may begin, the number
that its first token has is noted, and at the colon the marks of a key, and of a mapping if one
begins there, are put before that token. A key has to stand on one line and within 1024
characters. Where nothing but a key can stand, its colon must not be missing.

Tokens that come before the first place where a mark may still be put are settled. If the text is
faulty, `scan` yields the tokens that were settled before the fault was found.
-/

namespace DocPress.Yaml

/-- A place at which a key may have begun. -/
structure KeyPlace where
  /-- The number of tokens before the key. -/
  number : Nat
  line : Nat
  index : Nat
  column : Nat
  /-- Nothing but a key can stand here. -/
  required : Bool
deriving Repr, DecidableEq

/-- How far a text is scanned. -/
structure Scanner where
  cursor : Cursor
  tokens : List Token := []
  /-- The number of brackets opened less the number of those closed. -/
  flow : Int := 0
  /-- The columns of the open block collections, the deepest first. -/
  columns : List Nat := []
  /-- A key may begin at the next token. -/
  mayKey : Bool := true
  /-- The places at which keys may have begun, by the number of brackets that were open. -/
  keys : List (Int × KeyPlace) := []
  finished : Bool := false
deriving Repr, DecidableEq

namespace Scanner

/-- The next token stands in brackets. -/
def inFlow (s : Scanner) : Bool := s.flow ≠ 0

/-- The scanner with a token more. -/
def emit (t : Token) (s : Scanner) : Scanner := { s with tokens := s.tokens ++ [t] }

/-- The scanner past a number of characters. -/
def advance (n : Nat) (s : Scanner) : Scanner := { s with cursor := s.cursor.advance n }

/-! ## Keys -/

/-- The place is too far back to be that of a key. -/
def isStale (s : Scanner) (k : KeyPlace) : Bool :=
  k.line ≠ s.cursor.line || k.index + 1024 < s.cursor.index

/-- Forgets the places that are too far back. -/
def dropStale (s : Scanner) : Except Error Scanner :=
  if s.keys.any fun k => k.2.required && s.isStale k.2 then .error .token
  else .ok { s with keys := s.keys.filter fun k => !s.isStale k.2 }

/-- Forgets the place of a key inside the brackets that are open. -/
def dropKey (s : Scanner) : Except Error Scanner :=
  match s.keys.lookup s.flow with
  | some k => if k.required then .error .token
    else .ok { s with keys := s.keys.filter (·.1 ≠ s.flow) }
  | none => .ok s

/-- Notes the place at which a key may begin. -/
def noteKey (s : Scanner) : Except Error Scanner :=
  if !s.mayKey then .ok s
  else do
    let required := !s.inFlow && s.columns.head? = some s.cursor.column
    let s ← s.dropKey
    return { s with keys := s.keys ++
      [(s.flow, { number := s.tokens.length, line := s.cursor.line, index := s.cursor.index
                  column := s.cursor.column, required })] }

/-- The number of tokens before which no mark can be put any more. -/
def settled (s : Scanner) : Nat :=
  s.keys.foldl (fun n k => min n k.2.number) s.tokens.length

/-! ## Indentation -/

/-- Closes the collections that are deeper than a column, or all of them. -/
def unwind (column : Option Nat) (s : Scanner) : Scanner :=
  if s.inFlow then s
  else
    let deeper := s.columns.takeWhile fun c => column.all (· < c)
    { s with
      columns := s.columns.drop deeper.length
      tokens := s.tokens ++ deeper.map fun _ => .blockEnd }

/-- A collection begins at the column if that is deeper than those that are open. -/
def isDeeper (column : Nat) (s : Scanner) : Bool := s.columns.head?.all (· < column)

/-- Opens a collection at the place of the scanner, if one begins there. -/
def openAt (t : Token) (s : Scanner) : Scanner :=
  if s.inFlow || !s.isDeeper s.cursor.column then s
  else { s.emit t with columns := s.cursor.column :: s.columns }

/-! ## Tokens -/

/-- Ends everything that is open, before a token that belongs to no collection. -/
def leaveAll (s : Scanner) : Except Error Scanner :=
  do return { ← (s.unwind none).dropKey with mayKey := false }

/-- The end of the text. -/
def fetchEnd (s : Scanner) : Except Error Scanner :=
  do return { (← s.leaveAll).emit .streamEnd with keys := [], finished := true }

def fetchDirective (s : Scanner) : Except Error Scanner := do
  let s ← s.leaveAll
  let (d, cursor) ← directive s.cursor
  return { s.emit (.directive d) with cursor }

/-- Three signs that begin or end a document. -/
def fetchSeparator (t : Token) (s : Scanner) : Except Error Scanner :=
  do return ((← s.leaveAll).advance 3).emit t

def fetchOpening (t : Token) (s : Scanner) : Except Error Scanner := do
  let s ← s.noteKey
  return { (s.advance 1).emit t with flow := s.flow + 1, mayKey := true }

def fetchClosing (t : Token) (s : Scanner) : Except Error Scanner := do
  let s ← s.dropKey
  return { (s.advance 1).emit t with flow := s.flow - 1, mayKey := false }

def fetchComma (s : Scanner) : Except Error Scanner :=
  do return { ((← s.dropKey).advance 1).emit .comma with mayKey := true }

/-- A hyphen before an item. -/
def fetchItem (s : Scanner) : Except Error Scanner := do
  if !s.inFlow && !s.mayKey then throw .token
  let s ← (s.openAt .blockSequence).dropKey
  return { (s.advance 1).emit .item with mayKey := true }

/-- A question mark before a key. -/
def fetchKey (s : Scanner) : Except Error Scanner := do
  if !s.inFlow && !s.mayKey then throw .token
  let s ← (s.openAt .blockMapping).dropKey
  return { (s.advance 1).emit .key with mayKey := !s.inFlow }

/-- Puts the marks of a key, and of a mapping that begins with it, where the key begins. -/
def markKey (k : KeyPlace) (s : Scanner) : Scanner :=
  let opens := !s.inFlow && s.isDeeper k.column
  let marks := if opens then [.blockMapping, .key] else [.key]
  { s with
    tokens := s.tokens.take k.number ++ marks ++ s.tokens.drop k.number
    columns := if opens then k.column :: s.columns else s.columns
    keys := s.keys.filter (·.1 ≠ s.flow)
    mayKey := false }

/-- A colon before a value. -/
def fetchValue (s : Scanner) : Except Error Scanner :=
  match s.keys.lookup s.flow with
  | some k => .ok (((s.markKey k).advance 1).emit .value)
  | none => do
    if !s.inFlow && !s.mayKey then throw .token
    let s ← (s.openAt .blockMapping).dropKey
    return { (s.advance 1).emit .value with mayKey := !s.inFlow }

/-- Something that may begin a key and after which none can begin: `read` yields its token and the
place behind it. -/
def fetchWith (read : Cursor → Except Error (Token × Cursor)) (s : Scanner) :
    Except Error Scanner := do
  let s ← s.noteKey
  let (t, cursor) ← read s.cursor
  return { s.emit t with cursor, mayKey := false }

def readAlias (c : Cursor) : Except Error (Token × Cursor) :=
  do let (name, c) ← anchorName c.next; return (.alias name, c)

def readAnchor (c : Cursor) : Except Error (Token × Cursor) :=
  do let (name, c) ← anchorName c.next; return (.anchor name, c)

def readTag (c : Cursor) : Except Error (Token × Cursor) :=
  do let (name, word, c) ← tag c; return (.tag name word, c)

def readQuoted (double : Bool) (c : Cursor) : Except Error (Token × Cursor) := do
  let (t, rest) ← quoted double .none 0 c.next.rest
  return (.scalar t false, c.jump rest)

def fetchBlock (folded : Bool) (s : Scanner) : Except Error Scanner := do
  let s ← s.dropKey
  let (t, cursor) ← block folded (s.columns.head?.elim 0 (· + 1)) s.cursor.next
  return { s.emit (.scalar t false) with cursor, mayKey := true }

def fetchPlain (s : Scanner) : Except Error Scanner := do
  let s ← s.noteKey
  let (t, cursor, broken) := plain s.inFlow (s.columns.head?.elim 0 (· + 1)) s.cursor
  return { s.emit (.scalar t true) with cursor, mayKey := broken }

/-- The token at the place of the scanner, by its first characters. -/
def fetchHere (s : Scanner) : Except Error Scanner :=
  match s.cursor.rest with
  | [] => s.fetchEnd
  | c :: r =>
    if c = '%' && s.cursor.column = 0 then s.fetchDirective
    else if s.cursor.column = 0 && atSeparator (c :: r) then
      s.fetchSeparator (if c = '-' then .documentStart else .documentEnd)
    else if c = '[' then s.fetchOpening .openBracket
    else if c = '{' then s.fetchOpening .openBrace
    else if c = ']' then s.fetchClosing .closeBracket
    else if c = '}' then s.fetchClosing .closeBrace
    else if c = ',' then s.fetchComma
    else if c = '-' && atGap r then s.fetchItem
    else if c = '?' && (s.inFlow || atGap r) then s.fetchKey
    else if c = ':' && (s.inFlow || atGap r) then s.fetchValue
    else if c = '*' then s.fetchWith readAlias
    else if c = '&' then s.fetchWith readAnchor
    else if c = '!' then s.fetchWith readTag
    else if c = '|' && !s.inFlow then s.fetchBlock false
    else if c = '>' && !s.inFlow then s.fetchBlock true
    else if c = '\'' then s.fetchWith (readQuoted false)
    else if c = '"' then s.fetchWith (readQuoted true)
    else if startsPlain s.inFlow (c :: r) then s.fetchPlain
    else .error .token

/-! ## Between tokens -/

/-- The number of characters before the next token, and whether a line ends among them. -/
def layout (inComment : Bool) : Text → Nat × Bool
  | [] => (0, false)
  | c :: r =>
    if isBreak c then ((layout false r).1 + 1, true)
    else if inComment || c = ' ' || c = '#' then
      let (n, broken) := layout (inComment || c = '#') r
      (n + 1, broken)
    else (0, false)

/-- Goes to the next token. Outside of brackets a new line may begin with a key. -/
def skipLayout (s : Scanner) : Scanner :=
  let start := if s.cursor.index = 0 && (s.cursor.peek.any (·.toNat = 0xFEFF)) then s.advance 1
    else s
  let (n, broken) := layout false start.cursor.rest
  { start.advance n with mayKey := start.mayKey || (broken && !start.inFlow) }

/-- Scans the next token, with the marks and ends that go before it. -/
def fetch (s : Scanner) : Except Error Scanner := do
  let s ← s.skipLayout.dropStale
  (s.unwind (some s.cursor.column)).fetchHere

/-! ## The whole text -/

/-- Scans on; the first `count` tokens are settled. Every token but the last takes a character, so
the length of what is left bounds the number of rounds. -/
def run (count : Nat) : (fuel : Nat) → Scanner → List Token × Option Error
  | 0, s => (s.tokens, none)
  | fuel + 1, s =>
    if s.finished then (s.tokens, none)
    else match s.fetch with
      | .error e => (s.tokens.take count, some e)
      | .ok s => match s.dropStale with
        | .error e => (s.tokens.take count, some e)
        | .ok s => run s.settled fuel s

end Scanner

/-- The tokens of a text up to the first fault, and the fault. -/
def scan (t : Text) : List Token × Option Error :=
  Scanner.run 0 (t.length + 2) { cursor := { rest := t } }

end DocPress.Yaml
