import DocPress.Yaml.Cursor
import DocPress.Yaml.Error

/-!
# Block scalars

A block scalar is made of the indented lines below a bar or an angle bracket. Behind a bar lines
stay as they are; behind an angle bracket a break between two lines that begin with no blank
folds. Signs behind the first one tell how deep the lines are indented and what becomes of the
breaks at the end: without a sign one is kept, with a hyphen none, with a plus all.
-/

namespace DocPress.Yaml

/-- What becomes of the breaks at the end of a block scalar. -/
inductive Chomp where
  | clip
  | strip
  | keep
deriving Repr, DecidableEq

/-- A sign that tells what becomes of the breaks at the end. -/
def chomp? : Char → Option Chomp
  | '-' => some .strip
  | '+' => some .keep
  | _ => none

/-- A digit that tells the indentation. -/
def increment? (c : Char) : Option Nat := if c.isDigit then some (c.toNat - 48) else none

/-- The signs at the start of a text, in either order: what they say, and what follows them. -/
def blockSigns (t : Text) : Chomp × Option Nat × Text :=
  match t with
  | [] => (.clip, none, [])
  | a :: r =>
    match chomp? a, increment? a with
    | some chomp, _ => match r.head?.bind increment? with
      | some n => (chomp, some n, r.drop 1)
      | none => (chomp, none, r)
    | none, some n => match r.head?.bind chomp? with
      | some chomp => (chomp, some n, r.drop 1)
      | none => (.clip, some n, r)
    | none, none => (.clip, none, t)

/-- The cursor behind the rest of a line, which holds nothing but spaces and a comment. -/
def skipEmptyLine (c : Cursor) : Except Error Cursor :=
  let c := c.skipSpaces
  let c := if c.sees '#' then c.skipLine else c
  if atLineEnd c.rest then .ok c.skipBreak else .error .token

/-- The breaks of the empty lines at the start, and the column of the deepest place passed. -/
def leadingBreaks (breaks : Text) (deepest : Nat) : (fuel : Nat) → Cursor → Text × Nat × Cursor
  | 0, c => (breaks, deepest, c)
  | fuel + 1, c =>
    match break? c.rest with
    | some (n, b) => leadingBreaks (breaks ++ [b]) deepest fuel (c.advance n)
    | none =>
      if c.sees ' ' then leadingBreaks breaks (max deepest c.next.column) fuel c.next
      else (breaks, deepest, c)

/-- The cursor behind the spaces that indent a line. -/
def skipIndent (indent : Nat) : (fuel : Nat) → Cursor → Cursor
  | 0, c => c
  | fuel + 1, c => if c.column < indent && c.sees ' ' then skipIndent indent fuel c.next else c

/-- The breaks of empty lines, and the place where the next line with text begins. -/
def emptyLines (indent : Nat) (breaks : Text) : (fuel : Nat) → Cursor → Text × Cursor
  | 0, c => (breaks, c)
  | fuel + 1, c =>
    let c := skipIndent indent indent c
    match break? c.rest with
    | some (n, b) => emptyLines indent (breaks ++ [b]) fuel (c.advance n)
    | none => (breaks, c)

/-- The break behind a line as a text; there is none at the end. -/
def breakText (t : Text) : Text := ((break? t).map fun b => [b.2]).getD []

/-- A line begins at the indentation. -/
def atIndent (indent : Nat) (c : Cursor) : Bool := c.column = indent && !c.rest.isEmpty

/-- The lines of a block scalar from a place on, where `breaks` are those of the empty lines
before it. Yields the text without the breaks at its end, the last break and the breaks behind
it, and the place behind them. -/
def blockLines (folded : Bool) (indent : Nat) (breaks : Text) :
    (fuel : Nat) → Cursor → Text × Text × Text × Cursor
  | 0, c => ([], [], breaks, c)
  | fuel + 1, c =>
    if !atIndent indent c then ([], [], breaks, c)
    else
      let startsBlank := c.rest.head?.any isGap
      let line := c.rest.takeWhile (!isBreak ·)
      let c := c.skipLine
      let last := breakText c.rest
      let c := c.skipBreak
      let (between, c) := emptyLines indent [] (c.rest.length + 1) c
      if !atIndent indent c then (breaks ++ line, last, between, c)
      else
        let folds := folded && last = ['\n'] && !startsBlank && !c.rest.head?.any isGap
        let join := if !folds then last else if between.isEmpty then [' '] else []
        let (others, last, after, c) := blockLines folded indent between fuel c
        (breaks ++ line ++ join ++ others, last, after, c)

/-- The block scalar behind its sign, where lines around it are indented by less than `least`
columns. -/
def block (folded : Bool) (least : Nat) (c : Cursor) : Except Error (Text × Cursor) := do
  let (chomp, increment, rest) := blockSigns c.rest
  if increment = some 0 || !atSpace rest then throw .token
  let c ← skipEmptyLine (c.jump rest)
  let least := max least 1
  let (breaks, indent, c) := match increment with
    | some n =>
      let indent := least + n - 1
      let (breaks, c) := emptyLines indent [] (c.rest.length + 1) c
      (breaks, indent, c)
    | none =>
      let (breaks, deepest, c) := leadingBreaks [] 0 (c.rest.length + 1) c
      (breaks, max least deepest, c)
  let (text, last, after, c) := blockLines folded indent breaks (c.rest.length + 1) c
  let ending := match chomp with
    | .clip => last
    | .strip => []
    | .keep => last ++ after
  return (text ++ ending, c)

end DocPress.Yaml
