import DocPress.Yaml.Character

/-!
# Cursors

A cursor stands before the rest of a text and knows how far it has come: how many characters it
has passed, in how many lines, and its column, on which the indentation of YAML is measured. A
byte order mark takes no column.
-/

namespace DocPress.Yaml

structure Cursor where
  rest : Text
  index : Nat := 0
  line : Nat := 0
  column : Nat := 0
deriving Repr, DecidableEq

namespace Cursor

/-- The cursor behind the next character. The carriage return of a pair ends no line. -/
def next (c : Cursor) : Cursor :=
  match c.rest with
  | [] => c
  | x :: r =>
    if isBreak x && !(x = '\r' && r.head? = some '\n') then
      { rest := r, index := c.index + 1, line := c.line + 1, column := 0 }
    else
      { c with
        rest := r
        index := c.index + 1
        column := if x.toNat = 0xFEFF then c.column else c.column + 1 }

/-- The cursor behind a number of characters. -/
def advance : Nat → Cursor → Cursor
  | 0, c => c
  | n + 1, c => advance n c.next

/-- The cursor at what is left of its text. -/
def jump (c : Cursor) (rest : Text) : Cursor := c.advance (c.rest.length - rest.length)

/-- The next character. -/
def peek (c : Cursor) : Option Char := c.rest.head?

/-- The next character is this one. -/
def sees (c : Cursor) (x : Char) : Bool := c.rest.head? = some x

/-- The cursor behind spaces. -/
def skipSpaces (c : Cursor) : Cursor := c.jump (c.rest.dropWhile (· = ' '))

/-- The cursor at the end of the line. -/
def skipLine (c : Cursor) : Cursor := c.jump (c.rest.dropWhile (!isBreak ·))

/-- The cursor behind a break, if there is one. -/
def skipBreak (c : Cursor) : Cursor :=
  match break? c.rest with
  | some (n, _) => c.advance n
  | none => c

end Cursor
end DocPress.Yaml
