import DocPress.Text.Basic

/-!
# Regular expressions

The expressions by which source files are chosen, as trees: characters, sets, anchors, groups,
references to groups, repetitions, alternatives, and conditions on what stands before or behind.

Characters are code points, since an expression can name one that no text holds.
-/

namespace DocPress.Regex

/-- What an option may change about the meaning of an expression. -/
structure Flags where
  ignoreCase : Bool := false
  multiline : Bool := false
  dotAll : Bool := false
  verbose : Bool := false
  /-- Classes and letter case know ASCII alone. -/
  ascii : Bool := false
  /-- Classes and letter case know all of Unicode, and it is said so. -/
  unicode : Bool := false
  /-- Repetitions are refused. -/
  template : Bool := false
deriving Repr, DecidableEq

namespace Flags

/-- The flags set in either. -/
def union (f g : Flags) : Flags :=
  { ignoreCase := f.ignoreCase || g.ignoreCase
    multiline := f.multiline || g.multiline
    dotAll := f.dotAll || g.dotAll
    verbose := f.verbose || g.verbose
    ascii := f.ascii || g.ascii
    unicode := f.unicode || g.unicode
    template := f.template || g.template }

/-- The flags of the first that are not in the second. -/
def minus (f g : Flags) : Flags :=
  { ignoreCase := f.ignoreCase && !g.ignoreCase
    multiline := f.multiline && !g.multiline
    dotAll := f.dotAll && !g.dotAll
    verbose := f.verbose && !g.verbose
    ascii := f.ascii && !g.ascii
    unicode := f.unicode && !g.unicode
    template := f.template && !g.template }

/-- The flags set in both. -/
def inter (f g : Flags) : Flags := f.minus (f.minus g)

/-- No flag is set. -/
def isNone (f : Flags) : Bool := f = {}

/-- The flags inside a group that turns some on and some off. Choosing what classes know replaces
the choice made outside. -/
def inGroup (f on off : Flags) : Flags :=
  let f := if on.ascii || on.unicode then { f with ascii := false, unicode := false } else f
  (f.union on).minus off

end Flags

/-- The classes that have an escape of their own. -/
inductive Kind where
  | digit
  | space
  | word
deriving Repr, DecidableEq

/-- A member of a set. -/
inductive Member where
  | point (n : Nat)
  | range (lo hi : Nat)
  | kind (k : Kind) (negated : Bool)
deriving Repr, DecidableEq

/-- A condition on a place between characters. -/
inductive Anchor where
  | lineStart
  | lineEnd
  | textStart
  | textEnd
  | boundary
  | noBoundary
deriving Repr, DecidableEq

/-- How a repetition chooses its length. -/
inductive Greed where
  /-- The longest way first. -/
  | greedy
  /-- The shortest way first. -/
  | lazy
  /-- The longest way only. -/
  | possessive
deriving Repr, DecidableEq

/-- A part of an expression; a list of nodes is matched one after the other. -/
inductive Node where
  | point (n : Nat)
  | any
  | set (negated : Bool) (members : List Member)
  | anchor (a : Anchor)
  /-- What a group matched. -/
  | reference (group : Nat)
  /-- The first branch if a group matched, else the second. -/
  | ifMatched (group : Nat) (yes no : List Node)
  | branch (alternatives : List (List Node))
  /-- No bound if `max` is missing. -/
  | repeated (greed : Greed) (min : Nat) (max : Option Nat) (body : List Node)
  | group (number : Option Nat) (on off : Flags) (body : List Node)
  /-- Matched in the first way or not at all. -/
  | atomic (body : List Node)
  /-- What follows matches, or does not. -/
  | ahead (negated : Bool) (body : List Node)
  /-- What stands before matches, or does not. -/
  | behind (negated : Bool) (body : List Node)

/-- A regular expression: its nodes, the flags that hold throughout, the number of its groups,
and the least and the greatest width of each. -/
structure Expression where
  nodes : List Node
  flags : Flags
  widths : List (Nat × Nat)

end DocPress.Regex
