import DocPress.Yaml.Cursor
import DocPress.Yaml.Error

/-!
# Plain scalars

A plain scalar is a row of words without quotes. It ends before a colon or a comment that a blank
sets apart, at a separator of documents, and where indentation falls back; inside brackets also at
the signs that structure them. Its lines are folded as those of quoted scalars are.
-/

namespace DocPress.Yaml

/-- The character structures what stands in brackets. -/
def isFlowSign (c : Char) : Bool :=
  c = ',' || c = '?' || c = '[' || c = ']' || c = '{' || c = '}'

/-- The text begins behind a colon that ends a word. -/
def endsAtColon (inFlow : Bool) (t : Text) : Bool :=
  atGap t || (inFlow && t.head?.any fun c => isFlowSign c && c ≠ '?')

/-- The word at the start of a text. -/
def plainWord (inFlow : Bool) : Text → Text
  | [] => []
  | c :: r =>
    if isGap c || isBreak c then []
    else if c = ':' && endsAtColon inFlow r then []
    else if inFlow && isFlowSign c then []
    else c :: plainWord inFlow r

/-- The characters that may not begin a plain scalar as they are. -/
def indicators : Text := "-?:,[]\x7b\x7d#&*!|>'\"%@".toList ++ ['`']

/-- The text begins with a plain scalar. -/
def startsPlain (inFlow : Bool) : Text → Bool
  | [] => false
  | c :: r =>
    !(isGap c || isBreak c || indicators.contains c) ||
      (!atGap r && (c = '-' || (!inFlow && (c = '?' || c = ':'))))

/-- The breaks and spaces behind the first break of a gap: the breaks, the place behind them, and
whether a separator of documents stops there. Each round passes a character. -/
def plainBreaks (breaks : Text) : (fuel : Nat) → Cursor → Text × Cursor × Bool
  | 0, c => (breaks, c, false)
  | fuel + 1, c =>
    match break? c.rest with
    | some (n, b) =>
      let c := c.advance n
      if atSeparator c.rest then (breaks ++ [b], c, true)
      else plainBreaks (breaks ++ [b]) fuel c
    | none => if c.sees ' ' then plainBreaks breaks fuel c.next else (breaks, c, false)

/-- What lies behind a word: the text that it becomes if another word follows, or nothing if none
can, the place behind it, and whether it holds a break. -/
def plainGap (c : Cursor) : Option Text × Cursor × Bool :=
  let spaces := c.rest.takeWhile (· = ' ')
  let c := c.skipSpaces
  match break? c.rest with
  | none => (if spaces.isEmpty then none else some spaces, c, false)
  | some (n, b) =>
    let c := c.advance n
    if atSeparator c.rest then (none, c, true)
    else
      let (breaks, c, stopped) := plainBreaks [] c.rest.length c
      let folded := if b ≠ '\n' then b :: breaks else if breaks.isEmpty then [' '] else breaks
      (if stopped then none else some folded, c, true)

/-- The words of a plain scalar, the place behind it, and whether the last thing passed is a gap
with a break in it. The words are indented by at least `indent` columns. -/
def plainFrom (inFlow : Bool) (indent : Nat) (gap : Text) (broken : Bool) :
    (fuel : Nat) → Cursor → Text × Cursor × Bool
  | 0, c => ([], c, broken)
  | fuel + 1, c =>
    let word := if c.sees '#' then [] else plainWord inFlow c.rest
    if word.isEmpty then ([], c, broken)
    else
      let (next, c', broken) := plainGap (c.advance word.length)
      match next with
      | none => (gap ++ word, c', broken)
      | some next =>
        if c'.sees '#' || (!inFlow && c'.column < indent) then (gap ++ word, c', broken)
        else
          let (others, c', broken) := plainFrom inFlow indent next broken fuel c'
          (gap ++ word ++ others, c', broken)

/-- The plain scalar at a place, the place behind it, and whether a line has begun since its last
word. -/
def plain (inFlow : Bool) (indent : Nat) (c : Cursor) : Text × Cursor × Bool :=
  plainFrom inFlow indent [] false (c.rest.length + 1) c

end DocPress.Yaml
