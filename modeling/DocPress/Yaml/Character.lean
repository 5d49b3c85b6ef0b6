import DocPress.Text.Basic
import DocPress.Text.Ranges

/-!
# Characters of YAML

A line ends at a line feed, a carriage return, the next-line control, or a line or paragraph
separator. Spaces and tabs are blanks. Of the controls, YAML admits only those.
-/

namespace DocPress.Yaml

/-- The character ends a line. -/
def isBreak (c : Char) : Bool :=
  c = '\n' || c = '\r' || c.toNat = 0x85 || c.toNat = 0x2028 || c.toNat = 0x2029

/-- The character is a space or a tab. -/
def isGap (c : Char) : Bool := c = ' ' || c = '\t'

/-- The characters that YAML admits. -/
def admitted : List (Nat × Nat) :=
  [(0x09, 0x0A), (0x0D, 0x0D), (0x20, 0x7E), (0x85, 0x85), (0xA0, 0xD7FF), (0xE000, 0xFFFD),
   (0x10000, 0x10FFFF)]

/-- YAML admits the character. -/
def isAdmitted (c : Char) : Bool := Ranges.has admitted c.toNat

/-- The character may be part of the name of an anchor, a directive or a handle. -/
def isNameChar (c : Char) : Bool := c.isAlphanum || c = '-' || c = '_'

/-- The text is at its end, at a break or at a space. -/
def atSpace (t : Text) : Bool := t.head?.all fun c => c = ' ' || isBreak c

/-- The text is at its end, at a break or at a blank. -/
def atGap (t : Text) : Bool := t.head?.all fun c => isGap c || isBreak c

/-- The text is at its end or at a break. -/
def atLineEnd (t : Text) : Bool := t.head?.all isBreak

/-- Three hyphens or three dots stand alone at the start of the text. Where a line begins so, a
document begins or ends. -/
def atSeparator : Text → Bool
  | a :: b :: c :: t => a = b && b = c && (a = '-' || a = '.') && atGap t
  | _ => false

/-- The number of characters of a break at the start of a text, and what the break counts as:
breaks of the older kinds are line feeds. -/
def break? : Text → Option (Nat × Char)
  | '\r' :: '\n' :: _ => some (2, '\n')
  | c :: _ =>
    if c = '\n' || c = '\r' || c.toNat = 0x85 then some (1, '\n')
    else if isBreak c then some (1, c)
    else none
  | [] => none

end DocPress.Yaml
