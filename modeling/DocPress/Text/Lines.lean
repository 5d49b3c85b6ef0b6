import DocPress.Text.Basic
import DocPress.Text.Ranges

/-!
# Lines

A line ends at any of ten line breaks; a carriage return with a line feed after it is one break.
A text that ends with a break has no empty line after it, and the empty text has no lines.
-/

namespace DocPress

/-- Line feed, vertical tab, form feed, carriage return, U+001C to U+001E, the next-line
control, and the line and paragraph separators. -/
def lineBreaks : List (Nat × Nat) :=
  [(0x0A, 0x0D), (0x1C, 0x1E), (0x85, 0x85), (0x2028, 0x2029)]

/-- The character ends a line. -/
def isLineBreak (c : Char) : Bool := Ranges.has lineBreaks c.toNat

namespace Text

/-- The lines of a text, without their breaks. -/
def lines : Text → List Text
  | [] => []
  | '\r' :: '\n' :: cs => [] :: lines cs
  | c :: cs =>
    if isLineBreak c then [] :: lines cs
    else match lines cs with
      | [] => [[c]]
      | l :: ls => (c :: l) :: ls

/-- The text with every carriage return, alone or before a line feed, turned into a line feed. -/
def unifyBreaks : Text → Text
  | [] => []
  | '\r' :: '\n' :: cs => '\n' :: unifyBreaks cs
  | c :: cs => (if c = '\r' then '\n' else c) :: unifyBreaks cs

end Text
end DocPress
