import DocPress.Text.Basic
import DocPress.Text.Ranges

/-!
# Blanks

Blanks are the separators of Unicode together with the controls that set lines, pages and
fields apart: tab to carriage return, U+001C to U+001F, the next-line control, the no-break
spaces, the typographic spaces, and the line and paragraph separators. A zero-width space is
no blank.
-/

namespace DocPress

/-- The blanks, 29 characters in all. -/
def blanks : List (Nat × Nat) :=
  [(0x09, 0x0D), (0x1C, 0x20), (0x85, 0x85), (0xA0, 0xA0), (0x1680, 0x1680), (0x2000, 0x200A),
   (0x2028, 0x2029), (0x202F, 0x202F), (0x205F, 0x205F), (0x3000, 0x3000)]

/-- The character is a blank. -/
def isBlank (c : Char) : Bool := Ranges.has blanks c.toNat

theorem isBlank_of_isWhitespace {c : Char} (h : c.isWhitespace = true) : isBlank c = true := by
  simp [Char.isWhitespace] at h
  rcases h with ((h | h) | h) | h <;> subst h <;> decide

namespace Text

/-- The text without the blanks at its ends. -/
def strip (t : Text) : Text := trim isBlank t

/-- The text without the blanks at its end. -/
def stripEnd (t : Text) : Text := trimEnd isBlank t

/-- The text without the blanks at its start. -/
def stripStart (t : Text) : Text := trimStart isBlank t

/-- There is nothing but blanks in the text. -/
def isBlankText (t : Text) : Bool := t.all isBlank

/-- The non-empty pieces between the separators, each stripped. -/
def fields (sep : Char) (t : Text) : List Text :=
  ((splitOn sep t).map strip).filter (!·.isEmpty)

end Text
end DocPress
