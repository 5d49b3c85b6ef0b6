import DocPress.Text.LowerCase

/-!
# Letter case in expressions

Where case is ignored, two characters are the same if they have the same lower-case form, or
lower-case forms with a common capital. `fold` picks one character for all that are the same.
-/

namespace DocPress.Regex.LetterCase

/-- The lower-case form of a code point. -/
def lower (n : Nat) : Nat :=
  if n = 0x130 then 0x69
  else (LowerCase.runs.findSome? (·.image? n)).getD n

/-- Lower-case letters that share a capital. -/
def kin : List (List Nat) :=
  [[0x69, 0x131], [0x73, 0x17F], [0xB5, 0x3BC], [0x345, 0x3B9, 0x1FBE], [0x390, 0x1FD3],
   [0x3B0, 0x1FE3], [0x3B2, 0x3D0], [0x3B5, 0x3F5], [0x3B8, 0x3D1], [0x3BA, 0x3F0],
   [0x3C0, 0x3D6], [0x3C1, 0x3F1], [0x3C2, 0x3C3], [0x3C6, 0x3D5], [0x432, 0x1C80],
   [0x434, 0x1C81], [0x43E, 0x1C82], [0x441, 0x1C83], [0x442, 0x1C84, 0x1C85], [0x44A, 0x1C86],
   [0x463, 0x1C87], [0x1C88, 0xA64B], [0x1E61, 0x1E9B], [0xFB05, 0xFB06]]

/-- The lower-case letters that are the same as this one. -/
def kinOf (n : Nat) : List Nat := (kin.find? (·.contains n)).getD [n]

/-- The character that stands for all that are the same. -/
def fold (n : Nat) : Nat :=
  let l := lower n
  ((kinOf l).head?).getD l

/-- Where a run takes a code point from. -/
def source? (r : LowerCase.Run) (n : Nat) : Option Nat :=
  if r.target ≤ n && (n - r.target) % r.step == 0 && r.first + (n - r.target) ≤ r.last then
    some (r.first + (n - r.target))
  else none

/-- All characters that are the same as this one. -/
def variants (n : Nat) : List Nat :=
  (kinOf (lower n)).flatMap fun l =>
    l :: (if l = 0x69 then [0x130] else []) ++ LowerCase.runs.filterMap (source? · l)

/-- The lower-case form of an ASCII letter. -/
def lowerAscii (n : Nat) : Nat := if 0x41 ≤ n && n ≤ 0x5A then n + 32 else n

/-- All characters that are the same as this one among ASCII letters. -/
def variantsAscii (n : Nat) : List Nat :=
  let l := lowerAscii n
  if 0x61 ≤ l && l ≤ 0x7A then [l, l - 32] else [l]

end DocPress.Regex.LetterCase
