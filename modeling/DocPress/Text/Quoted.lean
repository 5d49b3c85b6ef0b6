import DocPress.Text.Basic
import DocPress.Text.Printable

/-!
# Quoted texts

Messages show a path or a tag between quotes. The quotes are single unless the text holds a
single quote and no double one. The backslash, the enclosing quote and every character without
a printed form are written as escapes; all else stands for itself.
-/

namespace DocPress.Quoted

/-- The lower-case hexadecimal numeral of `n` on `width` places. -/
def hex (width n : Nat) : Text :=
  let ds := Nat.toDigits 16 n
  List.replicate (width - ds.length) '0' ++ ds

/-- One character inside quotes of the given kind. -/
def escape (q c : Char) : Text :=
  if c = q || c = '\\' then ['\\', c]
  else if c = '\n' then ['\\', 'n']
  else if c = '\r' then ['\\', 'r']
  else if c = '\t' then ['\\', 't']
  else if Printable.isPrintable c then [c]
  else if c.toNat < 0x100 then '\\' :: 'x' :: hex 2 c.toNat
  else if c.toNat < 0x10000 then '\\' :: 'u' :: hex 4 c.toNat
  else '\\' :: 'U' :: hex 8 c.toNat

/-- The quote that encloses the text. -/
def mark (t : Text) : Char := if t.contains '\'' && !t.contains '"' then '"' else '\''

end DocPress.Quoted

namespace DocPress.Text

/-- The text between quotes. -/
def quoted (t : Text) : Text :=
  let q := Quoted.mark t
  q :: t.flatMap (Quoted.escape q) ++ [q]

end DocPress.Text
