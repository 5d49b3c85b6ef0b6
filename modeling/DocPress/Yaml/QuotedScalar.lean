import DocPress.Yaml.Character
import DocPress.Yaml.Error

/-!
# Quoted scalars

A scalar in quotes ends at the next quote of its sort. In single quotes a single quote is written
twice and nothing else is special; in double quotes a backslash begins an escape. Lines are
folded in both: a break with the blanks around it is a space, and of several breaks the first
vanishes.

What lies between two words is gathered in a `Gap` and becomes text when the next word begins.
-/

namespace DocPress.Yaml

/-- What has been passed since the last word. -/
inductive Gap where
  /-- Blanks, which count as they stand. -/
  | blanks (t : Text)
  /-- A break that folds, the breaks after it, and whether a line has just begun. -/
  | breaks (first : Option Char) (others : Text) (fresh : Bool)
deriving Repr, DecidableEq

namespace Gap

/-- Nothing at all. -/
def none : Gap := blanks []

/-- The text that the gap becomes. -/
def text : Gap → Text
  | blanks t => t
  | breaks .none others _ => others
  | breaks (some c) others _ =>
    if c ≠ '\n' then c :: others else if others.isEmpty then [' '] else others

/-- The gap with one more blank. Blanks around breaks do not count. -/
def addBlank (c : Char) : Gap → Gap
  | blanks t => blanks (t ++ [c])
  | breaks first others _ => breaks first others false

/-- The gap with one more break. -/
def addBreak (c : Char) : Gap → Gap
  | blanks _ => breaks (some c) [] true
  | breaks first others _ => breaks first (others ++ [c]) true

/-- A line has just begun. -/
def isFresh : Gap → Bool
  | blanks _ => false
  | breaks _ _ fresh => fresh

end Gap

/-! ## Escapes -/

/-- The character that a letter behind a backslash stands for. -/
def escaped? : Char → Option Char
  | '0' => some (Char.ofNat 0x00)
  | 'a' => some (Char.ofNat 0x07)
  | 'b' => some (Char.ofNat 0x08)
  | 't' | '\t' => some '\t'
  | 'n' => some '\n'
  | 'v' => some (Char.ofNat 0x0B)
  | 'f' => some (Char.ofNat 0x0C)
  | 'r' => some '\r'
  | 'e' => some (Char.ofNat 0x1B)
  | ' ' => some ' '
  | '"' => some '"'
  | '\\' => some '\\'
  | '/' => some '/'
  | 'N' => some (Char.ofNat 0x85)
  | '_' => some (Char.ofNat 0xA0)
  | 'L' => some (Char.ofNat 0x2028)
  | 'P' => some (Char.ofNat 0x2029)
  | _ => none

/-- The number of hexadecimal digits behind a letter. -/
def codeLength? : Char → Option Nat
  | 'x' => some 2
  | 'u' => some 4
  | 'U' => some 8
  | _ => none

def isHexDigit (c : Char) : Bool :=
  c.isDigit || ('a' ≤ c && c ≤ 'f') || ('A' ≤ c && c ≤ 'F')

/-- The character of a code point. A half of a pair stands for no character, and a replacement
takes its place. -/
def codePoint (n : Nat) : Except Error Char :=
  if n ≥ 0x80000000 then .error (.range .hugeCodePoint)
  else if n > 0x10FFFF then .error (.range .codePoint)
  else if 0xD800 ≤ n && n ≤ 0xDFFF then .ok (Char.ofNat 0xFFFD)
  else .ok (Char.ofNat n)

/-- What stands behind a backslash, and the number of characters of it. -/
inductive Escape where
  | char (c : Char) (length : Nat)
  /-- A break that does not count. -/
  | lineBreak (length : Nat)

/-- The escape behind a backslash. -/
def escape (t : Text) : Except Error Escape :=
  match break? t with
  | some (n, _) => .ok (.lineBreak n)
  | none => match t with
    | [] => .error .token
    | c :: r => match escaped? c, codeLength? c with
      | some d, _ => .ok (.char d 1)
      | none, some n =>
        let ds := r.take n
        if ds.length = n && ds.all isHexDigit then
          (codePoint (Numeral.value 16 ds)).map (.char · (n + 1))
        else .error .token
      | none, none => .error .token

/-! ## Scalars -/

/-- A scalar behind its opening quote: its text, and what follows the closing quote. The first
`skip` characters are read already. A separator of documents must not begin a line. -/
def quoted (double : Bool) (gap : Gap) (skip : Nat) : Text → Except Error (Text × Text)
  | [] => .error .token
  | c :: r =>
    let add (t : Text) (rest : Except Error (Text × Text)) : Except Error (Text × Text) :=
      rest.map fun (value, after) => (gap.text ++ t ++ value, after)
    match skip with
    | k + 1 => quoted double gap k r
    | 0 =>
      if gap.isFresh && atSeparator (c :: r) then .error .token
      else if isGap c then quoted double (gap.addBlank c) 0 r
      else match break? (c :: r) with
        | some (n, b) => quoted double (gap.addBreak b) (n - 1) r
        | none =>
          if double then
            if c = '"' then .ok (gap.text, r)
            else if c = '\\' then
              match escape r with
              | .error e => .error e
              | .ok (.char d n) => add [d] (quoted double .none n r)
              | .ok (.lineBreak n) => add [] (quoted double (.breaks none [] true) n r)
            else add [c] (quoted double .none 0 r)
          else if c = '\'' then
            match r with
            | '\'' :: _ => add [c] (quoted double .none 1 r)
            | _ => .ok (gap.text, r)
          else add [c] (quoted double .none 0 r)

end DocPress.Yaml
