import DocPress.Text.Blank
import DocPress.Text.Category

/-!
# Numerals

A numeral is a row of digits of a base, in which single low lines may stand between digits. The
decimal digits of all scripts count as digits, and letters as those above nine.
-/

namespace DocPress.Numeral

/-- The value of a decimal digit of any script. -/
def decimalValue? (c : Char) : Option Nat :=
  (Category.decimalDigits.find? fun r => r.1 ≤ c.toNat && c.toNat ≤ r.2).map fun r =>
    (c.toNat - r.1) % 10

/-- The value of a digit. -/
def digitValue? (c : Char) : Option Nat :=
  if 'a' ≤ c && c ≤ 'z' then some (c.toNat - 87)
  else if 'A' ≤ c && c ≤ 'Z' then some (c.toNat - 55)
  else if c.isDigit then some (c.toNat - 48)
  else decimalValue? c

/-- The value of a digit of a base. -/
def digit? (base : Nat) (c : Char) : Option Nat := (digitValue? c).filter (· < base)

/-- Reads the digits of a base onto `n`; `afterDigit` tells whether a digit stands before. -/
def digits? (base n : Nat) (afterDigit : Bool) : Text → Option Nat
  | [] => if afterDigit then some n else none
  | c :: cs =>
    match digit? base c with
    | some d => digits? base (n * base + d) true cs
    | none => if c = '_' && afterDigit && !cs.isEmpty then digits? base n false cs else none

/-- The number that a numeral writes. -/
def natural? (base : Nat) (t : Text) : Option Nat := digits? base 0 false t

/-- The number that a numeral writes, with blanks around it and a sign before it. -/
def integer? (base : Nat) (t : Text) : Option Int :=
  match Text.strip t with
  | '+' :: ds => (natural? base ds).map Int.ofNat
  | '-' :: ds => (natural? base ds).map fun n => -(Int.ofNat n)
  | ds => (natural? base ds).map Int.ofNat

/-- The greatest number of digits of a decimal numeral. -/
def maxDigits : Nat := 4300

/-- The number of digits in a text. -/
def digitCount (t : Text) : Nat := t.countP fun c => (digitValue? c).isSome

/-- What is said of a decimal numeral with too many digits. -/
def tooLong (digits : Nat) : String :=
  s!"Exceeds the limit ({maxDigits} digits) for integer string conversion: " ++
    s!"value has {digits} digits; use sys.set_int_max_str_digits() to increase the limit"

/-- The number that ASCII digits of a base write. -/
def value (base : Nat) (ds : Text) : Nat :=
  ds.foldl (fun n c => n * base + (digitValue? c).getD 0) 0

end DocPress.Numeral
