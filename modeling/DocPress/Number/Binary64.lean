/-!
# Binary floating-point numbers

Numbers with a significand of 53 bits and an exponent of eleven, as exact multiples of powers of
two. A quotient is rounded to the nearest of them, a half to the even neighbour; what lies beyond
the greatest one is infinite.
-/

namespace DocPress

inductive Binary64 where
  /-- `mantissa * 2 ^ exponent`, where the mantissa has 53 bits unless the exponent is least. -/
  | finite (negative : Bool) (mantissa : Nat) (exponent : Int)
  | infinite (negative : Bool)
  | nan
deriving Repr, DecidableEq

namespace Binary64

/-- The least and the greatest exponent of a finite number. -/
def minExponent : Int := -1074

def maxExponent : Int := 971

/-- Mantissas lie below two to the power of 53. -/
def mantissaBound : Nat := 0x20000000000000

/-- The quotient rounded to the nearest natural number, a half to the even one. -/
def roundDiv (num den : Nat) : Nat :=
  let q := num / den
  let r := 2 * (num % den)
  if r < den then q else if r > den then q + 1 else if q % 2 = 0 then q else q + 1

/-- A fraction divided by a power of two, as a fraction. -/
def scale (num den : Nat) (exponent : Int) : Nat × Nat :=
  match exponent with
  | .ofNat e => (num, den * Nat.pow 2 e)
  | .negSucc e => (num * Nat.pow 2 (e + 1), den)

/-- The exponent at which a fraction has a mantissa of 53 bits, or the least exponent. -/
def exponentOf (num den : Nat) : Int :=
  let e : Int := (num.log2 : Int) - (den.log2 : Int) - 53
  let (n, d) := scale num den e
  max (if n / d < mantissaBound then e else e + 1) minExponent

/-- The number nearest to a fraction. -/
def ofFraction (negative : Bool) (num den : Nat) : Binary64 :=
  if num = 0 then finite negative 0 minExponent
  else
    let e := exponentOf num den
    let (n, d) := scale num den e
    let m := roundDiv n d
    let (m, e) := if m = mantissaBound then (mantissaBound / 2, e + 1) else (m, e)
    if e > maxExponent then infinite negative else finite negative m e

/-- The absolute value of a finite number as a fraction. -/
def fraction (mantissa : Nat) (exponent : Int) : Nat × Nat :=
  match exponent with
  | .ofNat e => (mantissa * Nat.pow 2 e, 1)
  | .negSucc e => (mantissa, Nat.pow 2 (e + 1))

/-- The number with the other sign. -/
def negate : Binary64 → Binary64
  | finite negative m e => finite (!negative) m e
  | infinite negative => infinite (!negative)
  | nan => nan

/-- The sum of two numbers that are not negative. -/
def add : Binary64 → Binary64 → Binary64
  | finite _ m e, finite _ m' e' =>
    let (a, b) := fraction m e
    let (c, d) := fraction m' e'
    ofFraction false (a * d + c * b) (b * d)
  | nan, _ | _, nan => nan
  | _, _ => infinite false

/-- The product of two finite numbers that are not negative. -/
def mul : Binary64 → Binary64 → Binary64
  | finite _ m e, finite _ m' e' =>
    let (a, b) := fraction m e
    let (c, d) := fraction m' e'
    ofFraction false (a * c) (b * d)
  | nan, _ | _, nan => nan
  | _, _ => infinite false

/-- The number is zero. -/
def isZero : Binary64 → Bool
  | finite _ m _ => m = 0
  | _ => false

end Binary64
end DocPress
