import DocPress.Number.Binary64
import DocPress.Text.Numeral

/-!
# Reading decimals

A decimal has digits, a point somewhere among them or at one of their ends, and an exponent.
-/

namespace DocPress.Binary64

/-- Beyond this power of ten a number is infinite, or zero. -/
def farthest : Int := 400

/-- The number nearest to `n * 10 ^ exponent`. -/
def ofDecimal (negative : Bool) (n : Nat) (exponent : Int) : Binary64 :=
  let point := exponent + (Nat.toDigits 10 n).length
  if n = 0 || point < -farthest then finite negative 0 minExponent
  else if point > farthest then infinite negative
  else match exponent with
    | .ofNat k => ofFraction negative (n * Nat.pow 10 k) 1
    | .negSucc k => ofFraction negative n (Nat.pow 10 (k + 1))

/-- An exponent behind its letter. -/
def exponent? (t : Text) : Option Int :=
  match t with
  | [] => some 0
  | e :: r =>
    if e ≠ 'e' && e ≠ 'E' then none
    else match r with
      | '-' :: ds => (plain? ds).map fun n => -(Int.ofNat n)
      | '+' :: ds => (plain? ds).map Int.ofNat
      | ds => (plain? ds).map Int.ofNat
where
  /-- The number that digits write. -/
  plain? (ds : Text) : Option Nat :=
    if !ds.isEmpty && ds.all Char.isDigit then some (Numeral.value 10 ds) else none

/-- The number that a text without a sign writes. -/
def unsigned? (negative : Bool) (t : Text) : Option Binary64 :=
  if t = "inf".toList || t = "infinity".toList then some (infinite negative)
  else if t = "nan".toList then some nan
  else
    let whole := t.takeWhile Char.isDigit
    let rest := t.drop whole.length
    let (places, rest) := match rest with
      | '.' :: r => (r.takeWhile Char.isDigit, r.dropWhile Char.isDigit)
      | _ => ([], rest)
    if whole.isEmpty && places.isEmpty then none
    else (exponent? rest).map fun e =>
      ofDecimal negative (Numeral.value 10 (whole ++ places)) (e - places.length)

/-- The number that a text writes, in lower case. -/
def read? (t : Text) : Option Binary64 :=
  match Text.strip t with
  | '-' :: r => unsigned? true r
  | '+' :: r => unsigned? false r
  | r => unsigned? false r

end DocPress.Binary64
