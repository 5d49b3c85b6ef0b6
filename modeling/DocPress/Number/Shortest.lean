import DocPress.Number.Binary64
import DocPress.Text.Basic

/-!
# Shortest decimals

A binary number is written with the fewest digits from which it is read back. For each count of
digits there are two candidates, the decimals of so many digits on either side of the number; the
first count at which one of them is read back decides, and of two the nearer one is taken, or the
even one if both are as near.

Numbers from a ten-thousandth on and below ten to the sixteenth are written without an exponent
and with at least one place behind the point.
-/

namespace DocPress.Binary64

/-- The fraction is read as the number. -/
def isReadBack (mantissa : Nat) (exponent : Int) (num den : Nat) : Bool :=
  ofFraction false num den = finite false mantissa exponent

/-- The number of digits of a fraction before the point; it is negative by the number of zeros
behind the point. -/
def pointOf (num den : Nat) : Int :=
  let digits : Int := (Nat.toDigits 10 num).length - (Nat.toDigits 10 den).length
  let isBelow (p : Int) : Bool := match p with
    | .ofNat k => num < den * Nat.pow 10 k
    | .negSucc k => num * Nat.pow 10 (k + 1) < den
  if isBelow digits then digits else digits + 1

/-- Ten to a power as a fraction. -/
def powerOfTen : Int → Nat × Nat
  | .ofNat k => (Nat.pow 10 k, 1)
  | .negSucc k => (1, Nat.pow 10 (k + 1))

/-- The decimal with `count` digits that is read back as the number, if there is one; the point
stands behind `point` digits. -/
def candidate? (mantissa : Nat) (exponent : Int) (point : Int) (count : Nat) : Option Nat :=
  let (num, den) := fraction mantissa exponent
  let (p, q) := powerOfTen (point - count)
  let a := num * q / (den * p)
  let ok (x : Nat) : Bool := isReadBack mantissa exponent (x * p) q
  let doubled := 2 * (num * q)
  let middle := (2 * a + 1) * (den * p)
  let upNearer := doubled > middle || (doubled = middle && a % 2 = 1)
  if upNearer then if ok (a + 1) then some (a + 1) else if ok a then some a else none
  else if ok a then some a else if ok (a + 1) then some (a + 1) else none

/-- The shortest decimal: its digits and the place of the point. Seventeen digits always do. -/
def shortest (mantissa : Nat) (exponent : Int) : Nat × Int :=
  let (num, den) := fraction mantissa exponent
  let point := pointOf num den
  match (List.range 17).findSome? fun i =>
      (candidate? mantissa exponent point (i + 1)).map fun x => (x, i + 1) with
  | some (x, count) => if x = Nat.pow 10 count then (1, point + 1) else (x, point)
  | none => (0, 1)

/-- Digits and the place of the point, as they are written. -/
def layout (digits : Text) (point : Int) : Text :=
  let zeros (n : Int) : Text := List.replicate n.toNat '0'
  let count : Int := digits.length
  if -4 < point && point ≤ 16 then
    if point ≤ 0 then '0' :: '.' :: zeros (-point) ++ digits
    else if count ≤ point then digits ++ zeros (point - count) ++ ['.', '0']
    else digits.take point.toNat ++ '.' :: digits.drop point.toNat
  else
    let e := point - 1
    let tens := Text.ofNat e.natAbs
    let mantissa := match digits with
      | d :: d' :: ds => d :: '.' :: d' :: ds
      | ds => ds
    mantissa ++ 'e' :: (if e < 0 then '-' else '+') :: List.replicate (2 - tens.length) '0' ++ tens

/-- The text of a number. -/
def text : Binary64 → Text
  | nan => "nan".toList
  | infinite negative => (if negative then "-inf" else "inf").toList
  | finite negative m e =>
    let sign := if negative then ['-'] else []
    if m = 0 then sign ++ "0.0".toList
    else
      let (x, point) := shortest m e
      let digits := ((Text.ofNat x).reverse.dropWhile (· = '0')).reverse
      sign ++ layout digits point

end DocPress.Binary64
