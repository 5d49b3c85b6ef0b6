import DocPress.Number.Reading
import DocPress.Text.LowerCase
import DocPress.Yaml.Value

/-!
# The meaning of nodes

A node stands for a value by its kind. Scalars are read; sequences and mappings hold the values of
what is in them, and the last of several entries with the same key counts. A merge key stands for
the entries of other mappings, which come before those of the mapping itself.

A document is read level by level: what a collection holds is looked at after everything on the
level of the collection itself. So of several faults the one on the highest level counts, and the
first one of these.
-/

namespace DocPress.Yaml

namespace Meaning

/-! ## Scalars -/

/-- Without low lines, and with the sign taken off the front. -/
def split (t : Text) : Except Error (Bool × Text) :=
  match t.filter (· ≠ '_') with
  | [] => .error (.range .empty)
  | '-' :: r => .ok (true, r)
  | '+' :: r => .ok (false, r)
  | r => .ok (false, r)

/-- The digits of a base behind the letter that may announce it. -/
def withoutMark (base : Nat) (t : Text) : Text :=
  match t with
  | '0' :: c :: r =>
    let mark := if base = 2 then 'b' else if base = 8 then 'o' else 'x'
    if base ≠ 10 && (c = mark || c = mark.toUpper) then r else t
  | _ => t

/-- The number that a text writes in a base. -/
def integer (base : Nat) (t : Text) : Except Error Int :=
  match Numeral.integer? base (withoutMark base t) with
  | some n =>
    let digits := Numeral.digitCount t
    if base = 10 && digits > Numeral.maxDigits then .error (.range (.longNumeral digits)) else .ok n
  | none => .error (.range (.integer base t))

/-- The number whose digits of base sixty are these, the last one first. -/
def sixty : List Int → Int
  | [] => 0
  | d :: ds => d + 60 * sixty ds

def signed (negative : Bool) (n : Int) : Int := if negative then -n else n

/-- A whole number. What its digits begin with tells their base; colons stand between the digits
of base sixty. -/
def int (t : Text) : Except Error Int := do
  let (negative, r) ← split t
  let n ← match r with
    | ['0'] => pure 0
    | '0' :: 'b' :: ds => integer 2 ds
    | '0' :: 'x' :: ds => integer 16 ds
    | '0' :: _ => integer 8 r
    | [] => throw (.range .empty)
    | _ =>
      if r.contains ':' then do
        let ds ← (Text.splitOn ':' r).mapM (integer 10)
        pure (sixty ds.reverse)
      else integer 10 r
  return signed negative n

def decimal (t : Text) : Except Error Binary64 :=
  match Binary64.read? t with
  | some x => .ok x
  | none => .error (.range (.float t))

/-- The number whose digits of base sixty are these, the last one first. Each step is rounded. A
place whose worth is no finite number cannot have a digit, not even zero. -/
def floatSixty (sum : Binary64) (unit : Nat) : List Binary64 → Except Error Binary64
  | [] => .ok sum
  | d :: ds =>
    match Binary64.ofFraction false unit 1 with
    | .finite negative mantissa exponent =>
      floatSixty (sum.add (d.mul (.finite negative mantissa exponent))) (unit * 60) ds
    | _ => .error (.range .hugePlace)

/-- A number with a point. -/
def float (t : Text) : Except Error Binary64 := do
  let (negative, r) ← split (Text.lower t)
  let x ←
    if r = ".inf".toList then pure (.infinite false)
    else if r = ".nan".toList then return .nan
    else if r.contains ':' then do
      let ds ← (Text.splitOn ':' r).mapM decimal
      floatSixty (.finite false 0 Binary64.minExponent) 1 ds.reverse
    else decimal r
  return if negative then x.negate else x

/-- A truth value. -/
def bool (t : Text) : Except Error Bool :=
  let l := Text.lower t
  if ["yes", "true", "on"].any (·.toList = l) then .ok true
  else if ["no", "false", "off"].any (·.toList = l) then .ok false
  else .error (.range (.truth l))

/-- The six bits of a letter of base sixty-four. -/
def sixBits? (c : Char) : Option Nat :=
  if 'A' ≤ c && c ≤ 'Z' then some (c.toNat - 65)
  else if 'a' ≤ c && c ≤ 'z' then some (c.toNat - 71)
  else if c.isDigit then some (c.toNat + 4)
  else if c = '+' then some 62
  else if c = '/' then some 63
  else none

/-- The bytes of a text in base sixty-four; `place` letters of a group of four are read, which
leave `bits` over, and `pads` signs of the end follow them. Other characters do not count. -/
def base64 (place bits pads : Nat) : Text → Except Error (List UInt8)
  | [] => if place = 0 then .ok [] else .error .meaning
  | c :: r =>
    if c = '=' then
      if 2 ≤ place && 4 ≤ place + pads + 1 then .ok []
      else base64 place bits (if 2 ≤ place then pads + 1 else pads) r
    else match sixBits? c with
      | none => base64 place bits pads r
      | some b =>
        match place with
        | 0 => base64 1 b 0 r
        | 1 => (base64 2 (b % 16) 0 r).map ((bits * 4 + b / 16).toUInt8 :: ·)
        | 2 => (base64 3 (b % 4) 0 r).map ((bits * 16 + b / 4).toUInt8 :: ·)
        | _ => (base64 0 0 0 r).map ((bits * 64 + b).toUInt8 :: ·)

def binary (t : Text) : Except Error (List UInt8) :=
  if t.all (·.toNat < 0x80) then base64 0 0 0 t else .error .meaning

/-- A date or a time. -/
def timestamp (t : Text) : Except Error Value :=
  match Schema.timeParts? t with
  | none => .error (.range .timestamp)
  | some p => (ofTimeParts p).map fun
    | .inl d => .date d
    | .inr t => .time t

/-- The value of a scalar of a kind. -/
def ofScalar (kind : Kind) (t : Text) : Except Error Value :=
  match kind with
  | .null => .ok .null
  | .bool => (bool t).map .bool
  | .int => (int t).map .int
  | .float => (float t).map .float
  | .binary => (binary t).map .bytes
  | .timestamp => timestamp t
  | .str => .ok (.text t)
  | _ => .error .meaning

/-! ## Levels -/

/-- A fault and its level, which is the number of collections around it. -/
structure Fault where
  level : Nat
  error : Error
deriving Repr, DecidableEq

/-- What is read from nodes. -/
abbrev Reading (α : Type) := Except Fault α

/-- Nodes that stand for nothing on a level. -/
def noMeaning {α : Type} (level : Nat) : Reading α := .error ⟨level, .meaning⟩

/-- What is read on a level. -/
def onLevel {α : Type} (level : Nat) (x : Except Error α) : Reading α := x.mapError (⟨level, ·⟩)

/-- Both of two things that are read. Of two faults the one on the higher level counts, and the
first one if they are on the same. -/
def both {α β : Type} (x : Reading α) (y : Reading β) : Reading (α × β) :=
  match x, y with
  | .ok a, .ok b => .ok (a, b)
  | .error f, .ok _ => .error f
  | .ok _, .error g => .error g
  | .error f, .error g => .error (if g.level < f.level then g else f)

/-- The thing that is read first, in front of those that are read then. -/
def inFront {α : Type} (x : Reading α) (xs : Reading (List α)) : Reading (List α) :=
  (both x xs).map fun (a, as) => a :: as

/-- What is read first, and behind it what is read then. -/
def append {α : Type} (xs ys : Reading (List α)) : Reading (List α) :=
  (both xs ys).map fun (as, bs) => as ++ bs

/-! ## Collections -/

mutual

/-- The text of the entry that stands for a mapping. -/
def defaultText : Node → Except Error Text
  | .scalar _ t => .ok t
  | .mapping _ entries => defaultOf entries
  | _ => .error .meaning

def defaultOf : List (Node × Node) → Except Error Text
  | [] => .error .meaning
  | (k, v) :: es => if k.kind = .default then defaultText v else defaultOf es

end

mutual

/-- All that the merge keys among entries refer to can be merged. A mapping can be merged into
itself, which changes nothing. -/
def canMerge : List (Node × Node) → Bool
  | [] => true
  | (k, v) :: es => (k.kind ≠ .merge || isMergeable v) && canMerge es

/-- The node is a mapping or a sequence of mappings. -/
def isMergeable : Node → Bool
  | .loop isMapping => isMapping
  | .scalar _ _ => false
  | .mapping _ entries => canMerge entries
  | .sequence _ items => areMappings items

/-- The nodes are mappings. -/
def areMappings : List Node → Bool
  | [] => true
  | .loop isMapping :: ns => isMapping && areMappings ns
  | .mapping _ entries :: ns => canMerge entries && areMappings ns
  | _ => false

end

/-- A value that is to be a key. A collection cannot be one, whatever is in it. -/
def asKey (level : Nat) (v : Reading Value) : Reading Value :=
  match v with
  | .ok v => if v.isKey then .ok v else noMeaning level
  | .error f => .error (if level < f.level then ⟨level, .meaning⟩ else f)

/-- The entries of a mapping: those that merge keys bring in, if that is possible, and its own. -/
def withMerged (level : Nat) (isPossible : Bool) (merged own : Reading (List (Value × Value))) :
    Reading (List (Value × Value)) :=
  if isPossible then append merged own else noMeaning level

mutual

/-- The value of a node on a level. -/
def ofNode (level : Nat) : Node → Reading Value
  | .loop isMapping => .ok (.loop isMapping)
  | .scalar kind t => onLevel (if kind.isCollection then level + 1 else level) (ofScalar kind t)
  | .sequence kind items =>
    match kind with
    | .seq => (ofItems (level + 1) items).map .list
    | .omap | .pairs => (ofPairs (level + 1) items).map .pairs
    | kind => noMeaning (if kind.isCollection then level + 1 else level)
  | .mapping kind entries =>
    let es := withMerged (level + 1) (canMerge entries) (merged (level + 1) entries)
      (own (level + 1) entries)
    match kind with
    | .map => es.map fun es => .dict (Value.ofEntries es)
    | .set => es.map fun es => .set ((Value.ofEntries es).map (·.1))
    | kind =>
      if kind.isCollection then noMeaning (level + 1)
      else onLevel level (defaultOf entries >>= ofScalar kind)

/-- The values of nodes. -/
def ofItems (level : Nat) : List Node → Reading (List Value)
  | [] => .ok []
  | n :: ns => inFront (ofNode level n) (ofItems level ns)

/-- The pairs of nodes that are mappings of one entry. -/
def ofPairs (level : Nat) : List Node → Reading (List (Value × Value))
  | [] => .ok []
  | .mapping _ [(k, v)] :: ns =>
    inFront (both (ofNode level k) (ofNode level v)) (ofPairs level ns)
  | _ => noMeaning level

/-- The entries without a merge key. -/
def own (level : Nat) : List (Node × Node) → Reading (List (Value × Value))
  | [] => .ok []
  | (k, v) :: es =>
    if k.kind = .merge then own level es
    else
      let name := if k.kind = .default then onLevel level ((defaultText k).map .text)
        else asKey level (ofNode level k)
      inFront (both name (ofNode level v)) (own level es)

/-- The entries that merge keys bring in. -/
def merged (level : Nat) : List (Node × Node) → Reading (List (Value × Value))
  | [] => .ok []
  | (k, v) :: es =>
    if k.kind = .merge then append (mergedBy level v) (merged level es) else merged level es

/-- The entries of a mapping that is merged, or of several of them, of which the last one comes
first. -/
def mergedBy (level : Nat) : Node → Reading (List (Value × Value))
  | .mapping _ entries => append (merged level entries) (own level entries)
  | .sequence _ items => mergedByAll level items
  | _ => .ok []

def mergedByAll (level : Nat) : List Node → Reading (List (Value × Value))
  | [] => .ok []
  | .mapping _ entries :: ns =>
    append (mergedByAll level ns) (append (merged level entries) (own level entries))
  | _ :: ns => mergedByAll level ns

end

end Meaning

/-- The value of a node. -/
def Value.ofNode (n : Node) : Except Error Value := (Meaning.ofNode 0 n).mapError (·.error)

end DocPress.Yaml
