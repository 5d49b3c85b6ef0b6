import DocPress.Number.Shortest
import DocPress.Yaml.Timestamp

/-!
# Values

What YAML documents stand for, and the text of a value: a text is itself, everything else is
written so that its kind can be told, with the texts inside it in quotes.
-/

namespace DocPress.Yaml

inductive Value where
  | null
  | bool (b : Bool)
  | int (n : Int)
  | float (x : Binary64)
  | bytes (bs : List UInt8)
  | text (t : Text)
  | date (d : Date)
  | time (t : Time)
  | list (items : List Value)
  /-- Pairs in order, in which a key may come again. -/
  | pairs (entries : List (Value × Value))
  | set (items : List Value)
  | dict (entries : List (Value × Value))
  /-- The sequence or mapping that this value is in. -/
  | loop (isMapping : Bool)

namespace Value

/-! ## Texts -/

/-- A byte between quotes of the sort `q`. -/
def byteText (q : Char) (b : UInt8) : Text :=
  let n := b.toNat
  let c := Char.ofNat n
  if c = q || c = '\\' then ['\\', c]
  else if c = '\t' then ['\\', 't']
  else if c = '\n' then ['\\', 'n']
  else if c = '\r' then ['\\', 'r']
  else if n < 0x20 || 0x7F ≤ n then '\\' :: 'x' :: Quoted.hex 2 n
  else [c]

def bytesText (bs : List UInt8) : Text :=
  let q := Quoted.mark (bs.map fun b => Char.ofNat b.toNat)
  'b' :: q :: bs.flatMap (byteText q) ++ [q]

mutual

/-- The value as it is written inside others. -/
def inner : Value → Text
  | null => "None".toList
  | bool b => (if b then "True" else "False").toList
  | int n => (toString n).toList
  | float x => x.text
  | bytes bs => bytesText bs
  | text t => t.quoted
  | date d => d.parts
  | time t => t.parts
  | list items => '[' :: innerList items ++ [']']
  | pairs entries => '[' :: innerPairs entries ++ [']']
  | set [] => "set()".toList
  | set (v :: vs) => '{' :: innerList (v :: vs) ++ ['}']
  | dict entries => '{' :: innerEntries entries ++ ['}']
  | loop isMapping => (if isMapping then "\x7b...\x7d" else "[...]").toList

def innerList : List Value → Text
  | [] => []
  | [v] => v.inner
  | v :: vs => v.inner ++ ',' :: ' ' :: innerList vs

def innerPairs : List (Value × Value) → Text
  | [] => []
  | [(k, v)] => '(' :: k.inner ++ ',' :: ' ' :: v.inner ++ [')']
  | (k, v) :: es => '(' :: k.inner ++ ',' :: ' ' :: v.inner ++ ')' :: ',' :: ' ' :: innerPairs es

def innerEntries : List (Value × Value) → Text
  | [] => []
  | [(k, v)] => k.inner ++ ':' :: ' ' :: v.inner
  | (k, v) :: es => k.inner ++ ':' :: ' ' :: v.inner ++ ',' :: ' ' :: innerEntries es

end

/-- The text of a value. -/
def asText : Value → Text
  | text t => t
  | date d => d.text
  | time t => t.text
  | v => v.inner

/-! ## Keys -/

/-- The value can be a key. -/
def isKey : Value → Bool
  | list _ | pairs _ | set _ | dict _ | loop _ => false
  | _ => true

/-- The whole number that a value equals, if there is one. Truth values are one and zero. -/
def whole? : Value → Option Int
  | bool b => some (if b then 1 else 0)
  | int n => some n
  | float (.finite negative m e) =>
    let (a, b) := Binary64.fraction m e
    if a % b = 0 then some (if negative then -(a / b : Nat) else (a / b : Nat)) else none
  | _ => none

/-- The keys are the same. -/
def sameKey (v w : Value) : Bool :=
  match v.whole?, w.whole? with
  | some m, some n => m = n
  | none, none =>
    match v, w with
    | null, null => true
    | float x, float y => x = y && x ≠ .nan
    | bytes a, bytes b => a = b
    | text a, text b => a = b
    | date a, date b => a = b
    | time a, time b => a = b
    | _, _ => false
  | _, _ => false

/-- Entries with one more. A key that is there keeps its place and gets the new value. -/
def putEntry (k v : Value) : List (Value × Value) → List (Value × Value)
  | [] => [(k, v)]
  | (k', v') :: es => if k.sameKey k' then (k', v) :: es else (k', v') :: putEntry k v es

/-- The mapping that entries make, one after the other. -/
def ofEntries (es : List (Value × Value)) : List (Value × Value) :=
  es.foldl (fun d e => putEntry e.1 e.2 d) []

/-- The value of a key that is a text. -/
def get? (key : Text) : List (Value × Value) → Option Value
  | [] => none
  | (text t, v) :: es => if t = key then some v else get? key es
  | _ :: es => get? key es

/-- There is nothing in the value: it is empty, zero, false or null. -/
def isVoid : Value → Bool
  | null => true
  | bool b => !b
  | int n => n = 0
  | float x => x.isZero
  | bytes bs => bs.isEmpty
  | text t => t.isEmpty
  | list items | set items => items.isEmpty
  | pairs entries | dict entries => entries.isEmpty
  | date _ | time _ | loop _ => false

end Value
end DocPress.Yaml
