import DocPress.Yaml.Node

/-!
# The kinds of plain scalars

A scalar that is written without quotes and without a tag has a kind by its text: truth values,
numbers in several bases, times, the sign of a merge, or nothing at all. Any other text is just
that. A break at the very end of a text does not matter.
-/

namespace DocPress.Yaml

namespace Schema

/-- Characters of a class, at least one. -/
def isRow (p : Char → Bool) (t : Text) : Bool := !t.isEmpty && t.all p

/-- A digit or a low line. -/
def isSpacedDigit (c : Char) : Bool := c.isDigit || c = '_'

/-- The text without a sign at its start. -/
def unsigned (t : Text) : Text :=
  match t with
  | '+' :: r | '-' :: r => r
  | _ => t

/-- A row that begins with a character of one class and goes on with those of another. -/
def isWord (first others : Char → Bool) : Text → Bool
  | [] => false
  | c :: r => first c && r.all others

/-- Groups of one or two digits, of which the first of two is at most five. -/
def isSixty (t : Text) : Bool :=
  match t with
  | [a] => a.isDigit
  | [a, b] => '0' ≤ a && a ≤ '5' && b.isDigit
  | _ => false

def isBool (t : Text) : Bool :=
  [["yes", "Yes", "YES", "no", "No", "NO"], ["true", "True", "TRUE", "false", "False", "FALSE"],
   ["on", "On", "ON", "off", "Off", "OFF"]].any fun words => words.any (·.toList = t)

def isNull (t : Text) : Bool := ["", "~", "null", "Null", "NULL"].any (·.toList = t)

/-- A number in base two, eight, ten, sixteen or sixty. -/
def isInt (t : Text) : Bool :=
  match unsigned t with
  | '0' :: 'b' :: r => isRow (fun c => c = '0' || c = '1' || c = '_') r
  | '0' :: 'x' :: r =>
    isRow (fun c => isSpacedDigit c || ('a' ≤ c && c ≤ 'f') || ('A' ≤ c && c ≤ 'F')) r
  | '0' :: r => r.all fun c => ('0' ≤ c && c ≤ '7') || c = '_'
  | r =>
    match Text.splitOn ':' r with
    | [] => false
    | w :: ws => isWord (fun c => '1' ≤ c && c ≤ '9') isSpacedDigit w && ws.all isSixty

/-- An exponent with its sign, or nothing. -/
def isExponent (t : Text) : Bool :=
  match t with
  | [] => true
  | e :: s :: ds => (e = 'e' || e = 'E') && (s = '+' || s = '-') && isRow Char.isDigit ds
  | _ => false

/-- What follows the point of a number: digits and an exponent. -/
def isFraction (t : Text) : Bool := isExponent (t.dropWhile isSpacedDigit)

/-- The part before a character, and the part behind it. -/
def cut (c : Char) (t : Text) : Option (Text × Text) :=
  match t.dropWhile (· ≠ c) with
  | [] => none
  | _ :: r => some (t.takeWhile (· ≠ c), r)

/-- A number with a point, in base ten or sixty, or one that is infinite or none. -/
def isFloat (t : Text) : Bool :=
  let infinite := [".inf", ".Inf", ".INF"].any (·.toList = unsigned t)
  let none_ := [".nan", ".NaN", ".NAN"].any (·.toList = t)
  infinite || none_ ||
    match t, cut '.' (unsigned t) with
    | '.' :: r, _ => isWord Char.isDigit isSpacedDigit (r.takeWhile isSpacedDigit) && isFraction r
    | _, some (whole, fraction) =>
      match Text.splitOn ':' whole with
      | [w] => isWord Char.isDigit isSpacedDigit w && isFraction fraction
      | w :: ws => isWord Char.isDigit isSpacedDigit w && ws.all isSixty &&
          fraction.all isSpacedDigit
      | [] => false
    | _, none => false

/-! ## Times -/

/-- Between `lo` and `hi` digits at the start of a text, and the rest of it. -/
def digits? (lo hi : Nat) (t : Text) : Option (Text × Text) :=
  let ds := (t.take hi).takeWhile Char.isDigit
  if ds.length < lo then none else some (ds, t.drop ds.length)

/-- The text behind a character. -/
def behind? (c : Char) (t : Text) : Option Text :=
  match t with
  | d :: r => if d = c then some r else none
  | [] => none

/-- The parts of a time as they are written. -/
structure TimeParts where
  year : Text
  month : Text
  day : Text
  /-- Hour, minute and second. -/
  clock : Option (Text × Text × Text) := none
  fraction : Text := []
  /-- The sign, hours and minutes of the distance from universal time; no sign means none. -/
  zone : Option (Option Char × Text × Text) := none
deriving Repr, DecidableEq

/-- The distance from universal time that a text is. -/
def zone? (t : Text) : Option (Option Char × Text × Text) :=
  match t with
  | ['Z'] => some (none, [], [])
  | s :: r =>
    if s ≠ '+' && s ≠ '-' then none
    else match digits? 1 2 r with
      | some (hours, []) => some (some s, hours, [])
      | some (hours, ':' :: m) => match digits? 2 2 m with
        | some (minutes, []) => some (some s, hours, minutes)
        | _ => none
      | _ => none
  | [] => none

/-- The parts of a time. A month or a day may have one digit. -/
def timeParts? (t : Text) : Option TimeParts := do
  let (year, t) ← digits? 4 4 t
  let (month, t) ← digits? 1 2 (← behind? '-' t)
  let (day, t) ← digits? 1 2 (← behind? '-' t)
  let date : TimeParts := { year, month, day }
  match t with
  | [] => some date
  | c :: r =>
    let clock ←
      if c = 'T' || c = 't' then some r
      else if c = ' ' || c = '\t' then some (r.dropWhile fun c => c = ' ' || c = '\t')
      else none
    let (hour, t) ← digits? 1 2 clock
    let (minute, t) ← digits? 2 2 (← behind? ':' t)
    let (second, t) ← digits? 2 2 (← behind? ':' t)
    let (fraction, t) := match t with
      | '.' :: r => (r.takeWhile Char.isDigit, r.dropWhile Char.isDigit)
      | _ => ([], t)
    let timed := { date with clock := some (hour, minute, second), fraction }
    match t with
    | [] => some timed
    | _ =>
      let zone ← zone? (t.dropWhile fun c => c = ' ' || c = '\t')
      some { timed with zone := some zone }

/-- A date, or a time with its date. A date alone has two digits for month and day. -/
def isTimestamp (t : Text) : Bool :=
  (timeParts? t).any fun p => p.clock.isSome || (p.month.length = 2 && p.day.length = 2)

end Schema

/-- The kind of a plain scalar. -/
def Kind.ofPlain (t : Text) : Kind :=
  let t := if t.getLast? = some '\n' then t.dropLast else t
  if Schema.isBool t then .bool
  else if Schema.isFloat t then .float
  else if Schema.isInt t then .int
  else if t = "<<".toList then .merge
  else if Schema.isNull t then .null
  else if Schema.isTimestamp t then .timestamp
  else if t = ['='] then .default
  else .str

end DocPress.Yaml
