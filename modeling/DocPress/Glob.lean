import DocPress.Text.Basic

/-!
# Globs

A glob is a pattern for names: a star stands for any run of characters, a question mark for one
character, and brackets for one of the characters in them, or for any other one if an exclamation
mark comes first. Everything else stands for itself. Slashes are characters like the others.

A pattern is matched by following it part by part and keeping what may be left of the name. After
a star that is every end of what the longest of the candidates leaves, so the candidates are
always in order of their lengths.
-/

namespace DocPress.Glob

/-- A part of a pattern. -/
inductive Part where
  /-- Any run of characters. -/
  | run
  /-- Any one character. -/
  | any
  | one (c : Char)
  /-- One of the characters in the pieces, or between the end of a piece and the start of the
  next; with a negation, one of the others. -/
  | oneOf (negated : Bool) (pieces : List Text)
  /-- No character at all. -/
  | never
deriving Repr, DecidableEq

/-! ## Brackets -/

/-- The pieces between the hyphens that stand for ranges, where `skip` characters are passed over
before a hyphen counts. -/
def pieces (skip : Nat) : Text → List Text
  | [] => [[]]
  | c :: cs =>
    match skip with
    | k + 1 => grow c (pieces k cs)
    | 0 => if c = '-' then [] :: pieces 2 cs else grow c (pieces 0 cs)
where
  /-- The pieces with a character before the first. -/
  grow (c : Char) : List Text → List Text
    | [] => [[c]]
    | w :: ws => (c :: w) :: ws

/-- A hyphen at the end stands for itself. -/
def closeLast : List Text → List Text
  | [] => []
  | [w] => [w]
  | [w, []] => [w ++ ['-']]
  | w :: ws => w :: closeLast ws

/-- Ranges from a greater character to a lesser one are taken out, from the last one on: their
ends vanish, and what is left of the two pieces is one piece. -/
def dropEmptyRanges : List Text → List Text
  | [] => []
  | w :: ws =>
    match dropEmptyRanges ws with
    | [] => [w]
    | v :: vs =>
      match w.getLast?, v.head? with
      | some a, some b => if b < a then (w.dropLast ++ v.drop 1) :: vs else w :: v :: vs
      | _, _ => w :: v :: vs

/-- The part that the inside of brackets stands for. -/
def ofBrackets (inside : Text) : Part :=
  let skip := if inside.head? = some '!' then 2 else 1
  match dropEmptyRanges (closeLast (pieces skip inside)) with
  | [] | [[]] => .never
  | [['!']] => .any
  | ('!' :: w) :: ws => .oneOf true (w :: ws)
  | ws => .oneOf false ws

/-- The inside of brackets that were opened before the text, and what follows them. A bracket
that comes first, or first behind an exclamation mark, closes nothing. -/
def brackets? (t : Text) : Option (Text × Text) :=
  let lead := match t with
    | '!' :: ']' :: _ => 2
    | '!' :: _ => 1
    | ']' :: _ => 1
    | _ => 0
  match (t.drop lead).dropWhile (· ≠ ']') with
  | [] => none
  | _ :: rest => some (t.take lead ++ (t.drop lead).takeWhile (· ≠ ']'), rest)

/-- The parts of a pattern; the first `skip` characters are read already. -/
def partsFrom (skip : Nat) : Text → List Part
  | [] => []
  | c :: cs =>
    match skip with
    | k + 1 => partsFrom k cs
    | 0 =>
      if c = '*' then .run :: partsFrom 0 cs
      else if c = '?' then .any :: partsFrom 0 cs
      else if c = '[' then
        match brackets? cs with
        | none => .one c :: partsFrom 0 cs
        | some (inside, rest) => ofBrackets inside :: partsFrom (cs.length - rest.length) cs
      else .one c :: partsFrom 0 cs

/-- The parts of a pattern. -/
def parts (pattern : Text) : List Part := partsFrom 0 pattern

/-! ## Matching -/

/-- The character is in the pieces, or in a range between two of them. -/
def inPieces (c : Char) : List Text → Bool
  | [] => false
  | [w] => w.contains c
  | w :: v :: ws =>
    let between := match w.getLast?, v.head? with
      | some a, some b => a ≤ c && c ≤ b
      | _, _ => c = '-'
    w.contains c || between || inPieces c (v :: ws)

/-- The part stands for the character. -/
def Part.accepts (p : Part) (c : Char) : Bool :=
  match p with
  | run | any => true
  | one d => c = d
  | oneOf negated ws => inPieces c ws != negated
  | never => false

/-- The ends of a text, the longest first. -/
def ends : Text → List Text
  | [] => [[]]
  | c :: cs => (c :: cs) :: ends cs

/-- What a part may leave of the candidates. -/
def Part.follow (candidates : List Text) (p : Part) : List Text :=
  match p with
  | run => match candidates with
    | [] => []
    | t :: _ => ends t
  | p => candidates.filterMap fun
    | [] => none
    | c :: cs => if p.accepts c then some cs else none

/-- The pattern matches the whole name. -/
def fits (pattern name : Text) : Bool :=
  ((parts pattern).foldl Part.follow [name]).contains []

end DocPress.Glob
