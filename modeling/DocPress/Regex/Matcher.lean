import DocPress.Regex.LetterCase
import DocPress.Regex.Reader

/-!
# Matching

An expression is matched from a spot of a text on: a part tries its ways one after the other and
hands the spot at which each of them ends to what follows it. The first way on which everything
that follows succeeds is the match. A part is therefore a function that takes the rest of the
match as an argument, and the parts of an expression are put together by recursion on it.

A repetition that may go on stops where the last round took no character, so the number of its
rounds is bounded by what is left of the text.
-/

namespace DocPress.Regex

/-- A spot in a text: what stands before it, the nearest character first, what follows it, and
what groups have matched so far, the latest first. -/
structure Spot where
  before : Text
  rest : Text
  groups : List (Nat × Text) := []
deriving Repr, DecidableEq

namespace Spot

/-- The spot behind the next character, if that is of a class. -/
def step? (p : Char → Bool) (s : Spot) : Option Spot :=
  match s.rest with
  | [] => none
  | c :: cs => if p c then some { s with before := c :: s.before, rest := cs } else none

/-- The spot behind characters that each have to agree with the next ones. -/
def steps? (same : Char → Char → Bool) : Text → Spot → Option Spot
  | [], s => some s
  | c :: cs, s => (s.step? (same c)).bind (steps? same cs)

/-- The spot a number of characters before this one. -/
def back? : Nat → Spot → Option Spot
  | 0, s => some s
  | n + 1, s => match s.before with
    | [] => none
    | c :: cs => back? n { s with before := cs, rest := c :: s.rest }

end Spot

/-- A part of a match: given the spot where it begins and the rest of the match, the spot where
all ends. -/
abbrev Matcher := Spot → (Spot → Option Spot) → Option Spot

/-! ## Characters -/

/-- The character belongs to a class. -/
def Kind.has (ascii : Bool) (k : Kind) (c : Char) : Bool :=
  match k with
  | .digit => if ascii then c.isDigit else Category.isDecimalDigit c
  | .space => if ascii then " \t\n\r\x0b\x0c".toList.contains c else isBlank c
  | .word => if ascii then c.isAlphanum || c == '_' else isWord c

/-- The code point is a member. -/
def Member.has (ascii : Bool) (m : Member) (n : Nat) : Bool :=
  match m with
  | .point p => n = p
  | .range lo hi => lo ≤ n && n ≤ hi
  | .kind k negated => k.has ascii (Char.ofNat n) != negated

/-- The code points that a character stands for. -/
def Flags.variants (f : Flags) (c : Char) : List Nat :=
  if !f.ignoreCase then [c.toNat]
  else if f.ascii then LetterCase.variantsAscii c.toNat
  else LetterCase.variants c.toNat

/-- The character belongs to a set. -/
def inSet (f : Flags) (negated : Bool) (ms : List Member) (c : Char) : Bool :=
  (f.variants c).any (fun n => ms.any (·.has f.ascii n)) != negated

/-- Two characters are the same in a repeated text. -/
def same (f : Flags) (c d : Char) : Bool :=
  if !f.ignoreCase then c = d
  else if f.ascii then LetterCase.lowerAscii c.toNat = LetterCase.lowerAscii d.toNat
  else LetterCase.lower c.toNat = LetterCase.lower d.toNat

/-- The anchor holds at the spot. A text without characters has neither boundaries nor places
that are none. -/
def Anchor.holds (f : Flags) (a : Anchor) (s : Spot) : Bool :=
  match a with
  | .textStart => s.before.isEmpty
  | .textEnd => s.rest.isEmpty
  | .lineStart => s.before.isEmpty || (f.multiline && s.before.head? = some '\n')
  | .lineEnd => s.rest.isEmpty || s.rest = ['\n'] || (f.multiline && s.rest.head? = some '\n')
  | .boundary => atEdge
  | .noBoundary => !(s.before.isEmpty && s.rest.isEmpty) && !atEdge
where
  /-- A word character meets something else. -/
  atEdge : Bool :=
    s.before.head?.any (Kind.word.has f.ascii) != s.rest.head?.any (Kind.word.has f.ascii)

/-! ## Repetitions -/

/-- There may be one more round after `count` of them. -/
def mayGoOn (max : Option Nat) (count : Nat) : Bool := max.all (count < ·)

/-- Rounds of `m`, at least `min` and at most `max` in all, of which `count` are done. The last
round beyond the least number began where `left` characters were left. -/
def rounds (m : Matcher) (lazily : Bool) (min : Nat) (max : Option Nat) :
    (fuel count : Nat) → (left : Option Nat) → Matcher
  | 0, _, _, s, k => k s
  | fuel + 1, count, left, s, k =>
    if count < min then m s fun s' => rounds m lazily min max fuel (count + 1) left s' k
    else if !mayGoOn max count || left = some s.rest.length then k s
    else if lazily then
      k s <|> m s fun s' => rounds m lazily min max fuel (count + 1) (some s.rest.length) s' k
    else
      (m s fun s' => rounds m lazily min max fuel (count + 1) (some s.rest.length) s' k) <|> k s

/-- Rounds of which each is done in its first way. -/
def firmRounds (m : Matcher) (min : Nat) (max : Option Nat) :
    (fuel count : Nat) → (left : Option Nat) → Spot → Option Spot
  | 0, _, _, s => some s
  | fuel + 1, count, left, s =>
    if count < min then (m s some).bind (firmRounds m min max fuel (count + 1) left)
    else if mayGoOn max count && left != some s.rest.length then
      match m s some with
      | some s' => firmRounds m min max fuel (count + 1) (some s.rest.length) s'
      | none => some s
    else some s

/-- Rounds in the order that the greed asks for. -/
def repeated (m : Matcher) (greed : Greed) (min : Nat) (max : Option Nat) : Matcher := fun s k =>
  let fuel := min + s.rest.length + 2
  match greed with
  | .greedy => rounds m false min max fuel 0 none s k
  | .lazy => rounds m true min max fuel 0 none s k
  | .possessive => (firmRounds m min max fuel 0 none s).bind k

/-! ## Expressions -/

mutual

/-- Nodes one after the other. -/
def matchAll (widths : List (Nat × Nat)) (f : Flags) : List Node → Matcher
  | [], s, k => k s
  | n :: ns, s, k => matchNode widths f n s fun s' => matchAll widths f ns s' k

/-- One node. -/
def matchNode (widths : List (Nat × Nat)) (f : Flags) : Node → Matcher
  | .point n, s, k => (s.step? fun c => (f.variants c).contains n).bind k
  | .any, s, k => (s.step? fun c => f.dotAll || c != '\n').bind k
  | .set negated ms, s, k => (s.step? (inSet f negated ms)).bind k
  | .anchor a, s, k => if a.holds f s then k s else none
  | .reference g, s, k => ((s.groups.lookup g).bind (s.steps? (same f) ·)).bind k
  | .ifMatched g yes no, s, k =>
    if (s.groups.lookup g).isSome then matchAll widths f yes s k else matchAll widths f no s k
  | .branch alts, s, k => matchAny widths f alts s k
  | .repeated greed min max body, s, k =>
    repeated (matchAll widths f body) greed min max s k
  | .group none on off body, s, k => matchAll widths (f.inGroup on off) body s k
  | .group (some g) _ _ body, s, k =>
    matchAll widths f body s fun s' =>
      k { s' with groups := (g, s.rest.take (s.rest.length - s'.rest.length)) :: s'.groups }
  | .atomic body, s, k => (matchAll widths f body s some).bind k
  | .ahead negated body, s, k =>
    match matchAll widths f body s some with
    | some s' => if negated then none else k { s with groups := s'.groups }
    | none => if negated then k s else none
  | .behind negated body, s, k =>
    match (s.back? (widthOf widths body).1).bind (matchAll widths f body · some) with
    | some s' => if negated then none else k { s with groups := s'.groups }
    | none => if negated then k s else none

/-- The alternatives in their order. -/
def matchAny (widths : List (Nat × Nat)) (f : Flags) : List (List Node) → Matcher
  | [], _, _ => none
  | alt :: alts, s, k => matchAll widths f alt s k <|> matchAny widths f alts s k

end

/-- The spots of a text, from a spot on. -/
def spotsFrom (before : Text) : Text → List Spot
  | [] => [{ before, rest := [] }]
  | c :: cs => { before, rest := c :: cs } :: spotsFrom (c :: before) cs

/-- The expression matches somewhere in the text. -/
def Expression.occursIn (e : Expression) (t : Text) : Bool :=
  (spotsFrom [] t).any fun s => (matchAll e.widths e.flags e.nodes s some).isSome

end DocPress.Regex
