import DocPress.Text.Basic

/-!
# Paths

A path is a text of components between slashes. It is rooted if it begins with a slash. Exactly
two slashes at the start are kept apart from one, three or more are one.

Normalising resolves dots by looking at the text alone: a single dot and an empty component
vanish, a double dot takes the component before it away. At the root a double dot has nothing to
take away; where a path that is not rooted has nothing left, it stays.
-/

namespace DocPress.Path

def dot : Text := ['.']

def dotDot : Text := ['.', '.']

/-- The path begins at the root. -/
def isRooted (p : Text) : Bool := Text.startsWith ['/'] p

/-- The pieces between the slashes, empty ones left out. -/
def components (p : Text) : List Text := (Text.splitOn '/' p).filter (!·.isEmpty)

/-- Takes a component onto the components before it, the nearest first. -/
def push (rooted : Bool) (before : List Text) (c : Text) : List Text :=
  if c = [] || c = dot then before
  else if c = dotDot then
    match before with
    | [] => if rooted then [] else [c]
    | b :: bs => if b = dotDot then c :: b :: bs else bs
  else c :: before

/-- The components with the dots resolved. -/
def resolveDots (rooted : Bool) (cs : List Text) : List Text :=
  (cs.foldl (push rooted) []).reverse

/-- The slashes that a normalised path keeps at its start. -/
def lead : Text → Text
  | '/' :: '/' :: '/' :: _ => ['/']
  | '/' :: '/' :: _ => ['/', '/']
  | '/' :: _ => ['/']
  | _ => []

/-- The path with its dots resolved and its slashes single. -/
def normalize (p : Text) : Text :=
  match lead p ++ Text.join ['/'] (resolveDots (isRooted p) (components p)) with
  | [] => dot
  | q => q

/-- The path `q` as seen from the directory `p`; a rooted `q` stands for itself. -/
def append (p q : Text) : Text :=
  if isRooted q then q
  else if p.isEmpty || p.getLast? = some '/' then p ++ q
  else p ++ '/' :: q

/-- The components appended one after the other. -/
def appendAll (p : Text) (cs : List Text) : Text := cs.foldl append p

/-- The normalised path from the root, seen from the rooted directory `cwd`. -/
def absolute (cwd p : Text) : Text := normalize (append cwd p)

/-- The part up to the last slash, without the slashes at its end unless it is nothing else, and
the part behind it. -/
def split (p : Text) : Text × Text :=
  let r := p.reverse
  let tail := (r.takeWhile (· ≠ '/')).reverse
  let head := r.dropWhile (· ≠ '/')
  if head.all (· = '/') then (head.reverse, tail)
  else ((head.dropWhile (· = '/')).reverse, tail)

def parent (p : Text) : Text := (split p).1

def base (p : Text) : Text := (split p).2

/-- The last component from its last dot on, unless only dots stand before that. -/
def fileExtension (p : Text) : Text :=
  let b := base p
  let r := b.reverse
  let ext := r.takeWhile (· ≠ '.')
  match r.dropWhile (· ≠ '.') with
  | '.' :: stem => if stem.all (· = '.') then [] else '.' :: ext.reverse
  | _ => []

/-- What two lists begin with. -/
def commonComponents : List Text → List Text → List Text
  | a :: as, b :: bs => if a = b then a :: commonComponents as bs else []
  | _, _ => []

/-- The way from the rooted directory `start` to the rooted path `p`. -/
def relativeTo (start p : Text) : Text :=
  let cs := components start
  let goal := components p
  let shared := (commonComponents cs goal).length
  match List.replicate (cs.length - shared) dotDot ++ goal.drop shared with
  | [] => dot
  | cs => Text.join ['/'] cs

/-- The rooted path `p` lies in the rooted directory `d`: what their components have in common,
written from the root, is the directory. -/
def isInside (cwd p d : Text) : Bool :=
  let directory := absolute cwd d
  '/' :: Text.join ['/'] (commonComponents (components directory) (components (absolute cwd p)))
    = directory

/-- The path, the directory above it, the one above that, as long as there is one. Each path is
shorter than the one before, so `fuel` never runs out at the length of the path. -/
def upwardsFrom (p : Text) : (fuel : Nat) → List Text
  | 0 => [p]
  | fuel + 1 =>
    let (head, tail) := split p
    let head := if tail.isEmpty then (split head).1 else head
    let tail := if tail.isEmpty then (split (split p).1).2 else tail
    if head.isEmpty || tail.isEmpty then [p] else p :: upwardsFrom head fuel

/-- The path and the directories above it, the nearest first. -/
def upwards (p : Text) : List Text := upwardsFrom p p.length

end DocPress.Path
