import DocPress.Script.Lexeme

/-!
# The lexer

Finds the comments of a script. A slash-star inside a string, a template, a regular expression or
a line comment opens none, so the lexer has to know these, and to tell a regular expression from
a division it has to know whether an operand is due.

Where it stands is a stack of frames, for templates and the expressions held inside them, and a
mode: whether a slash divides, whether it would open a regular expression, or whether one was
opened that does not close on its line, in which case that line is passed over.

At each place the first rule that applies takes its characters; where none does, one character is
passed over.
-/

namespace DocPress.Script

/-- The two dialects differ in their keywords. -/
inductive Dialect where
  | javascript
  | typescript
deriving Repr, DecidableEq

/-- Inside a template, or inside an expression that a template holds. -/
inductive Frame where
  | template
  | hole
deriving Repr, DecidableEq

/-- What a slash means here. -/
inductive Mode where
  /-- A slash is an operator. -/
  | operator
  /-- An operand is due, so a slash opens a regular expression. -/
  | operand
  /-- A regular expression was opened that does not close: the line is passed over. -/
  | broken
deriving Repr, DecidableEq

/-- Where the lexer stands between two lexemes. -/
structure State where
  frames : List Frame := []
  mode : Mode := .operator
deriving Repr, DecidableEq

/-- A lexeme: its length, the state behind it, and whether it is a block comment. -/
structure Step where
  length : Nat
  next : State
  isComment : Bool := false
deriving Repr, DecidableEq

/-- What a lexeme does to the state. -/
inductive Effect where
  | none
  | wantOperand
  | openTemplate
deriving Repr, DecidableEq

/-- A shape to look for, given the character before, and its effect. -/
structure Rule where
  length : Option Char → Text → Nat
  effect : Effect

def Effect.apply : Effect → State → State
  | .none, s => { s with mode := .operator }
  | .wantOperand, s => { s with mode := .operand }
  | .openTemplate, s => { frames := .template :: s.frames }

/-! ## Words -/

def operatorWords : List Text := wordList "typeof instanceof in void delete new"

def contextualWords : List Text := wordList "constructor from as"

def controlWords : List Text := wordList
  "for in while do break return continue switch case default if else throw try catch finally yield await async this of static export import debugger extends super"

def declarationWords : List Text := wordList "var let const with function class"

def reservedWords : List Text := wordList
  "abstract boolean byte char double enum final float goto implements int interface long native package private protected public short synchronized throws transient volatile"

def constantWords : List Text := wordList "true false null NaN Infinity undefined"

def builtinWords : List Text := wordList
  "Array Boolean Date BigInt Function Math ArrayBuffer Number Object RegExp String Promise Proxy decodeURI decodeURIComponent encodeURI encodeURIComponent eval isFinite isNaN parseFloat parseInt DataView document window globalThis global arguments Symbol Intl WeakSet WeakMap Set Map Reflect JSON Atomics Int8Array Int16Array Int32Array BigInt64Array Float32Array Float64Array Uint8ClampedArray Uint8Array Uint16Array Uint32Array BigUint64Array"

def errorWords : List Text := wordList
  "EvalError InternalError RangeError ReferenceError SyntaxError TypeError URIError Error"

def modifierWords : List Text :=
  wordList "abstract implements private protected public readonly enum interface override"

def typeWords : List Text := wordList "declare type string boolean number"

/-! ## Rules -/

/-- A shape that does not look at the character before. -/
def plain (length : Text → Nat) (effect : Effect) : Rule := ⟨fun _ => length, effect⟩

/-- One of the words, at the start of a word. -/
def freshWord (ws : List Text) (before : Option Char) (t : Text) : Nat :=
  if startsWord before then word ws t else 0

/-- The head of a module: the keyword, blanks, a path, blanks. -/
def moduleHead (before : Option Char) (t : Text) : Nat :=
  if startsWord before && Text.startsWith "module".toList t then
    let blanks := many isBlank (t.drop 6)
    let path := many isPathChar (t.drop (6 + blanks))
    if blanks = 0 || path = 0 then 0
    else 6 + blanks + path + many isBlank (t.drop (6 + blanks + path))
  else 0

/-- A name and its type: a path, a colon and another path, blanks allowed about the colon. -/
def annotation (t : Text) : Nat :=
  let name := many isPathChar t
  let blanks := many isBlank (t.drop name)
  match name, t.drop (name + blanks) with
  | 0, _ => 0
  | _, ':' :: r =>
    let blanks' := many isBlank r
    let type := many isPathChar (r.drop blanks')
    if type = 0 then 0 else name + blanks + 1 + blanks' + type
  | _, _ => 0

/-- An at sign and an identifier. -/
def decorator : Text → Nat
  | '@' :: t => match identifier t with
    | 0 => 0
    | n + 1 => n + 2
  | _ => 0

/-- What the typed dialect looks for first. -/
def typedRules : List Rule :=
  [plain (word modifierWords) .wantOperand,
   ⟨freshWord typeWords, .none⟩,
   ⟨moduleHead, .wantOperand⟩,
   plain annotation .none,
   plain decorator .none]

/-- One character of a class. -/
def single (cs : List Char) (t : Text) : Nat := if t.head?.any cs.contains then 1 else 0

/-- What both dialects look for, behind blanks and comments. -/
def sharedRules : List Rule :=
  [plain number .none,
   plain (oneOf ["...".toList, "=>".toList]) .none,
   plain operator .wantOperand,
   plain (single "\x7b([;,".toList) .wantOperand,
   plain (single "\x7d)].".toList) .none,
   plain (word operatorWords) .wantOperand,
   ⟨freshWord contextualWords, .none⟩,
   plain (word controlWords) .wantOperand,
   plain (word declarationWords) .wantOperand,
   plain (word reservedWords) .none,
   plain (word constantWords) .none,
   plain (word builtinWords) .none,
   plain (word errorWords) .none,
   plain method .wantOperand,
   plain identifier .none,
   plain string .none,
   plain (exactly ['`']) .openTemplate,
   plain privateName .none]

/-- The first rule that applies, and the length it takes. -/
def firstMatch (rules : List Rule) (before : Option Char) (t : Text) : Option (Nat × Effect) :=
  rules.findSome? fun r =>
    match r.length before t with
    | 0 => none
    | n + 1 => some (n + 1, r.effect)

/-! ## Steps -/

/-- Blanks or a comment, which leave the state as it is. -/
def trivia? (s : State) (t : Text) : Option Step :=
  match many isBlank t with
  | n + 1 => some { length := n + 1, next := s }
  | 0 => match orElse (exactly "<!--".toList t) (lineComment t) with
    | n + 1 => some { length := n + 1, next := s }
    | 0 => match blockComment t with
      | n + 1 => some { length := n + 1, next := s, isComment := true }
      | 0 => none

/-- Where an operand is due: trivia, or a regular expression, closed or not. -/
def operandStep? (frames : List Frame) (t : Text) : Option Step :=
  (trivia? ⟨frames, .operand⟩ t).or <|
    match regex t with
    | n + 1 => some { length := n + 1, next := ⟨frames, .operator⟩ }
    | 0 =>
      if Text.startsWith ['/'] t then some { length := 1, next := ⟨frames, .broken⟩ } else none

/-- The text begins with something that at the start of a line is never an operator. -/
def opensLine (t : Text) : Bool :=
  t.head?.any (fun c => isBlank c || c == '/') || Text.startsWith "<!--".toList t

/-- A lexeme of the expression language, or one character passed over. -/
def codeStep (d : Dialect) (frames : List Frame) (before : Option Char) (t : Text) : Step :=
  let here : State := ⟨frames, .operator⟩
  let rules := match d with
    | .javascript => sharedRules
    | .typescript => typedRules ++ sharedRules
  match trivia? here t with
  | some step => step
  | none => match firstMatch rules before t with
    | some (n, effect) => { length := n, next := effect.apply here }
    | none => { length := 1, next := here }

/-- A lexeme inside a template: its end, an escape, the start of an expression, or a run of
characters. -/
def templateStep (outer : List Frame) (t : Text) : Step :=
  let here : State := ⟨.template :: outer, .operator⟩
  match t with
  | '`' :: _ => { length := 1, next := ⟨outer, .operator⟩ }
  | '\\' :: _ => { length := 2, next := here }
  | '$' :: '\x7b' :: _ => { length := 2, next := ⟨.hole :: .template :: outer, .operator⟩ }
  | '$' :: _ => { length := 1, next := here }
  | t => { length := many (fun c => c != '`' && c != '\\' && c != '$') t, next := here }

/-- The lexeme at the start of a text that is not empty. -/
def stepAt (d : Dialect) (s : State) (before : Option Char) (t : Text) : Step :=
  match s.mode, s.frames with
  | .broken, frames =>
    { length := 1
      next := ⟨frames, if Text.startsWith ['\n'] t then .operator else .broken⟩ }
  | .operator, .template :: outer => templateStep outer t
  | mode, frames =>
    let operand := if mode = .operand || (startsLine before && opensLine t) then
      operandStep? frames t else none
    match operand with
    | some step => step
    | none =>
      match frames, t with
      | .hole :: outer, '\x7d' :: _ => { length := 1, next := ⟨outer, .operator⟩ }
      | _, _ =>
        match before, hashbang t with
        | none, n + 1 => { length := n + 1, next := ⟨frames, .operator⟩ }
        | _, _ => codeStep d frames before t

/-- The block comments from `line` on, each with the line on which it opens. The first `skip`
characters belong to the lexeme read last. -/
def commentsFrom (d : Dialect) (s : State) (before : Option Char) (line skip : Nat) :
    Text → List (Nat × Text)
  | [] => []
  | c :: cs =>
    let line' := if c = '\n' then line + 1 else line
    match skip with
    | k + 1 => commentsFrom d s (some c) line' k cs
    | 0 =>
      let step := stepAt d s before (c :: cs)
      let rest := commentsFrom d step.next (some c) line' (step.length - 1) cs
      if step.isComment then (line, (c :: cs).take step.length) :: rest else rest

/-- The block comments of a script that has been prepared. -/
def comments (d : Dialect) (t : Text) : List (Nat × Text) := commentsFrom d {} none 1 0 t

end DocPress.Script
