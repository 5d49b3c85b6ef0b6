import DocPress.Regex.Error
import DocPress.Text.Numeral

/-!
# Reading expressions

The text of an expression is read token by token, where a backslash and the character behind it
are one token. The reader knows the groups opened so far and which of them are closed, so a
reference to a group can be checked where it stands. That a condition names a group which is
there at all is checked at the end.
-/

namespace DocPress.Regex

/-- The character may begin a name. The exceptions are letters whose compatibility form is no
letter, and signs that count as letters in names. -/
def isIdentifierStart (c : Char) : Bool :=
  let n := c.toNat
  if n < 0x80 then c.isAlpha || c == '_'
  else if [0x1885, 0x1886, 0x2118, 0x212E].contains n then true
  else Category.isLetterLike c &&
    !([0x37A, 0xE33, 0xEB3, 0x2E2F, 0xFC5E, 0xFC5F, 0xFC60, 0xFC61, 0xFC62, 0xFC63, 0xFDFA, 0xFDFB,
      0xFE70, 0xFE72, 0xFE74, 0xFE76, 0xFE78, 0xFE7A, 0xFE7C, 0xFE7E, 0xFF9E, 0xFF9F].contains n)

/-- The character may stand in a name behind the first one. -/
def isIdentifierPart (c : Char) : Bool :=
  let n := c.toNat
  if n < 0x80 then c.isAlphanum || c == '_'
  else if [0xB7, 0x387, 0x19DA, 0x2118, 0x212E].contains n || (0x1369 ≤ n && n ≤ 0x1371) then true
  else (Category.isLetterLike c || Category.isNameExtender c) &&
    !([0x37A, 0x2E2F, 0xFC5E, 0xFC5F, 0xFC60, 0xFC61, 0xFC62, 0xFC63, 0xFDFA, 0xFDFB,
      0xFE70, 0xFE72, 0xFE74, 0xFE76, 0xFE78, 0xFE7A, 0xFE7C, 0xFE7E].contains n)

/-- The text is an identifier. -/
def isIdentifier : Text → Bool
  | [] => false
  | c :: cs => isIdentifierStart c && cs.all isIdentifierPart

/-! ## Widths -/

/-- Widths are counted up to here. -/
def maxWidth : Nat := 0x10000000000000000

mutual

/-- The least and the greatest number of characters that nodes take, given those of groups. -/
def widthOf (groups : List (Nat × Nat)) : List Node → Nat × Nat
  | [] => (0, 0)
  | n :: ns =>
    let (a, b) := nodeWidth groups n
    let (c, d) := widthOf groups ns
    (min (a + c) maxWidth, min (b + d) maxWidth)

def nodeWidth (groups : List (Nat × Nat)) : Node → Nat × Nat
  | .point _ | .any | .set .. => (1, 1)
  | .anchor _ | .ahead .. | .behind .. => (0, 0)
  | .reference g => groups.getD g (0, 0)
  | .ifMatched _ yes no =>
    let (a, b) := widthOf groups yes
    let (c, d) := widthOf groups no
    (min a c, max b d)
  | .branch [] => (0, 0)
  | .branch (alt :: alts) => branchWidth groups (widthOf groups alt) alts
  | .repeated _ lo hi body =>
    let (a, b) := widthOf groups body
    (a * lo, match hi with
      | some hi => b * hi
      | none => if b = 0 then 0 else maxWidth)
  | .group _ _ _ body | .atomic body => widthOf groups body

def branchWidth (groups : List (Nat × Nat)) (so : Nat × Nat) : List (List Node) → Nat × Nat
  | [] => so
  | alt :: alts =>
    let (a, b) := widthOf groups alt
    branchWidth groups (min so.1 a, max so.2 b) alts

end

/-! ## The reader -/

/-- Where the reader is and what it has seen. -/
structure Reader where
  source : Text
  rest : Text
  position : Nat
  flags : Flags := {}
  /-- Names of groups with their numbers. -/
  names : List (Text × Nat) := []
  /-- The widths of the groups, of the whole first; those of open groups are missing. -/
  groups : List (Option (Nat × Nat)) := [none]
  /-- Inside a look behind, the number of groups before it. -/
  lookBehind : Option Nat := none
  /-- Groups that conditions name, with the first place of each. -/
  conditions : List (Nat × Nat) := []

/-- A step of the reader, which may find a fault. -/
abbrev Read (α : Type) := StateT Reader (Except Error) α

namespace Read

/-- A fault at a position. -/
def failAt {α : Type} (fault : Fault) (position : Nat) : Read α := do
  throw ⟨fault, some position, (← get).source⟩

/-- A fault `back` characters before the reader. -/
def fail {α : Type} (fault : Fault) (back : Nat := 0) : Read α := do
  failAt fault ((← get).position - back)

/-- The next token. -/
def peek : Read (Option Text) := do
  match (← get).rest with
  | [] => return none
  | '\\' :: c :: _ => return some ['\\', c]
  | c :: _ => return some [c]

/-- The next token is this character. -/
def sees (c : Char) : Read Bool := do return (← peek) = some [c]

/-- Moves on by a number of characters. What comes next must not be a lone backslash. -/
def move (n : Nat) : Read Unit := do
  let s ← get
  let s := { s with rest := s.rest.drop n, position := s.position + n }
  set s
  if s.rest = ['\\'] then failAt .escapeAtEnd s.position

/-- Takes the next token. -/
def take : Read (Option Text) := do
  let token ← peek
  move ((token.getD []).length)
  return token

/-- Takes the next token if it is this character. -/
def accept (c : Char) : Read Bool := do
  if ← sees c then
    move 1
    return true
  return false

/-- Takes up to `n` characters of a class. -/
def takeWhile (p : Char → Bool) : (n : Nat) → Read Text
  | 0 => return []
  | n + 1 => do
    match ← peek with
    | some [c] =>
      if p c then
        move 1
        return c :: (← takeWhile p n)
      return []
    | _ => return []

/-- Takes everything up to a terminator, and the terminator. -/
def takeUntil (terminator : Char) (what : String) (taken : Text) : (fuel : Nat) → Read Text
  | 0 => return taken
  | fuel + 1 => do
    match ← take with
    | none =>
      if taken.isEmpty then fail (.missingName what)
      else fail (.unterminatedName terminator) taken.length
    | some token =>
      if token = [terminator] then
        if taken.isEmpty then fail (.missingName what) 1
        return taken
      takeUntil terminator what (taken ++ token) fuel

/-- A name up to its terminator. -/
def name (terminator : Char) (what : String) : Read Text := do
  takeUntil terminator what [] ((← get).rest.length + 1)

/-! ### Groups -/

/-- The group is closed. -/
def isClosed (g : Nat) : Read Bool := do return ((← get).groups.getD g none).isSome

/-- Inside a look behind, a group has to be closed, and opened before the look behind. -/
def checkLookBehind (g : Nat) : Read Unit := do
  match (← get).lookBehind with
  | none => return
  | some before =>
    unless ← isClosed g do fail .openGroup
    if g ≥ before then fail .lookBehindGroup

/-- Opens a group. -/
def openGroup (groupName : Option Text) : Read Nat := do
  let s ← get
  let number := s.groups.length
  match groupName with
  | none => set { s with groups := s.groups ++ [none] }
  | some n =>
    match s.names.lookup n with
    | some earlier => fail (.groupNameTaken n number earlier) (n.length + 1)
    | none => set { s with groups := s.groups ++ [none], names := s.names ++ [(n, number)] }
  return number

/-- The widths of the groups, nothing for those that are open. -/
def widths : Read (List (Nat × Nat)) := do return (← get).groups.map (·.getD (0, 0))

/-- Closes a group that holds the nodes. -/
def closeGroup (number : Nat) (body : List Node) : Read Unit := do
  let width := widthOf (← widths) body
  modify fun s => { s with groups := s.groups.set number (some width) }

/-! ### Escapes -/

def isHexDigit (c : Char) : Bool :=
  c.isDigit || ('a' ≤ c && c ≤ 'f') || ('A' ≤ c && c ≤ 'F')

def isOctalDigit (c : Char) : Bool := '0' ≤ c && c ≤ '7'

/-- An escape with a fixed number of hexadecimal digits. -/
def hexEscape (letter : Char) (count : Nat) : Read Nat := do
  let ds ← takeWhile isHexDigit count
  let escape := '\\' :: letter :: ds
  if ds.length ≠ count then fail (.incompleteEscape escape) escape.length
  if Numeral.value 16 ds > 0x10FFFF then fail (.badEscape escape) escape.length
  return Numeral.value 16 ds

/-- An escape by name. No names of characters are known. -/
def namedEscape : Read Nat := do
  unless ← accept '\x7b' do fail .missingBrace
  let n ← name '\x7d' "character name"
  fail (.unknownCharacterName n) (n.length + 4)

/-- The character that a letter behind a backslash stands for. -/
def control? : Char → Option Nat
  | 'a' => some 7
  | 'b' => some 8
  | 'f' => some 12
  | 'n' => some 10
  | 'r' => some 13
  | 't' => some 9
  | 'v' => some 11
  | '\\' => some 92
  | _ => none

/-- The class that a letter behind a backslash stands for. -/
def kind? : Char → Option (Kind × Bool)
  | 'd' => some (.digit, false)
  | 'D' => some (.digit, true)
  | 's' => some (.space, false)
  | 'S' => some (.space, true)
  | 'w' => some (.word, false)
  | 'W' => some (.word, true)
  | _ => none

/-- The condition that a letter behind a backslash stands for. -/
def anchor? : Char → Option Anchor
  | 'A' => some .textStart
  | 'b' => some .boundary
  | 'B' => some .noBoundary
  | 'Z' => some .textEnd
  | _ => none

/-- A backslash and a character that means itself. -/
def plainEscape (c : Char) : Read Nat := do
  if c.isAlpha then fail (.badEscape ['\\', c]) 2
  return c.toNat

/-- An escape inside a set. -/
def setEscape (c : Char) : Read Member := do
  match control? c, kind? c with
  | some n, _ => return .point n
  | none, some (k, negated) => return .kind k negated
  | none, none =>
    if c = 'x' then return .point (← hexEscape 'x' 2)
    if c = 'u' then return .point (← hexEscape 'u' 4)
    if c = 'U' then return .point (← hexEscape 'U' 8)
    if c = 'N' then return .point (← namedEscape)
    if isOctalDigit c then
      let ds := c :: (← takeWhile isOctalDigit 2)
      if Numeral.value 8 ds > 255 then fail (.octalTooLarge ('\\' :: ds)) (ds.length + 1)
      return .point (Numeral.value 8 ds)
    if c.isDigit then fail (.badEscape ['\\', c]) 2
    return .point (← plainEscape c)

/-- An escape that begins with a digit other than zero: three octal digits are a character,
anything else names a group. -/
def digitEscape (c : Char) : Read Node := do
  let second ← takeWhile Char.isDigit 1
  let third ←
    if isOctalDigit c && !second.isEmpty && second.all isOctalDigit then takeWhile isOctalDigit 1
    else pure []
  let ds := c :: second ++ third
  if !third.isEmpty then
    if Numeral.value 8 ds > 255 then fail (.octalTooLarge ('\\' :: ds)) (ds.length + 1)
    return .point (Numeral.value 8 ds)
  let g := Numeral.value 10 ds
  if g < (← get).groups.length then
    unless ← isClosed g do fail .openGroup (ds.length + 1)
    checkLookBehind g
    return .reference g
  fail (.noSuchGroup g) ds.length

/-- An escape outside of sets. -/
def escape (c : Char) : Read Node := do
  match anchor? c, kind? c, control? c with
  | some a, _, _ => return .anchor a
  | none, some (k, negated), _ => return .set false [.kind k negated]
  | none, none, some n => return .point n
  | none, none, none =>
    if c = 'x' then return .point (← hexEscape 'x' 2)
    if c = 'u' then return .point (← hexEscape 'u' 4)
    if c = 'U' then return .point (← hexEscape 'U' 8)
    if c = 'N' then return .point (← namedEscape)
    if c = '0' then return .point (Numeral.value 8 (← takeWhile isOctalDigit 2))
    if c.isDigit then return ← digitEscape c
    return .point (← plainEscape c)

/-! ### Sets -/

/-- A member of a set, or the lower end of a range. -/
def setToken (token : Text) : Read Member :=
  match token with
  | ['\\', c] => setEscape c
  | c :: _ => return .point c.toNat
  | [] => return .point 0

/-- The members of a set that was opened at `start`, up to its closing bracket. A bracket that
comes first closes nothing. -/
def members (start : Nat) (isFirst : Bool) : (fuel : Nat) → Read (List Member)
  | 0 => failAt .unterminatedSet start
  | fuel + 1 => do
    match ← take with
    | none => failAt .unterminatedSet start
    | some token =>
      if token = [']'] && !isFirst then return []
      let lo ← setToken token
      if ← accept '-' then
        match ← take with
        | none => failAt .unterminatedSet start
        | some token' =>
          if token' = [']'] then return [lo, .point '-'.toNat]
          let hi ← setToken token'
          let bad : Read (List Member) :=
            fail (.badRange token token') (token.length + 1 + token'.length)
          match lo, hi with
          | .point a, .point b =>
            if b < a then bad else return .range a b :: (← members start false fuel)
          | _, _ => bad
      else return lo :: (← members start false fuel)

/-! ### Repetitions -/

/-- The greatest number of repetitions that can be asked for, plus one. -/
def maxRepeat : Nat := 4294967295

/-- The bounds in braces behind an opening brace; if it is no repetition, nothing is taken. -/
def bounds? : Read (Option (Nat × Option Nat)) := do
  let before ← get
  if ← sees '\x7d' then return none
  let many := before.rest.length
  let lo ← takeWhile Char.isDigit many
  let hi ← if ← accept ',' then takeWhile Char.isDigit many else pure lo
  unless ← accept '\x7d' do
    set before
    return none
  let checkLength (ds : Text) : Read Unit := do
    if ds.length > Numeral.maxDigits then throw ⟨.longNumeral ds.length, none, before.source⟩
  checkLength lo
  let min := Numeral.value 10 lo
  if min ≥ maxRepeat then throw ⟨.repetitionTooLarge, none, before.source⟩
  if hi.isEmpty then return some (min, none)
  checkLength hi
  let max := Numeral.value 10 hi
  if max ≥ maxRepeat then throw ⟨.repetitionTooLarge, none, before.source⟩
  if max < min then failAt .minAboveMax before.position
  return some (min, some max)

/-- The bounds that a sign of repetition gives. -/
def repetition? (c : Char) : Read (Option (Nat × Option Nat)) := do
  match c with
  | '?' => return some (0, some 1)
  | '*' => return some (0, none)
  | '+' => return some (1, none)
  | _ => bounds?

/-- The sign behind a repetition that says how it chooses. -/
def greed : Read Greed := do
  match ← peek with
  | some ['?'] => move 1; return .lazy
  | some ['+'] => move 1; return .possessive
  | _ => return .greedy

/-- Repeats the last of the nodes read so far, which stand in reverse. The sign of repetition
stands at `start`. -/
def repeatLast (start : Nat) (bounds : Nat × Option Nat) (before : List Node) :
    Read (List Node) := do
  match before with
  | [] | .anchor _ :: _ => failAt .nothingToRepeat start
  | .repeated .. :: _ => failAt .multipleRepeat start
  | n :: ns =>
    return .repeated (← greed) bounds.1 bounds.2 [n] :: ns

/-! ### Flags -/

/-- The flag of a letter. The flag of locales is there only to be refused. -/
def flag? : Char → Option Flags
  | 'i' => some { ignoreCase := true }
  | 'm' => some { multiline := true }
  | 's' => some { dotAll := true }
  | 'x' => some { verbose := true }
  | 'a' => some { ascii := true }
  | 'u' => some { unicode := true }
  | 't' => some { template := true }
  | 'L' => some {}
  | _ => none

/-- The token is a letter, which no escape is. -/
def isLetterToken : Text → Bool
  | [c] => if c.toNat < 0x80 then c.isAlpha else Ranges.has Category.letters c.toNat
  | _ => false

/-- Flags to be turned on, from the token `token` on; with them the token that ends them. -/
def flagsOn (token : Text) (on : Flags) : (fuel : Nat) → Read (Flags × Text)
  | 0 => fail .flagsUnfinished
  | fuel + 1 => do
    let letter := token.headD ' '
    if letter = 'L' then fail .localeFlag
    let on := on.union ((flag? letter).getD {})
    if on.ascii && on.unicode then fail .flagsInConflict
    match ← take with
    | none => fail .flagsUnfinished
    | some next =>
      if [[')'], ['-'], [':']].contains next then return (on, next)
      match next with
      | [c] =>
        if (flag? c).isNone then
          fail (if isLetterToken next then .unknownFlag else .flagsUnfinished) 1
      | _ => fail .flagsUnfinished next.length
      flagsOn next on fuel

/-- Flags to be turned off, from the token `token` on, up to a colon. -/
def flagsOff (token : Text) (off : Flags) : (fuel : Nat) → Read Flags
  | 0 => fail .colonMissing
  | fuel + 1 => do
    let letter := token.headD ' '
    if letter = 'a' || letter = 'u' || letter = 'L' then fail .kindFlagOff
    let off := off.union ((flag? letter).getD {})
    match ← take with
    | none => fail .colonMissing
    | some next =>
      if next = [':'] then return off
      match next with
      | [c] =>
        if (flag? c).isNone then
          fail (if isLetterToken next then .unknownFlag else .colonMissing) 1
      | _ => fail .colonMissing next.length
      flagsOff next off fuel

/-- The flags of a group, from its first letter or sign on: those turned on and off inside it, or
nothing if they hold for the whole expression. -/
def groupFlags (token : Text) : Read (Option (Flags × Flags)) := do
  let fuel := (← get).rest.length + 1
  let (on, next) ← if token = ['-'] then pure ({}, token) else flagsOn token {} fuel
  if next = [')'] then
    modify fun s => { s with flags := s.flags.union on }
    return none
  if on.template then fail .globalFlagOn 1
  let mut off : Flags := {}
  if next = ['-'] then
    match ← take with
    | none => fail .flagMissing
    | some first =>
      match first with
      | [c] =>
        if (flag? c).isNone then
          fail (if isLetterToken first then .unknownFlag else .flagMissing) 1
      | _ => fail .flagMissing first.length
      off ← flagsOff first {} fuel
  if off.template then fail .globalFlagOff 1
  unless (on.inter off).isNone do fail .flagOnAndOff 1
  return some (on, off)

/-! ### Conditions -/

/-- The number of groups that an expression can have, plus one. -/
def maxGroups : Nat := 1073741823

/-- The group that a condition names. -/
def conditionGroup : Read Nat := do
  let n ← name ')' "group name"
  if isIdentifier n then
    match (← get).names.lookup n with
    | some g => return g
    | none => fail (.unknownGroupName n) (n.length + 1)
  else
    let isShort := Numeral.digitCount n ≤ Numeral.maxDigits
    match (Numeral.integer? 10 n).filter (fun g => 0 ≤ g && isShort) |>.map Int.toNat with
    | none => fail (.badGroupName n) (n.length + 1)
    | some 0 => fail .badGroupNumber (n.length + 1)
    | some g =>
      if g ≥ maxGroups then fail (.noSuchGroup g) (n.length + 1)
      modify fun s =>
        if (s.conditions.lookup g).isSome then s
        else { s with conditions := s.conditions ++ [(g, s.position - n.length - 1)] }
      return g

/-! ### Expressions -/

/-- A blank that a verbose expression may hold. -/
def isLayout (c : Char) : Bool := " \t\n\r\x0b\x0c".toList.contains c

/-- Passes over the rest of a line. -/
def skipLine : (fuel : Nat) → Read Unit
  | 0 => return
  | fuel + 1 => do
    match ← take with
    | none => return
    | some token => unless token = ['\n'] do skipLine fuel

/-- Passes over a comment of a group that was opened at `start`. -/
def skipComment (start : Nat) : (fuel : Nat) → Read Unit
  | 0 => failAt .unterminatedComment start
  | fuel + 1 => do
    match ← take with
    | none => failAt .unterminatedComment start
    | some token => unless token = [')'] do skipComment start fuel

/-- The name of a group up to its terminator. -/
def groupName (terminator : Char) : Read Text := do
  let n ← name terminator "group name"
  unless isIdentifier n do fail (.badGroupName n) (n.length + 1)
  return n

/-- A reference to a group by name. -/
def namedReference : Read Node := do
  let n ← groupName ')'
  match (← get).names.lookup n with
  | none => fail (.unknownGroupName n) (n.length + 1)
  | some g =>
    unless ← isClosed g do fail .openGroup (n.length + 1)
    checkLookBehind g
    return .reference g

/-- What the signs behind an opening parenthesis ask for. -/
inductive Opening where
  | capture (name : Option Text)
  | plain (on off : Flags)
  | atomic
  | ahead (negated : Bool)
  | behind (negated : Bool)
  | condition
  | reference
  | comment
  | flags

/-- Reads the signs behind an opening parenthesis. -/
def opening : Read Opening := do
  unless ← accept '?' do return .capture none
  match ← take with
  | none => fail .unexpectedEnd
  | some token =>
    match token with
    | ['P'] =>
      if ← accept '<' then return .capture (some (← groupName '>'))
      if ← accept '=' then return .reference
      match ← take with
      | none => fail .unexpectedEnd
      | some token' => fail (.unknownExtension ("?P".toList ++ token')) (token'.length + 2)
    | [':'] => return .plain {} {}
    | ['#'] => return .comment
    | ['='] => return .ahead false
    | ['!'] => return .ahead true
    | ['<'] =>
      match ← take with
      | none => fail .unexpectedEnd
      | some ['='] => return .behind false
      | some ['!'] => return .behind true
      | some token' => fail (.unknownExtension ("?<".toList ++ token')) (token'.length + 2)
    | ['('] => return .condition
    | ['>'] => return .atomic
    | [c] =>
      if c = '-' || (flag? c).isSome then
        match ← groupFlags [c] with
        | none => return .flags
        | some (on, off) => return .plain on off
      else fail (.unknownExtension ['?', c]) 2
    | _ => fail (.unknownExtension ('?' :: token)) (token.length + 1)

/-- The closing parenthesis of a group that was opened at `start`. -/
def close (start : Nat) : Read Unit := do
  unless ← accept ')' do failAt .unterminatedGroup start

mutual

/-- Alternatives up to the end or a closing parenthesis. Only the outermost ones may set flags
for the whole expression, and only where they begin. -/
def alternatives (verbose outermost isFirst : Bool) :
    (fuel : Nat) → Read (List (List Node))
  | 0 => return []
  | fuel + 1 => do
    let first ← sequence verbose (outermost && isFirst) [] fuel
    if ← accept '|' then
      let flags := (← get).flags
      let verbose := if outermost then flags.verbose else verbose
      return first :: (← alternatives verbose outermost false fuel)
    return [first]

/-- Nodes up to a bar, a closing parenthesis or the end; `before` are those read so far, in
reverse. -/
def sequence (verbose mayFlag : Bool) (before : List Node) :
    (fuel : Nat) → Read (List Node)
  | 0 => return before.reverse
  | fuel + 1 => do
    match ← peek with
    | none | some ['|'] | some [')'] => return before.reverse
    | some token =>
      let start := (← get).position
      move token.length
      match token with
      | ['\\', c] =>
        let n ← escape c
        sequence verbose mayFlag (n :: before) fuel
      | [c] =>
        if verbose && isLayout c then sequence verbose mayFlag before fuel
        else if verbose && c = '#' then
          skipLine (← get).rest.length
          sequence verbose mayFlag before fuel
        else
          match c with
          | '[' =>
            let negated ← accept '^'
            let ms ← members start true ((← get).rest.length + 1)
            sequence verbose mayFlag (.set negated ms :: before) fuel
          | '?' | '*' | '+' | '\x7b' =>
            match ← repetition? c with
            | none => sequence verbose mayFlag (.point c.toNat :: before) fuel
            | some bounds =>
              let nodes ← repeatLast start bounds before
              sequence verbose mayFlag nodes fuel
          | '.' => sequence verbose mayFlag (.any :: before) fuel
          | '^' => sequence verbose mayFlag (.anchor .lineStart :: before) fuel
          | '$' => sequence verbose mayFlag (.anchor .lineEnd :: before) fuel
          | '(' =>
            match ← opening with
            | .comment =>
              skipComment start ((← get).rest.length + 1)
              sequence verbose mayFlag before fuel
            | .flags =>
              unless mayFlag && before.isEmpty do failAt .lateFlags start
              let s ← get
              sequence s.flags.verbose mayFlag before fuel
            | .reference =>
              let n ← namedReference
              sequence verbose mayFlag (n :: before) fuel
            | .condition =>
              let g ← conditionGroup
              checkLookBehind g
              let yes ← sequence verbose false [] fuel
              let no ← if ← accept '|' then
                  let no ← sequence verbose false [] fuel
                  if ← sees '|' then fail .tooManyBranches
                  pure no
                else pure []
              close start
              sequence verbose mayFlag (.ifMatched g yes no :: before) fuel
            | .ahead negated =>
              let body ← alternatives verbose false true fuel
              close start
              sequence verbose mayFlag (.ahead negated [.branch body] :: before) fuel
            | .behind negated =>
              let outside := (← get).lookBehind
              modify fun s => { s with lookBehind := outside.or (some s.groups.length) }
              let body ← alternatives verbose false true fuel
              modify fun s => { s with lookBehind := outside }
              close start
              sequence verbose mayFlag (.behind negated [.branch body] :: before) fuel
            | .atomic =>
              let body ← alternatives verbose false true fuel
              close start
              sequence verbose mayFlag (.atomic [.branch body] :: before) fuel
            | .plain on off =>
              let inner := (verbose || on.verbose) && !off.verbose
              let body ← alternatives inner false true fuel
              close start
              sequence verbose mayFlag (.group none on off [.branch body] :: before) fuel
            | .capture groupName =>
              let number ← openGroup groupName
              let body ← alternatives verbose false true fuel
              close start
              closeGroup number [.branch body]
              sequence verbose mayFlag
                (.group (some number) {} {} [.branch body] :: before) fuel
          | c => sequence verbose mayFlag (.point c.toNat :: before) fuel
      | _ => return before.reverse

end

/-- The whole of an expression. -/
def expression : Read Expression := do
  let s ← get
  if s.rest = ['\\'] then failAt .escapeAtEnd 0
  let body ← alternatives false true true (4 * s.source.length + 8)
  let s ← get
  if s.flags.ascii && s.flags.unicode then throw ⟨.flagsIncompatible, none, s.source⟩
  unless s.rest.isEmpty do fail .unbalancedParenthesis
  match s.conditions.find? fun c => c.1 ≥ s.groups.length with
  | some (g, position) => failAt (.noSuchGroup g) position
  | none => return { nodes := [.branch body], flags := s.flags, widths := ← widths }

end Read

/-! ## Checks -/

mutual

/-- The first of the nodes that cannot be used: a look behind whose width is not fixed, or a
repetition where none is allowed. -/
def check (groups : List (Nat × Nat)) (f : Flags) : List Node → Option Fault
  | [] => none
  | n :: ns => (checkNode groups f n).or (check groups f ns)

def checkNode (groups : List (Nat × Nat)) (f : Flags) : Node → Option Fault
  | .point _ | .any | .set .. | .anchor _ | .reference _ => none
  | .ifMatched _ yes no => (check groups f yes).or (check groups f no)
  | .branch alts => checkAll groups f alts
  | .repeated greed _ _ body =>
    if f.template then some (.templateRepeat greed) else check groups f body
  | .group _ on off body => check groups (f.inGroup on off) body
  | .atomic body | .ahead _ body => check groups f body
  | .behind _ body =>
    let (lo, hi) := widthOf groups body
    if lo > 4294967295 then some .lookBehindTooWide
    else if lo ≠ hi then some .variableLookBehind
    else check groups f body

def checkAll (groups : List (Nat × Nat)) (f : Flags) : List (List Node) → Option Fault
  | [] => none
  | alt :: alts => (check groups f alt).or (checkAll groups f alts)

end

/-- The expression that a text is. -/
def parse (t : Text) : Except Error Expression := do
  let (e, _) ← Read.expression.run { source := t, rest := t, position := 0 }
  match check e.widths e.flags e.nodes with
  | some fault => throw ⟨fault, none, t⟩
  | none => return e

end DocPress.Regex
