import DocPress.Text.Blank
import DocPress.Text.Category

/-!
# Lexemes

The shapes that the lexer looks for at a place in a script. Each function answers how many
characters the shape takes from there on, and zero if it is not there: no lexeme is empty.

None of the shapes has two ways to match that differ in length, except where the longer way is
meant, so each is found in one pass.
-/

namespace DocPress.Script

/-- The length of the run of characters of a class that the text begins with. -/
def many (p : Char → Bool) (t : Text) : Nat := (t.takeWhile p).length

/-- The length of `w`, if the text begins with it. -/
def exactly (w t : Text) : Nat := if Text.startsWith w t then w.length else 0

/-- The first length that is not zero. -/
def orElse (n m : Nat) : Nat := if n = 0 then m else n

/-- The words in a line of words. -/
def wordList (s : String) : List Text := Text.splitOn ' ' s.toList

/-- One of the words, with no word character behind it. -/
def word (ws : List Text) (t : Text) : Nat :=
  let w := t.takeWhile isWord
  if ws.contains w then w.length else 0

/-- The place between the two characters is a boundary of a word. -/
def startsWord (before : Option Char) : Bool := !before.any isWord

/-- The text is at the start of a line. -/
def startsLine (before : Option Char) : Bool := before.all (· == '\n')

/-! ## Blanks and comments -/

/-- The length up to the end of `mark`, where it first occurs. -/
def through (mark : Text) : Text → Option Nat
  | [] => none
  | c :: cs =>
    if Text.startsWith mark (c :: cs) then some mark.length else (through mark cs).map (· + 1)

/-- A comment between slash-star and star-slash. -/
def blockComment : Text → Nat
  | '/' :: '*' :: t => (through ['*', '/'] t).elim 0 (· + 2)
  | _ => 0

/-- A comment that runs to the end of the line. -/
def lineComment : Text → Nat
  | '/' :: '/' :: t => many (· != '\n') t + 2
  | _ => 0

/-! ## Numbers -/

def isBinaryDigit (c : Char) : Bool := c == '0' || c == '1'

def isOctalDigit (c : Char) : Bool := '0' ≤ c && c ≤ '7'

def isHexDigit (c : Char) : Bool :=
  c.isDigit || ('a' ≤ c && c ≤ 'f') || ('A' ≤ c && c ≤ 'F')

/-- At least one digit and perhaps an `n`, behind `skip` characters of a leader. -/
def digitsAfter (skip : Nat) (p : Char → Bool) (t : Text) : Nat :=
  let t := t.drop skip
  let n := many p t
  if n = 0 then 0 else skip + n + exactly ['n'] (t.drop n)

/-- A numeral with a base of its own: binary, octal (an `o` may be missing) or hexadecimal. -/
def radixNumber : Text → Nat
  | '0' :: c :: t =>
    if c = 'b' || c = 'B' then digitsAfter 2 isBinaryDigit ('0' :: c :: t)
    else if c = 'o' || c = 'O' then digitsAfter 2 isOctalDigit ('0' :: c :: t)
    else if c = 'x' || c = 'X' then digitsAfter 2 isHexDigit ('0' :: c :: t)
    else digitsAfter 1 isOctalDigit ('0' :: c :: t)
  | _ => 0

/-- Digits with an `n` behind them. -/
def bigNumber (t : Text) : Nat :=
  let n := many Char.isDigit t
  if n ≠ 0 && Text.startsWith ['n'] (t.drop n) then n + 1 else 0

/-- Digits, a point and digits, of which those on one side may be missing. -/
def mantissa (t : Text) : Nat :=
  let n := many Char.isDigit t
  match t.drop n with
  | '.' :: r =>
    let m := many Char.isDigit r
    if n = 0 && m = 0 then 0 else n + 1 + m
  | _ => n

/-- The sign and the digits behind the mark of an exponent. -/
def exponent : Text → Nat
  | e :: t =>
    if e = 'e' || e = 'E' then
      let sign := match t with
        | '-' :: _ | '+' :: _ => 1
        | _ => 0
      let n := many Char.isDigit (t.drop sign)
      if n = 0 then 0 else 1 + sign + n
    else 0
  | [] => 0

/-- A decimal number. -/
def decimalNumber (t : Text) : Nat :=
  let n := mantissa t
  if n = 0 then 0 else n + exponent (t.drop n)

/-- A number of any form. -/
def number (t : Text) : Nat :=
  orElse (radixNumber t) (orElse (bigNumber t) (decimalNumber t))

/-! ## Names -/

/-- A backslash, a `u` and four hexadecimal digits. -/
def unicodeEscape : Text → Nat
  | '\\' :: 'u' :: t => if many isHexDigit (t.take 4) = 4 then 6 else 0
  | _ => 0

/-- What may begin an identifier. -/
def isNameStart (c : Char) : Bool := c == '$' || c == '_' || Category.isLetterLike c

/-- What may follow in an identifier. -/
def isNamePart (c : Char) : Bool :=
  c == '$' || Category.isLetterLike c || Category.isNameExtender c ||
    c.toNat == 0x200C || c.toNat == 0x200D

/-- The rest of an identifier; `skip` characters of an escape have still to be passed. -/
def nameRest (skip : Nat) : Text → Nat
  | [] => 0
  | c :: cs =>
    match skip with
    | k + 1 => nameRest k cs + 1
    | 0 =>
      if isNamePart c then nameRest 0 cs + 1
      else if unicodeEscape (c :: cs) ≠ 0 then nameRest 5 cs + 1
      else 0

/-- An identifier. -/
def identifier : Text → Nat
  | [] => 0
  | c :: cs =>
    if isNameStart c then nameRest 0 cs + 1
    else if unicodeEscape (c :: cs) ≠ 0 then nameRest 5 cs + 1
    else 0

/-- A character of a path of properties: word characters, question marks, points, dollars. -/
def isPathChar (c : Char) : Bool := isWord c || c == '?' || c == '.' || c == '$'

/-- What may begin the name of a method. -/
def isMethodStart (c : Char) : Bool := c.isAlpha || c == '_' || c == '?' || c == '.' || c == '$'

/-- A path with an empty parameter list and a body behind it. -/
def method : Text → Nat
  | [] => 0
  | c :: cs =>
    let n := many isPathChar cs
    if isMethodStart c && Text.startsWith "() \x7b".toList (cs.drop n) then n + 1 else 0

/-- A hash and a name. -/
def privateName : Text → Nat
  | '#' :: c :: cs => if c.isAlpha || c == '_' then many isWord cs + 2 else 0
  | _ => 0

/-- The interpreter line that a script may begin with. -/
def hashbang : Text → Nat
  | '#' :: '!' :: t =>
    let blank := exactly [' '] t
    if Text.startsWith ['/'] (t.drop blank) then 2 + many (· != '\n') t else 0
  | _ => 0

/-! ## Strings and regular expressions -/

/-- The rest of a string up to its closing quote. A backslash takes the next character with it. -/
def stringRest (quote : Char) (escaped : Bool) : Text → Option Nat
  | [] => none
  | c :: cs =>
    if escaped then (stringRest quote false cs).map (· + 1)
    else if c = quote then some 1
    else (stringRest quote (c == '\\') cs).map (· + 1)

/-- A string between quotes of the same kind; it may go on over lines. -/
def string : Text → Nat
  | c :: cs => if c = '"' || c = '\'' then (stringRest c false cs).elim 0 (· + 1) else 0
  | [] => 0

/-- The rest of a regular expression up to its closing slash. A slash inside a class does not
close it, and it does not go on over a line unless the line break is escaped. -/
def regexRest (inClass escaped : Bool) : Text → Option Nat
  | [] => none
  | c :: cs =>
    if escaped then (regexRest inClass false cs).map (· + 1)
    else if c = '\n' then none
    else if c = '\\' then (regexRest inClass true cs).map (· + 1)
    else if inClass then (regexRest (c != ']') false cs).map (· + 1)
    else if c = '/' then some 1
    else (regexRest (c == '[') false cs).map (· + 1)

/-- A letter that may follow a regular expression. -/
def isRegexFlag (c : Char) : Bool := "gimuysd".toList.contains c

/-- A regular expression with its flags, and no word character behind them. -/
def regex : Text → Nat
  | '/' :: t =>
    match regexRest false false t with
    | none | some 1 => 0
    | some n =>
      let flags := many isRegexFlag (t.drop n)
      if (t.drop (n + flags)).head?.any isWord then 0 else 1 + n + flags
  | _ => 0

/-! ## Operators -/

/-- The first of the texts that is there. -/
def oneOf (ws : List Text) (t : Text) : Nat :=
  (ws.find? (Text.startsWith · t)).elim 0 List.length

/-- Operators that stand alone. -/
def plainOperators : List Text := wordList "++ -- ~ ??= ?? ? :"

/-- Operators that an equals sign may follow. -/
def assignableOperators : List Text :=
  wordList "<< >>> >> == = != ! ** || && - < > + * % & | ^ /"

/-- An operator behind which an operand is due. -/
def operator (t : Text) : Nat :=
  match oneOf plainOperators t with
  | 0 =>
    match t with
    | '\\' :: '\n' :: _ => 1
    | _ =>
      match oneOf assignableOperators t with
      | 0 => 0
      | n + 1 => n + 1 + exactly ['='] (t.drop (n + 1))
  | n + 1 => n + 1

end DocPress.Script
