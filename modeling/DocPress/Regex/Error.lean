import DocPress.Regex.Basic
import DocPress.Text.Numeral
import DocPress.Text.Quoted

/-!
# Faulty expressions

What can be wrong with the text of a regular expression, where, and in which words it is said.
-/

namespace DocPress.Regex

/-- What is wrong. -/
inductive Fault where
  | escapeAtEnd
  | badEscape (escape : Text)
  | incompleteEscape (escape : Text)
  | octalTooLarge (escape : Text)
  | missingBrace
  | missingName (what : String)
  | unterminatedName (terminator : Char)
  | unknownCharacterName (name : Text)
  | badGroupName (name : Text)
  | unknownGroupName (name : Text)
  | groupNameTaken (name : Text) (number earlier : Nat)
  | badGroupNumber
  | noSuchGroup (number : Nat)
  | openGroup
  | lookBehindGroup
  | unterminatedSet
  | badRange (lo hi : Text)
  | nothingToRepeat
  | multipleRepeat
  | minAboveMax
  | unexpectedEnd
  | unknownExtension (text : Text)
  | unterminatedComment
  | unterminatedGroup
  | unbalancedParenthesis
  | tooManyBranches
  | lateFlags
  | unknownFlag
  | flagsUnfinished
  | flagMissing
  | colonMissing
  | localeFlag
  | flagsInConflict
  | globalFlagOn
  | globalFlagOff
  | kindFlagOff
  | flagOnAndOff
  | variableLookBehind
  | lookBehindTooWide
  | templateRepeat (greed : Greed)
  | repetitionTooLarge
  | longNumeral (digits : Nat)
  | flagsIncompatible
deriving Repr, DecidableEq

def Fault.message : Fault → String
  | escapeAtEnd => "bad escape (end of pattern)"
  | badEscape e => s!"bad escape {e.str}"
  | incompleteEscape e => s!"incomplete escape {e.str}"
  | octalTooLarge e => s!"octal escape value {e.str} outside of range 0-0o377"
  | missingBrace => "missing \x7b"
  | missingName what => s!"missing {what}"
  | unterminatedName c => s!"missing {c}, unterminated name"
  | unknownCharacterName n => s!"undefined character name {n.quoted.str}"
  | badGroupName n => s!"bad character in group name {n.quoted.str}"
  | unknownGroupName n => s!"unknown group name {n.quoted.str}"
  | groupNameTaken n number earlier =>
    s!"redefinition of group name {n.quoted.str} as group {number}; was group {earlier}"
  | badGroupNumber => "bad group number"
  | noSuchGroup n => s!"invalid group reference {n}"
  | openGroup => "cannot refer to an open group"
  | lookBehindGroup => "cannot refer to group defined in the same lookbehind subpattern"
  | unterminatedSet => "unterminated character set"
  | badRange lo hi => s!"bad character range {lo.str}-{hi.str}"
  | nothingToRepeat => "nothing to repeat"
  | multipleRepeat => "multiple repeat"
  | minAboveMax => "min repeat greater than max repeat"
  | unexpectedEnd => "unexpected end of pattern"
  | unknownExtension t => s!"unknown extension {t.str}"
  | unterminatedComment => "missing ), unterminated comment"
  | unterminatedGroup => "missing ), unterminated subpattern"
  | unbalancedParenthesis => "unbalanced parenthesis"
  | tooManyBranches => "conditional backref with more than two branches"
  | lateFlags => "global flags not at the start of the expression"
  | unknownFlag => "unknown flag"
  | flagsUnfinished => "missing -, : or )"
  | flagMissing => "missing flag"
  | colonMissing => "missing :"
  | localeFlag => "bad inline flags: cannot use 'L' flag with a str pattern"
  | flagsInConflict => "bad inline flags: flags 'a', 'u' and 'L' are incompatible"
  | globalFlagOn => "bad inline flags: cannot turn on global flag"
  | globalFlagOff => "bad inline flags: cannot turn off global flag"
  | kindFlagOff => "bad inline flags: cannot turn off flags 'a', 'u' and 'L'"
  | flagOnAndOff => "bad inline flags: flag turned on and off"
  | variableLookBehind => "look-behind requires fixed-width pattern"
  | lookBehindTooWide => "looks too much behind"
  | templateRepeat .greedy => "internal: unsupported template operator MAX_REPEAT"
  | templateRepeat .lazy => "internal: unsupported template operator MIN_REPEAT"
  | templateRepeat .possessive => "internal: unsupported template operator POSSESSIVE_REPEAT"
  | repetitionTooLarge => "the repetition number is too large"
  | longNumeral digits => Numeral.tooLong digits
  | flagsIncompatible => "ASCII and UNICODE flags are incompatible"

/-- How grave a fault is. Most make the text no expression at all; some are about the limits and
the options of expressions and are told apart from those. -/
inductive Gravity where
  | malformed
  | overflow
  /-- Some part is not possible with the rest or with the limits of numerals. -/
  | incompatible
deriving Repr, DecidableEq

def Fault.gravity : Fault → Gravity
  | repetitionTooLarge => .overflow
  | longNumeral _ | flagsIncompatible => .incompatible
  | _ => .malformed

/-- A fault and its place in the text, if it has one. -/
structure Error where
  fault : Fault
  position : Option Nat
  source : Text
deriving Repr, DecidableEq

/-- The number of the line that holds a position, and the place of the position in it, both from
one on. -/
def lineAndColumn (t : Text) (position : Nat) : Nat × Nat :=
  let before := t.take position
  (before.count '\n' + 1, (before.reverse.takeWhile (· ≠ '\n')).length + 1)

def Error.message (e : Error) : String :=
  match e.position with
  | none => e.fault.message
  | some position =>
    let place := s!"{e.fault.message} at position {position}"
    if e.source.contains '\n' then
      let (line, column) := lineAndColumn e.source position
      s!"{place} (line {line}, column {column})"
    else place

end DocPress.Regex
