import DocPress.Text.Numeral
import DocPress.Text.Quoted

/-!
# Faulty YAML

A text may fail to be YAML at several stages: in its characters, its tokens, the structure that
the tokens make, and the references from one place to another. What is YAML may still stand for
no value; a scalar whose kind is written down may also hold what that kind cannot.
-/

namespace DocPress.Yaml

/-- A scalar or an escape that holds what its kind cannot. -/
inductive RangeFault where
  | codePoint
  | hugeCodePoint
  | integer (base : Nat) (text : Text)
  /-- A decimal numeral has too many digits. -/
  | longNumeral (digits : Nat)
  | float (text : Text)
  /-- A place of base sixty is worth more than any number with a point. -/
  | hugePlace
  | year (n : Nat)
  | month
  | day
  | hour
  | minute
  | second
  /-- The distance from universal time, in minutes, is a day or more. -/
  | offset (minutes : Int)
  | empty
  | truth (text : Text)
  | timestamp
deriving Repr, DecidableEq

/-- A length of time as days and seconds, of which only days can be negative. -/
def durationText (minutes : Int) : String :=
  let days := Int.fdiv minutes 1440
  let seconds := Int.fmod minutes 1440 * 60
  let parts := (if days = 0 then [] else [s!"days={days}"]) ++
    (if seconds = 0 then [] else [s!"seconds={seconds}"])
  "datetime.timedelta(" ++ (if parts.isEmpty then "0" else ", ".intercalate parts) ++ ")"

def RangeFault.message : RangeFault → String
  | codePoint => "chr() arg not in range(0x110000)"
  | hugeCodePoint => "Python int too large to convert to C int"
  | integer base t => s!"invalid literal for int() with base {base}: {t.quoted.str}"
  | longNumeral digits => Numeral.tooLong digits
  | float t => s!"could not convert string to float: {t.quoted.str}"
  | hugePlace => "int too large to convert to float"
  | year n => s!"year {n} is out of range"
  | month => "month must be in 1..12"
  | day => "day is out of range for month"
  | hour => "hour must be in 0..23"
  | minute => "minute must be in 0..59"
  | second => "second must be in 0..59"
  | offset minutes =>
    "offset must be a timedelta strictly between -timedelta(hours=24) and " ++
      s!"timedelta(hours=24), not {durationText minutes}."
  | empty => "string index out of range"
  | truth t => t.quoted.str
  | timestamp => "'NoneType' object has no attribute 'groupdict'"

/-- Why a text has no value. -/
inductive Error where
  /-- It holds a character that YAML does not admit. -/
  | character
  /-- Some characters make no token. -/
  | token
  /-- The tokens make no document. -/
  | document
  /-- A reference leads nowhere, an anchor comes twice, or there is a second document. -/
  | reference
  /-- A node stands for no value. -/
  | meaning
  | range (f : RangeFault)
deriving Repr, DecidableEq

end DocPress.Yaml
