import DocPress.Disk.Basic
import DocPress.Text.Lines

/-!
# Text files

A text file holds UTF-8, and each of its line breaks is read as a line feed. Files in which
scripts are kept are read even if they are no UTF-8: then every byte is a character.
-/

namespace DocPress.Disk

/-- Why a text file cannot be read. -/
inductive TextError where
  | disk (e : Error)
  | decoding (e : Utf8.Error)
deriving Repr, DecidableEq

def TextError.message : TextError → String
  | disk e => e.message
  | decoding e => e.message

/-- The text of a file. -/
def readText (d : Disk) (path : Text) : Except TextError Text :=
  match d.read path with
  | .error e => .error (.disk e)
  | .ok bytes => match Utf8.decodeStream bytes with
    | .error e => .error (.decoding e)
    | .ok t => .ok (Text.unifyBreaks t)

/-- The text of a file that may be no UTF-8. -/
def readAnyText (d : Disk) (path : Text) : Except Error Text :=
  (d.read path).map fun bytes =>
    Text.unifyBreaks (match Utf8.decode bytes with
      | .ok t => t
      | .error _ => Utf8.latin1 bytes)

end DocPress.Disk
