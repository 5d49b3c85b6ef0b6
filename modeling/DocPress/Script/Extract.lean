import DocPress.Comment.Body
import DocPress.Comment.Reader
import DocPress.Script.Lexer

/-!
# Doc comments of a script

A script is prepared, its block comments are found, and those that are doc comments are read.
-/

namespace DocPress.Script

/-- A text without a byte order mark at its start. -/
def dropMark : Text → Text
  | c :: cs => if c.toNat = 0xFEFF then cs else c :: cs
  | [] => []

/-- The script as the lexer reads it: no byte order mark, line feeds only, no line feed at the
start and exactly one at the end. -/
def prepare (t : Text) : Text :=
  Text.trim (· == '\n') (Text.unifyBreaks (dropMark t)) ++ ['\n']

/-- The doc comments of a script, in order. -/
def docComments (d : Dialect) (source file : Text) : List Comment :=
  ((comments d (prepare source)).filter fun (_, token) => Body.isDoc token).map
    fun (line, token) => Comment.read (Body.ofToken token) file line

/-- The dialect of files with the given extension. -/
def dialectOf (extension : Text) : Dialect :=
  if extension = ".ts".toList || extension = ".tsx".toList then .typescript else .javascript

end DocPress.Script
