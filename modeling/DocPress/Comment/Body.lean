import DocPress.Text.Blank
import DocPress.Text.Lines

/-!
# The body of a doc comment

In a source file a doc comment stands between slash-star-star and star-slash, usually with a
gutter of stars down its left side. `Body.ofToken` takes delimiters and gutter away and leaves
the text that was written: no blank lines at the ends, no blanks at the end of a line, and below
the first line no indentation common to all lines.

The first line follows the opening delimiter directly. It has no gutter and no indentation of
its own, so only the lines below it decide whether there is a gutter, and only they share an
indentation.
-/

namespace DocPress.Body

/-- The token opens a doc comment: two stars, and not the empty plain comment. -/
def isDoc (token : Text) : Bool :=
  Text.startsWith ['/', '*', '*'] token && !Text.startsWith ['/', '*', '*', '/'] token

/-- The text without its opening delimiter, all stars of it, and one space after them. -/
def dropOpening : Text → Text
  | '/' :: '*' :: '*' :: t =>
    match t.dropWhile (· == '*') with
    | ' ' :: r => r
    | r => r
  | t => t

/-- The text without its closing delimiter, all stars of it, and the blanks on either side. -/
def dropClosing (t : Text) : Text :=
  match t.reverse.dropWhile isBlank with
  | '/' :: '*' :: r => ((r.dropWhile (· == '*')).dropWhile isBlank).reverse
  | _ => t

/-- Tab or space: what indentation is made of. -/
def isIndent (c : Char) : Bool := c == '\t' || c == ' '

/-- The first character behind the indentation is a star. -/
def hasStar (l : Text) : Bool := Text.startsWith ['*'] (l.dropWhile isIndent)

/-- The line without indentation and star, if it has a star. -/
def dropStar (l : Text) : Text :=
  match l.dropWhile isIndent with
  | '*' :: r => r
  | _ => l

/-- The line without one leading space. -/
def dropSpace : Text → Text
  | ' ' :: r => r
  | l => l

/-- The lines without their gutter. There is one if some line below the first is not blank and
each that is not blank starts with a star. -/
def dropGutter : List Text → List Text
  | [] => []
  | first :: below =>
    let marked := below.filter (!Text.isBlankText ·)
    if !marked.isEmpty && marked.all hasStar then
      first :: below.map fun l => dropSpace (dropStar l)
    else first :: below

/-- The lines between the blank ones at either end. -/
def trimBlankLines (ls : List Text) : List Text :=
  ((ls.dropWhile Text.isBlankText).reverse.dropWhile Text.isBlankText).reverse

/-- The indentation of a line. -/
def indentOf (l : Text) : Text := l.takeWhile isIndent

/-- The indentation that all the lines begin with. -/
def commonIndent : List Text → Text
  | [] => []
  | l :: ls => ls.foldl (fun common m => Text.commonStart common (indentOf m)) (indentOf l)

/-- The line without `indent`, if it begins with it. -/
def outdent (indent l : Text) : Text := (Text.after? indent l).getD l

/-- The lines with the indentation taken away that all but the first share. -/
def dropIndent : List Text → List Text
  | [] => []
  | first :: below =>
    let common := commonIndent (below.filter (!Text.isBlankText ·))
    first :: below.map (outdent common)

/-- The lines joined, the first one stripped at both ends and the others at their end. -/
def assemble : List Text → Text
  | [] => []
  | first :: below =>
    Text.stripEnd (Text.join ['\n'] (Text.strip first :: below.map Text.stripEnd))

/-- The text that a comment's token holds between delimiters and gutter. -/
def ofToken (token : Text) : Text :=
  assemble (dropIndent (trimBlankLines (dropGutter (Text.lines
    (dropClosing (dropOpening token))))))

end DocPress.Body
