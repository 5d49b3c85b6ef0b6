import DocPress.Text.Blank
import DocPress.Text.LowerCase

/-!
# File names

The file or directory of a page or section is named after it: in lower case, with a single
hyphen for every run of blanks, slashes and backslashes.
-/

namespace DocPress.FileName

/-- What a hyphen stands for: a blank, a slash or a backslash. -/
def isGap (c : Char) : Bool := isBlank c || c == '/' || c == '\\'

/-- The text with a hyphen for every run of gaps. -/
def hyphenate : Text → Text
  | [] => []
  | c :: cs =>
    if isGap c then (if cs.head?.any isGap then hyphenate cs else '-' :: hyphenate cs)
    else c :: hyphenate cs

/-- The file name that a title gives, without an extension. -/
def ofTitle (title : Text) : Text := hyphenate (Text.lower title)

/-- The name of the Markdown file that a title gives. -/
def page (title : Text) : Text := ofTitle title ++ ".md".toList

/-- The page that stands for its directory. -/
def index : Text := "index.md".toList

end DocPress.FileName
