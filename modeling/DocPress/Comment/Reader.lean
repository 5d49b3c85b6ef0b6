import DocPress.Comment.Fields
import DocPress.Text.Category
import DocPress.Text.Lines

/-!
# Reading a comment

The body of a comment is read line by line. A line whose first word begins with an at sign opens
a tag; the lines up to the next such line belong to the tag and are joined to it by single
spaces. The lines before the first tag are the description, and the first paragraph of the
description is the summary.
-/

namespace DocPress.Comment

/-- A character of a tag's kind, after the first. -/
def isKindChar (c : Char) : Bool := isWord c || c == '-'

/-- The kind and the text of a tag that the line opens. -/
def tagLine? (l : Text) : Option (Text × Text) :=
  match Text.stripStart l with
  | '@' :: c :: r =>
    if isWord c then some (c :: r.takeWhile isKindChar, Text.strip (r.dropWhile isKindChar))
    else none
  | _ => none

/-- The texts that are not empty, with single spaces between them. -/
def joinParts (ts : List Text) : Text := Text.join [' '] (ts.filter (!·.isEmpty))

/-- The lines before the first tag, and the tags with their texts. -/
def blocks : List Text → List Text × List (Text × Text)
  | [] => ([], [])
  | l :: ls =>
    let (free, tags) := blocks ls
    match tagLine? l with
    | some (kind, first) => ([], (kind, joinParts (first :: free.map Text.strip)) :: tags)
    | none => (l :: free, tags)

/-- The blanks that the text begins with hold a line feed. -/
def startsBlankLine (t : Text) : Bool := (t.takeWhile isBlank).contains '\n'

/-- The text before the first empty line, and what follows it. -/
def splitParagraph : Text → Text × Text
  | [] => ([], [])
  | c :: cs =>
    if c = '\n' && startsBlankLine cs then ([], cs)
    else
      let (first, rest) := splitParagraph cs
      (c :: first, rest)

/-- A tag with the fields of its text. -/
def tagOf (kind string : Text) : Tag :=
  let f := Fields.ofTag kind string
  ⟨kind, string, f.types, f.name, f.description⟩

/-- Reads the body of a comment that opens at the given place. -/
def read (body file : Text) (line : Int) : Comment :=
  let (free, tags) := blocks (Text.lines body)
  let (summary, rest) := splitParagraph (Text.trim (· == '\n') (Text.join ['\n'] free))
  { file, line
    summary := Text.strip summary
    body := Text.strip rest
    tags := tags.map fun (kind, string) => tagOf kind string }

end DocPress.Comment
