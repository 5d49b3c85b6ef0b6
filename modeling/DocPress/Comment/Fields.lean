import DocPress.Comment.Basic
import DocPress.Text.Blank

/-!
# Fields of a tag

The text of a tag is free, but much of it follows one form: a type in braces, whose alternatives
are set apart by bars, then for some kinds a name, then a description that a hyphen may
introduce. `Fields.ofTag` makes out what it can and never fails.
-/

namespace DocPress

/-- What can be made out in the text of a tag. -/
structure Fields where
  types : List Text
  name : Text
  description : Text
deriving Repr, DecidableEq

namespace Fields

/-- The kinds of tag whose text names something. -/
def namedKinds : List Text :=
  ["param".toList, "arg".toList, "argument".toList, "data".toList, "property".toList,
   "prop".toList]

/-- A brace, opening or closing. -/
def isBrace (c : Char) : Bool := c == '{' || c == '}'

/-- The text between the braces it begins with, and what follows them. -/
def braced? : Text → Option (Text × Text)
  | '{' :: t =>
    match t.dropWhile (!isBrace ·) with
    | '}' :: r => some (t.takeWhile (!isBrace ·), r)
    | _ => none
  | _ => none

/-- Types in braces and what follows them, provided that this is all on one line. -/
def splitTypes (t : Text) : List Text × Text :=
  match braced? t with
  | none => ([], t)
  | some (inner, r) =>
    let rest := Text.stripStart r
    if rest.contains '\n' then ([], t) else (Text.fields '|' inner, rest)

/-- The text without a leading hyphen and the blanks behind it. -/
def dropHyphen : Text → Text
  | '-' :: r => Text.stripStart r
  | t => t

/-- The first word is the name, and what follows it the description. -/
def splitName (t : Text) : Text × Text :=
  let t := Text.stripStart t
  (t.takeWhile (!isBlank ·), dropHyphen (Text.stripStart (t.dropWhile (!isBlank ·))))

/-- The fields of a tag of the given kind and text. -/
def ofTag (kind string : Text) : Fields :=
  let (types, rest) := splitTypes (Text.strip string)
  if namedKinds.contains kind then
    let (name, description) := splitName rest
    ⟨types, name, description⟩
  else ⟨types, [], rest⟩

end Fields
end DocPress
