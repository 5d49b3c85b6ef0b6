import DocPress.Comment.Fields
import DocPress.Markdown.Diagnostic

/-!
# The forms of tags

Three forms of tag are rendered: a name and a description, a type with both, and a type with a
description. Blanks stand between the parts, and a hyphen between blanks may stand before the
description.

A hyphen is also a character of names, and a description may begin with one if at least two
blanks stand before it. So a text can be read in more than one way; a hyphen between blanks is
read as the separator where what follows it can be the description. A description goes on to the
end of the text and has no line feed behind its first character.
-/

namespace DocPress

/-- The parts of a tag that has its form; parts that the form lacks are empty. -/
structure TagParts where
  type : Text := []
  name : Text := []
  description : Text := []
deriving Repr, DecidableEq

namespace TagParts

/-- A character of a name. -/
def isNameChar (c : Char) : Bool := c.isAlphanum || "_$-.[]=".toList.contains c

/-- The description that stands behind blanks. -/
def description? (t : Text) : Option Text :=
  match t.takeWhile isBlank, t.dropWhile isBlank with
  | _ :: more, c :: r =>
    if r.contains '\n' || (c = '-' && more.isEmpty) then none else some (c :: r)
  | _, _ => none

/-- The description that stands behind blanks and a hyphen. -/
def separated? (t : Text) : Option Text :=
  match t.takeWhile isBlank, t.dropWhile isBlank with
  | _ :: _, '-' :: r => description? r
  | _, _ => none

/-- A name and a description. -/
def named? (t : Text) : Option (Text × Text) :=
  let name := t.takeWhile isNameChar
  let rest := t.dropWhile isNameChar
  if name.isEmpty then none
  else ((separated? rest).or (description? rest)).map fun d => (name, d)

/-- A type in braces and what follows it. -/
def typed? (t : Text) : Option (Text × Text) :=
  match Fields.braced? t with
  | some (type, rest) => if type.isEmpty then none else some (type, rest)
  | none => none

/-- The kind of tag that a comment's heading is made of. -/
def headingKind : Text := "desc".toList

/-- The kind under which a return value is reported. -/
def returnsKind : Text := "returns".toList

/-- A heading: a name and a description. -/
def ofHeading (raw : Text) : Except Malformed TagParts :=
  match named? (Text.strip raw) with
  | some (name, description) => .ok { name, description }
  | none => .error ⟨headingKind, raw, .notNamed⟩

/-- A row of a table: a type, a name and a description. -/
def ofRow (kind raw : Text) : Except Malformed TagParts :=
  let parts := do
    let (type, rest) ← typed? (Text.strip raw)
    let (name, description) ←
      if (rest.takeWhile isBlank).isEmpty then none else named? (rest.dropWhile isBlank)
    some { type, name, description : TagParts }
  match parts with
  | some p => .ok p
  | none => .error ⟨kind, raw, .notRow⟩

/-- A return value: a type and a description. -/
def ofReturns (raw : Text) : Except Malformed TagParts :=
  let parts := do
    let (type, rest) ← typed? (Text.strip raw)
    let description ← description? rest
    some { type, description : TagParts }
  match parts with
  | some p => .ok p
  | none => .error ⟨returnsKind, raw, .notTyped⟩

end TagParts
end DocPress
