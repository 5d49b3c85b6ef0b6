import DocPress.Text.Basic

/-!
# Doc comments

A doc comment, once read, is a summary, a body, and its tags in the order of the source. Each
tag keeps the text that was written behind its name, and beside it the fields that could be
made out in that text.
-/

namespace DocPress

/-- One tag of a doc comment: `kind` is the word behind the at sign, `string` what follows it.
The other fields are a reading of `string`: the alternatives of a type, a name, a description. -/
structure Tag where
  kind : Text
  string : Text
  types : List Text := []
  name : Text := []
  description : Text := []
deriving Repr, DecidableEq

/-- A doc comment and the place where it opens. -/
structure Comment where
  file : Text
  line : Int
  summary : Text := []
  body : Text := []
  tags : List Tag := []
deriving Repr, DecidableEq

namespace Comment

/-- Summary and body with an empty line between, or the one that is there. -/
def description (c : Comment) : Text :=
  if !c.summary.isEmpty && !c.body.isEmpty then c.summary ++ '\n' :: '\n' :: c.body
  else if c.summary.isEmpty then c.body
  else c.summary

/-- The tags of one kind, in order. -/
def tagsOf (c : Comment) (kind : Text) : List Tag := c.tags.filter (·.kind = kind)

/-- The first tag of one kind. -/
def firstTag? (c : Comment) (kind : Text) : Option Tag := c.tags.find? (·.kind = kind)

/-- File and line, as messages name the place of a comment. -/
def place (c : Comment) : String := s!"{c.file.str}:{c.line}"

theorem firstTag?_eq_head? (c : Comment) (kind : Text) :
    c.firstTag? kind = (c.tagsOf kind).head? := by
  simp [firstTag?, tagsOf]

end Comment
end DocPress
