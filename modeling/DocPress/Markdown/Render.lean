import DocPress.Markdown.CodeSpan
import DocPress.Markdown.TagForm

/-!
# Rendering comments

A comment becomes Markdown: a heading with its description, a table of parameters, a table of
data, and what is returned. A family without tags leaves nothing behind. A malformed tag leaves
a placeholder that shows it, and a diagnostic.
-/

namespace DocPress

/-- Markdown, and the diagnostics that arose from it, in order. -/
structure Rendered where
  text : Text
  diagnostics : List Diagnostic := []
deriving Repr, DecidableEq

namespace Rendered

/-- Nothing at all. -/
def empty : Rendered := ⟨[], []⟩

instance : Append Rendered where
  append x y := ⟨x.text ++ y.text, x.diagnostics ++ y.diagnostics⟩

/-- The pieces, one after the other. -/
def concat (rs : List Rendered) : Rendered :=
  ⟨rs.flatMap (·.text), rs.flatMap (·.diagnostics)⟩

@[simp] theorem text_append (x y : Rendered) : (x ++ y).text = x.text ++ y.text := rfl

@[simp] theorem diagnostics_append (x y : Rendered) :
    (x ++ y).diagnostics = x.diagnostics ++ y.diagnostics := rfl

end Rendered

namespace Markdown

/-- A line that ends a block, and the empty line below it. -/
def blockEnd : Text := "\n<br><br>\n".toList

/-- The text with its bars escaped, so that it stays in its cell. -/
def escapeBars (t : Text) : Text := Text.replace '|' ['\\', '|'] t

/-- The placeholder for a malformed tag. -/
def placeholder (m : Malformed) : Text :=
  "*Malformed @".toList ++ m.kind ++ " tag:* ".toList ++ CodeSpan.write m.raw

/-- The heading of a comment. -/
def heading (c : Comment) : Rendered :=
  match c.firstTag? TagParts.headingKind with
  | none => ⟨[], [.ofComment c ⟨TagParts.headingKind, [], .missing⟩]⟩
  | some tag =>
    match TagParts.ofHeading tag.string with
    | .ok p => ⟨"### ".toList ++ p.name ++ '\n' :: p.description ++ blockEnd, []⟩
    | .error m => ⟨placeholder m ++ blockEnd, [.ofComment c m]⟩

/-- The head of a table. -/
def tableHead (title : Text) : Text :=
  "#### ".toList ++ title ++ "\nName | Type | Description\n--- | --- | ---\n".toList

/-- The row of a table for one tag. -/
def row (c : Comment) (tag : Tag) : Rendered :=
  match TagParts.ofRow tag.kind tag.string with
  | .ok p =>
    ⟨p.name ++ " | `".toList ++ escapeBars p.type ++ "` | ".toList ++ escapeBars p.description ++
      ['\n'], []⟩
  | .error m =>
    ⟨"&mdash; | &mdash; | ".toList ++ escapeBars (placeholder m) ++ ['\n'], [.ofComment c m]⟩

/-- The rows of a table and the empty line below them. -/
def rows (c : Comment) (tags : List Tag) : Rendered :=
  Rendered.concat (tags.map (row c)) ++ ⟨['\n'], []⟩

/-- The table of the tags of one kind, if there are any. -/
def table (c : Comment) (kind title : Text) : Rendered :=
  match c.tagsOf kind with
  | [] => Rendered.empty
  | tags => ⟨tableHead title, []⟩ ++ rows c tags

/-- The tag that says what is returned: the first one of the longer name, else of the shorter. -/
def returnsTag? (c : Comment) : Option Tag :=
  (c.firstTag? "returns".toList).or (c.firstTag? "return".toList)

/-- What is returned. -/
def returns (c : Comment) : Rendered :=
  match returnsTag? c with
  | none => Rendered.empty
  | some tag =>
    match TagParts.ofReturns tag.string with
    | .ok p => ⟨"#### Returns\n`".toList ++ p.type ++ "` ".toList ++ p.description ++ blockEnd, []⟩
    | .error m => ⟨[], [.ofComment c m]⟩

/-- A comment as Markdown. -/
def comment (c : Comment) : Rendered :=
  heading c ++ table c "param".toList "Params".toList ++ table c "data".toList "Data".toList ++
    returns c

/-- A section: its title and its comments. -/
def ofSection (title : Text) (cs : List Comment) : Rendered :=
  ⟨"## ".toList ++ title ++ ['\n', '\n'], []⟩ ++ Rendered.concat (cs.map comment)

end Markdown
end DocPress
