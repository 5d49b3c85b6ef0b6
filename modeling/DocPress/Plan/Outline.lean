import DocPress.Comment.Basic
import DocPress.Document
import DocPress.Plan.FileName

/-!
# Outlines

The outline of a document is the list of its entries in reading order: leaves, which name a page
file and the sections that go into it, and branches, which only head the entries below them. It
decides where everything goes; what navigation and files are made of it is told in `Plan`.

Pages become directories and sections become files. The layout by pages differs in that a page
inside the document collects its sections in one file: its own file if there are no pages inside
it, otherwise the index of its directory.
-/

namespace DocPress

/-- Which files a page inside a document makes. -/
inductive Layout where
  /-- A file for each section. -/
  | sections
  /-- A file for each page. -/
  | pages
deriving Repr, DecidableEq

namespace Layout

def name : Layout → Text
  | sections => "sections".toList
  | pages => "pages".toList

/-- The layouts, in the order in which they are offered. -/
def all : List Layout := [sections, pages]

/-- The names on offer, as messages list them. -/
def choices : String := ", ".intercalate (all.map fun l => l.name.str)

/-- The layout of the given name. -/
def ofName? (t : Text) : Option Layout := all.find? (·.name = t)

end Layout

/-- A section as it stands in a page file: its title and its comments. -/
abbrev Block := Text × List Comment

/-- An entry of an outline, `depth` levels below the top. -/
inductive Entry where
  /-- A title and the page file behind it, to which it adds sections. -/
  | leaf (depth : Nat) (title path : Text) (blocks : List Block)
  /-- A title above the entries of a page. -/
  | branch (depth : Nat) (title : Text)
deriving Repr, DecidableEq

namespace Outline

/-- The path of a file in nested directories. -/
def joinPath (directories : List Text) (file : Text) : Text :=
  Text.join ['/'] (directories ++ [file])

/-- A leaf for each section. -/
def sectionLeaves (directories : List Text) (depth : Nat) (blocks : List Block) : List Entry :=
  blocks.map fun (title, cs) =>
    .leaf depth title (joinPath directories (FileName.page title)) [(title, cs)]

mutual

/-- The entries of a page inside a document. -/
def ofPage (layout : Layout) (directories : List Text) (depth : Nat) :
    Page Comment → List Entry
  | ⟨title, sections, pages⟩ =>
    let inside := directories ++ [FileName.ofTitle title]
    let below := ofPages layout inside (depth + 1) pages
    match layout with
    | .sections => .branch depth title :: (sectionLeaves inside (depth + 1) sections ++ below)
    | .pages =>
      if sections.isEmpty then .branch depth title :: below
      else if pages.isEmpty then
        [.leaf depth title (joinPath directories (FileName.page title)) sections]
      else
        .branch depth title ::
          .leaf (depth + 1) title (joinPath inside FileName.index) sections :: below

/-- The entries of a list of pages. -/
def ofPages (layout : Layout) (directories : List Text) (depth : Nat) :
    List (Page Comment) → List Entry
  | [] => []
  | p :: ps => ofPage layout directories depth p ++ ofPages layout directories depth ps

end

/-- The entries of a document: its own sections, then its pages. -/
def ofDocument (layout : Layout) (d : Document Comment) : List Entry :=
  sectionLeaves [] 0 d.root.sections ++ ofPages layout [] 0 d.root.pages

end Outline
end DocPress
