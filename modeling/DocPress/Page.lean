import DocPress.Text.Basic

/-!
# Pages

A page has a name, sections that hold items in the order in which they came, and pages inside
it. Sections and pages are found by name and made when they are first asked for, so both stand
in the order of first use, and no two of one page share a name.

`Page.find?` and `Page.stored` are the views through which the operations are described: which
pages there are, and what is stored where.
-/

namespace DocPress

/-- A page with its sections and the pages inside it. -/
structure Page (α : Type) where
  name : Text
  sections : List (Text × List α)
  pages : List (Page α)

namespace Page

variable {α : Type}

/-- A page with nothing on it. -/
def empty (name : Text) : Page α := ⟨name, [], []⟩

/-- Adds an item at the end of the named section, which is made if it is not there. -/
def addToSections (heading : Text) (x : α) : List (Text × List α) → List (Text × List α)
  | [] => [(heading, [x])]
  | (h, xs) :: rest =>
    if h = heading then (h, xs ++ [x]) :: rest else (h, xs) :: addToSections heading x rest

/-- The page with an item added to one of its own sections. -/
def add (heading : Text) (x : α) (p : Page α) : Page α :=
  { p with sections := addToSections heading x p.sections }

/-- Changes the first page of the given name; if there is none, a new one, put at the end. -/
def updateNamed (name : Text) (f : Page α → Page α) : List (Page α) → List (Page α)
  | [] => [f (empty name)]
  | q :: qs => if q.name = name then f q :: qs else q :: updateNamed name f qs

/-- Changes the page at the end of a path of names. The pages on the way are made if they are
not there. -/
def updateAt (f : Page α → Page α) : List Text → Page α → Page α
  | [], p => f p
  | n :: path, p => { p with pages := updateNamed n (updateAt f path) p.pages }

/-- Walks a path of names, making the pages on the way that are not there. -/
def visit (path : List Text) (p : Page α) : Page α := updateAt id path p

/-- Adds an item to a section of the page at the end of a path. -/
def addAt (path : List Text) (heading : Text) (x : α) (p : Page α) : Page α :=
  updateAt (add heading x) path p

/-- Adds an item where a list of names says: the last one names the section, those before it the
pages. An empty list says nothing. -/
def build? (names : List Text) (x : α) (p : Page α) : Option (Page α) :=
  names.getLast?.map fun heading => addAt names.dropLast heading x p

/-- The page at the end of a path of names. -/
def find? : List Text → Page α → Option (Page α)
  | [], p => some p
  | n :: path, p => (p.pages.find? (·.name = n)).bind (find? path)

/-- What the named section of a list of sections holds. -/
def inSections (heading : Text) (ss : List (Text × List α)) : List α :=
  ((ss.find? (·.1 = heading)).map (·.2)).getD []

/-- What is stored in a section of the page at the end of a path. -/
def stored (path : List Text) (heading : Text) (p : Page α) : List α :=
  ((p.find? path).map fun q => inSections heading q.sections).getD []

mutual

/-- All items: those of the page's own sections, then those of the pages inside it. -/
def items : Page α → List α
  | ⟨_, sections, pages⟩ => sections.flatMap (·.2) ++ itemsOfAll pages

/-- All items of a list of pages. -/
def itemsOfAll : List (Page α) → List α
  | [] => []
  | p :: ps => items p ++ itemsOfAll ps

end

end Page
end DocPress
