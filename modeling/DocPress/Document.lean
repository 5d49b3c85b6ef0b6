import DocPress.Page
import DocPress.Placement

/-!
# Documents

Comments are gathered into documents, each a page with pages inside it, by the placement that
their directives say. Documents, pages and sections stand in the order in which the comments
first name them, and comments in the order in which they come.

A comment whose directive has an empty segment is passed over with a warning. One that has no
directive ends the gathering.
-/

namespace DocPress

/-- A document: a name, and a page that holds all of it. -/
structure Document (α : Type) where
  name : Text
  root : Page α

namespace Document

variable {α : Type}

/-- Puts an item where a placement says. -/
def insert (d : Document α) (p : Placement) (x : α) : Document α :=
  { d with root := d.root.addAt p.pages p.heading x }

/-- Puts an item into the document that its placement names, which is made if it is not there. -/
def insertInto (p : Placement) (x : α) : List (Document α) → List (Document α)
  | [] => [insert ⟨p.document, Page.empty p.document⟩ p x]
  | d :: ds => if d.name = p.document then d.insert p x :: ds else d :: insertInto p x ds

/-- Tells of a document that a comment is the first to name. -/
def newDocument (name : Text) (c : Comment) : Record :=
  { level := .debug
    channel := .builder
    message := s!"New document '{name.str}' from {c.place}" }

/-- Warns that a comment is passed over. -/
def skipping (e : Placement.Error) : Record :=
  { level := .warning
    channel := .builder
    message := s!"Skipping comment: {e.message}" }

/-- Tells how many comments went into how many documents. -/
def built (documents comments : Nat) : Record :=
  { level := .info
    channel := .builder
    message := s!"Built {documents} document tree(s) from {comments} comment(s)" }

/-- Gathers comments into documents, of which `docs` hold the `placed` comments read so far. -/
def gatherFrom (kind : Text) (docs : List (Document Comment)) (placed : Nat) :
    List Comment → Logged (Except Placement.Error (List (Document Comment)))
  | [] => ⟨.ok docs, [built docs.length placed]⟩
  | c :: cs =>
    let names := Placement.segmentsOf c kind
    match names.value with
    | .error (.missing d k) => ⟨.error (.missing d k), names.log⟩
    | .error e =>
      let rest := gatherFrom kind docs placed cs
      ⟨rest.value, names.log ++ skipping e :: rest.log⟩
    | .ok segments =>
      match Placement.ofSegments segments with
      | none =>
        let rest := gatherFrom kind docs placed cs
        ⟨rest.value, names.log ++ rest.log⟩
      | some p =>
        let isNew := docs.all (·.name ≠ p.document)
        let rest := gatherFrom kind (insertInto p c docs) (placed + 1) cs
        ⟨rest.value, names.log ++ (if isNew then [newDocument p.document c] else []) ++ rest.log⟩

/-- The documents that the directives of the given kind make of the comments. -/
def gather (kind : Text) (cs : List Comment) :
    Logged (Except Placement.Error (List (Document Comment))) :=
  gatherFrom kind [] 0 cs

end Document
end DocPress
