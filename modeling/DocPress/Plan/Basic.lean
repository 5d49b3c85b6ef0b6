import DocPress.Log
import DocPress.Markdown.Render
import DocPress.Plan.Outline

/-!
# Plans

A plan is all that will be written for a document, made before anything is written: the lines of
its navigation and its page files. Leaves of the outline that name the same path share one file,
which holds their sections in the order of the outline; the file keeps the place of the first.

The manifest lists the navigation in YAML. Names stand in single quotes, where a single quote is
written twice and nothing else is special.
-/

namespace DocPress

/-- A page file: its path below the document's pages and the sections in it. -/
structure PageFile where
  path : Text
  blocks : List Block
deriving Repr, DecidableEq

/-- Everything to be written for one document. -/
structure Plan where
  name : Text
  navigation : List Text
  files : List PageFile
  /-- The paths that were produced again, once for each time. -/
  merged : List Text
deriving Repr, DecidableEq

/-- The text of a page file. -/
def PageFile.render (f : PageFile) : Rendered :=
  Rendered.concat (f.blocks.map fun (title, cs) => Markdown.ofSection title cs)

namespace Plan

/-! ## Navigation -/

/-- The text in single quotes. -/
def quote (t : Text) : Text := '\'' :: Text.replace '\'' ['\'', '\''] t ++ ['\'']

/-- A line of the navigation, four spaces deeper for each level. -/
def navLine (depth : Nat) (t : Text) : Text :=
  List.replicate (4 * depth) ' ' ++ '-' :: ' ' :: t

/-- The line of the navigation for an entry of the outline. -/
def entryLine : Entry → Text
  | .leaf depth title path _ => navLine depth (quote title ++ ':' :: ' ' :: quote path)
  | .branch depth title => navLine depth (quote title ++ [':'])

/-! ## Files -/

/-- Adds sections to the file of a path, which is made if it is not there. -/
def addBlocks (path : Text) (blocks : List Block) : List PageFile → List PageFile
  | [] => [⟨path, blocks⟩]
  | f :: fs =>
    if f.path = path then { f with blocks := f.blocks ++ blocks } :: fs
    else f :: addBlocks path blocks fs

/-- The files of the entries, on top of those there are, and the paths that came up again. -/
def fileEntries : List Entry → List PageFile → List PageFile × List Text
  | [], files => (files, [])
  | .branch _ _ :: es, files => fileEntries es files
  | .leaf _ _ path blocks :: es, files =>
    let (result, merged) := fileEntries es (addBlocks path blocks files)
    (result, if files.any (·.path = path) then path :: merged else merged)

/-- The plan of an outline. -/
def ofEntries (name : Text) (es : List Entry) : Plan :=
  let (files, merged) := fileEntries es []
  { name, navigation := es.map entryLine, files, merged }

/-- The plan of a document. -/
def ofDocument (layout : Layout) (d : Document Comment) : Plan :=
  ofEntries d.name (Outline.ofDocument layout d)

/-- Warns that a path was produced again. -/
def mergeWarning (path : Text) : Record :=
  { level := .warning
    channel := .writer
    message := s!"Several pages map to '{path.str}'; their contents are merged into one file" }

/-- What is to be said of the plan. -/
def log (p : Plan) : Log := p.merged.map mergeWarning

/-! ## Texts -/

/-- The manifest. -/
def manifest (p : Plan) : Text :=
  Text.join ['\n'] (("site_name: ".toList ++ quote p.name) :: "pages:".toList ::
    navLine 0 "Home: 'index.md'".toList :: p.navigation) ++ ['\n']

/-- The index page, before any section. -/
def index (p : Plan) : Text := '#' :: ' ' :: p.name ++ ['\n']

/-- Warns that a page file has the path of the index page. -/
def indexShared (path : Text) : Record :=
  { level := .warning
    channel := .writer
    message := s!"Section file '{path.str}' shares its path with the index page; appending it" }

/-- The pages to be written, with their paths, and the diagnostics that rendering gave. -/
structure Pages where
  texts : List (Text × Text)
  diagnostics : List Diagnostic
  log : Log

/-- The text of the index page: its title, and the page file of the same path, if there is one. -/
def indexText (p : Plan) : Text :=
  match p.files.find? (·.path = FileName.index) with
  | none => p.index
  | some f => p.index ++ '\n' :: f.render.text

/-- Warns if the page file is the index page as well. -/
def sharedWarning (f : PageFile) : Log :=
  if f.path = FileName.index then [indexShared f.path] else []

/-- The pages of a plan, the index page first. -/
def render (p : Plan) : Pages :=
  { texts := (FileName.index, p.indexText) ::
      (p.files.filter (·.path ≠ FileName.index)).map fun f => (f.path, f.render.text)
    diagnostics := p.files.flatMap fun f => f.render.diagnostics
    log := p.files.flatMap fun f => f.render.diagnostics.map Diagnostic.record ++ sharedWarning f }

end Plan
end DocPress
