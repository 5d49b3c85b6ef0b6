import DocPress.Regex.Matcher
import DocPress.Source.Ignore

/-!
# Discovery

Source files are looked for in sources, which are files or directories. A directory is listed
with its own files first and then its directories, each in the order of their names; an ignored
directory is not entered. Of the files that are come upon, those count that are not ignored
themselves, in whose path the expression occurs, and whose name or path as seen from the source
fits the glob. A path counts once.

The search ends at the first source that is not there; what was found before it stays found.
-/

namespace DocPress.Discovery

/-- A file that is come upon: its path, and its path as seen from the source. -/
structure Find where
  path : Text
  rel : Text
deriving Repr, DecidableEq

/-- What is looked for, as seen from a directory. -/
structure Search where
  cwd : Text
  /-- What is to be ignored, with no ignore file left to be read. -/
  ignored : List Text
  /-- Has to occur in the path. -/
  regex : Option Regex.Expression
  /-- Has to fit the name or the path as seen from the source; the empty glob asks nothing. -/
  pattern : Text

namespace Search

/-- The path is ignored. -/
def ignores (s : Search) (f : Find) : Bool := Ignore.isIgnored s.cwd s.ignored f.path f.rel

/-- The glob fits. -/
def fitsPattern (s : Search) (f : Find) : Bool :=
  s.pattern.isEmpty || Glob.fits s.pattern (Path.base f.path) || Glob.fits s.pattern f.rel

/-- The file is wanted. -/
def wants (s : Search) (f : Find) : Bool :=
  !s.ignores f && s.regex.all (·.occursIn f.path) && s.fitsPattern f

end Search

/-! ## Listing -/

/-- An entry of a directory. -/
def Find.entry (f : Find) (name : Text) : Find :=
  { path := Path.append f.path name
    rel := if f.rel.isEmpty then name else f.rel ++ '/' :: name }

/-- The names of the files among entries. -/
def fileNames (entries : List (Text × Node)) : List Text :=
  (entries.filter fun e => !e.2.isDir).map (·.1)

/-- The order of listings by the names of the directories. -/
def nameLe (a b : Text × List Find) : Bool := Text.le a.1 b.1

mutual

/-- The files in a directory and below it. -/
def filesBelow (s : Search) (top : Find) : Node → List Find
  | .file _ => []
  | .dir entries =>
    (Text.sort (fileNames entries)).map top.entry ++
      ((listings s top entries).mergeSort nameLe).flatMap (·.2)

/-- The directories among entries that are not ignored, with the files in each and below it. -/
def listings (s : Search) (top : Find) : List (Text × Node) → List (Text × List Find)
  | [] => []
  | (_, .file _) :: es => listings s top es
  | (name, .dir entries) :: es =>
    let here := top.entry name
    if s.ignores here then listings s top es
    else (name, filesBelow s here (.dir entries)) :: listings s top es

end

/-- The files of a source, or nothing if the source is not there. -/
def ofSource? (d : Disk) (s : Search) (source : Text) : Except Text (List Find) :=
  let root := Path.absolute s.cwd source
  match d.node? root with
  | none => .error root
  | some (.file _) => .ok [⟨root, Path.base root⟩]
  | some (.dir entries) => .ok (filesBelow s ⟨root, []⟩ (.dir entries))

/-- The files of the sources up to the first one that is not there, and that one. -/
def ofSources (d : Disk) (s : Search) : List Text → List Find × Option Text
  | [] => ([], none)
  | source :: rest =>
    match ofSource? d s source with
    | .error root => ([], some root)
    | .ok files =>
      let (others, missing) := ofSources d s rest
      (files ++ others, missing)

/-! ## Searching -/

/-- Why a search ends early. -/
inductive Error where
  | ignoreFile (e : Disk.TextError)
  | regex (e : Regex.Error)
  | missingSource (path : Text)
deriving Repr, DecidableEq

def Error.message : Error → String
  | ignoreFile e => e.message
  | regex e => e.message
  | missingSource path => s!"Source path does not exist: {path.str}"

/-- What is to be looked for, as it is written. -/
structure Request where
  cwd : Text
  sources : List Text
  ignored : List Text
  regex : Option Text
  pattern : Text

/-- What a search found, and why it ended early if it did. -/
structure Outcome where
  found : List Text
  failure : Option Error

/-- The expression of a request. -/
def Request.expression (r : Request) : Except Regex.Error (Option Regex.Expression) :=
  match r.regex with
  | none => .ok none
  | some t => (Regex.parse t).map some

/-- Finds the source files that a request asks for. -/
def run (d : Disk) (r : Request) : Logged Outcome :=
  let patterns := Ignore.expand d r.cwd r.ignored
  match patterns.value with
  | .error e => ⟨⟨[], some (.ignoreFile e)⟩, patterns.log⟩
  | .ok ignored => match r.expression with
    | .error e => ⟨⟨[], some (.regex e)⟩, patterns.log⟩
    | .ok regex =>
      let s : Search := { cwd := r.cwd, ignored, regex, pattern := r.pattern }
      let (files, missing) := ofSources d s r.sources
      let found := ((files.filter s.wants).map (·.path)).eraseDups
      ⟨⟨found, missing.map .missingSource⟩, patterns.log⟩

end DocPress.Discovery
