import DocPress.Disk.Basic
import DocPress.Plan.Basic

/-!
# Publishing

Documents are published below an output directory, each in a directory of its own name. What was
there before is taken away first. The pages go into a directory `docs` inside, the manifest beside
it.

All documents are prepared before any page of any of them is written, and all pages are written
before any manifest. A document that cannot be prepared is left out; a page that cannot be
written is reported and the rest goes on. A page whose path leads out of the document's pages is
never written.
-/

namespace DocPress.Publish

/-- Why something was not published. -/
inductive Error where
  /-- The name of a document is no name for a directory. -/
  | unusableName (name : Text)
  | unknownLayout (name : Text)
  /-- The path of a page leads out of the directory of the pages. -/
  | outside (page directory : Text)
  | disk (e : Disk.Error)
deriving Repr, DecidableEq

def Error.message : Error → String
  | unusableName name => s!"Document name {name.quoted.str} cannot be used as a directory name"
  | unknownLayout name => s!"Unknown layout '{name.str}', expected one of: {Layout.choices}"
  | outside page directory =>
    s!"Page path '{page.str}' leaves the document directory {directory.str}"
  | disk e => e.message

/-- What became of a document. -/
structure Result where
  name : Text
  path : Text
  written : List Text := []
  errors : List Error := []
deriving Repr, DecidableEq

/-- Nothing went wrong. -/
def Result.isOk (r : Result) : Bool := r.errors.isEmpty

/-- A document under way: the pages to be written, and the manifest, unless it was given up. -/
structure Job where
  result : Result
  pages : List (Text × Text) := []
  manifest : Option Text := none

/-! ## Records -/

private def info (message : String) : Record := ⟨.info, .writer, message⟩

private def failure (message : String) : Record := ⟨.error, .writer, message⟩

def removing (path : Text) : Record := info s!"Removing previous output {path.str}"

def wrote (path : Text) : Record := info s!"Wrote {path.str}"

def writeFailed (path : Text) (e : Disk.Error) : Record :=
  failure s!"Failed to write {path.str}: {e.message}"

def givenUp (name : Text) (e : Error) : Record :=
  failure s!"\"{name.str}\" docs write failed: {e.message}"

def skippingPage (name : Text) (e : Error) : Record :=
  failure s!"\"{name.str}\" skipping page: {e.message}"

def finished (r : Result) : Record :=
  if r.isOk then info s!"\"{r.name.str}\" docs write complete ({r.written.length} files)"
  else failure s!"\"{r.name.str}\" docs write failed ({r.errors.length} error(s))"

def nothingToWrite : Record := info "No documents to write. Nothing to do."

def writing (count : Nat) (output : Text) : Record :=
  info s!"Writing {count} document(s) to {output.str}"

/-! ## Preparing -/

/-- The name can be that of a directory inside another. -/
def checkName (name : Text) : Except Error Unit :=
  if name = [] || name = Path.dot || name = Path.dotDot || name.contains '/' then
    .error (.unusableName name)
  else .ok ()

/-- The directory of a document. -/
def directory (output name : Text) : Text := Path.append output name

/-- The directory of a document's pages. -/
def pagesDirectory (output name : Text) : Text := Path.append (directory output name) "docs".toList

/-- The path of a document's manifest. -/
def manifestPath (output name : Text) : Text :=
  Path.append (directory output name) "mkdocs.yml".toList

/-- Takes away what is at `path` and makes the directory `pages` in its place. -/
def recreate (d : Disk) (path pages : Text) : Disk × Option Disk.Error × Log :=
  if d.has path then
    match d.removeTree path with
    | .error e => (d, some e, [removing path])
    | .ok d =>
      let (d, e) := d.makeDirs pages
      (d, e, [removing path])
  else
    let (d, e) := d.makeDirs pages
    (d, e, [])

/-- The path on the disk of each page, or the error if it lies outside. -/
def locatePages (cwd directory : Text) (texts : List (Text × Text)) :
    List (Except Error (Text × Text)) :=
  texts.map fun (page, text) =>
    let path := Path.normalize (Path.appendAll directory (Text.splitOn '/' page))
    if Path.isInside cwd path directory then .ok (path, text)
    else .error (.outside page directory)

/-- The values, without the errors. -/
def values {ε α : Type} (xs : List (Except ε α)) : List α :=
  xs.filterMap fun
    | .ok a => some a
    | .error _ => none

/-- The errors, without the values. -/
def errors {ε α : Type} (xs : List (Except ε α)) : List ε :=
  xs.filterMap fun
    | .ok _ => none
    | .error e => some e

/-- A disk, a job, and what was found and said while it was prepared. -/
structure Prepared where
  disk : Disk
  job : Job
  diagnostics : List Diagnostic := []
  log : Log := []

/-- A document that is given up. -/
def giveUp (disk : Disk) (result : Result) (e : Error) (log : Log) : Prepared :=
  { disk
    job := { result := { result with errors := [e] } }
    log := log ++ [givenUp result.name e] }

/-- Checks the name, makes the plan, recreates the directory and renders the pages. -/
def prepare (d : Disk) (output layout : Text) (doc : Document Comment) : Prepared :=
  let result : Result := { name := doc.name, path := directory output doc.name }
  let pages := pagesDirectory output doc.name
  match checkName doc.name with
  | .error e => giveUp d result e []
  | .ok () =>
    match Layout.ofName? layout with
    | none => giveUp d result (.unknownLayout layout) []
    | some layout =>
      let plan := Plan.ofDocument layout doc
      match recreate d result.path pages with
      | (d, some e, log) => giveUp d result (.disk e) (plan.log ++ log)
      | (d, none, log) =>
        let rendered := plan.render
        let located := locatePages d.cwd pages rendered.texts
        { disk := d
          job :=
            { result := { result with errors := errors located }
              pages := values located
              manifest := some plan.manifest }
          diagnostics := rendered.diagnostics
          log := plan.log ++ log ++ rendered.log ++
            (errors located).map (skippingPage doc.name) }

/-- Prepares documents one after the other. -/
def prepareAll (d : Disk) (output layout : Text) :
    List (Document Comment) → Disk × List Job × List Diagnostic × Log
  | [] => (d, [], [], [])
  | doc :: docs =>
    let p := prepare d output layout doc
    let (d, jobs, diagnostics, log) := prepareAll p.disk output layout docs
    (d, p.job :: jobs, p.diagnostics ++ diagnostics, p.log ++ log)

/-! ## Writing -/

/-- Writes a text, after making the directory it goes to. -/
def writeText (d : Disk) (path text : Text) : Disk × Option Disk.Error :=
  match d.makeDirs (Path.parent path) with
  | (d, some e) => (d, some e)
  | (d, none) => match d.write path (Utf8.encode text) with
    | .ok d => (d, none)
    | .error e => (d, some e)

/-- What is said of a write. Of a path that cannot be one nothing is said. -/
def writeLog (path : Text) : Option Disk.Error → Log
  | none => [wrote path]
  | some .nullCharacter => []
  | some e => [writeFailed path e]

/-- Writes a text and notes in the result what became of it. -/
def writeNoting (d : Disk) (r : Result) (path text : Text) : Disk × Result × Log :=
  match writeText d path text with
  | (d, none) => (d, { r with written := r.written ++ [path] }, writeLog path none)
  | (d, some e) => (d, { r with errors := r.errors ++ [.disk e] }, writeLog path (some e))

/-- Writes pages one after the other. -/
def writePages (d : Disk) (r : Result) : List (Text × Text) → Disk × Result × Log
  | [] => (d, r, [])
  | (path, text) :: pages =>
    let (d, r, log) := writeNoting d r path text
    let (d, r, rest) := writePages d r pages
    (d, r, log ++ rest)

/-- Writes the pages of jobs, which then have no pages left. -/
def writeAllPages (d : Disk) : List Job → Disk × List Job × Log
  | [] => (d, [], [])
  | job :: jobs =>
    let (d, result, log) := writePages d job.result job.pages
    let (d, jobs, rest) := writeAllPages d jobs
    (d, { job with result, pages := [] } :: jobs, log ++ rest)

/-- Writes the manifest of a job that was not given up. -/
def writeManifest (d : Disk) (output : Text) (job : Job) : Disk × Result × Log :=
  match job.manifest with
  | none => (d, job.result, [])
  | some text =>
    let (d, r, log) := writeNoting d job.result (manifestPath output job.result.name) text
    (d, r, log ++ [finished r])

/-- Writes the manifests of jobs. -/
def writeManifests (d : Disk) (output : Text) : List Job → Disk × List Result × Log
  | [] => (d, [], [])
  | job :: jobs =>
    let (d, result, log) := writeManifest d output job
    let (d, results, rest) := writeManifests d output jobs
    (d, result :: results, log ++ rest)

/-- What publishing leaves behind. -/
structure Outcome where
  disk : Disk
  results : List Result
  diagnostics : List Diagnostic
  log : Log

/-- Publishes documents below an output directory. -/
def publish (d : Disk) (output layout : Text) (docs : List (Document Comment)) : Outcome :=
  if docs.isEmpty then { disk := d, results := [], diagnostics := [], log := [nothingToWrite] }
  else
    let (d, jobs, diagnostics, prepareLog) := prepareAll d output layout docs
    let (d, jobs, pageLog) := writeAllPages d jobs
    let (d, results, manifestLog) := writeManifests d output jobs
    { disk := d, results, diagnostics
      log := writing docs.length output :: prepareLog ++ pageLog ++ manifestLog }

end DocPress.Publish
