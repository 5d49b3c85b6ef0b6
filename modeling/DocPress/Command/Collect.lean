import DocPress.Placement
import DocPress.Script.File
import DocPress.Settings.Basic
import DocPress.Source.Discovery

/-!
# Collecting comments

The comments that carry a directive are collected from all source files that settings ask for, in
the order in which the files are found. If the search for files ends early, there is no result.
-/

namespace DocPress.Collect

/-- Why comments cannot be collected. -/
inductive Error where
  | discovery (e : Discovery.Error)
  | file (e : Disk.Error)
deriving Repr, DecidableEq

def Error.message : Error → String
  | discovery e => e.message
  | file e => e.message

/-- What settings ask for. -/
def request (cwd : Text) (s : Settings) : Discovery.Request :=
  { cwd := s.resolve cwd Path.dot
    sources := s.sourcePaths cwd
    ignored := s.ignore
    regex := some s.regex
    pattern := s.pattern }

/-- Tells that a comment has no directive. -/
def skipping (kind : Text) (c : Comment) : Record :=
  { level := .debug
    channel := .cli
    message := s!"Skipping comment without @{kind.str} at {c.place}" }

/-- Tells how many comments were found. -/
def found (comments files : Nat) : Record :=
  { level := .info
    channel := .cli
    message := s!"Found {comments} directive comment(s) in {files} file(s)" }

/-- The comments of a file that carry a directive. -/
def ofFile (d : Disk) (kind path : Text) : Logged (Except Error (List Comment)) :=
  let comments := Script.fileComments d path
  match comments.value with
  | .error e => ⟨.error (.file e), comments.log⟩
  | .ok cs =>
    let (placed, others) := cs.partition (Placement.hasDirective · kind)
    ⟨.ok placed, comments.log ++ others.map (skipping kind)⟩

/-- The comments of files that carry a directive. -/
def ofFiles (d : Disk) (kind : Text) : List Text → Logged (Except Error (List Comment))
  | [] => ⟨.ok [], []⟩
  | path :: paths =>
    let these := ofFile d kind path
    match these.value with
    | .error e => ⟨.error e, these.log⟩
    | .ok cs =>
      let others := ofFiles d kind paths
      ⟨others.value.map (cs ++ ·), these.log ++ others.log⟩

/-- The comments that settings ask for. -/
def run (d : Disk) (s : Settings) : Logged (Except Error (List Comment)) :=
  let files := Discovery.run d (request d.cwd s)
  let comments := ofFiles d s.directive files.value.found
  let log := files.log ++ comments.log
  match comments.value, files.value.failure with
  | .error e, _ => ⟨.error e, log⟩
  | .ok _, some e => ⟨.error (.discovery e), log⟩
  | .ok cs, none => ⟨.ok cs, log ++ [found cs.length files.value.found.length]⟩

end DocPress.Collect
