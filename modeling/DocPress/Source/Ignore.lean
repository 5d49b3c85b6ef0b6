import DocPress.Disk.TextFile
import DocPress.Glob
import DocPress.Log
import DocPress.Text.Blank

/-!
# Ignored paths

What is to be ignored is said by patterns. A pattern covers a path if it fits the path as it is
seen from its source, or one component of that, or if, read as a path itself, it names the path
or a directory above it.

The name of an ignore file among the patterns stands for the patterns in that file.
-/

namespace DocPress.Ignore

/-- The pattern covers the path, which is `rel` as seen from its source. -/
def covers (cwd path rel pattern : Text) : Bool :=
  let glob := Text.trimStart (· == '/') pattern
  let place := Path.absolute cwd pattern
  Glob.fits glob rel || (Text.splitOn '/' rel).any (Glob.fits glob) ||
    path = place || Text.startsWith (place ++ ['/']) path

/-- One of the patterns covers the path. -/
def isIgnored (cwd : Text) (patterns : List Text) (path rel : Text) : Bool :=
  patterns.any (covers cwd path rel)

/-! ## Ignore files -/

/-- The name of an ignore file. -/
def fileName : Text := ".gitignore".toList

/-- The pattern of a line of an ignore file, or nothing for blank lines and comments. A slash at
the end is left out. -/
def pattern? (line : Text) : Option Text :=
  let line := Text.strip line
  if Text.startsWith ['#'] line then none
  else match Text.trimEnd (· == '/') line with
    | [] => none
    | p => some p

/-- The patterns of an ignore file. -/
def patternsOf (t : Text) : List Text := (Text.splitOn '\n' t).filterMap pattern?

/-- Warns that an ignore file is missing. -/
def missing (path : Text) : Record :=
  { level := .warning
    channel := .files
    message := s!"No {fileName.str} found at {path.str}, skipping it" }

/-- The patterns, with those of the ignore file of a directory in place of its name. If the name
is among them, they come out in order and without repetitions. -/
def expand (d : Disk) (cwd : Text) (patterns : List Text) :
    Logged (Except Disk.TextError (List Text)) :=
  if !patterns.contains fileName then ⟨.ok patterns, []⟩
  else
    let others := patterns.filter (· ≠ fileName)
    let path := Path.append cwd fileName
    if !d.has path then ⟨.ok (Text.sort others.eraseDups), [missing path]⟩
    else match d.readText path with
      | .error e => ⟨.error e, []⟩
      | .ok t => ⟨.ok (Text.sort (others ++ patternsOf t).eraseDups), []⟩

end DocPress.Ignore
