import DocPress.Disk.TextFile
import DocPress.Log
import DocPress.Script.Extract

/-!
# Doc comments of a file

The extension of a file tells the dialect of the script in it.
-/

namespace DocPress.Script

/-- Tells how many doc comments a file holds. -/
def extracted (count : Nat) (path : Text) : Record :=
  { level := .debug
    channel := .files
    message := s!"Extracted {count} doc comment(s) from {path.str}" }

/-- The doc comments of a file, in order. -/
def fileComments (d : Disk) (path : Text) : Logged (Except Disk.Error (List Comment)) :=
  match d.readAnyText path with
  | .error e => ⟨.error e, []⟩
  | .ok t =>
    let cs := docComments (dialectOf (Path.fileExtension path)) t path
    ⟨.ok cs, [extracted cs.length path]⟩

end DocPress.Script
