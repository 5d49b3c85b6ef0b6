import DocPress.Comment.Basic
import DocPress.Log
import DocPress.Text.Quoted

/-!
# Diagnostics

A tag that does not have the form of its kind is not dropped: it is shown where it stands, and a
diagnostic says which tag it was and what was expected.
-/

namespace DocPress

/-- What is wrong with a tag. -/
inductive Fault where
  | missing
  | notNamed
  | notRow
  | notTyped
deriving Repr, DecidableEq

def Fault.message : Fault → String
  | missing => "missing"
  | notNamed => "expected '<name> - <description>'"
  | notRow => "expected '\x7b<type>\x7d <name> - <description>'"
  | notTyped => "expected '\x7b<type>\x7d <description>'"

/-- A tag of a kind, with the text it has and what is wrong with it. -/
structure Malformed where
  kind : Text
  raw : Text
  fault : Fault
deriving Repr, DecidableEq

/-- A malformed tag and the place of its comment. -/
structure Diagnostic where
  file : Text
  line : Int
  tag : Malformed
deriving Repr, DecidableEq

namespace Diagnostic

def ofComment (c : Comment) (tag : Malformed) : Diagnostic := ⟨c.file, c.line, tag⟩

def message (d : Diagnostic) : String :=
  s!"{d.file.str}:{d.line}: @{d.tag.kind.str} {d.tag.fault.message}: {d.tag.raw.quoted.str}"

/-- The warning that is written for a diagnostic. -/
def record (d : Diagnostic) : Record :=
  { level := .warning
    channel := .markdown
    message := s!"Malformed tag at {d.message}" }

end Diagnostic
end DocPress
