import DocPress.Comment.Basic
import DocPress.Log
import DocPress.Text.Blank
import DocPress.Text.Quoted

/-!
# Placement

A tag of one chosen kind, the directive, says where a comment belongs: a document, pages inside
pages, and last a section, set apart by double slashes. A directive of one segment names the
document and a section of the same name in it.

The first directive of a comment counts. A comment without one cannot be placed, nor can one
whose directive has an empty segment; the two are told apart because a comment without a
directive should not have been brought here at all.
-/

namespace DocPress

/-- Where a comment belongs. -/
structure Placement where
  document : Text
  pages : List Text
  heading : Text
deriving Repr, DecidableEq

namespace Placement

/-- The kind of tag that is the directive unless another is chosen. -/
def defaultKind : Text := "docs".toList

/-- The pieces between double slashes, where of three slashes the first two count. -/
def splitSlashes : Text → List Text
  | [] => [[]]
  | '/' :: '/' :: cs => [] :: splitSlashes cs
  | c :: cs =>
    match splitSlashes cs with
    | [] => [[c]]
    | w :: ws => (c :: w) :: ws

/-- The segments of a directive. -/
def segments (directive : Text) : List Text :=
  (splitSlashes (Text.strip directive)).map Text.strip

/-- The placement that a list of segments says; there is none for the empty list. -/
def ofSegments : List Text → Option Placement
  | [] => none
  | [d] => some ⟨d, [], d⟩
  | d :: s :: ss => some ⟨d, (s :: ss).dropLast, (s :: ss).getLastD []⟩

/-- Why a comment cannot be placed. -/
inductive Error where
  /-- It has no tag of the kind. -/
  | missing (comment : Comment) (kind : Text)
  /-- A segment of its directive is empty. -/
  | emptySegment (comment : Comment) (kind directive : Text)
deriving Repr, DecidableEq

def Error.message : Error → String
  | missing c kind => s!"{c.place}: comment has no @{kind.str} directive"
  | emptySegment c kind directive =>
    s!"{c.place}: @{kind.str} directive has an empty segment: {directive.quoted.str}"

/-- Warns that a comment has several directives. -/
def severalDirectives (c : Comment) (kind : Text) (count : Nat) (first : Text) : Record :=
  { level := .warning
    channel := .directive
    message := s!"{c.place}: comment has {count} @{kind.str} directives, " ++
      s!"using the first one ({first.quoted.str})" }

/-- The comment has a directive. -/
def hasDirective (c : Comment) (kind : Text) : Bool := (c.firstTag? kind).isSome

/-- The segments of a comment's directive. -/
def segmentsOf (c : Comment) (kind : Text) : Logged (Except Error (List Text)) :=
  match c.tagsOf kind with
  | [] => ⟨.error (.missing c kind), []⟩
  | tag :: others =>
    let log := if others.isEmpty then []
      else [severalDirectives c kind (others.length + 1) tag.string]
    let names := segments tag.string
    if names.all (!·.isEmpty) then ⟨.ok names, log⟩
    else ⟨.error (.emptySegment c kind tag.string), log⟩

end Placement
end DocPress
