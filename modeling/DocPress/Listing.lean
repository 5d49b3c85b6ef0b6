import DocPress.Comment.Basic

/-!
# Listings

Comments are listed one to a line, with the place and the directive of each, or as a JSON array
with everything that was read. The JSON is indented by two spaces for each level; in its strings
only quotes, backslashes and controls are escaped.
-/

namespace DocPress.Listing

/-- What JSON is made of here. -/
inductive Value where
  | string (t : Text)
  | number (n : Int)
  | array (vs : List Value)
  | object (fields : List (Text × Value))

/-- A character inside a string. -/
def escape (c : Char) : Text :=
  if c = '"' || c = '\\' then ['\\', c]
  else if c = '\n' then ['\\', 'n']
  else if c = '\r' then ['\\', 'r']
  else if c = '\t' then ['\\', 't']
  else if c.toNat = 0x08 then ['\\', 'b']
  else if c.toNat = 0x0C then ['\\', 'f']
  else if c.toNat < 0x20 then
    let digits := Nat.toDigits 16 c.toNat
    '\\' :: 'u' :: List.replicate (4 - digits.length) '0' ++ digits
  else [c]

/-- The text as a string. -/
def quote (t : Text) : Text := '"' :: t.flatMap escape ++ ['"']

/-- A new line at a level. -/
def newLine (level : Nat) : Text := '\n' :: List.replicate (2 * level) ' '

mutual

/-- The value, where the lines inside it begin at the next level. -/
def Value.write (level : Nat) : Value → Text
  | .string t => quote t
  | .number n => (toString n).toList
  | .array [] => ['[', ']']
  | .array (v :: vs) =>
    '[' :: newLine (level + 1) ++ v.write (level + 1) ++ writeItems (level + 1) vs ++
      newLine level ++ [']']
  | .object [] => ['{', '}']
  | .object ((k, v) :: fs) =>
    '{' :: newLine (level + 1) ++ quote k ++ ':' :: ' ' :: v.write (level + 1) ++
      writeFields (level + 1) fs ++ newLine level ++ ['}']

/-- The items after the first. -/
def writeItems (level : Nat) : List Value → Text
  | [] => []
  | v :: vs => ',' :: newLine level ++ v.write level ++ writeItems level vs

/-- The fields after the first. -/
def writeFields (level : Nat) : List (Text × Value) → Text
  | [] => []
  | (k, v) :: fs =>
    ',' :: newLine level ++ quote k ++ ':' :: ' ' :: v.write level ++ writeFields level fs

end

def ofTag (t : Tag) : Value :=
  .object
    [("type".toList, .string t.kind), ("string".toList, .string t.string),
     ("types".toList, .array (t.types.map .string)), ("name".toList, .string t.name),
     ("description".toList, .string t.description)]

def ofComment (c : Comment) : Value :=
  .object
    [("file_path".toList, .string c.file), ("line".toList, .number c.line),
     ("summary".toList, .string c.summary), ("body".toList, .string c.body),
     ("tags".toList, .array (c.tags.map ofTag))]

/-- The comments as JSON. -/
def json (cs : List Comment) : Text := Value.write 0 (.array (cs.map ofComment)) ++ ['\n']

/-- The line of a comment: its place, a tab, and its directive. -/
def line (kind : Text) (c : Comment) : Text :=
  c.place.toList ++ '\t' :: ((c.firstTag? kind).map (·.string)).getD [] ++ ['\n']

/-- The comments one to a line. -/
def plain (kind : Text) (cs : List Comment) : Text := cs.flatMap (line kind)

end DocPress.Listing
