import DocPress.Text.Basic

/-!
# Nodes

What a YAML document is made of once it is read: scalars, sequences and mappings, each of a kind.
The kind is written as a tag or follows from the text of a scalar, see `Schema`.
-/

namespace DocPress.Yaml

/-- The kinds of nodes. A merge key brings in the entries of other mappings; a node of the kind
`default` stands for the mapping that it is in. -/
inductive Kind where
  | null
  | bool
  | int
  | float
  | binary
  | timestamp
  | omap
  | pairs
  | set
  | str
  | seq
  | map
  | merge
  | default
  | other (tag : Text)
deriving Repr, DecidableEq

/-- What the tags of the known kinds begin with. -/
def tagStart : Text := "tag:yaml.org,2002:".toList

/-- The known kinds by the ends of their tags. -/
def Kind.names : List (String × Kind) :=
  [("null", null), ("bool", bool), ("int", int), ("float", float), ("binary", binary),
   ("timestamp", timestamp), ("omap", omap), ("pairs", pairs), ("set", set), ("str", str),
   ("seq", seq), ("map", map), ("merge", merge), ("value", default)]

/-- The kind that a tag says. -/
def Kind.ofTag (t : Text) : Kind :=
  match (Text.after? tagStart t).bind fun name => names.find? (·.1.toList = name) with
  | some (_, k) => k
  | none => other t

/-- Values of the kind hold others. -/
def Kind.isCollection : Kind → Bool
  | omap | pairs | set | seq | map => true
  | _ => false

inductive Node where
  | scalar (kind : Kind) (text : Text)
  | sequence (kind : Kind) (items : List Node)
  | mapping (kind : Kind) (entries : List (Node × Node))
  /-- A reference to a sequence or a mapping from inside itself. -/
  | loop (isMapping : Bool)

/-- The kind of a node. -/
def Node.kind : Node → Kind
  | scalar k _ => k
  | sequence k _ => k
  | mapping k _ => k
  | loop isMapping => if isMapping then .map else .seq

end DocPress.Yaml
