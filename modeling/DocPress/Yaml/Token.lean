import DocPress.Text.Basic

/-!
# Tokens

What a YAML text is made of once its indentation, its quotes and its comments are understood.
Indentation has become starts and ends of collections, and a key is marked before it begins.
-/

namespace DocPress.Yaml

/-- A line about the document that follows. -/
inductive Directive where
  | version (major minor : Nat)
  /-- The handle stands for the beginning of a tag. -/
  | handle (name start : Text)
  | other
deriving Repr, DecidableEq

inductive Token where
  | directive (d : Directive)
  | documentStart
  | documentEnd
  | streamEnd
  /-- A sequence or a mapping that lasts to an end of its own, told by indentation. -/
  | blockSequence
  | blockMapping
  | blockEnd
  | openBracket
  | closeBracket
  | openBrace
  | closeBrace
  | comma
  /-- An item of a sequence that is told by indentation. -/
  | item
  | key
  | value
  | alias (name : Text)
  | anchor (name : Text)
  /-- A tag that is written in full if it has no handle. -/
  | tag (handle : Option Text) (rest : Text)
  | scalar (text : Text) (plain : Bool)
deriving Repr, DecidableEq

end DocPress.Yaml
