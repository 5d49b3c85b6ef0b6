import DocPress.Yaml.Composition
import DocPress.Yaml.Meaning
import DocPress.Yaml.Scanner

/-!
# Loading

The value of a text in YAML. A text without a document stands for null.
-/

namespace DocPress.Yaml

/-- The value of a text. -/
def load (t : Text) : Except Error Value := do
  if !t.all isAdmitted then throw .character
  let (tokens, fault) := scan t
  match ← Node.ofTokens tokens fault with
  | none => return .null
  | some n => Value.ofNode n

end DocPress.Yaml
