import DocPress.Log
import DocPress.Settings.Basic
import DocPress.Yaml.Loading

/-!
# Loading settings

Settings are kept in YAML files. A path leads to such a file or to a directory in which one of
two names is looked for; where there is neither, the settings are those that hold unless another
is chosen. In a file a list may be written as a text with commas.
-/

namespace DocPress.Settings

/-- The names of settings files, in the order in which they are looked for. -/
def fileNames : List Text := ["jsmkdocs.yaml".toList, "jsmkdocs.yml".toList]

/-- The settings file of a directory. -/
def find? (d : Disk) (directory : Text) : Option Text :=
  (fileNames.map (Path.append directory)).find? d.has

/-! ## Values -/

/-- A text, if the value is one. -/
def textOf? : Yaml.Value → Option Text
  | .text t => some t
  | _ => none

/-- A list of texts that are not empty, or a text with such texts between commas. -/
def textsOf? : Yaml.Value → Option (List Text)
  | .text t => some (Text.fields ',' t)
  | .pairs [] => some []
  | .list vs => (vs.mapM textOf?).filter fun ts => ts.all (!·.isEmpty)
  | _ => none

/-- The list of a key. -/
def textsAt (key : String) (default : List Text) (entries : List (Yaml.Value × Yaml.Value)) :
    Except Error (List Text) :=
  match Yaml.Value.get? key.toList entries with
  | none => .ok default
  | some v => match textsOf? v with
    | some ts => .ok ts
    | none => .error (.notTexts key)

/-- The value of a key as a text. -/
def textAt (key : String) (default : Text) (entries : List (Yaml.Value × Yaml.Value)) : Text :=
  ((Yaml.Value.get? key.toList entries).map (·.asText)).getD default

/-- The output, which has to be written as a text. -/
def outputAt (default : Text) (entries : List (Yaml.Value × Yaml.Value)) : Except Error Text :=
  match Yaml.Value.get? "output".toList entries with
  | none => .ok default
  | some v => match textOf? v with
    | some t => .ok t
    | none => .error .badOutput

/-- The settings that entries say, with paths relative to a directory. -/
def ofEntries (base : Text) (entries : List (Yaml.Value × Yaml.Value)) :
    Except Error Settings := do
  let usual : Settings := {}
  let output ← outputAt usual.output entries
  let source ← textsAt "source" usual.source entries
  let ignore ← textsAt "ignore" usual.ignore entries
  return {
    source, ignore, output, base
    regex := textAt "regex" usual.regex entries
    pattern := textAt "pattern" usual.pattern entries
    layout := Text.lower (Text.strip (textAt "layout" usual.layout entries))
    directive := Text.strip (textAt "directive" usual.directive entries) }

/-- The settings that a value says. A value with nothing in it says nothing. -/
def ofValue (path : Text) (v : Yaml.Value) : Except Error Settings :=
  if v.isVoid then ofEntries (Path.parent path) []
  else match v with
    | .dict entries => ofEntries (Path.parent path) entries
    | _ => .error (.notMapping path)

/-- The settings that a text in YAML says. -/
def ofText (path : Text) (t : Text) : Except Error Settings :=
  match Yaml.load t with
  | .error e => .error (.yaml e)
  | .ok v => ofValue path v >>= validate

/-- The settings of a file. -/
def ofFile (d : Disk) (path : Text) : Except Error Settings :=
  match d.readText path with
  | .error e => .error (.unreadable e)
  | .ok t => ofText path t

/-! ## Loading -/

def usingDefaults (directory : Text) : Record :=
  let names := Text.join ", ".toList fileNames
  { level := .info
    channel := .config
    message := s!"No config found in {directory.str} (looked for {names.str}), using defaults" }

def loading (path : Text) : Record :=
  { level := .info
    channel := .config
    message := s!"Loading config from {path.str}" }

/-- The settings of a file. -/
def loadFile (d : Disk) (path : Text) : Logged (Except Error Settings) :=
  ⟨ofFile d path, [loading path]⟩

/-- The settings to which a path leads; without one, those of the working directory. -/
def load (d : Disk) (path : Text) : Logged (Except Error Settings) :=
  let place := Path.absolute d.cwd path
  if d.hasDir place then
    match find? d place with
    | some file => loadFile d file
    | none => ⟨validate { base := place }, [usingDefaults place]⟩
  else if d.has place then loadFile d place
  else ⟨.error (.missing place), []⟩

end DocPress.Settings
