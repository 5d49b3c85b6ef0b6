import DocPress.Disk.TextFile
import DocPress.Placement
import DocPress.Plan.Outline
import DocPress.Regex.Reader
import DocPress.Source.Ignore
import DocPress.Yaml.Error

/-!
# Settings

What is to be read and where the documents go. Paths in the settings are relative to a base
directory. Settings are valid if there is a source, the output is not blank, the expression can
be read, the layout is one on offer and the directive is a tag name; the first of these that
fails is reported.
-/

namespace DocPress

structure Settings where
  source : List Text := ["./".toList]
  ignore : List Text := [Ignore.fileName, ".git".toList, "node_modules".toList]
  output : Text := "./docs_src".toList
  regex : Text := "\\.js$".toList
  pattern : Text := "*.js".toList
  layout : Text := Layout.sections.name
  directive : Text := Placement.defaultKind
  /-- The directory to which paths are relative. -/
  base : Text := Path.dot
deriving Repr, DecidableEq

namespace Settings

/-! ## Paths -/

/-- The place of a path in the settings, seen from the working directory. -/
def resolve (cwd : Text) (s : Settings) (path : Text) : Text :=
  Path.absolute (Path.absolute cwd s.base) path

/-- The directory that the documents go to. -/
def outputPath (cwd : Text) (s : Settings) : Text := s.resolve cwd s.output

/-- The sources. -/
def sourcePaths (cwd : Text) (s : Settings) : List Text := s.source.map (s.resolve cwd)

/-! ## Validity -/

/-- Why there are no valid settings. -/
inductive Error where
  /-- There is no settings file at the path. -/
  | missing (path : Text)
  | unreadable (e : Disk.TextError)
  | yaml (e : Yaml.Error)
  /-- The settings file at the path holds something else than keys and values. -/
  | notMapping (path : Text)
  | notTexts (key : String)
  | noSource
  | badOutput
  | badRegex (e : Regex.Error)
  | badLayout
  | badDirective
deriving Repr, DecidableEq

/-- The words of an error; faulty YAML has none. -/
def Error.message? : Error → Option String
  | missing path => some s!"Config file not found: {path.str}"
  | unreadable e => some e.message
  | yaml (.range f) => some f.message
  | yaml _ => none
  | notMapping path => some s!"Config file {path.str} must contain a mapping"
  | notTexts key => some s!"Config '{key}' must be a list of non-empty strings"
  | noSource => some "Config 'source' must name at least one file or directory"
  | badOutput => some "Config 'output' must be a non-empty string"
  | badRegex e =>
    match e.fault.gravity with
    | .malformed => some s!"Config 'regex' is not a valid regular expression: {e.message}"
    | _ => some e.message
  | badLayout => some s!"Config 'layout' must be one of: {Layout.choices}"
  | badDirective => some "Config 'directive' must be a tag name such as 'docs'"

/-- The text can be the name of a tag: a word character and then word characters and hyphens. One
line feed behind it does not count. -/
def isTagName (t : Text) : Bool :=
  let t := if t.getLast? = some '\n' then t.dropLast else t
  t.head?.any isWord && t.all fun c => isWord c || c = '-'

/-- The settings, if they are valid. -/
def validate (s : Settings) : Except Error Settings :=
  if s.source.isEmpty then .error .noSource
  else if Text.isBlankText s.output then .error .badOutput
  else match Regex.parse s.regex with
    | .error e => .error (.badRegex e)
    | .ok _ =>
      if (Layout.ofName? s.layout).isNone then .error .badLayout
      else if !isTagName s.directive then .error .badDirective
      else .ok s

end Settings
end DocPress
