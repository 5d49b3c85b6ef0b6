import DocPress.Log
import DocPress.Plan.Outline
import DocPress.Text.Blank
import DocPress.Text.Category
import DocPress.Text.Quoted

/-!
# Options

The arguments of the command are read as switches and their values. A long name may be shortened
as long as only one fits; its value may follow a sign of equality. Short names may be run
together, the last one with its value. What is neither a switch nor a value is not understood.

Everything that a switch asks for is done in order, so that the first fault is the one that is
reported; only shortened names that fit several switches are reported before everything else.
-/

namespace DocPress.Options

/-- The switches of the command. -/
inductive Switch where
  | help
  | config
  | verbose
  | logLevel
  | version
  | source
  | ignore
  | output
  | regex
  | pattern
  | layout
  | list
  | json
deriving Repr, DecidableEq

namespace Switch

/-- The names of a switch. -/
def names : Switch → List Text
  | help => ["-h".toList, "--help".toList]
  | config => ["--config".toList, "-c".toList]
  | verbose => ["-v".toList, "--verbose".toList]
  | logLevel => ["--log-level".toList]
  | version => ["--version".toList]
  | source => ["-s".toList, "--source".toList]
  | ignore => ["-i".toList, "--ignore".toList]
  | output => ["-o".toList, "--output".toList]
  | regex => ["-r".toList, "--regex".toList]
  | pattern => ["-g".toList, "--pattern".toList]
  | layout => ["--layout".toList]
  | list => ["--list".toList]
  | json => ["--json".toList]

/-- All switches, in the order in which they are offered. -/
def all : List Switch :=
  [help, config, verbose, logLevel, version, source, ignore, output, regex, pattern, layout, list,
   json]

/-- A value follows the switch. -/
def takesValue : Switch → Bool
  | help | verbose | version | list | json => false
  | _ => true

/-- The switch as messages name it. -/
def title (s : Switch) : String := (Text.join ['/'] s.names).str

end Switch

/-- All names, each with its switch. -/
def table : List (Text × Switch) := Switch.all.flatMap fun s => s.names.map (·, s)

/-- Which records are written. -/
inductive Threshold where
  | critical
  | error
  | warning
  | info
  | debug
  | all
deriving Repr, DecidableEq

namespace Threshold

def name : Threshold → Text
  | critical => "CRITICAL".toList
  | error => "ERROR".toList
  | warning => "WARNING".toList
  | info => "INFO".toList
  | debug => "DEBUG".toList
  | all => "NOTSET".toList

/-- The thresholds on offer. -/
def choices : List Threshold := [critical, error, warning, info, debug, all]

/-- A record of the level is written. -/
def lets (t : Threshold) (l : Level) : Bool :=
  match t with
  | critical => false
  | error => Level.error.rank ≤ l.rank
  | warning => Level.warning.rank ≤ l.rank
  | info => Level.info.rank ≤ l.rank
  | debug | all => true

end Threshold

/-! ## Faults -/

/-- What is wrong with the arguments. -/
inductive Fault where
  | ambiguous (argument : Text) (names : List Text)
  /-- A value that the switch does not take. -/
  | ignored (s : Switch) (value : Text)
  | missing (s : Switch)
  | notOffered (s : Switch) (value : Text) (offered : List Text)
  | notUnderstood (arguments : List Text)
deriving Repr, DecidableEq

/-- Texts with commas between them. -/
def listed (ts : List Text) : String := (Text.join ", ".toList ts).str

def Fault.message : Fault → String
  | ambiguous argument names =>
    s!"ambiguous option: {argument.str} could match {listed names}"
  | ignored s value => s!"argument {s.title}: ignored explicit argument {value.quoted.str}"
  | missing s => s!"argument {s.title}: expected one argument"
  | notOffered s value offered =>
    s!"argument {s.title}: invalid choice: {value.quoted.str} " ++
      s!"(choose from {listed (offered.map Text.quoted)})"
  | notUnderstood arguments => "unrecognized arguments: " ++ (Text.join [' '] arguments).str

/-- The line in which the command tells a fault. -/
def Fault.line (f : Fault) : String := s!"jsmkdocs: error: {f.message}"

/-! ## Arguments -/

/-- A value in the same argument as its switch, and how the two are joined. -/
structure Joined where
  byEquals : Bool
  value : Text
deriving Repr, DecidableEq

/-- What an argument is, as far as it can be told from itself. -/
inductive Argument where
  /-- A switch under one of its names. -/
  | named (s : Switch) (name : Text) (joined : Option Joined)
  /-- It looks like a switch and is none. -/
  | unknown (t : Text)
  | plain (t : Text)
  /-- Two hyphens: everything behind them is plain. -/
  | dashes
deriving Repr, DecidableEq

/-- The text before the first sign of equality and the text behind it. -/
def atEquals (t : Text) : Text × Option Text :=
  match t.dropWhile (· ≠ '=') with
  | [] => (t, none)
  | _ :: r => (t.takeWhile (· ≠ '='), some r)

/-- The switches that a shortened or joined name may mean. -/
def candidates (t : Text) : List (Switch × Text × Option Joined) :=
  match t with
  | '-' :: '-' :: _ =>
    let (start, value) := atEquals t
    (table.filter fun e => Text.startsWith start e.1).map fun (name, s) =>
      (s, name, value.map (⟨true, ·⟩))
  | _ => (table.filter fun e => e.1 = t.take 2).map fun (name, s) =>
      (s, name, some ⟨false, t.drop 2⟩)

/-- The text is a negative number. -/
def isNegativeNumber (t : Text) : Bool :=
  let t := if t.getLast? = some '\n' then t.dropLast else t
  match t with
  | '-' :: r =>
    let rest := r.dropWhile Category.isDecimalDigit
    (!r.isEmpty && rest.isEmpty) ||
      match rest with
      | '.' :: ds => !ds.isEmpty && ds.all Category.isDecimalDigit
      | _ => false
  | _ => false

/-- What an argument is that is no two hyphens. -/
def classify (t : Text) : Except Fault Argument :=
  match t with
  | [] | ['-'] => .ok (.plain t)
  | c :: _ =>
    if c ≠ '-' then .ok (.plain t)
    else match table.lookup t with
      | some s => .ok (.named s t none)
      | none =>
        let (name, value) := atEquals t
        match value, table.lookup name with
        | some value, some s => .ok (.named s name (some ⟨true, value⟩))
        | _, _ => match candidates t with
          | [(s, name, joined)] => .ok (.named s name joined)
          | [] =>
            if isNegativeNumber t || t.contains ' ' then .ok (.plain t) else .ok (.unknown t)
          | several => .error (.ambiguous t (several.map (·.2.1)))

/-- What the arguments are. -/
def classifyAll : List Text → Except Fault (List Argument)
  | [] => .ok []
  | t :: ts =>
    if t = ['-', '-'] then .ok (.dashes :: ts.map .plain)
    else do
      let a ← classify t
      return a :: (← classifyAll ts)

/-! ## Reading -/

end Options

/-- What the arguments ask for. -/
structure Options where
  config : Text := ['.']
  verbose : Bool := false
  logLevel : Option Options.Threshold := none
  source : Option (List Text) := none
  ignore : Option (List Text) := none
  output : Option Text := none
  regex : Option Text := none
  pattern : Option Text := none
  layout : Option Text := none
  list : Bool := false
  json : Bool := false
deriving Repr, DecidableEq

namespace Options

/-- What is to be done instead of running the command. -/
inductive Stop where
  | showHelp
  | showVersion
  | fault (f : Fault)
deriving Repr, DecidableEq

/-- The options with a switch that takes no value. -/
def set (o : Options) : Switch → Except Stop Options
  | .help => .error .showHelp
  | .version => .error .showVersion
  | .verbose => .ok { o with verbose := true }
  | .list => .ok { o with list := true }
  | .json => .ok { o with json := true }
  | _ => .ok o

/-- The options with a switch and its value. -/
def put (o : Options) (s : Switch) (value : Text) : Except Stop Options :=
  match s with
  | .config => .ok { o with config := value }
  | .logLevel =>
    match Threshold.choices.find? (·.name = value) with
    | some t => .ok { o with logLevel := some t }
    | none => .error (.fault (.notOffered s value (Threshold.choices.map (·.name))))
  | .source => .ok { o with source := some (Text.fields ',' value) }
  | .ignore => .ok { o with ignore := some (Text.fields ',' value) }
  | .output => .ok { o with output := some value }
  | .regex => .ok { o with regex := some value }
  | .pattern => .ok { o with pattern := some value }
  | .layout =>
    if (Layout.ofName? value).isSome then .ok { o with layout := some value }
    else .error (.fault (.notOffered s value (Layout.all.map (·.name))))
  | _ => .ok o

/-- Switches that are run together, up to the one that is joined with a value or ends the
argument: the switches without values, what comes last, and what is left that is no switch. -/
structure Cluster where
  flags : List Switch := []
  last : Option (Switch × Option Text) := none
  leftOver : Option Text := none

/-- The switch that a letter behind a hyphen names. -/
def short? (c : Char) : Option Switch := table.lookup ['-', c]

/-- Reads on behind a switch of one letter, which takes no value. -/
def clusterFrom (s : Switch) (flags : List Switch) : Text → Except Stop Cluster
  | [] => .ok { flags, last := some (s, none) }
  | c :: r =>
    match short? c with
    | none => .ok { flags := flags ++ [s], leftOver := some ('-' :: c :: r) }
    | some s' =>
      if s'.takesValue then
        let value := match r with
          | [] => none
          | '=' :: v => some v
          | v => some v
        .ok { flags := flags ++ [s], last := some (s', value) }
      else match r with
        | '=' :: v => .error (.fault (.ignored s' v))
        | '-' :: v => .error (.fault (.ignored s' ('-' :: v)))
        | r => clusterFrom s' (flags ++ [s]) r

/-- The switches of an argument. -/
def cluster (s : Switch) (name : Text) : Option Joined → Except Stop Cluster
  | none => .ok { last := some (s, none) }
  | some joined =>
    if s.takesValue then .ok { last := some (s, some joined.value) }
    else
      let isShort := !Text.startsWith ['-', '-'] name
      if !isShort || joined.value.isEmpty || joined.byEquals || joined.value.head? = some '-' then
        .error (.fault (.ignored s joined.value))
      else clusterFrom s [] joined.value

/-- Reads arguments; `skip` of them are values that are read already. Yields the options and what
was not understood. -/
def readFrom (o : Options) (extras : List Text) (skip : Nat) :
    List Argument → Except Stop (Options × List Text)
  | [] => .ok (o, extras)
  | a :: rest =>
    match skip with
    | k + 1 => readFrom o extras k rest
    | 0 =>
      match a with
      | .plain t | .unknown t => readFrom o (extras ++ [t]) 0 rest
      | .dashes => readFrom o (extras ++ [['-', '-']]) 0 rest
      | .named s name joined => do
        let cl ← cluster s name joined
        match cl.last with
        | none =>
          let o ← cl.flags.foldlM set o
          readFrom o (extras ++ cl.leftOver.toList) 0 rest
        | some (s, some value) =>
          let o ← cl.flags.foldlM set o
          readFrom (← put o s value) extras 0 rest
        | some (s, none) =>
          if !s.takesValue then
            let o ← (cl.flags ++ [s]).foldlM set o
            readFrom o extras 0 rest
          else match rest with
            | .plain value :: _ =>
              let o ← cl.flags.foldlM set o
              readFrom (← put o s value) extras 1 rest
            | _ => throw (.fault (.missing s))

/-- The options that arguments say. -/
def read (arguments : List Text) : Except Stop Options :=
  match classifyAll arguments with
  | .error f => .error (.fault f)
  | .ok as => match readFrom {} [] 0 as with
    | .error stop => .error stop
    | .ok (o, []) => .ok o
    | .ok (_, extras) => .error (.fault (.notUnderstood extras))

/-! ## Help -/

/-- What a switch is for. -/
def purpose : Switch → String
  | .help => "show this help message and exit"
  | .config => "path to config file or directory (default: current directory)"
  | .verbose => "enable debug logging"
  | .logLevel => "set logging level (overrides --verbose)"
  | .version => "show the version and exit"
  | .source => "comma-separated list of source files/directories to parse"
  | .ignore => "comma-separated list of files/directories to ignore"
  | .output => "directory to output the generated markdown files"
  | .regex => "regex that files must match to be parsed"
  | .pattern => "glob pattern to match files for parsing"
  | .layout => "one file per section (default) or per page"
  | .list => "list directive comments instead of writing docs"
  | .json => "with --list, output comments as JSON"

/-- A switch with its names and its purpose. -/
def helpLine (s : Switch) : Text :=
  ' ' :: ' ' :: Text.join [',', ' '] s.names ++
    (if s.takesValue then " VALUE".toList else []) ++ '\n' ::
    "        ".toList ++ (purpose s).toList ++ ['\n']

/-- What the command does and which switches it has. -/
def help : Text :=
  "usage: jsmkdocs [options]\n\nGenerate MkDocs sources from @docs-tagged JSDoc comments\n\n".toList
    ++ "options:\n".toList ++ Switch.all.flatMap helpLine

end DocPress.Options
