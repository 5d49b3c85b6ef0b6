import DocPress.Command.Collect
import DocPress.Command.Options
import DocPress.Document
import DocPress.Listing
import DocPress.Publish
import DocPress.Settings.Loading

/-!
# The command

The command reads its options, loads the settings, replaces those that options name, and collects
comments. These are listed, or gathered into documents that are published.

It ends with 0 if all went well, with 1 if something could not be published and with 2 if it was
not asked properly: if its arguments are not understood, or the settings are wrong in a way that
can be told to the user. Other faults of the settings file end it without a code.
-/

namespace DocPress.Command

/-- Why the command finds nothing to work on. -/
inductive Error where
  | settings (e : Settings.Error)
  | collect (e : Collect.Error)
deriving Repr, DecidableEq

def Error.message? : Error → Option String
  | settings e => e.message?
  | collect e => some e.message

/-! ## Faults that are told to the user -/

/-- A failed operation is told if its path leads nowhere or cannot be one. -/
def isToldOfDisk : Disk.Error → Bool
  | .failed .notFound _ => true
  | .failed _ _ => false
  | .nullCharacter => true

def isToldOfText : Disk.TextError → Bool
  | .disk e => isToldOfDisk e
  | .decoding _ => true

/-- A scalar out of its range is told, unless it is too large for the machine or there is nothing in
it to be out of range. -/
def isToldOfRange : Yaml.RangeFault → Bool
  | .hugeCodePoint | .hugePlace | .empty | .truth _ | .timestamp => false
  | _ => true

def isToldOfSettings : Settings.Error → Bool
  | .unreadable e => isToldOfText e
  | .yaml (.range f) => isToldOfRange f
  | .yaml _ => false
  | .badRegex e => e.fault.gravity ≠ .overflow
  | _ => true

/-- The fault is told to the user, who can mend it. -/
def Error.isTold : Error → Bool
  | settings e => isToldOfSettings e
  | collect (.discovery (.ignoreFile e)) => isToldOfText e
  | collect (.discovery (.regex e)) => e.fault.gravity = .incompatible
  | collect (.discovery (.missingSource _)) => true
  | collect (.file e) => isToldOfDisk e

/-! ## Records -/

private def record (level : Level) (message : String) : Record := ⟨level, .main, message⟩

def refused (message : String) : Record := record .error s!"Configuration error: {message}"

def nothingFound : Record := record .info "No documented comments found. Nothing to do."

def flagged (count : Nat) : Record :=
  record .warning s!"{count} malformed tag(s) were flagged in the output"

/-- What is said of the result of a document. -/
def resultLog (r : Publish.Result) : Log :=
  if r.isOk then
    [record .info s!"\"{r.name.str}\": {r.written.length} file(s) written to {r.path.str}"]
  else r.errors.map fun e => record .error s!"\"{r.name.str}\": {e.message}"

/-! ## Settings -/

/-- The settings with those that options name replaced. Paths in options are seen from the working
directory. -/
def override (cwd : Text) (o : Options) (s : Settings) : Settings :=
  { s with
    source := (o.source.map fun ps => ps.map (Path.absolute cwd)).getD s.source
    ignore := o.ignore.getD s.ignore
    output := (o.output.map (Path.absolute cwd)).getD s.output
    regex := o.regex.getD s.regex
    pattern := o.pattern.getD s.pattern
    layout := o.layout.getD s.layout }

/-- The settings that the options ask for. -/
def settings (d : Disk) (o : Options) : Logged (Except Error Settings) :=
  let loaded := Settings.load d o.config
  match loaded.value with
  | .error e => ⟨.error (.settings e), loaded.log⟩
  | .ok s => match (override d.cwd o s).validate with
    | .error e => ⟨.error (.settings e), loaded.log⟩
    | .ok s => ⟨.ok s, loaded.log⟩

/-- The settings and the comments that the options ask for. -/
def collect (d : Disk) (o : Options) :
    Logged (Except Error (Settings × List Comment)) :=
  let chosen := settings d o
  match chosen.value with
  | .error e => ⟨.error e, chosen.log⟩
  | .ok s =>
    let comments := Collect.run d s
    ⟨match comments.value with
      | .error e => .error (.collect e)
      | .ok cs => .ok (s, cs), chosen.log ++ comments.log⟩

/-! ## Running -/

/-- How the command ends. -/
inductive Ending where
  | exit (code : Nat)
  /-- The arguments are not understood. -/
  | usage (f : Options.Fault)
  /-- It ends without a code. -/
  | broken (e : Error)
deriving Repr, DecidableEq

/-- What the command leaves behind. -/
structure Outcome where
  disk : Disk
  ending : Ending
  output : Text := []
  log : Log := []

/-- Lists comments. -/
def list (d : Disk) (o : Options) (s : Settings) (cs : List Comment) (log : Log) :
    Outcome :=
  { disk := d
    ending := .exit 0
    output := if o.json then Listing.json cs else Listing.plain s.directive cs
    log }

/-- Publishes the documents that comments make. -/
def publish (d : Disk) (s : Settings) (cs : List Comment) (log : Log) : Outcome :=
  let docs := Document.gather s.directive cs
  let log := log ++ docs.log
  match docs.value with
  | .error _ | .ok [] => { disk := d, ending := .exit 0, log := log ++ [nothingFound] }
  | .ok docs =>
    let published := Publish.publish d (s.outputPath d.cwd) s.layout docs
    let warning := if published.diagnostics.isEmpty then []
      else [flagged published.diagnostics.length]
    { disk := published.disk
      ending := .exit (if published.results.all (·.isOk) then 0 else 1)
      log := log ++ published.log ++ warning ++ published.results.flatMap resultLog }

/-- Runs the command with its options. -/
def runOptions (d : Disk) (o : Options) : Outcome :=
  let collected := collect d o
  match collected.value with
  | .error e =>
    match e.isTold, e.message? with
    | true, some message =>
      { disk := d, ending := .exit 2, log := collected.log ++ [refused message] }
    | _, _ => { disk := d, ending := .broken e, log := collected.log }
  | .ok (s, cs) => if o.list then list d o s cs collected.log else publish d s cs collected.log

/-- The records that options let through. -/
def threshold (o : Options) : Options.Threshold :=
  o.logLevel.getD (if o.verbose then .debug else .info)

/-- The name and the version of the command. -/
def version : Text := "jsmkdocs 0.1.0\n".toList

/-- Runs the command with its arguments. -/
def run (d : Disk) (arguments : List Text) : Outcome :=
  match Options.read arguments with
  | .error .showHelp => { disk := d, ending := .exit 0, output := Options.help }
  | .error .showVersion => { disk := d, ending := .exit 0, output := version }
  | .error (.fault f) => { disk := d, ending := .usage f }
  | .ok o =>
    let outcome := runOptions d o
    { outcome with log := outcome.log.filter fun r => (threshold o).lets r.level }

end DocPress.Command
