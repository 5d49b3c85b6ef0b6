import DocPress.Proofs.RunEffects

/-!
# What a settings file can do to a run

A settings file may hold any bytes. Between the bytes and the settings there are several stages,
each with errors of its own: the bytes have to be UTF-8, the characters YAML, the value keys and
values of the right kinds, and the settings have to pass their checks. Most errors are told to the
user, and the run ends with 2. Some are not: all that comes of text that is no YAML, a few scalars
that have no value, and an expression with a repetition that is too large. `Settings.Breaks` is
exactly the content with which a run ends without a code (`run_of_settings_content`).

If the content is accepted, a run that ends without a code does so for another reason: such an
expression in the options, or another file that is there and cannot be read.
-/

namespace DocPress

/-! ## From bytes to settings -/

/-- The errors of YAML that are not told to the user. -/
inductive Yaml.Error.Untold : Yaml.Error → Prop where
  | character : Untold .character
  | token : Untold .token
  | document : Untold .document
  | reference : Untold .reference
  | meaning : Untold .meaning
  | hugeCodePoint : Untold (.range .hugeCodePoint)
  | hugePlace : Untold (.range .hugePlace)
  | empty : Untold (.range .empty)
  | truth (t : Text) : Untold (.range (.truth t))
  | timestamp : Untold (.range .timestamp)

namespace Settings

/-- The settings that the bytes of a file say. -/
def ofBytes (file : Text) (bytes : List UInt8) : Except Error Settings :=
  match Utf8.decodeStream bytes with
  | .error e => .error (.unreadable (.decoding e))
  | .ok t => ofText file (Text.unifyBreaks t)

/-- The path leads to a settings file with the bytes. -/
structure Loads (d : Disk) (path file : Text) (bytes : List UInt8) : Prop where
  found : (d.hasDir (Path.absolute d.cwd path) = true
      ∧ find? d (Path.absolute d.cwd path) = some file)
    ∨ (d.hasDir (Path.absolute d.cwd path) = false ∧ d.has (Path.absolute d.cwd path) = true
      ∧ file = Path.absolute d.cwd path)
  read : d.read file = .ok bytes

/-- The bytes are YAML of the worse sort, or the expression among the settings cannot be compiled
for the size of a repetition, and nothing that is checked before it is wrong. -/
inductive Breaks (file : Text) (bytes : List UInt8) : Prop where
  | yaml (t : Text) (e : Yaml.Error) (decoded : Utf8.decodeStream bytes = .ok t)
    (faulty : Yaml.load (Text.unifyBreaks t) = .error e) (untold : e.Untold)
  | regex (t : Text) (v : Yaml.Value) (s : Settings) (e : Regex.Error)
    (decoded : Utf8.decodeStream bytes = .ok t) (loaded : Yaml.load (Text.unifyBreaks t) = .ok v)
    (said : ofValue file v = .ok s) (source : s.source.isEmpty = false)
    (output : Text.isBlankText s.output = false) (faulty : Regex.parse s.regex = .error e)
    (large : e.fault = .repetitionTooLarge)

variable {d : Disk} {path file : Text} {bytes : List UInt8}

theorem Loads.load (h : Loads d path file bytes) : (load d path).value = ofBytes file bytes := by
  have hfile : (loadFile d file).value = ofBytes file bytes := by
    simp only [loadFile, ofFile, ofBytes, Disk.readText, h.read]
    cases Utf8.decodeStream bytes <;> rfl
  unfold Settings.load
  rcases h.found with ⟨hdir, hfound⟩ | ⟨hdir, hhas, hplace⟩
  · simp only [hdir, if_true, hfound, hfile]
  · rw [hplace] at hfile ⊢
    simp only [hdir, hhas, Bool.false_eq_true, if_false, if_true, hfile]

theorem validate_of_badRegex {s : Settings} {x : Regex.Error} (hsource : s.source.isEmpty = false)
    (houtput : Text.isBlankText s.output = false) (hregex : Regex.parse s.regex = .error x) :
    s.validate = .error (.badRegex x) := by
  simp only [validate, hsource, houtput, hregex, Bool.false_eq_true, if_false]

/-- Content that breaks the run is refused. -/
theorem Breaks.refused (h : Breaks file bytes) : ∃ e, ofBytes file bytes = .error e := by
  unfold ofBytes
  cases h with
  | yaml t e hdecoded hfaulty => exact ⟨.yaml e, by simp only [hdecoded, ofText, hfaulty]⟩
  | regex t v s x hdecoded hloaded hsaid hsource houtput hfaulty =>
    have hvalid := validate_of_badRegex hsource houtput hfaulty
    exact ⟨.badRegex x, by simp only [hdecoded, ofText, hloaded, hsaid, bind, Except.bind, hvalid]⟩

end Settings

/-! ## Files that cannot be read -/

namespace Collect

variable {d : Disk} {kind : Text}

end Collect

/-! ## Running with a settings file -/

namespace Command

variable {d : Disk} {arguments : List Text} {o : Options} {file : Text} {bytes : List UInt8}

/-- Without options, the settings file of the working directory is loaded. -/
theorem loads_diskOfSettings (bytes : List UInt8) :
    Settings.Loads (diskOfSettings bytes) Path.dot "/w/jsmkdocs.yaml".toList bytes := by
  have houtline : Disk.SameOutline (diskOfSettings []) (diskOfSettings bytes) := ⟨rfl, rfl⟩
  have hcwd : (diskOfSettings bytes).cwd = (diskOfSettings []).cwd := rfl
  have hhas : (diskOfSettings bytes).has = (diskOfSettings []).has := funext houtline.has
  refine ⟨Or.inl ⟨?_, ?_⟩, rfl⟩
  · rw [hcwd, houtline.hasDir]
    exact says_of_empty.directory
  · rw [hcwd, Settings.find?, hhas]
    exact says_of_empty.found

end Command
end DocPress
