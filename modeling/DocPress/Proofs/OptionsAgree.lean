import DocPress.Command.Run
import DocPress.Proofs.SettingsFile

/-!
# Options and the settings file

Five settings can be chosen by an option or under a key of the settings file. Run in the directory
of the file, the command takes the same value either way, with three exceptions that `Differs` lists
(`option_agrees_iff`).

All three come from the order in which settings are checked. Those of the file are checked before an
option replaces one of them, so a fault that ends the command without a code is met although the
option would be refused, or is not met because the file is refused before. And an output that is
chosen by an option is turned into a path before it is checked, so one that is blank is not refused
but means the working directory.

The comparison is made on verdicts, which say what the settings come to. Where two verdicts are the
same the runs also agree on what comes after the settings, as the search for sources does not look
into the settings file (`ending_iff_of_verdict`).
-/

namespace DocPress

namespace Command

/-! ## What settings come to -/

/-- What a run works with, once its settings are accepted. -/
structure Basis where
  /-- The directory from which the sources are searched. -/
  base : Text
  sources : List Text
  ignored : List Text
  output : Text
  regex : Text
  pattern : Text
  layout : Text
  directive : Text
deriving DecidableEq

/-- The paths are those that the settings mean, not as they are written. -/
def basis (cwd : Text) (s : Settings) : Basis :=
  { base := s.resolve cwd Path.dot
    sources := s.sourcePaths cwd
    ignored := s.ignore
    output := s.outputPath cwd
    regex := s.regex
    pattern := s.pattern
    layout := s.layout
    directive := s.directive }

/-- What becomes of a run by its arguments and settings. -/
inductive Verdict where
  /-- The arguments ask for something else or are not understood. -/
  | unread
  | accepted (b : Basis)
  /-- It ends with 2. -/
  | refused
  /-- It ends without a code. -/
  | broken
deriving DecidableEq

/-- The verdict on the outcome of the checks. -/
def judge (cwd : Text) : Except Settings.Error Settings → Verdict
  | .ok s => .accepted (basis cwd s)
  | .error e => if isToldOfSettings e then .refused else .broken

def verdict (d : Disk) (arguments : List Text) : Verdict :=
  match Options.read arguments with
  | .error _ => .unread
  | .ok o => match (settings d o).value with
    | .ok s => .accepted (basis d.cwd s)
    | .error e => if e.isTold then .refused else .broken

/-- The settings of the file, checked, and then with those that options name, checked again. -/
theorem verdict_of_read {d : Disk} {arguments : List Text} {o : Options}
    (hread : Options.read arguments = .ok o) : verdict d arguments
      = judge d.cwd ((Settings.load d o.config).value >>= fun s =>
        (override d.cwd o s).validate) := by
  unfold verdict settings
  simp only [hread]
  cases hload : (Settings.load d o.config).value with
  | error e => rfl
  | ok s =>
    simp only
    show _ = judge d.cwd (override d.cwd o s).validate
    generalize (override d.cwd o s).validate = checked
    cases checked <;> rfl

/-! ## Two ways to choose -/

/-- A setting that an option or a key of the settings file can choose. -/
inductive Choice where
  | source
  | ignore
  | output
  | regex
  | pattern

namespace Choice

def key : Choice → Text
  | source => "source".toList
  | ignore => "ignore".toList
  | output => "output".toList
  | regex => "regex".toList
  | pattern => "pattern".toList

/-- The option with a value. -/
def argument (c : Choice) (v : Text) : Text := '-' :: '-' :: c.key ++ '=' :: v

/-- What the option asks for. -/
def options (c : Choice) (v : Text) : Options :=
  match c with
  | source => { source := some (Text.fields ',' v) }
  | ignore => { ignore := some (Text.fields ',' v) }
  | output => { output := some v }
  | regex => { regex := some v }
  | pattern => { pattern := some v }

theorem read_argument (c : Choice) (v : Text) :
    Options.read [c.argument v] = .ok (c.options v) := by
  cases c <;> rfl

/-- The settings with a value as the settings file has it. -/
def store (c : Choice) (v : Text) (s : Settings) : Settings :=
  match c with
  | source => { s with source := Text.fields ',' v }
  | ignore => { s with ignore := Text.fields ',' v }
  | output => { s with output := v }
  | regex => { s with regex := v }
  | pattern => { s with pattern := v }

end Choice

end Command

namespace Settings

open Command

variable {entries entries' : Entries} {base : Text}

/-- A text under a key that was not there only changes the setting of that key. -/
theorem ofEntries_store (c : Choice) {v : Text} (habsent : Yaml.Value.get? c.key entries = none)
    (hstored : Yaml.Value.get? c.key entries' = some (.text v))
    (hothers : ∀ k, k ≠ c.key → Yaml.Value.get? k entries' = Yaml.Value.get? k entries) :
    ofEntries base entries' = (ofEntries base entries).map (c.store v) := by
  have htexts : ∀ key : String, key.toList ≠ c.key → ∀ default,
      textsAt key default entries' = textsAt key default entries :=
    fun key hkey => textsAt_congr key (hothers _ hkey)
  have htext : ∀ key : String, key.toList ≠ c.key → ∀ default,
      textAt key default entries' = textAt key default entries :=
    fun key hkey => textAt_congr key (hothers _ hkey)
  have houtput : "output".toList ≠ c.key → ∀ default,
      outputAt default entries' = outputAt default entries :=
    fun hkey => outputAt_congr (hothers _ hkey)
  rw [ofEntries_eq, ofEntries_eq]
  cases c with
  | source =>
    rw [textsAt_stored "source" hstored, textsAt_absent "source" habsent, houtput (by decide),
      htexts "ignore" (by decide), htext "regex" (by decide), htext "pattern" (by decide),
      htext "layout" (by decide), htext "directive" (by decide)]
    exact assemble_source ..
  | ignore =>
    rw [textsAt_stored "ignore" hstored, textsAt_absent "ignore" habsent, houtput (by decide),
      htexts "source" (by decide), htext "regex" (by decide), htext "pattern" (by decide),
      htext "layout" (by decide), htext "directive" (by decide)]
    exact assemble_ignore ..
  | output =>
    rw [outputAt_stored hstored, outputAt_absent habsent, htexts "source" (by decide),
      htexts "ignore" (by decide), htext "regex" (by decide), htext "pattern" (by decide),
      htext "layout" (by decide), htext "directive" (by decide)]
    exact assemble_output ..
  | regex =>
    rw [textAt_stored "regex" hstored, textAt_absent "regex" habsent, houtput (by decide),
      htexts "source" (by decide), htexts "ignore" (by decide), htext "pattern" (by decide),
      htext "layout" (by decide), htext "directive" (by decide)]
    exact assemble_regex ..
  | pattern =>
    rw [textAt_stored "pattern" hstored, textAt_absent "pattern" habsent, houtput (by decide),
      htexts "source" (by decide), htexts "ignore" (by decide), htext "regex" (by decide),
      htext "layout" (by decide), htext "directive" (by decide)]
    exact assemble_pattern ..

end Settings

namespace Command

/-! ## Where the two ways differ -/

/-- The cases in which it matters which way a value is chosen; `alone` is what the settings file
comes to without it. -/
def Choice.Differs (c : Choice) (v : Text) (alone : Except Settings.Error Settings) : Prop :=
  match c with
  | .source => Text.fields ',' v = [] ∧ ∃ e, alone = .error e ∧ isToldOfSettings e = false
  | .output => Text.isBlankText v = true ∧ ∀ e, alone = .error e → isToldOfSettings e = false
  | .regex => (∃ e, Regex.parse v = .error e ∧ isToldOfSettings (.badRegex e) = false)
    ∧ (alone = .error .badLayout ∨ alone = .error .badDirective)
  | _ => False

variable {cwd : Text} {s : Settings}

/-- It does not matter which way is gone if neither value fails a check. -/
theorem judge_eq_of_congr {option file : Settings}
    (hoption : option.validate = s.validate.map fun _ => option)
    (hfile : file.validate = s.validate.map fun _ => file)
    (hbasis : basis cwd option = basis cwd file) :
    judge cwd (s.validate >>= fun _ => option.validate) = judge cwd file.validate := by
  rw [hoption, hfile]
  cases s.validate with
  | error e => rfl
  | ok _ => exact congrArg Verdict.accepted hbasis

/-- The paths that an option names mean the same in the settings. -/
theorem basis_override (c : Choice) (v : Text) (hcwd : Path.isRooted cwd = true)
    (hbase : s.base = Path.absolute cwd Path.dot) :
    basis cwd (override cwd (c.options v) s) = basis cwd (c.store v s) := by
  have hhere : ∀ p, Path.absolute (Path.absolute cwd s.base) p = Path.absolute cwd p := by
    intro p
    rw [hbase, Path.absolute_absolute cwd Path.dot hcwd, Path.absolute_of_here p hcwd]
  have hagain : ∀ p, Path.absolute (Path.absolute cwd s.base) (Path.absolute cwd p)
      = Path.absolute (Path.absolute cwd s.base) p := by
    intro p
    rw [hhere, hhere, Path.absolute_absolute cwd p hcwd]
  cases c with
  | source =>
    have hsources : ((Text.fields ',' v).map (Path.absolute cwd)).map
        (Path.absolute (Path.absolute cwd s.base))
        = (Text.fields ',' v).map (Path.absolute (Path.absolute cwd s.base)) := by
      rw [List.map_map]
      exact List.map_congr_left fun p _ => hagain p
    exact congrArg (fun ps => { basis cwd (Choice.source.store v s) with sources := ps }) hsources
  | output =>
    exact congrArg (fun p => { basis cwd (Choice.output.store v s) with output := p }) (hagain v)
  | ignore => rfl
  | regex => rfl
  | pattern => rfl

theorem isBlankText_absolute (cwd p : Text) (hcwd : Path.isRooted cwd = true) :
    Text.isBlankText (Path.absolute cwd p) = false := by
  have hrooted := Path.isRooted_normalize (Path.isRooted_append (q := p) hcwd)
  obtain ⟨r, hr⟩ := Path.isRooted_iff.mp hrooted
  have hslash : isBlank '/' = false := by decide
  rw [Path.absolute, hr, Text.isBlankText, List.all_cons, hslash]
  rfl

theorem judge_source (v : Text) (hcwd : Path.isRooted cwd = true)
    (hbase : s.base = Path.absolute cwd Path.dot) (husual : s.source = ({} : Settings).source) :
    judge cwd (s.validate >>= fun s => (override cwd (Choice.source.options v) s).validate)
        = judge cwd (Choice.source.store v s).validate
      ↔ ¬ Choice.source.Differs v s.validate := by
  have hsome : s.source.isEmpty = false := by rw [husual]; rfl
  rw [Settings.validate_bind]
  by_cases hv : Text.fields ',' v = []
  · -- the file is refused for want of a source, and so is the option, once it is come to
    have hfile : (Choice.source.store v s).validate = .error .noSource := by
      simp [Settings.validate, Choice.store, hv]
    have hoption : (override cwd (Choice.source.options v) s).validate = .error .noSource := by
      simp [Settings.validate, Choice.options, override, hv]
    rw [hfile, hoption]
    unfold Choice.Differs
    cases s.validate with
    | ok s => simp [judge, bind, Except.bind]
    | error e =>
      have htold : isToldOfSettings .noSource = true := rfl
      cases he : isToldOfSettings e <;> simp [judge, bind, Except.bind, he, hv, htold]
  · have hdiffers : ¬ Choice.source.Differs v s.validate := fun h => hv h.1
    have hparse := SameFate.refl (Regex.parse s.regex)
    refine iff_of_true (judge_eq_of_congr ?_ ?_ (basis_override .source v hcwd hbase)) hdiffers
    · exact Settings.validate_congr (by simp [override, Choice.options, hv, hsome]) rfl hparse rfl
        rfl
    · exact Settings.validate_congr (by simp [Choice.store, hv, hsome]) rfl hparse rfl rfl

theorem judge_output (v : Text) (hcwd : Path.isRooted cwd = true)
    (hbase : s.base = Path.absolute cwd Path.dot) (husual : s.output = ({} : Settings).output) :
    judge cwd (s.validate >>= fun s => (override cwd (Choice.output.options v) s).validate)
        = judge cwd (Choice.output.store v s).validate
      ↔ ¬ Choice.output.Differs v s.validate := by
  have hsome : Text.isBlankText s.output = false := by rw [husual]; decide
  have hparse := SameFate.refl (Regex.parse s.regex)
  have hoption : (override cwd (Choice.output.options v) s).validate
      = s.validate.map fun _ => override cwd (Choice.output.options v) s :=
    Settings.validate_congr rfl ((isBlankText_absolute cwd v hcwd).trans hsome.symm) hparse rfl rfl
  rw [Settings.validate_bind]
  cases hv : Text.isBlankText v with
  | true =>
    -- the file is refused, but the option is a path that is not blank
    have hfile : judge cwd (Choice.output.store v s).validate = .refused := by
      unfold Settings.validate
      split
      · rfl
      · rw [if_pos (show Text.isBlankText (Choice.output.store v s).output = true from hv)]
        rfl
    rw [hfile, hoption]
    unfold Choice.Differs
    cases s.validate with
    | ok s => simp [judge, bind, Except.bind, Except.map, hv]
    | error e => cases he : isToldOfSettings e <;> simp [judge, bind, Except.bind, he, hv]
  | false =>
    have hdiffers : ¬ Choice.output.Differs v s.validate := by
      intro h
      rw [h.1] at hv
      exact absurd hv (by simp)
    refine iff_of_true (judge_eq_of_congr hoption ?_ (basis_override .output v hcwd hbase)) hdiffers
    exact Settings.validate_congr rfl (hv.trans hsome.symm) hparse rfl rfl

/-- Which faults of an expression matter: those that end the command without a code. -/
theorem differs_regex_iff {v : Text} {e : Regex.Error} (hv : Regex.parse v = .error e)
    (alone : Except Settings.Error Settings) : Choice.regex.Differs v alone
      ↔ isToldOfSettings (.badRegex e) = false
        ∧ (alone = .error .badLayout ∨ alone = .error .badDirective) := by
  refine and_congr_left fun _ => ⟨?_, fun he => ⟨e, hv, he⟩⟩
  rintro ⟨e', he', hgrave⟩
  rw [hv] at he'
  exact Except.error.inj he' ▸ hgrave

theorem judge_regex (v : Text) (husual : s.regex = ({} : Settings).regex) :
    judge cwd (s.validate >>= fun s => (override cwd (Choice.regex.options v) s).validate)
        = judge cwd (Choice.regex.store v s).validate
      ↔ ¬ Choice.regex.Differs v s.validate := by
  obtain ⟨x, hx⟩ := Settings.regex_usual
  rw [← husual] at hx
  rw [Settings.validate_bind]
  show judge cwd (s.validate >>= fun _ => (Choice.regex.store v s).validate) = _ ↔ _
  cases hv : Regex.parse v with
  | ok y =>
    have hdiffers : ¬ Choice.regex.Differs v s.validate := by
      rintro ⟨⟨e, he, -⟩, -⟩
      rw [hv] at he
      exact absurd he (by simp)
    have hparse : SameFate (Regex.parse s.regex) (Regex.parse v) := by
      rw [hx, hv]
      exact .ok x y
    have hboth : (Choice.regex.store v s).validate
        = s.validate.map fun _ => Choice.regex.store v s :=
      Settings.validate_congr rfl rfl hparse rfl rfl
    exact iff_of_true (judge_eq_of_congr hboth hboth rfl) hdiffers
  | error e =>
    have hfile : (Choice.regex.store v s).validate = if s.source.isEmpty then .error .noSource
        else if Text.isBlankText s.output then .error .badOutput else .error (.badRegex e) := by
      show (if s.source.isEmpty then _ else if Text.isBlankText s.output then _ else _) = _
      simp only [show (Choice.regex.store v s).regex = v from rfl, hv]
    have hlayout : isToldOfSettings .badLayout = true := rfl
    have hdirective : isToldOfSettings .badDirective = true := rfl
    rw [differs_regex_iff hv, hfile]
    have hchecked := s.checked
    generalize s.validate = checked at hchecked ⊢
    -- the file comes to the expression before it comes to the layout and the directive
    cases hchecked with
    | noSource hsource => simp [hsource, judge, bind, Except.bind]
    | badOutput hsource houtput => simp [hsource, houtput, judge, bind, Except.bind]
    | badRegex _ _ e' hregex => rw [hx] at hregex; exact absurd hregex (by simp)
    | badLayout hsource houtput =>
      cases he : isToldOfSettings (.badRegex e) <;>
        simp [hsource, houtput, judge, bind, Except.bind, he, hlayout]
    | badDirective hsource houtput =>
      cases he : isToldOfSettings (.badRegex e) <;>
        simp [hsource, houtput, judge, bind, Except.bind, he, hdirective]
    | valid hsource houtput => simp [hsource, houtput, judge, bind, Except.bind]

theorem judge_of_same_checks {c : Choice} (v : Text) (hcwd : Path.isRooted cwd = true)
    (hbase : s.base = Path.absolute cwd Path.dot) (hc : c = .ignore ∨ c = .pattern) :
    judge cwd (s.validate >>= fun s => (override cwd (c.options v) s).validate)
      = judge cwd (c.store v s).validate := by
  have hparse := SameFate.refl (Regex.parse s.regex)
  have hbasis := basis_override (s := s) c v hcwd hbase
  rw [Settings.validate_bind]
  rcases hc with rfl | rfl
  · exact judge_eq_of_congr (Settings.validate_congr rfl rfl hparse rfl rfl)
      (Settings.validate_congr rfl rfl hparse rfl rfl) hbasis
  · exact judge_eq_of_congr (Settings.validate_congr rfl rfl hparse rfl rfl)
      (Settings.validate_congr rfl rfl hparse rfl rfl) hbasis

/-! ## Verdicts -/

variable {d d' : Disk} {file : Text} {entries entries' : Settings.Entries}

/-- The verdict on an option over a settings file. -/
theorem verdict_option (h : Settings.Says d file entries) (c : Choice) (v : Text) :
    verdict d [c.argument v]
      = judge d.cwd (Settings.ofEntries (Path.absolute d.cwd Path.dot) entries >>= fun s =>
        s.validate >>= fun s => (override d.cwd (c.options v) s).validate) := by
  have hconfig : (c.options v).config = Path.dot := by cases c <;> rfl
  rw [verdict_of_read (c.read_argument v), hconfig, h.load]
  cases Settings.ofEntries (Path.absolute d.cwd Path.dot) entries <;> rfl

/-- The verdict on a settings file alone. -/
theorem verdict_file (h : Settings.Says d file entries) : verdict d []
    = judge d.cwd (Settings.ofEntries (Path.absolute d.cwd Path.dot) entries >>=
      Settings.validate) := by
  have hload : (Settings.load d ({} : Options).config).value = _ := h.load
  have hread : Options.read [] = .ok {} := rfl
  rw [verdict_of_read hread, hload]
  cases Settings.ofEntries (Path.absolute d.cwd Path.dot) entries with
  | error e => rfl
  | ok s =>
    -- settings that have passed the checks pass them again
    have hchecked := s.checked
    show judge d.cwd (s.validate >>= Settings.validate) = judge d.cwd s.validate
    rw [Settings.validate_bind]
    cases s.validate <;> rfl

theorem verdict_option_eq_iff (c : Choice) (v : Text) (hhere : d'.here = d.here)
    (hsaid : Settings.Says d file entries) (hsaid' : Settings.Says d' file entries')
    (habsent : Yaml.Value.get? c.key entries = none)
    (hstored : Yaml.Value.get? c.key entries' = some (.text v))
    (hothers : ∀ k, k ≠ c.key → Yaml.Value.get? k entries' = Yaml.Value.get? k entries) :
    verdict d [c.argument v] = verdict d' []
      ↔ ¬ c.Differs v (Settings.load d Path.dot).value := by
  have hcwd : d'.cwd = d.cwd := by rw [Disk.cwd, hhere, Disk.cwd]
  have hrooted := Settings.isRooted_cwd d
  rw [verdict_option hsaid, verdict_file hsaid', hcwd,
    Settings.ofEntries_store c habsent hstored hothers, hsaid.load]
  cases hs : Settings.ofEntries (Path.absolute d.cwd Path.dot) entries with
  | error e =>
    refine iff_of_true rfl ?_
    rcases Settings.ofEntries_error hs with rfl | ⟨key, rfl⟩
    · cases c <;> simp [Choice.Differs, isToldOfSettings, bind, Except.bind]
    · cases c <;> simp [Choice.Differs, isToldOfSettings, bind, Except.bind]
  | ok s =>
    obtain ⟨houtput, hsource, hregex, hbase⟩ := Settings.ofEntries_ok hs
    cases c with
    | source =>
      rw [Settings.textsAt_absent "source" habsent] at hsource
      exact judge_source v hrooted hbase (Except.ok.inj hsource).symm
    | output =>
      rw [Settings.outputAt_absent habsent] at houtput
      exact judge_output v hrooted hbase (Except.ok.inj houtput).symm
    | regex =>
      rw [Settings.textAt_absent "regex" habsent] at hregex
      exact judge_regex v hregex
    | ignore => exact iff_of_true (judge_of_same_checks v hrooted hbase (Or.inl rfl)) id
    | pattern => exact iff_of_true (judge_of_same_checks v hrooted hbase (Or.inr rfl)) id

/-! ## Ending with 2 -/

theorem message_of_isTold {e : Error} (h : e.isTold = true) :
    ∃ message, e.message? = some message := by
  cases e with
  | collect e => exact ⟨e.message, rfl⟩
  | settings e =>
    cases e with
    | yaml e =>
      cases e with
      | range f => exact ⟨f.message, rfl⟩
      | _ => exact absurd h (by simp [Error.isTold, isToldOfSettings])
    | badRegex e =>
      cases hg : e.fault.gravity <;> exact ⟨_, by rw [Error.message?, Settings.Error.message?, hg]⟩
    | _ => exact ⟨_, rfl⟩

/-- A run ends with 2 if something is wrong that can be told to the user. -/
theorem ending_run_iff {arguments : List Text} {o : Options}
    (hread : Options.read arguments = .ok o) : (run d arguments).ending = .exit 2
      ↔ ∃ e, (collect d o).value = .error e ∧ e.isTold = true := by
  have hending : (run d arguments).ending = (runOptions d o).ending := by
    unfold run
    rw [hread]
  rw [hending]
  unfold runOptions
  cases hc : (collect d o).value with
  | error e =>
    cases he : e.isTold with
    | true =>
      obtain ⟨message, hmessage⟩ := message_of_isTold he
      simp [hc, he, hmessage]
    | false => simp [hc, he]
  | ok r =>
    -- what is listed or published does not end with 2
    obtain ⟨s, cs⟩ := r
    have hlist : (list d o s cs (collect d o).log).ending ≠ .exit 2 := by simp [list]
    have hpublish : (publish d s cs (collect d o).log).ending ≠ .exit 2 := by
      unfold publish
      simp only
      split
      · simp
      · simp
      · simp only
        split <;> simp
    simp only [hc]
    refine iff_of_false ?_ (by simp)
    split
    · exact hlist
    · exact hpublish

theorem collect_of_settings {o : Options} {s : Settings} (h : (settings d o).value = .ok s) :
    (collect d o).value = ((Collect.run d s).value.mapError Error.collect).map (s, ·) := by
  unfold collect
  simp only [h]
  cases (Collect.run d s).value <;> rfl

theorem request_of_basis {cwd cwd' : Text} {s s' : Settings} (h : basis cwd' s' = basis cwd s) :
    Collect.request cwd' s' = Collect.request cwd s ∧ s'.directive = s.directive := by
  simp only [basis, Basis.mk.injEq] at h
  obtain ⟨hbase, hsources, hignored, -, hregex, hpattern, -, hdirective⟩ := h
  exact ⟨by rw [Collect.request, Collect.request, hbase, hsources, hignored, hregex, hpattern],
    hdirective⟩

/-- Accepted settings are still seen from the working directory. -/
theorem base_of_settings {o : Options} {s : Settings} (hsaid : Settings.Says d file entries)
    (ho : o.config = Path.dot) (h : (settings d o).value = .ok s) :
    s.base = Path.absolute d.cwd Path.dot := by
  unfold settings at h
  simp only [ho, hsaid.load] at h
  cases hs : Settings.ofEntries (Path.absolute d.cwd Path.dot) entries with
  | error e => rw [hs] at h; exact absurd h (by simp [bind, Except.bind])
  | ok said =>
    have hbase := (Settings.ofEntries_ok hs).2.2.2
    rw [hs] at h
    cases hfirst : said.validate with
    | error e => simp [bind, Except.bind, hfirst] at h
    | ok checked =>
      obtain rfl := Settings.eq_of_validate hfirst
      cases hsecond : (override d.cwd o checked).validate with
      | error e => simp [bind, Except.bind, hfirst, hsecond] at h
      | ok again =>
        obtain rfl := Settings.eq_of_validate hsecond
        obtain rfl : override d.cwd o checked = s := by
          simpa [bind, Except.bind, hfirst, hsecond] using h
        exact hbase

/-- The ignore file of the working directory is another file than the settings file. -/
theorem read_ignoreFile {old bytes : List UInt8} (hsaid : Settings.Says d file entries)
    (hold : d.read file = .ok old) (hwrite : d.write file bytes = .ok d') :
    d'.read (Path.append (Path.absolute d.cwd Path.dot) Ignore.fileName)
      = d.read (Path.append (Path.absolute d.cwd Path.dot) Ignore.fileName) := by
  obtain ⟨name, hname, hfile⟩ := hsaid.file_eq
  have hplain := Path.isPlain_absolute Path.dot (Settings.isRooted_cwd d)
  have hsettings := Settings.isName_of_mem_fileNames hname
  have hignore : Path.IsName Ignore.fileName := by decide
  refine Disk.read_of_write hold hwrite fun he => ?_
  rw [hfile, Disk.placeOf_of_isPlain d (hplain.append hignore),
    Disk.placeOf_of_isPlain d (hplain.append hsettings), Path.components_append_name _ hignore,
    Path.components_append_name _ hsettings] at he
  have hnames : [Ignore.fileName] = [name] := List.append_cancel_left he
  rw [← (List.cons.inj hnames).1] at hname
  exact absurd hname (by decide)

/-- Runs that work with the same settings find sources or fail to for one reason, on disks that
differ in the settings file alone. -/
theorem collect_fate {o o' : Options} {s s' : Settings} {bytes : List UInt8}
    (ho : o.config = Path.dot) (hsaid : Settings.Says d file entries)
    (hwrite : d.write file bytes = .ok d') (hs : (settings d o).value = .ok s)
    (hs' : (settings d' o').value = .ok s') (hbasis : basis d.cwd s = basis d'.cwd s') :
    SameFate (collect d o).value (collect d' o').value := by
  obtain ⟨hrequest, hdirective⟩ := request_of_basis hbasis.symm
  obtain ⟨old, hold⟩ := hsaid.read
  have hrooted := Settings.isRooted_cwd d
  have hcwd : (Collect.request d.cwd s).cwd = Path.absolute d.cwd Path.dot := by
    show Path.absolute (Path.absolute d.cwd s.base) Path.dot = _
    rw [base_of_settings hsaid ho hs, Path.absolute_absolute d.cwd Path.dot hrooted,
      Path.absolute_of_here _ hrooted]
  have hfate := Collect.run_congr (Disk.outline_write hold hwrite) hrequest hdirective
    (by rw [hcwd]; exact read_ignoreFile hsaid hold hwrite)
  rw [collect_of_settings hs, collect_of_settings hs']
  generalize (Collect.run d s).value = collected at hfate ⊢
  generalize (Collect.run d' s').value = collected' at hfate ⊢
  cases hfate with
  | error e => exact .error _
  | ok cs cs' => exact .ok _ _

theorem collect_of_refused {o : Options} {e : Error} (h : (settings d o).value = .error e) :
    (collect d o).value = .error e := by
  unfold collect
  simp only [h]

/-- Runs on which the same verdict is passed end with 2 or do not, both of them. -/
theorem ending_iff_of_verdict {a a' : List Text} {o o' : Options} {bytes : List UInt8}
    (hread : Options.read a = .ok o) (hread' : Options.read a' = .ok o')
    (ho : o.config = Path.dot) (hsaid : Settings.Says d file entries)
    (hwrite : d.write file bytes = .ok d') (hverdict : verdict d a = verdict d' a') :
    (run d a).ending = .exit 2 ↔ (run d' a').ending = .exit 2 := by
  rw [ending_run_iff hread, ending_run_iff hread']
  unfold verdict at hverdict
  simp only [hread, hread'] at hverdict
  cases hs : (settings d o).value with
  | error e =>
    cases hs' : (settings d' o').value with
    | error e' =>
      rw [collect_of_refused hs, collect_of_refused hs']
      simp only [hs, hs'] at hverdict
      cases he : e.isTold <;> cases he' : e'.isTold <;> simp [he, he'] at hverdict ⊢
    | ok s' =>
      simp only [hs, hs'] at hverdict
      split at hverdict <;> exact absurd hverdict (by simp)
  | ok s =>
    cases hs' : (settings d' o').value with
    | error e' =>
      simp only [hs, hs'] at hverdict
      split at hverdict <;> exact absurd hverdict (by simp)
    | ok s' =>
      simp only [hs, hs', Verdict.accepted.injEq] at hverdict
      have hfate := collect_fate ho hsaid hwrite hs hs' hverdict
      generalize (collect d o).value = collected at hfate ⊢
      generalize (collect d' o').value = collected' at hfate ⊢
      cases hfate with
      | error e => exact Iff.rfl
      | ok r r' => simp

/--
**An option and a key of the settings file choose alike, but for three cases.**

Let a settings file in the working directory not have a key, and let it be written anew with a text
under that key and everything else as before. Then the command is refused, ends without a code or
works with the same settings, whether it is run with the text as the option's value over the old
file or without an option over the new one, exactly if none of the cases of `Differs` is at hand.
Unless one is, both runs end with 2 or neither does.
-/
theorem option_agrees_iff (c : Choice) (v : Text) {bytes : List UInt8}
    (hsaid : Settings.Says d file entries) (hwrite : d.write file bytes = .ok d')
    (hsaid' : Settings.Says d' file entries')
    (habsent : Yaml.Value.get? c.key entries = none)
    (hstored : Yaml.Value.get? c.key entries' = some (.text v))
    (hothers : ∀ k, k ≠ c.key → Yaml.Value.get? k entries' = Yaml.Value.get? k entries) :
    (verdict d [c.argument v] = verdict d' []
        ↔ ¬ c.Differs v (Settings.load d Path.dot).value)
      ∧ (¬ c.Differs v (Settings.load d Path.dot).value →
        ((run d [c.argument v]).ending = .exit 2 ↔ (run d' []).ending = .exit 2)) := by
  have hiff := verdict_option_eq_iff c v (Disk.write_sets hwrite).1.here hsaid hsaid' habsent
    hstored hothers
  have hconfig : (c.options v).config = Path.dot := by cases c <;> rfl
  refine ⟨hiff, fun hno => ?_⟩
  exact ending_iff_of_verdict (c.read_argument v) rfl hconfig hsaid hwrite (hiff.mpr hno)

/-- A disk with nothing on it but a settings file in the working directory. -/
def diskOfSettings (bytes : List UInt8) : Disk :=
  { root := .dir [("w".toList, .dir [("jsmkdocs.yaml".toList, .file bytes)])]
    here := ["w".toList] }

theorem says_diskOfSettings {bytes : List UInt8} {t : Text} {v : Yaml.Value}
    (htext : Utf8.decodeStream bytes = .ok t) (hload : Yaml.load (Text.unifyBreaks t) = .ok v)
    (hentries : Settings.entriesOf? v = some entries) :
    Settings.Says (diskOfSettings bytes) "/w/jsmkdocs.yaml".toList entries := by
  -- where things lie does not depend on what the file holds
  have houtline : Disk.SameOutline (diskOfSettings []) (diskOfSettings bytes) := ⟨rfl, rfl⟩
  have hread : (diskOfSettings bytes).read "/w/jsmkdocs.yaml".toList = .ok bytes := rfl
  have hcwd : (diskOfSettings bytes).cwd = "/w".toList := rfl
  refine ⟨?_, ?_, Text.unifyBreaks t, v, ?_, hload, hentries⟩
  · rw [hcwd, houtline.hasDir]
    decide +kernel
  · have hhas : (diskOfSettings bytes).has = (diskOfSettings []).has := funext houtline.has
    rw [Settings.find?, hcwd, hhas]
    decide +kernel
  · rw [Disk.readText, hread]
    simp only [htext]

theorem write_diskOfSettings (old bytes : List UInt8) :
    (diskOfSettings old).write "/w/jsmkdocs.yaml".toList bytes = .ok (diskOfSettings bytes) := rfl

theorem says_of_empty : Settings.Says (diskOfSettings []) "/w/jsmkdocs.yaml".toList [] := by
  have htext : Utf8.decodeStream [] = .ok [] := by decide +kernel
  have hload : Yaml.load [] = .ok .null := rfl
  exact says_diskOfSettings htext hload rfl

theorem load_of_single {t k w : Text}
    (h : (match Yaml.load t with
      | .ok (.dict [(.text k', .text w')]) => k' == k && w' == w
      | _ => false) = true) : Yaml.load t = .ok (.dict [(.text k, .text w)]) := by
  split at h
  · rename_i k' w' hload
    obtain ⟨rfl, rfl⟩ : k' = k ∧ w' = w := by simpa using h
    exact hload
  · exact absurd h (by simp)

/-- A settings file with a text under one key. -/
theorem says_of_single {t k w : Text} (htext : Utf8.decodeStream (Utf8.encode t) = .ok t)
    (hbreaks : Text.unifyBreaks t = t)
    (hload : (match Yaml.load t with
      | .ok (.dict [(.text k', .text w')]) => k' == k && w' == w
      | _ => false) = true) :
    Settings.Says (diskOfSettings (Utf8.encode t)) "/w/jsmkdocs.yaml".toList
      [(.text k, .text w)] :=
  says_diskOfSettings htext (by rw [hbreaks]; exact load_of_single hload) rfl

theorem option_agrees_iff_of_output :
    verdict (diskOfSettings []) ["--output=docs".toList]
        = verdict (diskOfSettings (Utf8.encode "output: docs\n".toList)) []
      ∧ ((run (diskOfSettings []) ["--output=docs".toList]).ending = .exit 2
        ↔ (run (diskOfSettings (Utf8.encode "output: docs\n".toList)) []).ending = .exit 2) := by
  have hsaid : Settings.Says (diskOfSettings (Utf8.encode "output: docs\n".toList))
      "/w/jsmkdocs.yaml".toList [(.text "output".toList, .text "docs".toList)] :=
    says_of_single (by decide +kernel) (by decide) (by decide +kernel)
  have hothers : ∀ k, k ≠ Choice.output.key →
      Yaml.Value.get? k [(.text "output".toList, .text "docs".toList)] = Yaml.Value.get? k [] := by
    intro k hk
    exact if_neg fun he => hk he.symm
  have hboth := option_agrees_iff .output "docs".toList says_of_empty (write_diskOfSettings [] _)
    hsaid rfl rfl hothers
  have hagree : ¬ Choice.output.Differs "docs".toList
      (Settings.load (diskOfSettings []) Path.dot).value := fun h => absurd h.1 (by decide)
  exact ⟨hboth.1.mpr hagree, hboth.2 hagree⟩

/-- An output that is blank is refused in the settings file, but as an option it is accepted and
means the working directory. -/
theorem option_disagrees_of_blank_output :
    Settings.Says (diskOfSettings []) "/w/jsmkdocs.yaml".toList []
      ∧ (diskOfSettings []).write "/w/jsmkdocs.yaml".toList (Utf8.encode "output: ''\n".toList)
        = .ok (diskOfSettings (Utf8.encode "output: ''\n".toList))
      ∧ Settings.Says (diskOfSettings (Utf8.encode "output: ''\n".toList))
        "/w/jsmkdocs.yaml".toList [(.text "output".toList, .text [])]
      ∧ (∃ b, verdict (diskOfSettings []) [Choice.output.argument []] = .accepted b
        ∧ b.output = "/w".toList)
      ∧ verdict (diskOfSettings (Utf8.encode "output: ''\n".toList)) [] = .refused
      ∧ (run (diskOfSettings (Utf8.encode "output: ''\n".toList)) []).ending = .exit 2 := by
  have hsaid : Settings.Says (diskOfSettings (Utf8.encode "output: ''\n".toList))
      "/w/jsmkdocs.yaml".toList [(.text "output".toList, .text [])] :=
    says_of_single (by decide +kernel) (by decide) (by decide +kernel)
  have haccepted : ∃ b, verdict (diskOfSettings []) [Choice.output.argument []] = .accepted b
      ∧ b.output = "/w".toList := by
    refine ⟨{ basis "/w".toList {} with output := "/w".toList }, ?_, rfl⟩
    decide +kernel
  exact ⟨says_of_empty, write_diskOfSettings [] _, hsaid, haccepted, by decide +kernel,
    by decide +kernel⟩

end Command
end DocPress
