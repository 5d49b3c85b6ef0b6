import DocPress.Proofs.Resolving
import DocPress.Proofs.SearchAgreement
import DocPress.Settings.Loading

/-!
# Settings and their file

Settings are checked one by one, and the first check that fails tells. `Checked` lists what can come
of it, so that settings of which each check comes to the same are told apart by nothing
(`validate_congr`).

`Says` is the settings file of the working directory with its entries: loading the settings comes to
those that the entries say, with paths seen from the working directory (`Says.load`). What entries
say is put together from what they say under each key (`ofEntries_eq`).
-/

namespace DocPress

namespace Settings

/-! ## Checking settings -/

/-- What checking settings comes to: the first of the checks that fails tells. -/
inductive Checked (s : Settings) : Except Error Settings → Prop where
  | noSource (source : s.source.isEmpty = true) : Checked s (.error .noSource)
  | badOutput (source : s.source.isEmpty = false) (output : Text.isBlankText s.output = true) :
    Checked s (.error .badOutput)
  | badRegex (source : s.source.isEmpty = false) (output : Text.isBlankText s.output = false)
    (e : Regex.Error) (regex : Regex.parse s.regex = .error e) : Checked s (.error (.badRegex e))
  | badLayout (source : s.source.isEmpty = false) (output : Text.isBlankText s.output = false)
    (x : Regex.Expression) (regex : Regex.parse s.regex = .ok x)
    (layout : (Layout.ofName? s.layout).isNone = true) : Checked s (.error .badLayout)
  | badDirective (source : s.source.isEmpty = false) (output : Text.isBlankText s.output = false)
    (x : Regex.Expression) (regex : Regex.parse s.regex = .ok x)
    (layout : (Layout.ofName? s.layout).isNone = false)
    (directive : isTagName s.directive = false) : Checked s (.error .badDirective)
  | valid (source : s.source.isEmpty = false) (output : Text.isBlankText s.output = false)
    (x : Regex.Expression) (regex : Regex.parse s.regex = .ok x)
    (layout : (Layout.ofName? s.layout).isNone = false)
    (directive : isTagName s.directive = true) : Checked s (.ok s)

theorem checked (s : Settings) : Checked s s.validate := by
  unfold validate
  split
  · rename_i hsource
    exact .noSource hsource
  · rename_i hsource
    have hsource := Bool.eq_false_iff.mpr hsource
    split
    · rename_i houtput
      exact .badOutput hsource houtput
    · rename_i houtput
      have houtput := Bool.eq_false_iff.mpr houtput
      split
      · rename_i e hregex
        exact .badRegex hsource houtput e hregex
      · rename_i x hregex
        split
        · rename_i hlayout
          exact .badLayout hsource houtput x hregex hlayout
        · rename_i hlayout
          have hlayout := Bool.eq_false_iff.mpr hlayout
          split
          · rename_i hdirective
            exact .badDirective hsource houtput x hregex hlayout (by simpa using hdirective)
          · rename_i hdirective
            exact .valid hsource houtput x hregex hlayout (by simpa using hdirective)

/-- Settings are checked alike if the checks come to the same one by one. -/
theorem validate_congr {s s' : Settings} (hsource : s'.source.isEmpty = s.source.isEmpty)
    (houtput : Text.isBlankText s'.output = Text.isBlankText s.output)
    (hregex : SameFate (Regex.parse s.regex) (Regex.parse s'.regex))
    (hlayout : s'.layout = s.layout) (hdirective : s'.directive = s.directive) :
    s'.validate = s.validate.map fun _ => s' := by
  unfold validate
  rw [hsource, houtput, hlayout, hdirective]
  split
  · rfl
  · split
    · rfl
    · generalize Regex.parse s.regex = x at hregex ⊢
      generalize Regex.parse s'.regex = y at hregex ⊢
      cases hregex with
      | error e => rfl
      | ok x y =>
        simp only
        split
        · rfl
        · split <;> rfl

theorem validate_bind (s : Settings) (f : Settings → Except Error Settings) :
    s.validate >>= f = s.validate >>= fun _ => f s := by
  have h := s.checked
  generalize s.validate = checked at h ⊢
  cases h <;> rfl

theorem eq_of_validate {s s' : Settings} (h : s.validate = .ok s') : s' = s := by
  have hchecked := s.checked
  rw [h] at hchecked
  cases hchecked
  rfl

theorem regex_usual : ∃ x, Regex.parse ({} : Settings).regex = .ok x := by
  have hok : (Regex.parse ({} : Settings).regex).isOk = true := by decide +kernel
  cases hx : Regex.parse ({} : Settings).regex with
  | ok x => exact ⟨x, rfl⟩
  | error e => rw [hx] at hok; exact absurd hok (by simp [Except.isOk, Except.toBool])

/-! ## Settings files -/

abbrev Entries := List (Yaml.Value × Yaml.Value)

/-- The entries that a value says: none if there is nothing in it. -/
def entriesOf? (v : Yaml.Value) : Option Entries :=
  if v.isVoid then some []
  else match v with
    | .dict entries => some entries
    | _ => none

/-- A value with nothing in it says no entries, any other has to be keys and values. -/
theorem ofValue_eq (file : Text) (v : Yaml.Value) : ofValue file v
    = (entriesOf? v).elim (.error (.notMapping file)) (ofEntries (Path.parent file)) := by
  unfold ofValue entriesOf?
  split
  · rfl
  · cases v <;> rfl

/-- The file is the settings file of the working directory, and says the entries. -/
structure Says (d : Disk) (file : Text) (entries : Entries) : Prop where
  directory : d.hasDir (Path.absolute d.cwd Path.dot) = true
  found : find? d (Path.absolute d.cwd Path.dot) = some file
  entries : ∃ t v, d.readText file = .ok t ∧ Yaml.load t = .ok v ∧ entriesOf? v = some entries

variable {d d' : Disk} {file : Text} {entries entries' : Entries}

theorem isRooted_cwd (d : Disk) : Path.isRooted d.cwd = true := rfl

/-- The file can be read. -/
theorem Says.read (h : Says d file entries) : ∃ bytes, d.read file = .ok bytes := by
  obtain ⟨t, v, htext, -, -⟩ := h.entries
  unfold Disk.readText at htext
  cases hread : d.read file with
  | error e => rw [hread] at htext; exact absurd htext (by simp)
  | ok bytes => exact ⟨bytes, rfl⟩

theorem Says.file_eq (h : Says d file entries) :
    ∃ name ∈ fileNames, file = Path.append (Path.absolute d.cwd Path.dot) name := by
  obtain ⟨name, hname, rfl⟩ := List.mem_map.mp (List.mem_of_find?_eq_some h.found)
  exact ⟨name, hname, rfl⟩

theorem isName_of_mem_fileNames {name : Text} (h : name ∈ fileNames) : Path.IsName name := by
  have hall : ∀ n ∈ fileNames, Path.IsName n := by decide
  exact hall name h

/-- Paths in the settings file are seen from the working directory. -/
theorem Says.parent (h : Says d file entries) :
    Path.parent file = Path.absolute d.cwd Path.dot := by
  obtain ⟨name, hname, rfl⟩ := h.file_eq
  exact Path.parent_append_name Path.dot (isRooted_cwd d) (isName_of_mem_fileNames hname)

/-- The settings are those that the entries say, if they pass the checks. -/
theorem Says.load (h : Says d file entries) : (load d Path.dot).value
    = ofEntries (Path.absolute d.cwd Path.dot) entries >>= validate := by
  obtain ⟨t, v, htext, hload, hentries⟩ := h.entries
  have hvalue : ofValue file v = ofEntries (Path.absolute d.cwd Path.dot) entries := by
    rw [ofValue_eq, hentries, h.parent]
    rfl
  unfold Settings.load
  simp only [h.directory, if_true, h.found, loadFile, ofFile, htext, ofText, hload, hvalue]

/-! ## Entries -/

variable {base : Text}

/-- The settings from what the keys say one by one. -/
def assemble (base : Text) (output : Except Error Text) (source ignore : Except Error (List Text))
    (regex pattern layout directive : Text) : Except Error Settings := do
  let output ← output
  let source ← source
  let ignore ← ignore
  return {
    source, ignore, output, base, regex, pattern
    layout := Text.lower (Text.strip layout)
    directive := Text.strip directive }

section Assembling

variable (output : Except Error Text) (source ignore : Except Error (List Text))
  (regex pattern layout directive : Text)

theorem assemble_source (ts us : List Text) :
    assemble base output (.ok ts) ignore regex pattern layout directive
      = (assemble base output (.ok us) ignore regex pattern layout directive).map
        ({ · with source := ts }) := by
  cases output with
  | error e => rfl
  | ok output => cases ignore <;> rfl

theorem assemble_ignore (ts us : List Text) :
    assemble base output source (.ok ts) regex pattern layout directive
      = (assemble base output source (.ok us) regex pattern layout directive).map
        ({ · with ignore := ts }) := by
  cases output with
  | error e => rfl
  | ok output => cases source <;> rfl

theorem assemble_output (t u : Text) :
    assemble base (.ok t) source ignore regex pattern layout directive
      = (assemble base (.ok u) source ignore regex pattern layout directive).map
        ({ · with output := t }) := by
  cases source with
  | error e => rfl
  | ok source => cases ignore <;> rfl

theorem assemble_regex (t : Text) :
    assemble base output source ignore t pattern layout directive
      = (assemble base output source ignore regex pattern layout directive).map
        ({ · with regex := t }) := by
  cases output with
  | error e => rfl
  | ok output =>
    cases source with
    | error e => rfl
    | ok source => cases ignore <;> rfl

theorem assemble_pattern (t : Text) :
    assemble base output source ignore regex t layout directive
      = (assemble base output source ignore regex pattern layout directive).map
        ({ · with pattern := t }) := by
  cases output with
  | error e => rfl
  | ok output =>
    cases source with
    | error e => rfl
    | ok source => cases ignore <;> rfl

end Assembling

theorem ofEntries_eq (base : Text) (entries : Entries) : ofEntries base entries
    = assemble base (outputAt ({} : Settings).output entries)
      (textsAt "source" ({} : Settings).source entries)
      (textsAt "ignore" ({} : Settings).ignore entries)
      (textAt "regex" ({} : Settings).regex entries)
      (textAt "pattern" ({} : Settings).pattern entries)
      (textAt "layout" ({} : Settings).layout entries)
      (textAt "directive" ({} : Settings).directive entries) := rfl

section Keys

variable (key : String) {v : Text}

theorem textsAt_congr (h : Yaml.Value.get? key.toList entries' = Yaml.Value.get? key.toList entries)
    (default : List Text) : textsAt key default entries' = textsAt key default entries := by
  rw [textsAt, textsAt, h]

theorem textAt_congr (h : Yaml.Value.get? key.toList entries' = Yaml.Value.get? key.toList entries)
    (default : Text) : textAt key default entries' = textAt key default entries := by
  rw [textAt, textAt, h]

theorem outputAt_congr
    (h : Yaml.Value.get? "output".toList entries' = Yaml.Value.get? "output".toList entries)
    (default : Text) : outputAt default entries' = outputAt default entries := by
  rw [outputAt, outputAt, h]

theorem textsAt_stored (h : Yaml.Value.get? key.toList entries = some (.text v))
    (default : List Text) : textsAt key default entries = .ok (Text.fields ',' v) := by
  rw [textsAt, h]
  rfl

theorem textsAt_absent (h : Yaml.Value.get? key.toList entries = none) (default : List Text) :
    textsAt key default entries = .ok default := by
  rw [textsAt, h]

theorem outputAt_stored (h : Yaml.Value.get? "output".toList entries = some (.text v))
    (default : Text) : outputAt default entries = .ok v := by
  rw [outputAt, h]
  rfl

theorem outputAt_absent (h : Yaml.Value.get? "output".toList entries = none) (default : Text) :
    outputAt default entries = .ok default := by
  rw [outputAt, h]

theorem textAt_stored (h : Yaml.Value.get? key.toList entries = some (.text v)) (default : Text) :
    textAt key default entries = v := by
  rw [textAt, h]
  rfl

theorem textAt_absent (h : Yaml.Value.get? key.toList entries = none) (default : Text) :
    textAt key default entries = default := by
  rw [textAt, h]
  rfl

end Keys

/-- Settings are put together exactly if the parts that can be wrong are not. -/
theorem assemble_eq_ok_iff {output : Except Error Text} {source ignore : Except Error (List Text)}
    {regex pattern layout directive : Text} {s : Settings} :
    assemble base output source ignore regex pattern layout directive = .ok s ↔
      output = .ok s.output ∧ source = .ok s.source ∧ ignore = .ok s.ignore ∧ s.regex = regex
        ∧ s.pattern = pattern ∧ s.layout = Text.lower (Text.strip layout)
        ∧ s.directive = Text.strip directive ∧ s.base = base := by
  constructor
  · intro h
    cases output with
    | error e => exact absurd h (by simp [assemble, bind, Except.bind])
    | ok output =>
      cases source with
      | error e => exact absurd h (by simp [assemble, bind, Except.bind])
      | ok source =>
        cases ignore with
        | error e => exact absurd h (by simp [assemble, bind, Except.bind])
        | ok ignore =>
          obtain rfl := Except.ok.inj h
          exact ⟨rfl, rfl, rfl, rfl, rfl, rfl, rfl, rfl⟩
  · rintro ⟨rfl, rfl, rfl, rfl, rfl, hlayout, hdirective, rfl⟩
    cases s
    simp only at hlayout hdirective
    rw [hlayout, hdirective]
    rfl

/-- Settings that entries say are said key by key. -/
theorem ofEntries_ok {s : Settings} (h : ofEntries base entries = .ok s) :
    outputAt ({} : Settings).output entries = .ok s.output
      ∧ textsAt "source" ({} : Settings).source entries = .ok s.source
      ∧ s.regex = textAt "regex" ({} : Settings).regex entries ∧ s.base = base := by
  rw [ofEntries_eq, assemble_eq_ok_iff] at h
  obtain ⟨houtput, hsource, -, hregex, -, -, -, hbase⟩ := h
  exact ⟨houtput, hsource, hregex, hbase⟩

/-- What is wrong with entries is that a key does not hold texts. -/
theorem ofEntries_error {e : Error} (h : ofEntries base entries = .error e) :
    e = .badOutput ∨ ∃ key, e = .notTexts key := by
  have htexts : ∀ {key : String} {default : List Text} {e : Error},
      textsAt key default entries = .error e → ∃ key, e = .notTexts key := by
    intro key default e h
    unfold textsAt at h
    split at h
    · exact absurd h (by simp)
    · split at h
      · exact absurd h (by simp)
      · exact ⟨key, (Except.error.inj h).symm⟩
  -- the output is looked at first, then the sources, then what is ignored
  rw [ofEntries_eq] at h
  cases houtput : outputAt ({} : Settings).output entries with
  | error e' =>
    rw [houtput] at h
    obtain rfl := Except.error.inj h
    unfold outputAt at houtput
    split at houtput
    · exact absurd houtput (by simp)
    · split at houtput
      · exact absurd houtput (by simp)
      · exact Or.inl (Except.error.inj houtput).symm
  | ok output =>
    cases hsource : textsAt "source" ({} : Settings).source entries with
    | error e' =>
      rw [houtput, hsource] at h
      obtain rfl := Except.error.inj h
      exact Or.inr (htexts hsource)
    | ok source =>
      cases hignore : textsAt "ignore" ({} : Settings).ignore entries with
      | error e' =>
        rw [houtput, hsource, hignore] at h
        obtain rfl := Except.error.inj h
        exact Or.inr (htexts hignore)
      | ok ignore =>
        rw [houtput, hsource, hignore] at h
        exact absurd h (by simp [assemble, bind, Except.bind, pure, Except.pure])

end Settings
end DocPress
