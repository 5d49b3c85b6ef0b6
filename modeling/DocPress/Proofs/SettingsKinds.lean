import DocPress.Proofs.SettingsContent
import DocPress.Proofs.ValueText

/-!
# Settings of the right kinds

A settings file should be empty or hold keys and values, with a text for each key that takes one,
and a text or a list of texts for each key that takes several. `IsTyped` says that settings come
from such a file. What loading accepts is told by `IsTaken`, and is wider in two places: a document
with nothing in it, such as an empty list or a zero, is taken for an empty one, and the expression,
the pattern and the directive are read from the text in which any value can be written. `Slips` is
exactly what gets through in this way (`load_eq_ok_iff`).

The layout is read from such a text as well, but no value of another kind is written like the name
of a layout, so none of them passes the checks.
-/

namespace DocPress

namespace Settings

/-! ## What keys say -/

variable {entries : Entries} {key : String} {base : Text}

/-- What a key says that takes a text: the usual one if it is absent. -/
inductive TextSaid (entries : Entries) (key : String) (usual : Text) : Text → Prop where
  | absent (h : Yaml.Value.get? key.toList entries = none) : TextSaid entries key usual usual
  | text (t : Text) (h : Yaml.Value.get? key.toList entries = some (.text t)) :
    TextSaid entries key usual t

/-- What a key says of which any value is taken, as the text in which it is written. -/
inductive TextWritten (entries : Entries) (key : String) (usual : Text) : Text → Prop where
  | absent (h : Yaml.Value.get? key.toList entries = none) : TextWritten entries key usual usual
  | value (v : Yaml.Value) (h : Yaml.Value.get? key.toList entries = some v) :
    TextWritten entries key usual v.asText

/-- What a key says that takes several texts: a text with commas between them or a list of them,
in which none is empty. -/
inductive TextsSaid (entries : Entries) (key : String) (usual : List Text) : List Text → Prop where
  | absent (h : Yaml.Value.get? key.toList entries = none) : TextsSaid entries key usual usual
  | text (t : Text) (h : Yaml.Value.get? key.toList entries = some (.text t)) :
    TextsSaid entries key usual (Text.fields ',' t)
  | list (ts : List Text) (h : Yaml.Value.get? key.toList entries = some (.list (ts.map .text)))
    (nonempty : [] ∉ ts) : TextsSaid entries key usual ts
  /-- A list of pairs is a list as well, and may be empty. -/
  | noPairs (h : Yaml.Value.get? key.toList entries = some (.pairs [])) :
    TextsSaid entries key usual []

/-- The key holds something else than a text. -/
def Misfits (entries : Entries) (key : String) : Prop :=
  ∃ v, Yaml.Value.get? key.toList entries = some v ∧ textOf? v = none

instance (entries : Entries) (key : String) : Decidable (Misfits entries key) :=
  decidable_of_iff (((Yaml.Value.get? key.toList entries).any fun v => (textOf? v).isNone) = true)
    (by simp [Misfits, Option.any_eq_true])

theorem textOf?_eq_some_iff {v : Yaml.Value} {t : Text} : textOf? v = some t ↔ v = .text t := by
  cases v <;> simp [textOf?]

theorem textSaid_iff_not_misfits {usual t : Text} :
    TextSaid entries key usual t ↔ TextWritten entries key usual t ∧ ¬ Misfits entries key := by
  constructor
  · intro h
    cases h with
    | absent h =>
      refine ⟨.absent h, ?_⟩
      rintro ⟨v, hv, -⟩
      rw [h] at hv
      exact absurd hv (by simp)
    | text t h =>
      refine ⟨.value (.text t) h, ?_⟩
      rintro ⟨v, hv, hno⟩
      obtain rfl := Option.some.inj (h.symm.trans hv)
      exact absurd hno (by simp [textOf?])
  · rintro ⟨h, hfits⟩
    cases h with
    | absent h => exact .absent h
    | value v h =>
      cases hv : textOf? v with
      | none => exact absurd ⟨v, h, hv⟩ hfits
      | some t =>
        obtain rfl := textOf?_eq_some_iff.mp hv
        exact .text t h

theorem textWritten_iff {usual t : Text} :
    TextWritten entries key usual t ↔ t = textAt key usual entries := by
  rw [textAt]
  constructor
  · intro h
    cases h with
    | absent h => rw [h]; rfl
    | value v h => rw [h]; rfl
  · rintro rfl
    cases h : Yaml.Value.get? key.toList entries with
    | none => exact .absent h
    | some v => exact .value v h

theorem outputAt_eq_ok_iff {usual t : Text} :
    outputAt usual entries = .ok t ↔ TextSaid entries "output" usual t := by
  rw [outputAt]
  constructor
  · intro h
    split at h
    · rename_i habsent
      obtain rfl := Except.ok.inj h
      exact .absent habsent
    · rename_i v hv
      split at h
      · rename_i u hu
        obtain rfl := Except.ok.inj h
        obtain rfl := textOf?_eq_some_iff.mp hu
        exact .text _ hv
      · exact absurd h (by simp)
  · intro h
    cases h with
    | absent h => rw [h]
    | text t h => rw [h]; rfl

theorem mapM_textOf?_eq_some_iff {vs : List Yaml.Value} {ts : List Text} :
    vs.mapM textOf? = some ts ↔ vs = ts.map .text := by
  induction vs generalizing ts with
  | nil => cases ts <;> simp
  | cons v vs ih =>
    simp only [List.mapM_cons, Option.bind_eq_bind, Option.bind_eq_some_iff, ih,
      textOf?_eq_some_iff]
    cases ts <;> simp

/-- What a value says that takes several texts. -/
theorem textsOf?_eq_some_iff {v : Yaml.Value} {ts : List Text} : textsOf? v = some ts ↔
    (∃ t, v = .text t ∧ ts = Text.fields ',' t) ∨ (v = .list (ts.map .text) ∧ [] ∉ ts)
      ∨ (v = .pairs [] ∧ ts = []) := by
  cases v with
  | text t => simp [textsOf?, eq_comm]
  | list vs =>
    have hnonempty : ts.all (!·.isEmpty) = true ↔ [] ∉ ts := by
      simp only [List.all_eq_true, Bool.not_eq_true', List.isEmpty_eq_false_iff]
      exact ⟨fun h hnil => h [] hnil rfl, fun h t ht hnil => h (hnil ▸ ht)⟩
    simp [textsOf?, Option.filter_eq_some_iff, mapM_textOf?_eq_some_iff, hnonempty]
  | pairs es => cases es <;> simp [textsOf?, eq_comm]
  | _ => simp [textsOf?]

theorem textsAt_eq_ok_iff {usual ts : List Text} :
    textsAt key usual entries = .ok ts ↔ TextsSaid entries key usual ts := by
  rw [textsAt]
  constructor
  · intro h
    split at h
    · rename_i habsent
      obtain rfl := Except.ok.inj h
      exact .absent habsent
    · rename_i v hv
      split at h
      · rename_i us hus
        obtain rfl := Except.ok.inj h
        rcases textsOf?_eq_some_iff.mp hus with ⟨t, rfl, rfl⟩ | ⟨rfl, hne⟩ | ⟨rfl, rfl⟩
        · exact .text t hv
        · exact .list us hv hne
        · exact .noPairs hv
      · exact absurd h (by simp)
  · intro h
    cases h with
    | absent h => rw [h]
    | text t h => rw [h]; rfl
    | list ts h hne => simp only [h, textsOf?_eq_some_iff.mpr (Or.inr (Or.inl ⟨rfl, hne⟩))]
    | noPairs h => rw [h]; rfl

/-! ## What documents say -/

/-- The entries of a document that is empty or holds keys and values. -/
def mappingOf? : Yaml.Value → Option Entries
  | .null => some []
  | .dict entries => some entries
  | _ => none

/-- The settings are said by the entries, if the expression, the pattern and the directive are said
in the way that `Said` tells. -/
structure SaidBy (Said : Entries → String → Text → Text → Prop) (entries : Entries)
    (s : Settings) : Prop where
  source : TextsSaid entries "source" ({} : Settings).source s.source
  ignore : TextsSaid entries "ignore" ({} : Settings).ignore s.ignore
  output : TextSaid entries "output" ({} : Settings).output s.output
  regex : Said entries "regex" ({} : Settings).regex s.regex
  pattern : Said entries "pattern" ({} : Settings).pattern s.pattern
  layout : ∃ t, TextSaid entries "layout" ({} : Settings).layout t
    ∧ s.layout = Text.lower (Text.strip t)
  directive : ∃ t, Said entries "directive" ({} : Settings).directive t
    ∧ s.directive = Text.strip t

/-- The document is empty or holds keys and values of the right kinds, and says the settings. -/
def IsTyped (v : Yaml.Value) (s : Settings) : Prop :=
  ∃ entries, mappingOf? v = some entries ∧ SaidBy TextSaid entries s

/-- The settings are what is taken from the document. -/
def IsTaken (v : Yaml.Value) (s : Settings) : Prop :=
  ∃ entries, entriesOf? v = some entries ∧ SaidBy TextWritten entries s

/-- The keys of which any value is taken. -/
def writtenKeys : List String := ["regex", "pattern", "directive"]

/-- What gets through although it is of the wrong kind. -/
inductive Slips (v : Yaml.Value) : Prop where
  /-- A document with nothing in it is taken for an empty one. -/
  | void (hvoid : v.isVoid = true) (hno : mappingOf? v = none)
  /-- The text is taken in which a value is written. -/
  | written (entries : Entries) (key : String) (h : mappingOf? v = some entries)
    (hkey : key ∈ writtenKeys) (hmisfits : Misfits entries key)

variable {v : Yaml.Value} {s : Settings}

theorem entriesOf?_of_mappingOf? (h : mappingOf? v = some entries) :
    entriesOf? v = some entries := by
  cases v with
  | null => exact h
  | dict es =>
    obtain rfl := Option.some.inj h
    cases es <;> rfl
  | _ => exact absurd h (by simp [mappingOf?])

theorem mappingOf?_of_entriesOf? (h : entriesOf? v = some entries) (hno : ¬ Slips v) :
    mappingOf? v = some entries := by
  cases hmapping : mappingOf? v with
  | some es => rw [← entriesOf?_of_mappingOf? hmapping, h]
  | none =>
    -- only a void value says entries without being keys and values
    cases hvoid : v.isVoid with
    | true => exact absurd (.void hvoid hmapping) hno
    | false =>
      cases v with
      | dict es => exact absurd hmapping (by simp [mappingOf?])
      | _ => simp [entriesOf?, hvoid] at h

theorem slips_iff : Slips v ↔ (v.isVoid = true ∧ (mappingOf? v).isNone = true)
    ∨ ∃ entries ∈ mappingOf? v, ∃ key ∈ writtenKeys, Misfits entries key := by
  constructor
  · intro h
    cases h with
    | void hvoid hno => exact Or.inl ⟨hvoid, Option.isNone_iff_eq_none.mpr hno⟩
    | written entries key h hkey hmisfits => exact Or.inr ⟨entries, h, key, hkey, hmisfits⟩
  · rintro (⟨hvoid, hno⟩ | ⟨entries, h, key, hkey, hmisfits⟩)
    · exact .void hvoid (Option.isNone_iff_eq_none.mp hno)
    · exact .written entries key h hkey hmisfits

instance (v : Yaml.Value) : Decidable (Slips v) := decidable_of_iff _ slips_iff.symm

/-- Settings come from texts exactly if they come from what is written and the keys hold texts. -/
theorem saidBy_textSaid_iff : SaidBy TextSaid entries s ↔
    SaidBy TextWritten entries s ∧ ∀ key ∈ writtenKeys, ¬ Misfits entries key := by
  constructor
  · intro h
    obtain ⟨u, hdirective, hdirective'⟩ := h.directive
    obtain ⟨hregex, hregexFits⟩ := textSaid_iff_not_misfits.mp h.regex
    obtain ⟨hpattern, hpatternFits⟩ := textSaid_iff_not_misfits.mp h.pattern
    obtain ⟨hdirective, hdirectiveFits⟩ := textSaid_iff_not_misfits.mp hdirective
    refine ⟨⟨h.source, h.ignore, h.output, hregex, hpattern, h.layout, u, hdirective, hdirective'⟩,
      fun key hkey => ?_⟩
    simp only [writtenKeys, List.mem_cons, List.not_mem_nil, or_false] at hkey
    rcases hkey with rfl | rfl | rfl
    · exact hregexFits
    · exact hpatternFits
    · exact hdirectiveFits
  · rintro ⟨h, hfits⟩
    have hsaid {key : String} {usual t : Text} (hkey : key ∈ writtenKeys)
        (hwritten : TextWritten entries key usual t) : TextSaid entries key usual t :=
      textSaid_iff_not_misfits.mpr ⟨hwritten, hfits key hkey⟩
    obtain ⟨u, hdirective, hdirective'⟩ := h.directive
    exact ⟨h.source, h.ignore, h.output, hsaid (by decide) h.regex, hsaid (by decide) h.pattern,
      h.layout, u, hsaid (by decide) hdirective, hdirective'⟩

/-- **What is taken is of the right kinds, unless it slips through.** -/
theorem isTyped_iff : IsTyped v s ↔ IsTaken v s ∧ ¬ Slips v := by
  constructor
  · rintro ⟨entries, hmapping, h⟩
    obtain ⟨h, hfits⟩ := saidBy_textSaid_iff.mp h
    refine ⟨⟨entries, entriesOf?_of_mappingOf? hmapping, h⟩, fun hslips => ?_⟩
    cases hslips with
    | void _ hno => rw [hmapping] at hno; exact absurd hno (by simp)
    | written es key hes hkey hmisfits =>
      obtain rfl := Option.some.inj (hmapping.symm.trans hes)
      exact hfits key hkey hmisfits
  · rintro ⟨⟨entries, hentries, h⟩, hno⟩
    have hmapping := mappingOf?_of_entriesOf? hentries hno
    exact ⟨entries, hmapping, saidBy_textSaid_iff.mpr
      ⟨h, fun key hkey hmisfits => hno (.written entries key hmapping hkey hmisfits)⟩⟩

/-! ## Loading -/

theorem layout_of_validate (h : s.validate = .ok s) :
    (Layout.ofName? s.layout).isNone = false := by
  have hchecked := s.checked
  rw [h] at hchecked
  cases hchecked with
  | valid _ _ _ _ hlayout => exact hlayout

/-- Entries are accepted exactly if they say settings that pass the checks. -/
theorem ofEntries_validate_eq_ok_iff : ofEntries base entries >>= validate = .ok s ↔
    SaidBy TextWritten entries s ∧ s.base = base ∧ s.validate = .ok s := by
  constructor
  · intro h
    cases hsaid : ofEntries base entries with
    | error e => rw [hsaid] at h; exact absurd h (by simp [bind, Except.bind])
    | ok said =>
      rw [hsaid] at h
      obtain rfl := eq_of_validate (s := said) h
      rw [ofEntries_eq, assemble_eq_ok_iff] at hsaid
      obtain ⟨houtput, hsource, hignore, hregex, hpattern, hlayout, hdirective, hbase⟩ := hsaid
      refine ⟨⟨textsAt_eq_ok_iff.mp hsource, textsAt_eq_ok_iff.mp hignore,
        outputAt_eq_ok_iff.mp houtput, textWritten_iff.mpr hregex, textWritten_iff.mpr hpattern,
        ⟨_, textSaid_iff_not_misfits.mpr ⟨textWritten_iff.mpr rfl, fun hmisfits => ?_⟩, hlayout⟩,
        _, textWritten_iff.mpr rfl, hdirective⟩, hbase, h⟩
      -- a layout that is no text does not pass the checks
      obtain ⟨v, hv, hno⟩ := hmisfits
      have hnone := layout_of_validate h
      rw [hlayout, textAt, hv] at hnone
      simp [ofName?_of_not_text hno] at hnone
  · rintro ⟨h, hbase, hvalid⟩
    obtain ⟨t, hlayout, hlayout'⟩ := h.layout
    obtain ⟨u, hdirective, hdirective'⟩ := h.directive
    obtain rfl := textWritten_iff.mp (textSaid_iff_not_misfits.mp hlayout).1
    obtain rfl := textWritten_iff.mp hdirective
    have hsaid : ofEntries base entries = .ok s := by
      rw [ofEntries_eq, assemble_eq_ok_iff]
      exact ⟨outputAt_eq_ok_iff.mpr h.output, textsAt_eq_ok_iff.mpr h.source,
        textsAt_eq_ok_iff.mpr h.ignore, textWritten_iff.mp h.regex, textWritten_iff.mp h.pattern,
        hlayout', hdirective', hbase⟩
    rw [hsaid]
    exact hvalid

/-- The error is about what a settings file says. -/
inductive Error.IsOfValue : Error → Prop where
  | notMapping (path : Text) : IsOfValue (.notMapping path)
  | notTexts (key : String) : IsOfValue (.notTexts key)
  | noSource : IsOfValue .noSource
  | badOutput : IsOfValue .badOutput
  | badRegex (x : Regex.Error) (h : x.fault ≠ .repetitionTooLarge) : IsOfValue (.badRegex x)
  | badLayout : IsOfValue .badLayout
  | badDirective : IsOfValue .badDirective

variable {d : Disk} {path file t : Text} {bytes : List UInt8} {e : Error}

theorem isOfValue_of_validate (h : s.validate = .error e) :
    e.IsOfValue ∨ ∃ x, e = .badRegex x ∧ x.fault = .repetitionTooLarge := by
  have hchecked := s.checked
  rw [h] at hchecked
  cases hchecked with
  | noSource => exact Or.inl .noSource
  | badOutput => exact Or.inl .badOutput
  | badRegex _ _ x =>
    by_cases hlarge : x.fault = .repetitionTooLarge
    · exact Or.inr ⟨x, rfl, hlarge⟩
    · exact Or.inl (.badRegex x hlarge)
  | badLayout => exact Or.inl .badLayout
  | badDirective => exact Or.inl .badDirective

theorem isOfValue_of_ofValue (h : ofValue file v = .error e) : e.IsOfValue := by
  rw [ofValue_eq] at h
  cases hentries : entriesOf? v with
  | none =>
    rw [hentries] at h
    obtain rfl := Except.error.inj h
    exact .notMapping file
  | some entries =>
    rw [hentries] at h
    rcases ofEntries_error h with rfl | ⟨key, rfl⟩
    · exact .badOutput
    · exact .notTexts key

theorem Loads.load_of_yaml (h : Loads d path file bytes)
    (hdecoded : Utf8.decodeStream bytes = .ok t)
    (hyaml : Yaml.load (Text.unifyBreaks t) = .ok v) :
    (Settings.load d path).value = ofValue file v >>= validate := by
  rw [h.load, ofBytes, hdecoded]
  simp only [ofText, hyaml]

/--
**Settings of the right kinds.**

Let a path lead to a file that holds YAML. Loading succeeds exactly with the settings that are taken
from the document, if they pass the checks. These come from a document of the right kinds, unless it
is one of those that slip through. If loading fails, then with an error about what the file says, or
because the expression has a repetition that is too large.
-/
theorem load_eq_ok_iff (hloads : Loads d path file bytes)
    (hdecoded : Utf8.decodeStream bytes = .ok t)
    (hyaml : Yaml.load (Text.unifyBreaks t) = .ok v) :
    (∀ s, (load d path).value = .ok s ↔
        IsTaken v s ∧ s.base = Path.parent file ∧ s.validate = .ok s)
      ∧ (∀ s, IsTyped v s ↔ IsTaken v s ∧ ¬ Slips v)
      ∧ ∀ e, (load d path).value = .error e →
        e.IsOfValue ∨ ∃ x, e = .badRegex x ∧ x.fault = .repetitionTooLarge := by
  rw [hloads.load_of_yaml hdecoded hyaml]
  refine ⟨fun s => ?_, fun s => isTyped_iff, fun e he => ?_⟩
  · rw [ofValue_eq]
    cases hentries : entriesOf? v with
    | none => simp [IsTaken, hentries, bind, Except.bind]
    | some entries => simp [IsTaken, hentries, ofEntries_validate_eq_ok_iff]
  · cases hvalue : ofValue file v with
    | error e' =>
      rw [hvalue] at he
      obtain rfl := Except.error.inj he
      exact Or.inl (isOfValue_of_ofValue hvalue)
    | ok s =>
      rw [hvalue] at he
      exact isOfValue_of_validate he

/-- A text with commas and a layout in capitals are taken. -/
theorem load_eq_ok_of_texts :
    let bytes := Utf8.encode "source: a, b\nlayout: ' Pages '\n".toList
    let s : Settings :=
      { source := ["a".toList, "b".toList], layout := "pages".toList, base := "/w".toList }
    Loads (Command.diskOfSettings bytes) Path.dot "/w/jsmkdocs.yaml".toList bytes
      ∧ ∃ t v, Utf8.decodeStream bytes = .ok t ∧ Yaml.load (Text.unifyBreaks t) = .ok v
        ∧ (load (Command.diskOfSettings bytes) Path.dot).value = .ok s ∧ IsTaken v s := by
  intro bytes s
  have hloads := Command.loads_diskOfSettings bytes
  have hdecoded : Utf8.decodeStream bytes = .ok "source: a, b\nlayout: ' Pages '\n".toList := by
    decide +kernel
  have hload : (load (Command.diskOfSettings bytes) Path.dot).value = .ok s := by decide +kernel
  cases hyaml : Yaml.load (Text.unifyBreaks "source: a, b\nlayout: ' Pages '\n".toList) with
  | error e =>
    rw [hloads.load, ofBytes, hdecoded] at hload
    simp only [ofText, hyaml] at hload
    exact absurd hload (by simp)
  | ok v =>
    obtain ⟨haccepted, -, -⟩ := load_eq_ok_iff hloads hdecoded hyaml
    exact ⟨hloads, _, v, hdecoded, hyaml, hload, ((haccepted s).mp hload).1⟩

/-- A directive that is left empty is no text, and is taken for the tag of the name None. -/
theorem not_isTyped_of_empty_directive :
    let bytes := Utf8.encode "directive:\n".toList
    Loads (Command.diskOfSettings bytes) Path.dot "/w/jsmkdocs.yaml".toList bytes
      ∧ ∃ t v s, Utf8.decodeStream bytes = .ok t ∧ Yaml.load (Text.unifyBreaks t) = .ok v
        ∧ (load (Command.diskOfSettings bytes) Path.dot).value = .ok s
        ∧ s.directive = "None".toList ∧ ∀ s, ¬ IsTyped v s := by
  intro bytes
  have hloads := Command.loads_diskOfSettings bytes
  have hdecoded : Utf8.decodeStream bytes = .ok "directive:\n".toList := by decide +kernel
  have hload : (load (Command.diskOfSettings bytes) Path.dot).value
      = .ok { directive := "None".toList, base := "/w".toList } := by decide +kernel
  have hslips : ∃ v ∈ (Yaml.load (Text.unifyBreaks "directive:\n".toList)).toOption, Slips v := by
    decide +kernel
  cases hyaml : Yaml.load (Text.unifyBreaks "directive:\n".toList) with
  | error e => rw [hyaml] at hslips; exact absurd hslips (by simp [Except.toOption])
  | ok v =>
    rw [hyaml] at hslips
    obtain ⟨w, hw, hslips⟩ := hslips
    obtain rfl := Option.some.inj hw
    exact ⟨hloads, _, v, _, hdecoded, hyaml, hload, rfl,
      fun s htyped => (isTyped_iff.mp htyped).2 hslips⟩

end Settings
end DocPress
