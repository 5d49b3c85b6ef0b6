import DocPress.Markdown.TagForm
import DocPress.Proofs.Trimming

/-!
# What the forms of tags read

A tag in one of the three forms is a text with its parts in order, blanks between them, and for a
name and its description maybe a hyphen among the blanks. `IsRow`, `IsHeading` and `IsReturns` say
so of a text and the parts. Reading never makes parts up: whenever it succeeds, the text is put
together of just these parts. And it never misses a tag that is written in the plain way, with
single spaces and a hyphen before the description. Both are in `forms_read_what_is_written`.

A hyphen is also a character of names, and behind two blanks it may begin a description, so a text
can have more than one reading. For the first half it does not matter which of them counts. For the
second it does: a name goes as far as it can, and from there the reading with a separator is tried
first. What each reader accepts is told by one equivalence for each (`description?_eq_some_iff` and
its neighbours), from which both halves follow.
-/

namespace DocPress

namespace TagParts

open Text Fields

/-! ## Parts -/

/-- Blanks between two parts, at least one. -/
def IsGap (g : Text) : Prop := g ≠ [] ∧ ∀ c ∈ g, isBlank c = true

/-- A text that can stand between the braces of a type. -/
def IsType (t : Text) : Prop := t ≠ [] ∧ '{' ∉ t ∧ '}' ∉ t

/-- A name: one or more characters of names. -/
def IsName (n : Text) : Prop := n ≠ [] ∧ ∀ c ∈ n, isNameChar c = true

/-- A description: some text, without blanks at its ends. -/
def IsDescription (d : Text) : Prop := d ≠ [] ∧ strip d = d

/-- A name and a description with blanks between them, or with blanks around a hyphen. -/
inductive Named (name d : Text) : Text → Prop where
  | plain {gap : Text} : IsGap gap → Named name d (name ++ gap ++ d)
  | hyphen {gap gap' : Text} : IsGap gap → IsGap gap' →
      Named name d (name ++ gap ++ '-' :: gap' ++ d)

/-- A type in braces, and blanks before what follows it. -/
inductive Typed (type rest : Text) : Text → Prop where
  | braces {gap : Text} : IsGap gap → Typed type rest ('{' :: type ++ '}' :: gap ++ rest)

/-- The text is a row with these parts. -/
structure IsRow (p : TagParts) (t : Text) : Prop where
  type : IsType p.type
  name : IsName p.name
  description : IsDescription p.description
  form : ∃ rest, Typed p.type rest t ∧ Named p.name p.description rest

/-- The text is a heading with these parts. -/
structure IsHeading (p : TagParts) (t : Text) : Prop where
  type : p.type = []
  name : IsName p.name
  description : IsDescription p.description
  form : Named p.name p.description t

/-- The text is a return value with these parts. -/
structure IsReturns (p : TagParts) (t : Text) : Prop where
  type : IsType p.type
  name : p.name = []
  description : IsDescription p.description
  form : Typed p.type p.description t

/-! ## Descriptions -/

/-- `d` can be the description behind the blanks `gap`. -/
structure Follows (gap d : Text) : Prop where
  isGap : IsGap gap
  /-- It does not begin with a blank. -/
  start : ∃ c r, d = c :: r ∧ isBlank c = false
  /-- It is all on one line. -/
  noFeed : '\n' ∉ d
  /-- It begins with a hyphen only behind two blanks or more. -/
  hyphen : d.head? = some '-' → 2 ≤ gap.length

theorem description?_eq_some_iff {t d : Text} :
    description? t = some d ↔ ∃ gap, t = gap ++ d ∧ Follows gap d := by
  constructor
  · intro h
    unfold description? at h
    split at h
    · rename_i b more c r htake hdrop
      have htext : t = (b :: more) ++ (c :: r) := by
        rw [← htake, ← hdrop, List.takeWhile_append_dropWhile]
      have hc : isBlank c = false := head?_dropWhile (by rw [hdrop]; rfl)
      have hblanks : ∀ a ∈ b :: more, isBlank a = true := fun a ha =>
        List.mem_takeWhile_imp (htake ▸ ha)
      split at h
      · exact absurd h (by simp)
      · rename_i hread
        obtain rfl := Option.some.inj h
        obtain ⟨hfeed, hhyphen⟩ : '\n' ∉ r ∧ (c = '-' → more ≠ []) := by simpa using hread
        refine ⟨b :: more, htext, ⟨List.cons_ne_nil b more, hblanks⟩, ⟨c, r, rfl, hc⟩, ?_, ?_⟩
        · rintro (_ | ⟨_, hmem⟩)
          · exact absurd hc (by decide)
          · exact hfeed hmem
        · intro hhead
          have hlen := List.length_pos_iff.mpr (hhyphen (Option.some.inj hhead))
          rw [List.length_cons]
          omega
    · exact absurd h (by simp)
  · rintro ⟨gap, rfl, ⟨⟨hne, hblanks⟩, ⟨c, r, rfl, hc⟩, hfeed, hhyphen⟩⟩
    obtain ⟨htake, hdrop⟩ := span_append hblanks (r := c :: r) (by
      rintro a ha
      exact Option.some.inj ha ▸ hc)
    obtain ⟨b, more, rfl⟩ := List.exists_cons_of_ne_nil hne
    have hmore : c = '-' → more ≠ [] := by
      rintro rfl rfl
      have hlen := hhyphen rfl
      rw [List.length_singleton] at hlen
      omega
    have hrest : '\n' ∉ r := fun hmem => hfeed (List.mem_cons_of_mem c hmem)
    rw [description?, htake, hdrop]
    simpa [hrest] using hmore

theorem separated?_eq_some_iff {t d : Text} :
    separated? t = some d
      ↔ ∃ gap gap', IsGap gap ∧ t = gap ++ '-' :: gap' ++ d ∧ Follows gap' d := by
  have hstep : separated? t = some d
      ↔ ∃ gap r, IsGap gap ∧ t = gap ++ '-' :: r ∧ description? r = some d := by
    constructor
    · intro h
      unfold separated? at h
      split at h
      · rename_i b more r htake hdrop
        refine ⟨b :: more, r, ⟨List.cons_ne_nil b more, fun a ha => ?_⟩, ?_, h⟩
        · exact List.mem_takeWhile_imp (htake ▸ ha)
        · rw [← htake, ← hdrop, List.takeWhile_append_dropWhile]
      · exact absurd h (by simp)
    · rintro ⟨gap, r, ⟨hne, hblanks⟩, rfl, hr⟩
      obtain ⟨htake, hdrop⟩ := span_append hblanks (r := '-' :: r) (by
        rintro a ha
        obtain rfl := Option.some.inj ha
        decide)
      obtain ⟨b, more, rfl⟩ := List.exists_cons_of_ne_nil hne
      rw [separated?, htake, hdrop]
      exact hr
  simp only [hstep, description?_eq_some_iff]
  constructor
  · rintro ⟨gap, r, hgap, rfl, gap', rfl, hfollows⟩
    exact ⟨gap, gap', hgap, by simp, hfollows⟩
  · rintro ⟨gap, gap', hgap, rfl, hfollows⟩
    exact ⟨gap, gap' ++ d, hgap, by simp, gap', rfl, hfollows⟩

/-! ## Names and types -/

theorem named?_eq_some_iff {t name d : Text} :
    named? t = some (name, d) ↔ IsName name ∧ ∃ rest, t = name ++ rest
      ∧ (∀ c, rest.head? = some c → isNameChar c = false)
      ∧ (separated? rest).or (description? rest) = some d := by
  constructor
  · intro h
    unfold named? at h
    dsimp only at h
    split at h
    · exact absurd h (by simp)
    · rename_i hname
      obtain ⟨d', hd', heq⟩ := Option.map_eq_some_iff.mp h
      obtain ⟨rfl, rfl⟩ := Prod.mk.inj heq
      refine ⟨⟨?_, fun c hc => List.mem_takeWhile_imp hc⟩, t.dropWhile isNameChar, ?_,
        fun c hc => head?_dropWhile hc, hd'⟩
      · simpa using hname
      · rw [List.takeWhile_append_dropWhile]
  · rintro ⟨⟨hne, hchars⟩, rest, rfl, hstop, hd⟩
    obtain ⟨htake, hdrop⟩ := span_append hchars hstop
    rw [named?, htake, hdrop, hd]
    simp [hne]

theorem isBrace_eq_false_iff {c : Char} : isBrace c = false ↔ c ≠ '{' ∧ c ≠ '}' := by
  simp [isBrace]

theorem braced?_eq_some_iff {t inner rest : Text} : braced? t = some (inner, rest)
    ↔ ('{' ∉ inner ∧ '}' ∉ inner) ∧ t = '{' :: inner ++ '}' :: rest := by
  constructor
  · intro h
    unfold braced? at h
    split at h
    · rename_i u
      split at h
      · rename_i r hdrop
        obtain ⟨rfl, rfl⟩ := Prod.mk.inj (Option.some.inj h)
        have hbraces : ∀ c ∈ u.takeWhile (!isBrace ·), c ≠ '{' ∧ c ≠ '}' := by
          intro c hc
          have hno := List.mem_takeWhile_imp hc
          rw [Bool.not_eq_true'] at hno
          exact isBrace_eq_false_iff.mp hno
        refine ⟨⟨fun hmem => (hbraces _ hmem).1 rfl, fun hmem => (hbraces _ hmem).2 rfl⟩, ?_⟩
        rw [List.cons_append, ← hdrop, List.takeWhile_append_dropWhile]
      · exact absurd h (by simp)
    · exact absurd h (by simp)
  · rintro ⟨⟨hopen, hclose⟩, rfl⟩
    have hinner : ∀ c ∈ inner, (!isBrace c) = true := by
      intro c hc
      rw [Bool.not_eq_true', isBrace_eq_false_iff]
      exact ⟨fun he => hopen (he ▸ hc), fun he => hclose (he ▸ hc)⟩
    obtain ⟨htake, hdrop⟩ := span_append hinner (r := '}' :: rest) (by
      intro c hc
      obtain rfl := Option.some.inj hc
      decide)
    rw [List.cons_append, braced?, hdrop, htake]
    rfl

theorem typed?_eq_some_iff {t type rest : Text} :
    typed? t = some (type, rest) ↔ IsType type ∧ t = '{' :: type ++ '}' :: rest := by
  have hstep : typed? t = some (type, rest) ↔ type ≠ [] ∧ braced? t = some (type, rest) := by
    constructor
    · intro h
      unfold typed? at h
      split at h
      · rename_i inner r hbraced
        split at h
        · exact absurd h (by simp)
        · rename_i hne
          obtain ⟨rfl, rfl⟩ := Prod.mk.inj (Option.some.inj h)
          exact ⟨by simpa using hne, hbraced⟩
      · exact absurd h (by simp)
    · rintro ⟨hne, hbraced⟩
      rw [typed?, hbraced]
      simp [hne]
  rw [hstep, braced?_eq_some_iff, IsType, ← and_assoc]

/-! ## Whole tags -/

theorem ofHeading_eq_ok_iff {raw : Text} {p : TagParts} : ofHeading raw = .ok p
    ↔ p.type = [] ∧ named? (strip raw) = some (p.name, p.description) := by
  obtain ⟨type, name, description⟩ := p
  unfold ofHeading
  split
  · rename_i n d hnamed
    simp [hnamed, eq_comm]
  · rename_i hnamed
    simp [hnamed]

/-- Behind the type of a row stand blanks, and behind these its name and description. -/
theorem ofRow_of_typed {kind raw type rest : Text} (h : typed? (strip raw) = some (type, rest)) :
    ofRow kind raw
      = match if (rest.takeWhile isBlank).isEmpty then none
          else named? (rest.dropWhile isBlank) with
        | some (name, description) => .ok { type, name, description }
        | none => .error ⟨kind, raw, .notRow⟩ := by
  simp only [ofRow, h, Option.bind_eq_bind, Option.bind_some]
  cases (rest.takeWhile isBlank).isEmpty <;> cases named? (rest.dropWhile isBlank) <;> rfl

theorem ofRow_eq_ok_iff {kind raw : Text} {p : TagParts} : ofRow kind raw = .ok p
    ↔ ∃ gap rest, IsGap gap ∧ (∀ c, rest.head? = some c → isBlank c = false)
      ∧ typed? (strip raw) = some (p.type, gap ++ rest)
      ∧ named? rest = some (p.name, p.description) := by
  constructor
  · intro h
    cases htyped : typed? (strip raw) with
    | none => simp [ofRow, htyped] at h
    | some parts =>
      obtain ⟨type, r⟩ := parts
      rw [ofRow_of_typed htyped] at h
      split at h
      · rename_i name description hnamed
        obtain rfl := Except.ok.inj h
        rw [ite_eq_iff] at hnamed
        obtain ⟨hgap, hnamed⟩ := hnamed.resolve_left fun hnone => absurd hnone.2 (by simp)
        refine ⟨r.takeWhile isBlank, r.dropWhile isBlank, ⟨by simpa using hgap, fun c hc => ?_⟩,
          fun c hc => head?_dropWhile hc, ?_, hnamed⟩
        · exact List.mem_takeWhile_imp hc
        · rw [List.takeWhile_append_dropWhile]
      · exact absurd h (by simp)
  · rintro ⟨gap, rest, ⟨hne, hblanks⟩, hstop, htyped, hnamed⟩
    obtain ⟨htake, hdrop⟩ := span_append hblanks hstop
    rw [ofRow_of_typed htyped, htake, hdrop, if_neg (by simpa using hne), hnamed]

theorem ofReturns_eq_ok_iff {raw : Text} {p : TagParts} : ofReturns raw = .ok p
    ↔ p.name = [] ∧ ∃ rest, typed? (strip raw) = some (p.type, rest)
      ∧ description? rest = some p.description := by
  obtain ⟨type, name, description⟩ := p
  unfold ofReturns
  cases htyped : typed? (strip raw) with
  | none => simp
  | some parts =>
    obtain ⟨type', r⟩ := parts
    cases hdescription : description? r with
    | none => simp [hdescription]
    | some d => simp [hdescription, eq_comm, and_left_comm]

/-! ## Soundness -/

/-- What ends a stripped text and does not begin with a blank is a description. -/
theorem isDescription_of_suffix {t d : Text} (ht : strip t = t) (hsuffix : d <:+ t)
    (hstart : ∃ c r, d = c :: r ∧ isBlank c = false) : IsDescription d := by
  obtain ⟨c, r, rfl, hc⟩ := hstart
  obtain ⟨before, rfl⟩ := hsuffix
  have hlast := (ends_of_trim ht).2
  rw [List.getLast?_append_of_ne_nil _ (List.cons_ne_nil c r)] at hlast
  exact ⟨List.cons_ne_nil c r, trim_of_ends (fun a ha => Option.some.inj ha ▸ hc) hlast⟩

theorem Named.suffix {name d t : Text} (h : Named name d t) : d <:+ t := by
  cases h with
  | plain => exact List.suffix_append ..
  | hyphen => exact List.suffix_append ..

theorem Typed.suffix {type rest t : Text} (h : Typed type rest t) : rest <:+ t := by
  cases h with
  | braces => exact List.suffix_append ..

/-- A name and a description that are read are there, in one of the two forms. -/
theorem named_of_named? {t name d : Text} (h : named? t = some (name, d)) :
    IsName name ∧ Named name d t ∧ ∃ c r, d = c :: r ∧ isBlank c = false := by
  obtain ⟨hname, rest, rfl, -, hd⟩ := named?_eq_some_iff.mp h
  rcases Option.or_eq_some_iff.mp hd with hd | ⟨-, hd⟩
  · obtain ⟨gap, gap', hgap, rfl, hfollows⟩ := separated?_eq_some_iff.mp hd
    have htext : name ++ (gap ++ '-' :: gap' ++ d) = name ++ gap ++ '-' :: gap' ++ d := by simp
    rw [htext]
    exact ⟨hname, .hyphen hgap hfollows.isGap, hfollows.start⟩
  · obtain ⟨gap, rfl, hfollows⟩ := description?_eq_some_iff.mp hd
    rw [← List.append_assoc]
    exact ⟨hname, .plain hfollows.isGap, hfollows.start⟩

theorem typed_of_typed? {t type gap rest : Text} (h : typed? t = some (type, gap ++ rest))
    (hgap : IsGap gap) : IsType type ∧ Typed type rest t := by
  obtain ⟨htype, rfl⟩ := typed?_eq_some_iff.mp h
  have htext : '{' :: type ++ '}' :: (gap ++ rest) = '{' :: type ++ '}' :: gap ++ rest := by simp
  rw [htext]
  exact ⟨htype, .braces hgap⟩

theorem isHeading_of_ofHeading {raw : Text} {p : TagParts} (h : ofHeading raw = .ok p) :
    IsHeading p (strip raw) := by
  obtain ⟨htype, hnamed⟩ := ofHeading_eq_ok_iff.mp h
  obtain ⟨hname, hform, hstart⟩ := named_of_named? hnamed
  exact ⟨htype, hname, isDescription_of_suffix (trim_trim isBlank raw) hform.suffix hstart, hform⟩

theorem isRow_of_ofRow {kind raw : Text} {p : TagParts} (h : ofRow kind raw = .ok p) :
    IsRow p (strip raw) := by
  obtain ⟨gap, rest, hgap, -, htyped, hnamed⟩ := ofRow_eq_ok_iff.mp h
  obtain ⟨htype, hbraces⟩ := typed_of_typed? htyped hgap
  obtain ⟨hname, hform, hstart⟩ := named_of_named? hnamed
  exact ⟨htype, hname, isDescription_of_suffix (trim_trim isBlank raw)
    (hform.suffix.trans hbraces.suffix) hstart, rest, hbraces, hform⟩

theorem isReturns_of_ofReturns {raw : Text} {p : TagParts} (h : ofReturns raw = .ok p) :
    IsReturns p (strip raw) := by
  obtain ⟨hname, rest, htyped, hd⟩ := ofReturns_eq_ok_iff.mp h
  obtain ⟨gap, rfl, hfollows⟩ := description?_eq_some_iff.mp hd
  obtain ⟨htype, hbraces⟩ := typed_of_typed? htyped hfollows.isGap
  exact ⟨htype, hname, isDescription_of_suffix (trim_trim isBlank raw) hbraces.suffix
    hfollows.start, hbraces⟩

/-! ## Completeness -/

/-- A heading as it is usually written. -/
def writeHeading (name d : Text) : Text := name ++ " - ".toList ++ d

/-- A row as it is usually written. -/
def writeRow (type name d : Text) : Text := '{' :: type ++ "\x7d ".toList ++ writeHeading name d

/-- A return value as it is usually written. -/
def writeReturns (type d : Text) : Text := '{' :: type ++ "\x7d ".toList ++ d

/-- A description that can stand behind a single space. -/
structure IsPlain (d : Text) : Prop where
  isDescription : IsDescription d
  noFeed : '\n' ∉ d
  noHyphen : d.head? ≠ some '-'

/-- No blank is a character of names. -/
theorem not_isNameChar_of_isBlank {c : Char} (h : isBlank c = true) : isNameChar c = false := by
  have hblanks : ∀ n ∈ blanks.flatMap (fun r => List.range' r.1 (r.2 + 1 - r.1)),
      isNameChar (Char.ofNat n) = false := by decide +kernel
  obtain ⟨r, hr, hfirst, hlast⟩ := Ranges.has_eq_true_iff.mp h
  have hmem : c.toNat ∈ blanks.flatMap fun r => List.range' r.1 (r.2 + 1 - r.1) :=
    List.mem_flatMap.mpr ⟨r, hr, List.mem_range'_1.mpr ⟨hfirst, by omega⟩⟩
  have hname := hblanks c.toNat hmem
  rwa [Char.ofNat_toNat] at hname

theorem IsName.not_isBlank {name : Text} (h : IsName name) {c : Char} (hc : c ∈ name) :
    isBlank c = false := by
  have hchar := h.2 c hc
  rw [← Bool.not_eq_true]
  intro hblank
  rw [not_isNameChar_of_isBlank hblank] at hchar
  exact absurd hchar (by decide)

theorem IsName.start {name : Text} (h : IsName name) :
    ∃ c r, name = c :: r ∧ isBlank c = false := by
  obtain ⟨c, r, rfl⟩ := List.exists_cons_of_ne_nil h.1
  exact ⟨c, r, rfl, h.not_isBlank (List.mem_cons_self ..)⟩

/-- A written tag has no blanks at its ends. -/
theorem strip_append_description {a d : Text} (ha : ∃ c r, a = c :: r ∧ isBlank c = false)
    (hd : IsDescription d) : strip (a ++ d) = a ++ d := by
  obtain ⟨c, r, rfl, hc⟩ := ha
  refine trim_of_ends (fun b hb => Option.some.inj hb ▸ hc) ?_
  rw [List.getLast?_append_of_ne_nil _ hd.1]
  exact (ends_of_trim hd.2).2

theorem isGap_space : IsGap [' '] := ⟨List.cons_ne_nil _ _, isBlank_of_mem_space⟩

theorem IsPlain.follows {d : Text} (h : IsPlain d) : Follows [' '] d := by
  obtain ⟨c, r, rfl⟩ := List.exists_cons_of_ne_nil h.isDescription.1
  refine ⟨isGap_space, ⟨c, r, rfl, ?_⟩, h.noFeed, fun hhead => absurd hhead h.noHyphen⟩
  exact (ends_of_trim h.isDescription.2).1 c rfl

/-- The space behind a written name ends it, and the hyphen is read as the separator. -/
theorem named?_writeHeading {name d : Text} (hname : IsName name) (hd : IsPlain d) :
    named? (writeHeading name d) = some (name, d) := by
  have hseparated : separated? (" - ".toList ++ d) = some d :=
    separated?_eq_some_iff.mpr ⟨[' '], [' '], isGap_space, rfl, hd.follows⟩
  refine named?_eq_some_iff.mpr ⟨hname, " - ".toList ++ d, List.append_assoc .., fun c hc => ?_, ?_⟩
  · obtain rfl := Option.some.inj hc
    decide
  · rw [hseparated]
    rfl

theorem ofHeading_writeHeading {name d : Text} (hname : IsName name) (hd : IsPlain d) :
    ofHeading (writeHeading name d) = .ok { name, description := d } := by
  have hstart : ∃ c r, name ++ " - ".toList = c :: r ∧ isBlank c = false := by
    obtain ⟨c, r, rfl, hc⟩ := hname.start
    exact ⟨c, r ++ " - ".toList, rfl, hc⟩
  refine ofHeading_eq_ok_iff.mpr ⟨rfl, ?_⟩
  rw [writeHeading, strip_append_description hstart hd.isDescription]
  exact named?_writeHeading hname hd

theorem ofRow_writeRow {type name d : Text} (kind : Text) (htype : IsType type)
    (hname : IsName name) (hd : IsPlain d) :
    ofRow kind (writeRow type name d) = .ok { type, name, description := d } := by
  have hstrip : strip (writeRow type name d) = writeRow type name d := by
    have htext : writeRow type name d
        = '{' :: (type ++ "\x7d ".toList ++ name ++ " - ".toList) ++ d := by
      simp [writeRow, writeHeading]
    rw [htext]
    exact strip_append_description ⟨'{', _, rfl, by decide⟩ hd.isDescription
  refine ofRow_eq_ok_iff.mpr ⟨[' '], writeHeading name d, isGap_space, ?_, ?_,
    named?_writeHeading hname hd⟩
  · obtain ⟨c, r, rfl, hc⟩ := hname.start
    intro a ha
    exact Option.some.inj ha ▸ hc
  · rw [hstrip]
    refine typed?_eq_some_iff.mpr ⟨htype, ?_⟩
    simp [writeRow]

theorem ofReturns_writeReturns {type d : Text} (htype : IsType type) (hd : IsPlain d) :
    ofReturns (writeReturns type d) = .ok { type, description := d } := by
  have hstrip : strip (writeReturns type d) = writeReturns type d :=
    strip_append_description ⟨'{', _, rfl, by decide⟩ hd.isDescription
  refine ofReturns_eq_ok_iff.mpr ⟨rfl, ' ' :: d, ?_, ?_⟩
  · rw [hstrip]
    refine typed?_eq_some_iff.mpr ⟨htype, ?_⟩
    simp [writeReturns]
  · exact description?_eq_some_iff.mpr ⟨[' '], rfl, hd.follows⟩

/--
**The forms are read exactly.**

A row, a heading or a return value with any parts, written the usual way, is read with just these
parts. And any text at all that is read as one of them, stripped, is put together of the parts that
were read, with blanks between them and maybe a hyphen before the description.
-/
theorem forms_read_what_is_written :
    (∀ kind type name d, IsType type → IsName name → IsPlain d →
        ofRow kind (writeRow type name d) = .ok { type, name, description := d })
      ∧ (∀ name d, IsName name → IsPlain d →
        ofHeading (writeHeading name d) = .ok { name, description := d })
      ∧ (∀ type d, IsType type → IsPlain d →
        ofReturns (writeReturns type d) = .ok { type, description := d })
      ∧ (∀ kind raw p, ofRow kind raw = .ok p → IsRow p (strip raw))
      ∧ (∀ raw p, ofHeading raw = .ok p → IsHeading p (strip raw))
      ∧ ∀ raw p, ofReturns raw = .ok p → IsReturns p (strip raw) :=
  ⟨fun kind _ _ _ htype hname hd => ofRow_writeRow kind htype hname hd,
    fun _ _ hname hd => ofHeading_writeHeading hname hd,
    fun _ _ htype hd => ofReturns_writeReturns htype hd,
    fun _ _ _ h => isRow_of_ofRow h, fun _ _ h => isHeading_of_ofHeading h,
    fun _ _ h => isReturns_of_ofReturns h⟩

theorem forms_read_what_is_written_of_hyphens :
    IsType "a | b".toList ∧ IsName "-".toList ∧ IsPlain "d - e".toList
      ∧ ofRow "data".toList "\x7ba | b\x7d - - d - e".toList
        = .ok ⟨"a | b".toList, "-".toList, "d - e".toList⟩
      ∧ ofHeading "- - d - e".toList = .ok ⟨[], "-".toList, "d - e".toList⟩
      ∧ ofReturns "\x7ba | b\x7d d - e".toList = .ok ⟨"a | b".toList, [], "d - e".toList⟩
      ∧ IsRow ⟨"t".toList, "n".toList, "-x".toList⟩ "\x7bt\x7d\tn  -x".toList
      ∧ IsHeading ⟨[], "n".toList, "x".toList⟩ "n  - x".toList
      ∧ IsReturns ⟨"t".toList, [], "-x".toList⟩ "\x7bt\x7d\n -x".toList := by
  have htype : IsType "a | b".toList := ⟨by decide, by decide⟩
  have hname : IsName "-".toList := ⟨by decide, List.forall_mem_singleton.mpr (by decide)⟩
  have hd : IsPlain "d - e".toList := ⟨⟨by decide, by decide⟩, by decide, by decide⟩
  obtain ⟨hrow, hheading, hreturns, hisRow, hisHeading, hisReturns⟩ := forms_read_what_is_written
  exact ⟨htype, hname, hd, hrow _ _ _ _ htype hname hd, hheading _ _ hname hd,
    hreturns _ _ htype hd, hisRow "data".toList " \x7bt\x7d\tn  -x".toList _ (by decide),
    hisHeading "n  - x\n".toList _ (by decide), hisReturns "\x7bt\x7d\n -x".toList _ (by decide)⟩

end TagParts
end DocPress
