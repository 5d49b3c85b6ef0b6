import DocPress.Markdown.Render
import DocPress.Proofs.TagForms

/-!
# What hyphens are taken for

Between a name and a description a hyphen is a separator. But it is also a character of names, and
behind two blanks it may be the first of a description, and from each of these comes a reading that
one does not expect. This module says when.

* A row is read twice: by its form, for the table, and into fields, for the listing. Both find the
  same types and the same name. For fields any hyphen that comes after the name and its blanks is a
  separator, so a description that begins with a hyphen of its own loses it there. This is the one
  way in which the two differ (`fields_agree_iff`).
* Where the name is missing, the hyphen that was to stand behind it is read as the name. This is the
  one way in which a name that is a bare hyphen comes about (`name_is_hyphen_iff`), and it is what
  happens to nearly all tags that are written so: such a tag is refused only if its description
  begins with a hyphen that cannot be the separator either.
-/

namespace DocPress.TagParts

open Text Fields

/-! ## Blanks before a part -/

/-- Where blanks end is settled by the text. -/
theorem gap_unique {g g' r r' : Text} (hg : ∀ c ∈ g, isBlank c = true)
    (hg' : ∀ c ∈ g', isBlank c = true) (hr : ∀ c, r.head? = some c → isBlank c = false)
    (hr' : ∀ c, r'.head? = some c → isBlank c = false) (h : g ++ r = g' ++ r') :
    g = g' ∧ r = r' := by
  obtain ⟨htake, hdrop⟩ := span_append hg hr
  obtain ⟨htake', hdrop'⟩ := span_append hg' hr'
  exact ⟨by rw [← htake, h, htake'], by rw [← hdrop, h, hdrop']⟩

theorem stripStart_gap {g r : Text} (hg : ∀ c ∈ g, isBlank c = true)
    (hr : ∀ c, r.head? = some c → isBlank c = false) : stripStart (g ++ r) = r :=
  (span_append hg hr).2

/-- What follows the type is settled by the text, up to the blanks before it. -/
theorem Typed.unique {type r r' t : Text} (h : Typed type r t) (h' : Typed type r' t)
    (hr : ∀ c, r.head? = some c → isBlank c = false)
    (hr' : ∀ c, r'.head? = some c → isBlank c = false) : r = r' := by
  obtain @⟨g, hg⟩ := h
  generalize ht : '{' :: type ++ '}' :: g ++ r = t at h'
  obtain @⟨g', hg'⟩ := h'
  have hcut : g ++ r = g' ++ r' := by simpa using ht
  exact (gap_unique hg.2 hg'.2 hr hr' hcut).2

theorem Follows.head?_not_blank {gap d : Text} (h : Follows gap d) :
    ∀ c, d.head? = some c → isBlank c = false := by
  obtain ⟨c, r, rfl, hc⟩ := h.start
  exact head?_cons_of_not hc r

theorem IsName.head?_append_not_blank {name : Text} (h : IsName name) (r : Text) :
    ∀ c, (name ++ r).head? = some c → isBlank c = false := by
  obtain ⟨c, s, rfl, hc⟩ := h.start
  exact head?_cons_of_not hc (s ++ r)

/-! ## Fields of a row -/

/-- The description begins with a hyphen, and nothing but blanks stands between it and the name. -/
structure HasBareHyphen (p : TagParts) (t : Text) : Prop where
  hyphen : p.description.head? = some '-'
  form : ∃ gap, IsGap gap ∧ Typed p.type (p.name ++ gap ++ p.description) t

theorem dropHyphen_of_ne {d : Text} (h : d.head? ≠ some '-') : dropHyphen d = d := by
  unfold dropHyphen
  split
  · exact absurd rfl h
  · rfl

theorem dropHyphen_ne {d : Text} (h : d.head? = some '-') : dropHyphen d ≠ d := by
  obtain ⟨r, rfl⟩ := List.head?_eq_some_iff.mp h
  intro he
  have hlen := (List.dropWhile_sublist isBlank (l := r)).length_le
  have hsame : (r.dropWhile isBlank).length = r.length + 1 := congrArg List.length he
  omega

/-- Types in braces are split off together with the blanks behind them. -/
theorem splitTypes_of_typed? {t type gap rest : Text} (h : typed? t = some (type, gap ++ rest))
    (hgap : IsGap gap) (hrest : ∀ c, rest.head? = some c → isBlank c = false) (hline : '\n' ∉ t) :
    splitTypes t = (fields '|' type, rest) := by
  obtain ⟨htype, rfl⟩ := typed?_eq_some_iff.mp h
  have hbraced : braced? ('{' :: type ++ '}' :: (gap ++ rest)) = some (type, gap ++ rest) :=
    braced?_eq_some_iff.mpr ⟨htype.2, rfl⟩
  have hfeed : rest.contains '\n' = false := by
    rw [← Bool.not_eq_true, List.contains_iff_mem]
    intro hmem
    exact hline (by simp [hmem])
  rw [splitTypes, hbraced]
  dsimp only
  rw [stripStart_gap hgap.2 hrest, hfeed]
  rfl

/-- The first word is the name, and blanks and a hyphen behind it are dropped. -/
theorem splitName_append {name gap r : Text} (hname : IsName name) (hgap : IsGap gap)
    (hr : ∀ c, r.head? = some c → isBlank c = false) :
    splitName (name ++ gap ++ r) = (name, dropHyphen r) := by
  have hstart : stripStart (name ++ (gap ++ r)) = name ++ (gap ++ r) :=
    stripStart_gap (g := []) (by simp) (hname.head?_append_not_blank _)
  obtain ⟨htake, hdrop⟩ := span_append (p := (!isBlank ·)) (a := name) (r := gap ++ r)
    (fun c hc => by rw [hname.not_isBlank hc]; rfl) (by
      obtain ⟨b, g, rfl⟩ := List.exists_cons_of_ne_nil hgap.1
      have hb := hgap.2 b (List.mem_cons_self ..)
      exact head?_cons_of_not (by rw [hb]; rfl) (g ++ r))
  rw [List.append_assoc, splitName, hstart, htake, hdrop, stripStart_gap hgap.2 hr]

/-- The fields of a row, by whether its description has a hyphen of its own. -/
theorem ofTag_of_ofRow {kind raw : Text} {p : TagParts} (hkind : kind ∈ namedKinds)
    (hline : '\n' ∉ raw) (h : ofRow kind raw = .ok p) :
    (HasBareHyphen p (strip raw)
        ∧ ofTag kind raw = ⟨fields '|' p.type, p.name, dropHyphen p.description⟩)
      ∨ ¬ HasBareHyphen p (strip raw)
        ∧ ofTag kind raw = ⟨fields '|' p.type, p.name, p.description⟩ := by
  obtain ⟨gap, rest, hgap, hrest, htyped, hnamed⟩ := ofRow_eq_ok_iff.mp h
  obtain ⟨-, hbraces⟩ := typed_of_typed? htyped hgap
  have hfeed : '\n' ∉ strip raw := fun hmem => hline ((infix_trim isBlank raw).subset hmem)
  have hfields : ofTag kind raw
      = ⟨fields '|' p.type, (splitName rest).1, (splitName rest).2⟩ := by
    rw [ofTag, splitTypes_of_typed? htyped hgap hrest hfeed]
    simp [hkind]
  obtain ⟨hname, behind, rfl, -, hd⟩ := named?_eq_some_iff.mp hnamed
  rcases Option.or_eq_some_iff.mp hd with hd | ⟨-, hd⟩
  · -- the hyphen of a separator is dropped with the blanks behind it
    obtain ⟨g, g', hg, rfl, hfollows⟩ := separated?_eq_some_iff.mp hd
    refine .inr ⟨?_, ?_⟩
    · rintro ⟨-, b, hb, hbare⟩
      have hsame := hbraces.unique hbare hrest (by
        rw [List.append_assoc]
        exact hname.head?_append_not_blank _)
      have hends : g ++ '-' :: g' ++ p.description = b ++ p.description := by
        simpa using hsame
      have hcut : g ++ '-' :: g' = b := List.append_cancel_right hends
      have hblank := hb.2 '-' (hcut ▸ by simp)
      exact absurd hblank (by decide)
    · have hsplit : splitName (p.name ++ (g ++ '-' :: g' ++ p.description))
          = (p.name, p.description) := by
        have hstop : ∀ c, ('-' :: g' ++ p.description).head? = some c → isBlank c = false :=
          head?_cons_of_not (by decide) (g' ++ p.description)
        have htext : p.name ++ (g ++ '-' :: g' ++ p.description)
            = p.name ++ g ++ ('-' :: g' ++ p.description) := by simp
        rw [htext, splitName_append hname hg hstop, List.cons_append, dropHyphen,
          stripStart_gap hfollows.isGap.2 hfollows.head?_not_blank]
      rw [hfields, hsplit]
  · obtain ⟨g, rfl, hfollows⟩ := description?_eq_some_iff.mp hd
    have hsplit : splitName (p.name ++ (g ++ p.description))
        = (p.name, dropHyphen p.description) := by
      rw [← List.append_assoc]
      exact splitName_append hname hfollows.isGap hfollows.head?_not_blank
    rw [hfields, hsplit]
    by_cases hhyphen : p.description.head? = some '-'
    · refine .inl ⟨⟨hhyphen, g, hfollows.isGap, ?_⟩, rfl⟩
      rw [List.append_assoc]
      exact hbraces
    · exact .inr ⟨fun hbare => hhyphen hbare.hyphen, by rw [dropHyphen_of_ne hhyphen]⟩

/--
**The two readings of a row agree but for a hyphen.**

Of a row on one line, types and name are the same among its fields as in its form. The description
is the same exactly if it does not begin with a hyphen right behind the name and its blanks; in that
case the hyphen and the blanks behind it are missing from the fields.
-/
theorem fields_agree_iff {kind raw : Text} {p : TagParts} (hkind : kind ∈ namedKinds)
    (hline : '\n' ∉ raw) (h : ofRow kind raw = .ok p) :
    (ofTag kind raw).types = fields '|' p.type ∧ (ofTag kind raw).name = p.name
      ∧ ((ofTag kind raw).description = p.description ↔ ¬ HasBareHyphen p (strip raw))
      ∧ (HasBareHyphen p (strip raw) →
        (ofTag kind raw).description = dropHyphen p.description) := by
  rcases ofTag_of_ofRow hkind hline h with ⟨hbare, hfields⟩ | ⟨hbare, hfields⟩
  · have hlost := dropHyphen_ne hbare.hyphen
    rw [hfields]
    exact ⟨rfl, rfl, ⟨fun he => absurd he hlost, fun hno => absurd hbare hno⟩, fun _ => rfl⟩
  · rw [hfields]
    exact ⟨rfl, rfl, ⟨fun _ => hbare, fun _ => rfl⟩, fun hyes => absurd hyes hbare⟩

theorem fields_agree_iff_of_hyphens :
    "data".toList ∈ namedKinds ∧ '\n' ∉ "\x7ba | b\x7d n  -  - x".toList
      ∧ ofRow "data".toList "\x7ba | b\x7d n  -  - x".toList
        = .ok ⟨"a | b".toList, "n".toList, "- x".toList⟩
      ∧ ofTag "data".toList "\x7ba | b\x7d n  -  - x".toList
        = ⟨["a".toList, "b".toList], "n".toList, "- x".toList⟩
      ∧ ¬ HasBareHyphen ⟨"a | b".toList, "n".toList, "- x".toList⟩
        (strip "\x7ba | b\x7d n  -  - x".toList) := by
  have hkind : "data".toList ∈ namedKinds := by decide
  have hline : '\n' ∉ "\x7ba | b\x7d n  -  - x".toList := by decide
  have hrow : ofRow "data".toList "\x7ba | b\x7d n  -  - x".toList
      = .ok ⟨"a | b".toList, "n".toList, "- x".toList⟩ := by decide
  exact ⟨hkind, hline, hrow, by decide, (fields_agree_iff hkind hline hrow).2.2.1.mp (by decide)⟩

/-- A description that begins with a minus sign has another meaning in the listing. -/
theorem fields_lose_hyphen :
    ofRow "param".toList "\x7bnumber\x7d n  -1 for no limit".toList
        = .ok ⟨"number".toList, "n".toList, "-1 for no limit".toList⟩
      ∧ ofTag "param".toList "\x7bnumber\x7d n  -1 for no limit".toList
        = ⟨["number".toList], "n".toList, "1 for no limit".toList⟩ := by
  decide

/-! ## Missing names -/

/-- The text begins with a hyphen and a blank. -/
def OpensWithHyphen (t : Text) : Prop := ∃ b r, t = '-' :: b :: r ∧ isBlank b = true

/-- The description begins with a hyphen, and no other description follows that. -/
structure HoldsHyphen (d : Text) : Prop where
  hyphen : d.head? = some '-'
  alone : ∀ gap d', Follows gap d' → d ≠ '-' :: gap ++ d'

/-- A heading without a name: what is usually written, from the hyphen on. -/
def writeNamelessHeading (d : Text) : Text := "- ".toList ++ d

/-- A row without a name. -/
def writeNamelessRow (type d : Text) : Text :=
  '{' :: type ++ "\x7d ".toList ++ writeNamelessHeading d

/-- A name is what stands before the first blank, so it is a hyphen if a blank follows that. -/
theorem named?_name_eq_hyphen_iff {t name d : Text} (h : named? t = some (name, d)) :
    name = ['-'] ↔ OpensWithHyphen t := by
  obtain ⟨hname, rest, rfl, hstop, hd⟩ := named?_eq_some_iff.mp h
  obtain ⟨htake, -⟩ := span_append hname.2 hstop
  constructor
  · rintro rfl
    have hgap : ∃ gap r, IsGap gap ∧ rest = gap ++ r := by
      rcases Option.or_eq_some_iff.mp hd with hd | ⟨-, hd⟩
      · obtain ⟨gap, gap', hgap, rfl, -⟩ := separated?_eq_some_iff.mp hd
        exact ⟨gap, '-' :: gap' ++ d, hgap, by simp⟩
      · obtain ⟨gap, rfl, hfollows⟩ := description?_eq_some_iff.mp hd
        exact ⟨gap, d, hfollows.isGap, rfl⟩
    obtain ⟨gap, r, hgap, rfl⟩ := hgap
    obtain ⟨b, g, rfl⟩ := List.exists_cons_of_ne_nil hgap.1
    exact ⟨b, g ++ r, rfl, hgap.2 b (List.mem_cons_self ..)⟩
  · rintro ⟨b, r, htext, hb⟩
    have hstart : isNameChar '-' = true := by decide
    rw [← htake, htext, List.takeWhile_cons_of_pos hstart, List.takeWhile_cons_of_neg]
    rw [not_isNameChar_of_isBlank hb]
    decide

theorem separated?_space_iff {d d' : Text} (hd : ∀ c, d.head? = some c → isBlank c = false) :
    separated? (' ' :: d) = some d' ↔ ∃ gap, d = '-' :: gap ++ d' ∧ Follows gap d' := by
  rw [separated?_eq_some_iff]
  constructor
  · rintro ⟨gap, gap', hgap, htext, hfollows⟩
    have hcut : [' '] ++ d = gap ++ ('-' :: gap' ++ d') := by simpa using htext
    have hhyphen : ∀ c, ('-' :: gap' ++ d').head? = some c → isBlank c = false :=
      head?_cons_of_not (by decide) (gap' ++ d')
    obtain ⟨-, rfl⟩ := gap_unique isGap_space.2 hgap.2 hd hhyphen hcut
    exact ⟨gap', rfl, hfollows⟩
  · rintro ⟨gap, rfl, hfollows⟩
    exact ⟨[' '], gap, isGap_space, by simp, hfollows⟩

theorem description?_space_iff {d d' : Text} (hd : IsDescription d) (hline : '\n' ∉ d) :
    description? (' ' :: d) = some d' ↔ d' = d ∧ d.head? ≠ some '-' := by
  have hstart := (ends_of_trim hd.2).1
  rw [description?_eq_some_iff]
  constructor
  · rintro ⟨gap, htext, hfollows⟩
    obtain ⟨rfl, rfl⟩ := gap_unique isGap_space.2 hfollows.isGap.2 hstart
      hfollows.head?_not_blank (show [' '] ++ d = gap ++ d' from htext)
    refine ⟨rfl, fun hhyphen => ?_⟩
    exact absurd (hfollows.hyphen hhyphen) (by decide)
  · rintro ⟨rfl, hhyphen⟩
    exact ⟨[' '], rfl, IsPlain.follows ⟨hd, hline, hhyphen⟩⟩

/-- What stands behind a hyphen in the place of a name is not read if it holds its own hyphen. -/
theorem named?_nameless_eq_none_iff {d : Text} (hd : IsDescription d) (hline : '\n' ∉ d) :
    named? (writeNamelessHeading d) = none ↔ HoldsHyphen d := by
  have hname : IsName ['-'] := ⟨List.cons_ne_nil _ _, List.forall_mem_singleton.mpr (by decide)⟩
  have hstop : ∀ c, (' ' :: d).head? = some c → isNameChar c = false :=
    head?_cons_of_not (by decide) d
  have hread : named? (writeNamelessHeading d) = none
      ↔ (separated? (' ' :: d)).or (description? (' ' :: d)) = none := by
    obtain ⟨htake, hdrop⟩ := span_append hname.2 hstop
    have htext : writeNamelessHeading d = ['-'] ++ ' ' :: d := rfl
    rw [htext, named?, htake, hdrop]
    simp
  have hstart := (ends_of_trim hd.2).1
  rw [hread, Option.or_eq_none_iff]
  constructor
  · rintro ⟨hseparated, hdescription⟩
    refine ⟨?_, fun gap d' hfollows htext => ?_⟩
    · by_contra hhyphen
      rw [(description?_space_iff hd hline).mpr ⟨rfl, hhyphen⟩] at hdescription
      exact absurd hdescription (by simp)
    · rw [(separated?_space_iff hstart).mpr ⟨gap, htext, hfollows⟩] at hseparated
      exact absurd hseparated (by simp)
  · rintro ⟨hhyphen, halone⟩
    refine ⟨Option.eq_none_iff_forall_ne_some.mpr fun d' hd' => ?_,
      Option.eq_none_iff_forall_ne_some.mpr fun d' hd' => ?_⟩
    · obtain ⟨gap, htext, hfollows⟩ := (separated?_space_iff hstart).mp hd'
      exact halone gap d' hfollows htext
    · exact ((description?_space_iff hd hline).mp hd').2 hhyphen

/-- What is read of a heading without a name, or of the rest of such a row. -/
theorem named?_nameless {d : Text} (hd : IsDescription d) (hline : '\n' ∉ d) :
    (HoldsHyphen d ∧ named? (writeNamelessHeading d) = none)
      ∨ ¬ HoldsHyphen d ∧ ∃ d', named? (writeNamelessHeading d) = some (['-'], d') := by
  have hiff := named?_nameless_eq_none_iff hd hline
  cases hread : named? (writeNamelessHeading d) with
  | none => exact .inl ⟨hiff.mp hread, rfl⟩
  | some parts =>
    obtain ⟨name, d'⟩ := parts
    obtain rfl := (named?_name_eq_hyphen_iff hread).mpr ⟨' ', d, rfl, by decide⟩
    refine .inr ⟨fun hholds => ?_, d', rfl⟩
    rw [hiff.mpr hholds] at hread
    exact absurd hread (by simp)

theorem ofRow_writeNamelessRow {type d : Text} (kind : Text) (htype : IsType type)
    (hd : IsDescription d) :
    ofRow kind (writeNamelessRow type d) = match named? (writeNamelessHeading d) with
      | some (name, description) => .ok { type, name, description }
      | none => .error ⟨kind, writeNamelessRow type d, .notRow⟩ := by
  have hstrip : strip (writeNamelessRow type d) = writeNamelessRow type d := by
    have htext : writeNamelessRow type d = '{' :: (type ++ "\x7d - ".toList) ++ d := by
      simp [writeNamelessRow, writeNamelessHeading]
    rw [htext]
    exact strip_append_description ⟨'{', _, rfl, by decide⟩ hd
  have htyped : typed? (strip (writeNamelessRow type d))
      = some (type, ' ' :: writeNamelessHeading d) := by
    rw [hstrip]
    refine typed?_eq_some_iff.mpr ⟨htype, ?_⟩
    simp [writeNamelessRow]
  rw [ofRow_of_typed htyped]
  rfl

theorem ofHeading_writeNamelessHeading {d : Text} (hd : IsDescription d) :
    ofHeading (writeNamelessHeading d) = match named? (writeNamelessHeading d) with
      | some (name, description) => .ok { name, description }
      | none => .error ⟨headingKind, writeNamelessHeading d, .notNamed⟩ := by
  have hstrip : strip (writeNamelessHeading d) = writeNamelessHeading d :=
    strip_append_description ⟨'-', _, rfl, by decide⟩ hd
  cases hread : named? (writeNamelessHeading d) with
  | none => simp [ofHeading, hstrip, hread]
  | some parts => simp [ofHeading, hstrip, hread]

/--
**When a name is a bare hyphen.**

The name of a row or a heading is a hyphen exactly if a hyphen with a blank behind it stands where
the name should be. A tag that is written without a name, with the hyphen for the separator, is
therefore read as one with that name, unless its description begins with a hyphen behind which no
other description stands; then it is refused.
-/
theorem name_is_hyphen_iff (kind raw : Text) (p : TagParts) (type d : Text) :
    (ofRow kind raw = .ok p →
        (p.name = ['-'] ↔ ∃ rest, Typed p.type rest (strip raw) ∧ OpensWithHyphen rest))
      ∧ (ofHeading raw = .ok p → (p.name = ['-'] ↔ OpensWithHyphen (strip raw)))
      ∧ (IsType type → IsDescription d → '\n' ∉ d →
        (HoldsHyphen d ∧ ofRow kind (writeNamelessRow type d)
            = .error ⟨kind, writeNamelessRow type d, .notRow⟩)
          ∨ ¬ HoldsHyphen d ∧ ∃ d', ofRow kind (writeNamelessRow type d)
            = .ok { type, name := ['-'], description := d' })
      ∧ (IsDescription d → '\n' ∉ d →
        (HoldsHyphen d ∧ ofHeading (writeNamelessHeading d)
            = .error ⟨headingKind, writeNamelessHeading d, .notNamed⟩)
          ∨ ¬ HoldsHyphen d ∧ ∃ d', ofHeading (writeNamelessHeading d)
            = .ok { name := ['-'], description := d' }) := by
  refine ⟨fun h => ?_, fun h => ?_, fun htype hd hline => ?_, fun hd hline => ?_⟩
  · obtain ⟨gap, rest, hgap, hrest, htyped, hnamed⟩ := ofRow_eq_ok_iff.mp h
    obtain ⟨-, hbraces⟩ := typed_of_typed? htyped hgap
    rw [named?_name_eq_hyphen_iff hnamed]
    refine ⟨fun hopens => ⟨rest, hbraces, hopens⟩, ?_⟩
    rintro ⟨rest', hbraces', b, r, rfl, hb⟩
    have hsame := hbraces.unique hbraces' hrest (head?_cons_of_not (by decide) (b :: r))
    exact ⟨b, r, hsame, hb⟩
  · exact named?_name_eq_hyphen_iff (ofHeading_eq_ok_iff.mp h).2
  · rw [ofRow_writeNamelessRow kind htype hd]
    rcases named?_nameless hd hline with ⟨hholds, hread⟩ | ⟨hholds, d', hread⟩
    · exact .inl ⟨hholds, by rw [hread]⟩
    · exact .inr ⟨hholds, d', by rw [hread]⟩
  · rw [ofHeading_writeNamelessHeading hd]
    rcases named?_nameless hd hline with ⟨hholds, hread⟩ | ⟨hholds, d', hread⟩
    · exact .inl ⟨hholds, by rw [hread]⟩
    · exact .inr ⟨hholds, d', by rw [hread]⟩

theorem name_is_hyphen_iff_of_hyphens :
    ofRow "param".toList " \x7bt\x7d -\t-  -x".toList
        = .ok ⟨"t".toList, "-".toList, "-x".toList⟩
      ∧ (∃ rest, Typed "t".toList rest (strip " \x7bt\x7d -\t-  -x".toList)
        ∧ OpensWithHyphen rest)
      ∧ ofHeading "-- - x".toList = .ok ⟨[], "--".toList, "x".toList⟩
      ∧ ¬ OpensWithHyphen (strip "-- - x".toList)
      ∧ IsType "t".toList ∧ IsDescription "-x".toList ∧ '\n' ∉ "-x".toList
      ∧ HoldsHyphen "-x".toList
      ∧ IsDescription "- x".toList ∧ '\n' ∉ "- x".toList ∧ ¬ HoldsHyphen "- x".toList := by
  have hrow : ofRow "param".toList " \x7bt\x7d -\t-  -x".toList
      = .ok ⟨"t".toList, "-".toList, "-x".toList⟩ := by decide
  have hheading : ofHeading "-- - x".toList = .ok ⟨[], "--".toList, "x".toList⟩ := by decide
  have htype : IsType "t".toList := ⟨by decide, by decide⟩
  have hd : IsDescription "-x".toList := ⟨by decide, by decide⟩
  have hd' : IsDescription "- x".toList := ⟨by decide, by decide⟩
  obtain ⟨hname, -, hrefused, -⟩ :=
    name_is_hyphen_iff "param".toList " \x7bt\x7d -\t-  -x".toList _ "t".toList "-x".toList
  obtain ⟨-, hname', -, hread⟩ := name_is_hyphen_iff [] "-- - x".toList _ [] "- x".toList
  refine ⟨hrow, (hname hrow).mp rfl, hheading, fun hopens => ?_, htype, hd, by decide, ?_, hd',
    by decide, ?_⟩
  · exact absurd ((hname' hheading).mpr hopens) (by decide)
  · rcases hrefused htype hd (by decide) with ⟨hholds, -⟩ | ⟨-, d', hok⟩
    · exact hholds
    · have herror : ofRow "param".toList (writeNamelessRow "t".toList "-x".toList)
          = .error ⟨"param".toList, writeNamelessRow "t".toList "-x".toList, .notRow⟩ := by decide
      rw [herror] at hok
      exact absurd hok (by simp)
  · rcases hread hd' (by decide) with ⟨-, herror⟩ | ⟨hholds, -⟩
    · exact absurd herror (by decide)
    · exact hholds

/-- Tags without a name are shown with a hyphen for a name, and nothing is reported. -/
theorem row_and_heading_named_by_hyphen :
    Markdown.row ⟨"a.js".toList, 1, [], [], []⟩
        ⟨"param".toList, writeNamelessRow "T".toList "d".toList, [], [], []⟩
      = ⟨"- | `T` | d\n".toList, []⟩
      ∧ Markdown.heading ⟨"a.js".toList, 1, [], [],
          [⟨"desc".toList, writeNamelessHeading "d".toList, [], [], []⟩]⟩
        = ⟨"### -\nd\n<br><br>\n".toList, []⟩ := by
  decide

end DocPress.TagParts
