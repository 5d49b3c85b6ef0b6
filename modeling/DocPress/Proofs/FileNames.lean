import DocPress.Proofs.LowerCasing

/-!
# File names of titles

A title gives a file name that is a single component of a path, that gives itself, and that does not
depend on how the gaps between the words of the title are written (`ofTitle_is_component`).

A file name comes about in two steps, and the main point is that the order of the two does not
matter (`lower_hyphenate`). Lower-casing leaves gaps as they are and makes no new ones, so the runs
of gaps are the same before and after. The final sigma does look at its neighbours, but a gap and
the hyphen in its place are alike to it, as it looks past neither of them.
-/

namespace DocPress.FileName

open LowerCase

/-! ## Gaps and lower case -/

/-- The code points of gaps. -/
def gapRanges : List (Nat × Nat) := (0x2F, 0x2F) :: (0x5C, 0x5C) :: blanks

theorem isGap_eq (c : Char) : isGap c = Ranges.has gapRanges c.toNat := by
  have hslash : (c == '/') = (0x2F ≤ c.toNat && c.toNat ≤ 0x2F) := by
    rw [Bool.eq_iff_iff, beq_iff_eq, ← Char.toNat_inj, Bool.and_eq_true, decide_eq_true_eq,
      decide_eq_true_eq, show '/'.toNat = 0x2F from rfl]
    omega
  have hback : (c == '\\') = (0x5C ≤ c.toNat && c.toNat ≤ 0x5C) := by
    rw [Bool.eq_iff_iff, beq_iff_eq, ← Char.toNat_inj, Bool.and_eq_true, decide_eq_true_eq,
      decide_eq_true_eq, show '\\'.toNat = 0x5C from rfl]
    omega
  rw [isGap, hslash, hback, isBlank, gapRanges, Ranges.has, Ranges.has, List.any_cons,
    List.any_cons, Bool.or_assoc, Bool.or_comm, Bool.or_assoc]

variable {c : Char}

/-- Ranges without gaps, to which all letters in lower case belong. -/
def solidRanges : List (Nat × Nat) :=
  [(0x61, 0x7A), (0xDF, 0x167F), (0x1681, 0x1FFF), (0x2060, 0x2FFF), (0x3001, 0xD7FF),
   (0xE000, 0x10FFFF)]

/-- What the tables of cases show: gaps and the hyphen have none, and no letter leads to a gap. -/
theorem gapRanges_table : Ranges.disjoint gapRanges ignored = true
    ∧ Ranges.disjoint gapRanges cased = true
    ∧ Ranges.disjoint gapRanges (capitals.map fun r => (r.first, r.last)) = true
    ∧ (runs.all fun r => r.leadsInto solidRanges) = true
    ∧ Ranges.disjoint solidRanges gapRanges = true
    ∧ Ranges.has ignored '-'.toNat = false ∧ Ranges.has cased '-'.toNat = false := by
  decide +kernel

theorem stops_of_isGap (h : isGap c = true) : Stops c := by
  obtain ⟨hignored, hcased, -⟩ := gapRanges_table
  rw [isGap_eq] at h
  exact ⟨Ranges.has_eq_false_of_disjoint hignored h, Ranges.has_eq_false_of_disjoint hcased h⟩

theorem stops_hyphen : Stops '-' := gapRanges_table.2.2.2.2.2

/-- Between the ends of the runs there are no gaps. -/
theorem isSettled_of_isGap (h : isGap c = true) : IsSettled c := by
  obtain ⟨-, -, hdisjoint, -⟩ := gapRanges_table
  rw [isGap_eq] at h
  have hnone := Ranges.has_eq_false_of_disjoint hdisjoint h
  intro r hr
  refine Run.image?_eq_none fun hfirst => Nat.lt_of_not_le fun hlast => ?_
  have hrange : (r.first, r.last) ∈ capitals.map fun r => (r.first, r.last) :=
    List.mem_map.mpr ⟨r, hr, rfl⟩
  have hin := Ranges.has_eq_true_iff.mpr ⟨_, hrange, hfirst, hlast⟩
  rw [hnone] at hin
  exact absurd hin (by simp)

theorem isSettled_hyphen : IsSettled '-' := isSettled_of_lt (by decide) (by decide)

theorem not_isGap_lowerChar (hc : c ≠ 'İ') (h : isGap c = false) : isGap (lowerChar c) = false := by
  obtain ⟨-, -, -, hsolid, hdisjoint, -⟩ := gapRanges_table
  rcases isSettled_or_image hc with hsettled | ⟨r, hr, himage⟩
  · rw [hsettled.lowerChar_eq]
    exact h
  · rw [isGap_eq]
    exact Ranges.has_eq_false_of_disjoint hdisjoint 
      (has_of_image? (List.all_eq_true.mp hsolid r hr) himage)

/-- Lower-casing makes no gaps. -/
theorem not_isGap_of_mem_lowerAt {before following : Text} {x : Char} (h : isGap c = false)
    (hx : x ∈ lowerAt before c following) : isGap x = false := by
  have hspecials : (specials.all fun y => !isGap y) = true := by decide
  rcases mem_lowerAt hx with hspecial | ⟨hc, rfl⟩
  · simpa using List.all_eq_true.mp hspecials x hspecial
  · exact not_isGap_lowerChar hc h

theorem head?_lowerFrom (before t : Text) :
    (lowerFrom before t).head?.any isGap = t.head?.any isGap := by
  cases t with
  | nil => rfl
  | cons c t =>
    cases hc : isGap c with
    | true =>
      rw [lowerFrom, (isSettled_of_isGap hc).lowerAt_eq]
      rfl
    | false =>
      obtain ⟨x, xs, hxs⟩ := List.exists_cons_of_ne_nil (lowerAt_ne_nil before c t)
      have hx : isGap x = false := not_isGap_of_mem_lowerAt hc (hxs ▸ List.mem_cons_self ..)
      rw [lowerFrom, hxs]
      simp [hx, hc]

/-! ## Hyphens for gaps -/

theorem hyphenate_gap (h : isGap c = true) (t : Text) :
    hyphenate (c :: t) = if t.head?.any isGap then hyphenate t else '-' :: hyphenate t := by
  rw [hyphenate, if_pos h]

theorem hyphenate_append {s : Text} (h : ∀ c ∈ s, isGap c = false) (t : Text) :
    hyphenate (s ++ t) = s ++ hyphenate t := by
  induction s with
  | nil => rfl
  | cons c s ih =>
    have hc := h c (List.mem_cons_self ..)
    rw [List.cons_append, hyphenate, hc, ih fun d hd => h d (List.mem_cons_of_mem c hd)]
    rfl

theorem hyphenate_hyphenate (t : Text) : hyphenate (hyphenate t) = hyphenate t := by
  have hkeep := hyphenate_append (fun _ hc => not_isGap_of_mem_hyphenate (t := t) hc) []
  rw [List.append_nil, hyphenate, List.append_nil] at hkeep
  exact hkeep

theorem exists_hyphen {t : Text} (h : t.head?.any isGap = true) :
    ∃ r, hyphenate t = '-' :: r := by
  induction t with
  | nil => exact absurd h (by simp)
  | cons c t ih =>
    rw [hyphenate_gap (by simpa using h)]
    split
    · rename_i ht
      exact ih ht
    · exact ⟨_, rfl⟩

theorem hyphenate_eq_nil_iff {t : Text} : hyphenate t = [] ↔ t = [] := by
  refine ⟨fun h => ?_, by rintro rfl; rfl⟩
  cases t with
  | nil => rfl
  | cons c t =>
    cases hc : isGap c with
    | true =>
      obtain ⟨r, hr⟩ := exists_hyphen (t := c :: t) (by simpa using hc)
      rw [hr] at h
      exact absurd h (by simp)
    | false =>
      rw [hyphenate, hc] at h
      exact absurd h (by simp)

/-! ## The order of the two steps -/

theorem lowerFrom_congr {before before' : Text} (h : meetsCased before = meetsCased before')
    (t : Text) : lowerFrom before t = lowerFrom before' t := by
  induction t generalizing before before' with
  | nil => rfl
  | cons c t ih =>
    have hnext : meetsCased (c :: before) = meetsCased (c :: before') := by
      rw [meetsCased_cons, meetsCased_cons, h]
    rw [lowerFrom, lowerFrom, lowerAt_congr c h rfl, ih hnext]

/-- What has been read before a hyphen decides nothing. -/
theorem lowerFrom_hyphen (before before' t : Text) :
    lowerFrom before ('-' :: t) = lowerFrom before' ('-' :: t) := by
  have hmeets : meetsCased ('-' :: before) = meetsCased ('-' :: before') := by
    rw [meetsCased_of_stops stops_hyphen, meetsCased_of_stops stops_hyphen]
  rw [lowerFrom, lowerFrom, isSettled_hyphen.lowerAt_eq, isSettled_hyphen.lowerAt_eq,
    lowerFrom_congr hmeets]

theorem meetsCased_hyphenate (t : Text) : meetsCased (hyphenate t) = meetsCased t := by
  induction t with
  | nil => rfl
  | cons c t ih =>
    cases hc : isGap c with
    | true =>
      obtain ⟨r, hr⟩ := exists_hyphen (t := c :: t) (by simpa using hc)
      rw [hr, meetsCased_of_stops stops_hyphen, meetsCased_of_stops (stops_of_isGap hc)]
    | false =>
      rw [hyphenate, hc]
      simp only [Bool.false_eq_true, if_false]
      rw [meetsCased_cons, meetsCased_cons, ih]

/-- **Gaps can be written as hyphens before lower-casing or afterwards.** -/
theorem lowerFrom_hyphenate (before t : Text) :
    lowerFrom before (hyphenate t) = hyphenate (lowerFrom before t) := by
  induction t generalizing before with
  | nil => rfl
  | cons c t ih =>
    cases hc : isGap c with
    | false =>
      -- the character is seen by nothing but its neighbours, and these look the same to it
      have hat : lowerAt before c (hyphenate t) = lowerAt before c t :=
        lowerAt_congr c rfl (meetsCased_hyphenate t)
      have happend := hyphenate_append (fun x hx => not_isGap_of_mem_lowerAt hc hx)
        (lowerFrom (c :: before) t) (s := lowerAt before c t)
      rw [hyphenate, hc, lowerFrom, happend, ← ih, ← hat]
      rfl
    | true =>
      have hlower : lowerFrom before (c :: t) = c :: lowerFrom (c :: before) t := by
        rw [lowerFrom, (isSettled_of_isGap hc).lowerAt_eq]
        rfl
      rw [hlower, hyphenate_gap hc, hyphenate_gap hc, head?_lowerFrom, ← ih]
      split
      · -- the run goes on, so a hyphen comes first in any case
        rename_i ht
        obtain ⟨r, hr⟩ := exists_hyphen ht
        rw [hr]
        exact lowerFrom_hyphen before (c :: before) r
      · have hmeets : meetsCased ('-' :: before) = meetsCased (c :: before) := by
          rw [meetsCased_of_stops stops_hyphen, meetsCased_of_stops (stops_of_isGap hc)]
        rw [lowerFrom, isSettled_hyphen.lowerAt_eq, lowerFrom_congr hmeets]
        rfl

theorem lower_hyphenate (t : Text) : Text.lower (hyphenate t) = hyphenate (Text.lower t) :=
  lowerFrom_hyphenate [] t

/-! ## Names that differ in their gaps -/

/-- A run of gaps. -/
structure IsRun (g : Text) : Prop where
  ne_nil : g ≠ []
  gaps : ∀ c ∈ g, isGap c = true

/-- The texts are the same but for the lengths and the kinds of their runs of gaps. -/
inductive SameButGaps : Text → Text → Prop where
  | nil : SameButGaps [] []
  | char (c : Char) {t u : Text} : SameButGaps t u → SameButGaps (c :: t) (c :: u)
  | run {g h t u : Text} : IsRun g → IsRun h → SameButGaps t u → SameButGaps (g ++ t) (h ++ u)

theorem IsRun.head? {g : Text} (h : IsRun g) (t : Text) : (g ++ t).head?.any isGap = true := by
  obtain ⟨c, g, rfl⟩ := List.exists_cons_of_ne_nil h.ne_nil
  simpa using h.gaps c (List.mem_cons_self ..)

theorem SameButGaps.head? {t u : Text} (h : SameButGaps t u) :
    t.head?.any isGap = u.head?.any isGap := by
  cases h with
  | nil => rfl
  | char c _ => rfl
  | run hg hh _ => rw [hg.head?, hh.head?]

/-- However long a run is, there is one hyphen for it. -/
theorem IsRun.hyphenate_append {g : Text} (h : IsRun g) (t : Text) :
    hyphenate (g ++ t) = if t.head?.any isGap then hyphenate t else '-' :: hyphenate t := by
  obtain ⟨hne, hgaps⟩ := h
  induction g with
  | nil => exact absurd rfl hne
  | cons c g ih =>
    rw [List.cons_append, hyphenate_gap (hgaps c (List.mem_cons_self ..))]
    have hrest : ∀ d ∈ g, isGap d = true := fun d hd => hgaps d (List.mem_cons_of_mem c hd)
    by_cases hg : g = []
    · subst hg
      rfl
    · rw [IsRun.head? ⟨hg, hrest⟩, if_pos rfl]
      exact ih hg hrest

theorem SameButGaps.hyphenate_eq {t u : Text} (h : SameButGaps t u) :
    hyphenate t = hyphenate u := by
  induction h with
  | nil => rfl
  | char c hrest ih => rw [hyphenate, hyphenate, hrest.head?, ih]
  | run hg hh hrest ih => rw [hg.hyphenate_append, hh.hyphenate_append, hrest.head?, ih]

/-! ## Names of files -/

theorem lower_eq_nil_iff {t : Text} : Text.lower t = [] ↔ t = [] := by
  refine ⟨fun h => ?_, by rintro rfl; rfl⟩
  cases t with
  | nil => rfl
  | cons c t => exact absurd (List.append_eq_nil_iff.mp h).1 (lowerAt_ne_nil [] c t)

/--
**A title gives a single component of a path.**

The file name of a title gives itself when it is taken for a title. There is no blank, no slash and
no backslash in it, and it is empty only for the empty title, so it is one component of a path.
Titles that are the same but for the lengths and the kinds of their runs of blanks and separators
give the same file name.
-/
theorem ofTitle_is_component (t : Text) :
    ofTitle (ofTitle t) = ofTitle t
      ∧ (∀ c ∈ ofTitle t, isBlank c = false ∧ c ≠ '/' ∧ c ≠ '\\')
      ∧ (ofTitle t = [] ↔ t = [])
      ∧ (t ≠ [] → Path.components (ofTitle t) = [ofTitle t])
      ∧ ∀ u, SameButGaps t u → ofTitle t = ofTitle u := by
  have hgapless : ∀ c ∈ ofTitle t, isBlank c = false ∧ c ≠ '/' ∧ c ≠ '\\' := by
    intro c hc
    have hgap : isGap c = false := not_isGap_of_mem_hyphenate hc
    simp only [isGap, Bool.or_eq_false_iff, beq_eq_false_iff_ne] at hgap
    exact ⟨hgap.1.1, hgap.1.2, hgap.2⟩
  have hnil : ofTitle t = [] ↔ t = [] := hyphenate_eq_nil_iff.trans lower_eq_nil_iff
  refine ⟨?_, hgapless, hnil, fun hne => ?_, fun u hu => ?_⟩
  · calc hyphenate (Text.lower (hyphenate (Text.lower t)))
        = hyphenate (hyphenate (Text.lower (Text.lower t))) := by rw [lower_hyphenate]
      _ = hyphenate (Text.lower t) := by rw [hyphenate_hyphenate, Text.lower_lower]
  · exact Path.components_of_notMem (mt hnil.mp hne) fun hslash => (hgapless _ hslash).2.1 rfl
  · rw [ofTitle, ofTitle, ← lower_hyphenate, ← lower_hyphenate, hu.hyphenate_eq]

/-- Two titles with other gaps between the same words. -/
theorem ofTitle_is_component_of_gaps : SameButGaps "ΑΣ //Σ".toList "ΑΣ\tΣ".toList
    ∧ ofTitle "ΑΣ //Σ".toList = ofTitle "ΑΣ\tΣ".toList := by
  have hslashes : IsRun " //".toList := ⟨by decide, List.all_eq_true.mp (by decide)⟩
  have htab : IsRun "\t".toList := ⟨by decide, List.all_eq_true.mp (by decide)⟩
  have hsame : SameButGaps "ΑΣ //Σ".toList "ΑΣ\tΣ".toList :=
    .char 'Α' (.char 'Σ' (.run hslashes htab (.char 'Σ' .nil)))
  exact ⟨hsame, (ofTitle_is_component "ΑΣ //Σ".toList).2.2.2.2 _ hsame⟩

/-- A sigma at the end of a word is a final one, whatever the word ends at. -/
example : ofTitle "ΑΣ //Σ".toList = "ας-σ".toList := by decide +kernel

end DocPress.FileName
