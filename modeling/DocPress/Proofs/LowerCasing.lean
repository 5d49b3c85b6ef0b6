import DocPress.Proofs.Inline

/-!
# Lower case is final

Lower-casing a text once more changes nothing (`lower_lower`). A character is settled if it stands
neither in the table of capitals nor is the capital I with a dot, and settled characters stay as
they are. What the table leads to is settled: the characters of a run either lie apart from those of
any other run or fall between them, which is seen pair by pair (`runs_miss`). The final sigma is the
one rule that looks at the neighbours of a character, and it is about a capital, of which none is
left.

For what stands before a character the rest matters only up to the next character that is neither
cased nor looked through, and the same holds the other way round (`Stops`).
-/

namespace DocPress

namespace Ranges

/-- No number lies in ranges of both lists. -/
def disjoint (rs ss : List (Nat × Nat)) : Bool :=
  rs.all fun r => ss.all fun s => r.2 < s.1 || s.2 < r.1

theorem has_eq_false_of_disjoint {rs ss : List (Nat × Nat)} {n : Nat} (h : disjoint rs ss = true)
    (hn : has rs n = true) : has ss n = false := by
  obtain ⟨r, hr, hlow, hhigh⟩ := has_eq_true_iff.mp hn
  rw [Bool.eq_false_iff]
  intro hs
  obtain ⟨s, hs, hlow', hhigh'⟩ := has_eq_true_iff.mp hs
  have hapart := List.all_eq_true.mp (List.all_eq_true.mp h r hr) s hs
  simp only [Bool.or_eq_true, decide_eq_true_eq] at hapart
  omega

end Ranges

namespace LowerCase

/-! ## Settled characters -/

theorem Run.image?_eq_some_iff {r : Run} {m n : Nat} : r.image? m = some n ↔
    r.first ≤ m ∧ m ≤ r.last ∧ (m - r.first) % r.step = 0 ∧ n = r.target + (m - r.first) := by
  rw [image?]
  split
  · rename_i hin
    simp only [Bool.and_eq_true, decide_eq_true_eq, beq_iff_eq] at hin
    simp [hin, eq_comm]
  · rename_i hin
    simp only [Bool.and_eq_true, decide_eq_true_eq, beq_iff_eq] at hin
    refine iff_of_false (by simp) ?_
    rintro ⟨hfirst, hlast, hstep, -⟩
    exact hin ⟨⟨hfirst, hlast⟩, hstep⟩

/-- Outside of its characters a run leads nowhere. -/
theorem Run.image?_eq_none {r : Run} {n : Nat} (h : r.first ≤ n → r.last < n) :
    r.image? n = none := by
  rw [Option.eq_none_iff_forall_ne_some]
  intro k hk
  obtain ⟨hfirst, hlast, -⟩ := Run.image?_eq_some_iff.mp hk
  exact absurd (h hfirst) (Nat.not_lt.mpr hlast)

/-- The characters that lower-casing changes, with the simple forms that they are given. -/
def capitals : List Run := ⟨0x130, 0x130, 1, 0x69⟩ :: runs

/-- The character stands for itself in lower case. -/
def IsSettled (c : Char) : Prop := ∀ r ∈ capitals, r.image? c.toNat = none

/-- No run leads on from the number. -/
def isFixed (n : Nat) : Bool := capitals.all fun r => (r.image? n).isNone

theorem isSettled_iff {c : Char} : IsSettled c ↔ isFixed c.toNat = true := by
  simp only [IsSettled, isFixed, List.all_eq_true, Option.isNone_iff_eq_none]

/-- The letters and marks that the rules of their own lead to. -/
def specials : Text := ['ς', 'σ', 'i', Char.ofNat 0x307]

/-- Stretches of characters that hold all capitals. -/
def zones : List (Nat × Nat) :=
  [(0x41, 0x17D), (0x181, 0x1B8), (0x1BC, 0x24E), (0x370, 0x1CBF), (0x1E00, 0x1FFF),
   (0x2100, 0x2CFF), (0xA640, 0x1E921)]

/-- The characters of the run lie in the stretch. -/
def Run.isIn (z : Nat × Nat) (r : Run) : Bool := Nat.ble z.1 r.first && Nat.ble r.last z.2

/-- What the table of capitals shows: where they stand, and that sigma is one of them. -/
theorem capitals_table :
    (capitals.all fun r => (r.first == 0x41 && r.last == 0x5A) || Nat.ble 0x80 r.first) = true
      ∧ (capitals.all fun r => zones.any r.isIn) = true
      ∧ isFixed 'Σ'.toNat = false ∧ (specials.all fun c => isFixed c.toNat) = true := by
  decide +kernel

theorem IsSettled.ne_sigma {c : Char} (h : IsSettled c) : c ≠ 'Σ' := by
  rintro rfl
  rw [isSettled_iff, capitals_table.2.2.1] at h
  exact absurd h (by simp)

theorem IsSettled.ne_dottedI {c : Char} (h : IsSettled c) : c ≠ 'İ' := by
  rintro rfl
  exact absurd (h _ (List.mem_cons_self ..)) (by decide)

/-- The run of the letters from A to Z. -/
def letters : Run := ⟨0x41, 0x5A, 1, 0x61⟩

theorem letters_mem : letters ∈ runs := by
  rw [runs, letters]
  exact List.mem_cons_self ..

theorem image?_letters {n : Nat} (h : 0x41 ≤ n ∧ n ≤ 0x5A) :
    letters.image? n = some (0x61 + (n - 0x41)) :=
  Run.image?_eq_some_iff.mpr ⟨h.1, h.2, Nat.mod_one _, rfl⟩

/-- Of the first characters the letters from A to Z are changed, and no others. -/
theorem isSettled_of_lt {c : Char} (h : c.toNat < 0x80)
    (hc : ¬ (0x41 ≤ c.toNat ∧ c.toNat ≤ 0x5A)) : IsSettled c := by
  intro r hr
  have hrun := List.all_eq_true.mp capitals_table.1 r hr
  simp only [Bool.or_eq_true, Bool.and_eq_true, beq_iff_eq, Nat.ble_eq] at hrun
  refine Run.image?_eq_none fun hfirst => ?_
  rcases hrun with ⟨hA, hZ⟩ | hhigh <;> omega

theorem toNat_toLower (c : Char) : c.toLower.toNat
    = if 0x41 ≤ c.toNat ∧ c.toNat ≤ 0x5A then 0x61 + (c.toNat - 0x41) else c.toNat := by
  unfold Char.toLower
  simp only [ge_iff_le, UInt32.le_iff_toNat_le]
  split
  · rename_i h
    have h : 0x41 ≤ c.toNat ∧ c.toNat ≤ 0x5A := h
    rw [if_pos h]
    show (c.val + 32).toNat = _
    rw [UInt32.toNat_add]
    change (c.toNat + 32) % 2 ^ 32 = _
    omega
  · rename_i h
    have h : ¬ (0x41 ≤ c.toNat ∧ c.toNat ≤ 0x5A) := h
    rw [if_neg h]

theorem IsSettled.lowerChar_eq {c : Char} (h : IsSettled c) : lowerChar c = c := by
  have hruns : ∀ r ∈ runs, r.image? c.toNat = none := fun r hr => h r (List.mem_cons_of_mem _ hr)
  rw [lowerChar]
  split
  · rename_i hc
    -- the letters from A to Z are a run of the table
    have hno : ¬ (0x41 ≤ c.toNat ∧ c.toNat ≤ 0x5A) := by
      intro hletter
      have hnone := hruns letters letters_mem
      rw [image?_letters hletter] at hnone
      exact absurd hnone (by simp)
    refine Char.toNat_inj.mp ?_
    rw [toNat_toLower, if_neg hno]
  · rw [List.findSome?_eq_none_iff.mpr hruns]

theorem IsSettled.lowerAt_eq {c : Char} (h : IsSettled c) (before following : Text) :
    lowerAt before c following = [c] := by
  rw [lowerAt, if_neg h.ne_sigma, if_neg h.ne_dottedI, h.lowerChar_eq]

theorem lowerFrom_of_isSettled {t : Text} (h : ∀ c ∈ t, IsSettled c) (before : Text) :
    lowerFrom before t = t := by
  induction t generalizing before with
  | nil => rfl
  | cons c t ih =>
    have hc := h c (List.mem_cons_self ..)
    rw [lowerFrom, hc.lowerAt_eq, ih fun d hd => h d (List.mem_cons_of_mem c hd)]
    rfl

/-- Settled characters are kept, whatever stands around them. -/
theorem mem_lowerFrom_of_isSettled {c : Char} {t : Text} (h : IsSettled c) (hc : c ∈ t)
    (before : Text) : c ∈ lowerFrom before t := by
  induction t generalizing before with
  | nil => exact absurd hc (by simp)
  | cons d t ih =>
    rw [lowerFrom, List.mem_append]
    rcases List.mem_cons.mp hc with rfl | hc
    · exact Or.inl (by rw [h.lowerAt_eq]; exact List.mem_singleton_self c)
    · exact Or.inr (ih hc _)

/-! ## What the table leads to -/

/-- Of what the one run leads to, nothing is a character of the other one: it lies apart from these,
or between every second one of them. -/
def Run.misses (r s : Run) : Bool :=
  Nat.blt (r.target + (r.last - r.first)) s.first || Nat.blt s.last r.target ||
    ((r.step == 2 || r.first == r.last) && s.step == 2 && (r.target + s.first) % 2 == 1)

theorem image?_eq_none_of_misses {r s : Run} {m n : Nat} (h : r.misses s = true)
    (hn : r.image? m = some n) : s.image? n = none := by
  obtain ⟨hfirst, hlast, hstep, rfl⟩ := Run.image?_eq_some_iff.mp hn
  rw [Option.eq_none_iff_forall_ne_some]
  intro k hk
  obtain ⟨hfirst', hlast', hstep', -⟩ := Run.image?_eq_some_iff.mp hk
  simp only [Run.misses, Bool.or_eq_true, Bool.and_eq_true, beq_iff_eq, Nat.blt_eq] at h
  rcases h with (hbelow | habove) | ⟨⟨hevery, hother⟩, hparity⟩
  · omega
  · omega
  · rw [hother] at hstep'
    rcases hevery with htwo | hone
    · rw [htwo] at hstep
      omega
    · omega

/-- What the run leads to meets the stretch. -/
def Run.reaches (z : Nat × Nat) (r : Run) : Bool :=
  Nat.ble z.1 (r.target + (r.last - r.first)) && Nat.ble r.target z.2

-- of all the pairs of runs only those that meet in a stretch are looked at
theorem runs_miss : (zones.all fun z => (runs.filter (·.reaches z)).all fun r =>
    (capitals.filter (·.isIn z)).all r.misses) = true := by
  decide +kernel

/-- What a run leads to is no capital. -/
theorem image?_eq_none_of_image? {r s : Run} {m n : Nat} (hr : r ∈ runs) (hs : s ∈ capitals)
    (hn : r.image? m = some n) : s.image? n = none := by
  obtain ⟨z, hz, hin⟩ := List.any_eq_true.mp (List.all_eq_true.mp capitals_table.2.1 s hs)
  cases hreaches : r.reaches z with
  | true =>
    have hpairs := List.all_eq_true.mp runs_miss z hz
    have hmiss := List.all_eq_true.mp
      (List.all_eq_true.mp hpairs r (List.mem_filter.mpr ⟨hr, hreaches⟩)) s
      (List.mem_filter.mpr ⟨hs, hin⟩)
    exact image?_eq_none_of_misses hmiss hn
  | false =>
    -- the one is outside of the stretch, the other inside
    obtain ⟨hfirst, hlast, -, rfl⟩ := Run.image?_eq_some_iff.mp hn
    refine Run.image?_eq_none fun hfirst' => ?_
    simp only [Run.isIn, Bool.and_eq_true, Nat.ble_eq] at hin
    have hapart : ¬ (z.1 ≤ r.target + (r.last - r.first) ∧ r.target ≤ z.2) := by
      rw [← Nat.ble_eq, ← Nat.ble_eq, ← Bool.and_eq_true]
      exact fun h => absurd (hreaches.symm.trans h) (by simp)
    omega

/-- The simple form of a character that is not settled is what some run leads to. -/
theorem isSettled_or_image {c : Char} (h : c ≠ 'İ') :
    IsSettled c ∨ ∃ r ∈ runs, r.image? c.toNat = some (lowerChar c).toNat := by
  rw [lowerChar]
  split
  · rename_i hc
    by_cases hletter : 0x41 ≤ c.toNat ∧ c.toNat ≤ 0x5A
    · refine Or.inr ⟨letters, letters_mem, ?_⟩
      rw [toNat_toLower, if_pos hletter]
      exact image?_letters hletter
    · exact Or.inl (isSettled_of_lt hc hletter)
  · cases hfind : runs.findSome? (·.image? c.toNat) with
    | none =>
      left
      intro r hr
      rcases List.mem_cons.mp hr with rfl | hr
      · rw [Option.eq_none_iff_forall_ne_some]
        intro n hn
        obtain ⟨hfirst, hlast, -⟩ := Run.image?_eq_some_iff.mp hn
        have hc : c.toNat = 'İ'.toNat := Nat.le_antisymm hlast hfirst
        exact h (Char.toNat_inj.mp hc)
      · exact List.findSome?_eq_none_iff.mp hfind r hr
    | some n =>
      right
      obtain ⟨r, hr, himage⟩ := List.exists_of_findSome?_eq_some hfind
      have hnat := Yaml.toNat_ofNat_of_inlineRanges (has_of_image? (runs_leadInto r hr) himage)
      exact ⟨r, hr, hnat.symm ▸ himage⟩

theorem isSettled_lowerChar {c : Char} (h : c ≠ 'İ') : IsSettled (lowerChar c) := by
  rcases isSettled_or_image h with hc | ⟨r, hr, himage⟩
  · rw [hc.lowerChar_eq]
    exact hc
  · exact fun s hs => image?_eq_none_of_image? hr hs himage

/-- What stands for a character is one of the special letters, or its simple form. -/
theorem mem_lowerAt {before following : Text} {c x : Char} (h : x ∈ lowerAt before c following) :
    x ∈ specials ∨ (c ≠ 'İ' ∧ x = lowerChar c) := by
  rw [lowerAt] at h
  split at h
  · split at h <;> exact Or.inl (by simp_all [specials])
  · split at h
    · exact Or.inl (by simp_all [specials])
    · rename_i hc
      exact Or.inr ⟨hc, List.mem_singleton.mp h⟩

/-- Nothing is left to do for a character in lower case. -/
theorem isSettled_of_mem_lowerAt {before following : Text} {c x : Char}
    (h : x ∈ lowerAt before c following) : IsSettled x := by
  rcases mem_lowerAt h with hspecial | ⟨hc, rfl⟩
  · exact isSettled_iff.mpr (List.all_eq_true.mp capitals_table.2.2.2 x hspecial)
  · exact isSettled_lowerChar hc

theorem isSettled_of_mem_lowerFrom {before t : Text} {x : Char} (h : x ∈ lowerFrom before t) :
    IsSettled x := by
  induction t generalizing before with
  | nil => exact absurd h (by simp [lowerFrom])
  | cons c t ih =>
    rcases List.mem_append.mp h with h | h
    · exact isSettled_of_mem_lowerAt h
    · exact ih h

/-! ## Neighbours -/

/-- Casing sees a character that is not cased, and looks no further. -/
def Stops (c : Char) : Prop :=
  Ranges.has ignored c.toNat = false ∧ Ranges.has cased c.toNat = false

theorem meetsCased_of_stops {c : Char} (h : Stops c) (t : Text) : meetsCased (c :: t) = false := by
  rw [meetsCased, h.1, h.2]
  rfl

theorem meetsCased_cons (c : Char) (t : Text) : meetsCased (c :: t)
    = if Ranges.has ignored c.toNat then meetsCased t else Ranges.has cased c.toNat := rfl

/-- Of the neighbours only that matters whether a cased letter is met. -/
theorem lowerAt_congr {before before' following following' : Text} (c : Char)
    (hbefore : meetsCased before = meetsCased before')
    (hfollowing : meetsCased following = meetsCased following') :
    lowerAt before c following = lowerAt before' c following' := by
  rw [lowerAt, lowerAt, hbefore, hfollowing]

theorem lowerAt_ne_nil (before : Text) (c : Char) (following : Text) :
    lowerAt before c following ≠ [] := by
  rw [lowerAt]
  split
  · split <;> simp
  · split <;> simp

end LowerCase

/-- **Lower case is final.** -/
theorem Text.lower_lower (t : Text) : lower (lower t) = lower t :=
  LowerCase.lowerFrom_of_isSettled (fun _ hc => LowerCase.isSettled_of_mem_lowerFrom hc) []

end DocPress
