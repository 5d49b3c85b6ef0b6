import DocPress.Plan.Basic
import DocPress.Proofs.PagePaths
import DocPress.Yaml.Character

/-!
# Characters within a line

A name can be written into a line of YAML if YAML admits its characters and none of them breaks the
line. The paths of pages are made of names in lower case with hyphens for blanks, so what holds of
the characters of names holds of those of paths: lower-casing leads from such characters to such
characters, which is seen from its table run by run.
-/

namespace DocPress

namespace Yaml

/-- The character may stand within a line. -/
def isInline (c : Char) : Bool := isAdmitted c && !isBreak c

/-- All characters of the text may stand within a line. -/
def IsLine (t : Text) : Prop := ∀ c ∈ t, isInline c = true

instance (t : Text) : Decidable (IsLine t) :=
  decidable_of_iff (t.all isInline = true) List.all_eq_true

theorem isAdmitted_of_isInline {c : Char} (h : isInline c = true) : isAdmitted c = true :=
  (Bool.and_eq_true_iff.mp h).1

theorem not_isBreak_of_isInline {c : Char} (h : isInline c = true) : isBreak c = false := by
  simpa using (Bool.and_eq_true_iff.mp h).2

theorem isLine_append {t u : Text} (ht : IsLine t) (hu : IsLine u) : IsLine (t ++ u) := by
  intro c hc
  rcases List.mem_append.mp hc with hc | hc
  · exact ht c hc
  · exact hu c hc

theorem isLine_cons {c : Char} {t : Text} (hc : isInline c = true) (ht : IsLine t) :
    IsLine (c :: t) := by
  intro d hd
  rcases List.mem_cons.mp hd with rfl | hd
  · exact hc
  · exact ht d hd

/-- Most of the characters that may stand within a line, as ranges that hold no others. -/
def inlineRanges : List (Nat × Nat) :=
  [(0x20, 0x7E), (0xA0, 0x2027), (0x202A, 0xD7FF), (0xE000, 0xFFFD), (0x10000, 0x10FFFF)]

theorem toNat_ofNat_of_inlineRanges {n : Nat} (h : Ranges.has inlineRanges n = true) :
    (Char.ofNat n).toNat = n := by
  simp only [Ranges.has, inlineRanges, List.any_cons, List.any_nil, Bool.or_false,
    Bool.or_eq_true, Bool.and_eq_true, decide_eq_true_eq] at h
  have hvalid : n.isValidChar := by
    rw [Nat.isValidChar]
    omega
  rw [Char.ofNat, dif_pos hvalid]
  rfl

theorem isInline_ofNat {n : Nat} (h : Ranges.has inlineRanges n = true) :
    isInline (Char.ofNat n) = true := by
  have hnat := toNat_ofNat_of_inlineRanges h
  simp only [Ranges.has, inlineRanges, List.any_cons, List.any_nil, Bool.or_false,
    Bool.or_eq_true, Bool.and_eq_true, decide_eq_true_eq] at h
  have hbreak : isBreak (Char.ofNat n) = false := by
    have hne : ∀ c : Char, c.toNat ≠ n → Char.ofNat n ≠ c := fun c hc he => hc (he ▸ hnat)
    have hlf := hne '\n' (by show 10 ≠ n; omega)
    have hcr := hne '\r' (by show 13 ≠ n; omega)
    simp only [isBreak, hnat, hlf, hcr, decide_false, Bool.false_or, Bool.or_eq_false_iff,
      decide_eq_false_iff_not]
    omega
  rw [isInline, hbreak, Bool.not_false, Bool.and_true, isAdmitted, hnat, Ranges.has]
  simp only [admitted, List.any_cons, List.any_nil, Bool.or_false, Bool.or_eq_true,
    Bool.and_eq_true, decide_eq_true_eq]
  omega

end Yaml

open Yaml (isInline IsLine)

/-! ## Lower case -/

namespace LowerCase

/-- What a run leads to lies in one of the ranges. -/
def Run.leadsInto (gs : List (Nat × Nat)) (r : Run) : Bool :=
  gs.any fun g => g.1 ≤ r.target && r.target + (r.last - r.first) ≤ g.2

theorem runs_leadInto : ∀ r ∈ runs, r.leadsInto Yaml.inlineRanges = true := by decide +kernel

theorem has_of_image? {gs : List (Nat × Nat)} {r : Run} {m n : Nat}
    (hr : r.leadsInto gs = true) (h : r.image? m = some n) : Ranges.has gs n = true := by
  rw [Run.image?] at h
  split at h
  · rename_i hin
    simp only [Bool.and_eq_true, decide_eq_true_eq] at hin
    obtain ⟨g, hg, hlow⟩ := List.any_eq_true.mp hr
    simp only [Bool.and_eq_true, decide_eq_true_eq] at hlow
    have hn := Option.some.inj h
    exact Ranges.has_eq_true_iff.mpr ⟨g, hg, by omega, by omega⟩
  · exact absurd h (by simp)

theorem isInline_toLower : ∀ n < 0x80, isInline (Char.ofNat n) = true →
    isInline (Char.ofNat n).toLower = true := by decide +kernel

theorem isInline_lowerChar {c : Char} (h : isInline c = true) :
    isInline (lowerChar c) = true := by
  rw [lowerChar]
  split
  · rename_i hc
    have hlow := isInline_toLower c.toNat hc
    rw [Char.ofNat_toNat] at hlow
    exact hlow h
  · split
    · rename_i n hn
      obtain ⟨r, hr, himage⟩ := List.exists_of_findSome?_eq_some hn
      exact Yaml.isInline_ofNat (has_of_image? (runs_leadInto r hr) himage)
    · exact h

theorem isLine_lowerFrom {before t : Text} (h : IsLine t) : IsLine (lowerFrom before t) := by
  induction t generalizing before with
  | nil => simp [lowerFrom, IsLine]
  | cons c t ih =>
    have hc := h c (List.mem_cons_self ..)
    refine Yaml.isLine_append ?_ (ih fun d hd => h d (List.mem_cons_of_mem c hd))
    rw [lowerAt]
    split
    · split <;> decide
    · split
      · decide
      · exact Yaml.isLine_cons (isInline_lowerChar hc) (by simp [IsLine])

end LowerCase

/-! ## File names and paths -/

namespace FileName

theorem isLine_hyphenate {t : Text} (h : IsLine t) : IsLine (hyphenate t) := by
  induction t with
  | nil => exact h
  | cons c t ih =>
    have hrest := ih fun d hd => h d (List.mem_cons_of_mem c hd)
    rw [hyphenate]
    split
    · split
      · exact hrest
      · exact Yaml.isLine_cons (by decide) hrest
    · exact Yaml.isLine_cons (h c (List.mem_cons_self ..)) hrest

theorem isLine_ofTitle {title : Text} (h : IsLine title) : IsLine (ofTitle title) :=
  isLine_hyphenate (LowerCase.isLine_lowerFrom h)

theorem isLine_page {title : Text} (h : IsLine title) : IsLine (page title) :=
  Yaml.isLine_append (isLine_ofTitle h) (by decide)

end FileName

theorem Outline.isLine_joinPath {ds : List Text} {file : Text} (hds : ∀ d ∈ ds, IsLine d)
    (hfile : IsLine file) : IsLine (joinPath ds file) := by
  rw [joinPath_concat]
  refine Yaml.isLine_append (fun c hc => ?_) hfile
  obtain ⟨t, ht, hc⟩ := List.mem_flatten.mp hc
  obtain ⟨d, hd, rfl⟩ := List.mem_map.mp ht
  exact Yaml.isLine_append (hds d hd) (by decide) c hc

theorem Plan.isLine_quote {t : Text} (h : IsLine t) : IsLine (quote t) := by
  refine Yaml.isLine_cons (by decide) (Yaml.isLine_append (fun c hc => ?_) (by decide))
  obtain ⟨d, hd, hc⟩ := List.mem_flatMap.mp hc
  split at hc
  · rcases List.mem_cons.mp hc with rfl | hc
    · decide
    · obtain rfl := List.mem_singleton.mp hc; decide
  · exact List.mem_singleton.mp hc ▸ h d hd

end DocPress
