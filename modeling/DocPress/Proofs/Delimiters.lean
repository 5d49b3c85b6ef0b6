import DocPress.Proofs.BodyForm
import DocPress.Proofs.ReadingKeeps
import Mathlib.Data.List.Flatten

/-!
# Delimiters stay outside

A body holds nothing that did not stand between the delimiters of its comment, and what it holds is
in the same order: blanks apart, it is a subsequence of the inside of the token. Taking lines,
gutter and indentation apart only takes characters away (`ink_ofToken_sublist`), so this is a matter
of the delimiters alone.

They share a character. Where there is anything but stars between them, the stars of the opening end
before it and those of the closing begin behind it, and both are taken off whole. Where there are
only stars, all of them are taken for the opening; nothing is left of the closing but its slash, and
this slash is the body. `ofToken_keeps_inside_iff` tells the two cases apart.
-/

namespace DocPress

namespace Text

theorem ink_stripEnd (t : Text) : ink (stripEnd t) = ink t := by
  rw [stripEnd, trimEnd, ink_reverse, ink_dropWhile (fun _ h => h), ink_reverse,
    List.reverse_reverse]

theorem ink_sublist {s t : Text} (h : s.Sublist t) : (ink s).Sublist (ink t) := h.filter _

end Text

namespace Body

open Text

/-! ## Lines, gutter and indentation -/

/-- A line keeps its ink. -/
theorem Becomes.ink_eq {indent l m : Text} (hindent : ∀ c ∈ indent, isIndent c = true)
    (h : Becomes indent l m) : ink m = ink l := by
  cases h with
  | empty hblank => rw [ink_eq_nil (List.all_eq_true.mp hblank)]; rfl
  | line =>
    rw [ink_stripEnd, ink_append, ink_eq_nil fun c hc => isBlank_of_isIndent (hindent c hc)]
    rfl

/-- Without the gutter the lines have no more ink than with it. -/
theorem ink_dropGutter_sublist (ls : List Text) :
    ((dropGutter ls).flatMap ink).Sublist (ls.flatMap ink) := by
  have hforall := forall₂_dropGutter ls
  generalize dropGutter ls = ms at hforall
  induction hforall with
  | nil => exact .slnil
  | cons hsuffix _ ih =>
    rw [List.flatMap_cons, List.flatMap_cons]
    exact (ink_sublist hsuffix.sublist).append ih

/-- The lines that a body is made of have their ink from between the delimiters. -/
theorem ink_bareLines_sublist (token : Text) :
    ((bareLines token).flatMap ink).Sublist (ink (dropClosing (dropOpening token))) := by
  rw [← ink_lines]
  exact ((bareLines_sublist token).flatMap ink).trans (ink_dropGutter_sublist _)

/-- **A body has no ink but that of its token between the delimiters.** -/
theorem ink_ofToken_sublist (token : Text) :
    (ink (ofToken token)).Sublist (ink (dropClosing (dropOpening token))) := by
  cases hlines : bareLines token with
  | nil =>
    rw [ofToken_of_no_lines hlines]
    exact List.nil_sublist _
  | cons first below =>
    obtain ⟨indent, f, hindent, hf, -, hbody⟩ := exists_becomes hlines
    have hbelow : (below.map f).flatMap ink = below.flatMap ink := by
      rw [List.flatMap_map, List.flatMap_def, List.flatMap_def]
      exact congrArg List.flatten (List.map_congr_left fun l hl => (hf l hl).ink_eq hindent)
    have hink : ink (ofToken token) = (bareLines token).flatMap ink := by
      rw [hbody, ink_join (by decide), List.flatMap_cons, ink_strip, hbelow, hlines,
        List.flatMap_cons]
    rw [hink]
    exact ink_bareLines_sublist token

/-! ## Opening and closing -/

/-- The token of a comment with `inside` between its delimiters. -/
def delimited (inside : Text) : Text := "/**".toList ++ inside ++ "*/".toList

variable {inside : Text}

theorem dropOpening_eq (inside : Text) : dropOpening (delimited inside)
    = dropSpace ((inside ++ "*/".toList).dropWhile (· == '*')) := rfl

/-- Before anything but a star the opening ends, and the closing is left as it is. -/
theorem dropOpening_delimited (h : ∃ c ∈ inside, c ≠ '*') :
    ∃ rest, rest <:+ inside ∧ dropOpening (delimited inside) = rest ++ "*/".toList := by
  obtain ⟨c, hc, hstar⟩ := h
  have hne : inside.dropWhile (· == '*') ≠ [] := by
    intro hnil
    exact hstar (beq_iff_eq.mp (List.dropWhile_eq_nil_iff.mp hnil c hc))
  have hsuffix := List.dropWhile_suffix (· == '*') (l := inside)
  obtain ⟨d, r, hd⟩ := List.exists_cons_of_ne_nil hne
  have hdrop : (inside ++ "*/".toList).dropWhile (· == '*') = (d :: r) ++ "*/".toList := by
    rw [List.dropWhile_append, hd]
    rfl
  have hspace : dropSpace (d :: r ++ "*/".toList) = dropSpace (d :: r) ++ "*/".toList := by
    by_cases hspace : d = ' '
    · subst hspace
      rfl
    · simp [dropSpace, hspace]
  rw [hd] at hsuffix
  refine ⟨dropSpace (d :: r), (dropSpace_suffix _).trans hsuffix, ?_⟩
  rw [dropOpening_eq, hdrop, hspace]

/-- Between nothing but stars the opening goes up to the closing slash. -/
theorem dropOpening_stars (h : ∀ c ∈ inside, c = '*') : dropOpening (delimited inside) = ['/'] := by
  rw [dropOpening_eq, List.dropWhile_append_of_pos fun c hc => beq_iff_eq.mpr (h c hc)]
  rfl

/-- The closing is taken off whole, and maybe more before it. -/
theorem prefix_dropClosing (t : Text) : dropClosing (t ++ "*/".toList) <+: t := by
  have hreverse : (t ++ "*/".toList).reverse.dropWhile isBlank = '/' :: '*' :: t.reverse := by
    have hslash : isBlank '/' = false := by decide
    simp [hslash]
  have hsuffix : (t.reverse.dropWhile (· == '*')).dropWhile isBlank <:+ t.reverse :=
    (List.dropWhile_suffix _).trans (List.dropWhile_suffix _)
  have hclosing : dropClosing (t ++ "*/".toList)
      = ((t.reverse.dropWhile (· == '*')).dropWhile isBlank).reverse := by
    rw [dropClosing, hreverse]
    rfl
  rw [hclosing]
  exact List.reverse_suffix.mp (by rwa [List.reverse_reverse])

/--
**What the body of a comment holds stood inside its delimiters, unless there are only stars.**

Blanks apart, a body is a subsequence of the inside of its token exactly if something else than
stars stands there. If not, the body is the slash of the closing delimiter.
-/
theorem ofToken_keeps_inside_iff (inside : Text) :
    ((ink (ofToken (delimited inside))).Sublist (ink inside) ↔ ∃ c ∈ inside, c ≠ '*')
      ∧ ((ink (ofToken (delimited inside))).Sublist (ink inside)
        ∨ ofToken (delimited inside) = ['/']) := by
  by_cases h : ∃ c ∈ inside, c ≠ '*'
  · obtain ⟨rest, hrest, hopening⟩ := dropOpening_delimited h
    have hpart : (dropClosing (dropOpening (delimited inside))).Sublist inside := by
      rw [hopening]
      exact (prefix_dropClosing rest).sublist.trans hrest.sublist
    have hsub := (ink_ofToken_sublist (delimited inside)).trans (ink_sublist hpart)
    exact ⟨⟨fun _ => h, fun _ => hsub⟩, .inl hsub⟩
  · have hstars : ∀ c ∈ inside, c = '*' := by
      intro c hc
      by_contra hne
      exact h ⟨c, hc, hne⟩
    have hbody : ofToken (delimited inside) = ['/'] := by
      rw [ofToken, dropOpening_stars hstars]
      decide
    -- there is no slash among the stars
    have hnot : ¬ (ink (ofToken (delimited inside))).Sublist (ink inside) := by
      intro hsub
      have hmem : '/' ∈ ink inside := hsub.subset (by rw [hbody]; decide)
      exact absurd (hstars '/' (List.mem_of_mem_filter hmem)) (by decide)
    exact ⟨⟨fun hsub => absurd hsub hnot, fun hex => absurd hex h⟩, .inr hbody⟩

/-- The shortest doc comment: its closing is the first star and slash behind the opening, there is
nothing inside it, and yet its body is not empty. -/
theorem ofToken_leaks_slash :
    delimited [] = "/***/".toList ∧ isDoc (delimited []) = true
      ∧ ¬ ['*', '/'] <:+: '*' :: ([] : Text) ++ ['*']
      ∧ ofToken (delimited []) = ['/']
      ∧ ¬ (ink (ofToken (delimited []))).Sublist (ink []) := by
  decide

end Body
end DocPress
