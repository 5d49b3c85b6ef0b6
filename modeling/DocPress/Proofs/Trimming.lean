import DocPress.Proofs.ReadingBack
import Mathlib.Data.List.DropRight

/-!
# What trimming leaves

Trimming takes what is of some class from both ends of a text, and the blank lines at both ends of a
list of lines go in the same way. What is left has no such end any more, so trimming a second time
changes nothing; it is a part of what was there; and whatever of the class is put before or behind a
text is trimmed again.
-/

namespace DocPress

theorem head?_dropWhile {α : Type} {p : α → Bool} {l : List α} {a : α}
    (h : (l.dropWhile p).head? = some a) : p a = false := by
  have hnot := List.head?_dropWhile_not p l
  rwa [h] at hnot

/-- What is left when a class is dropped at both ends begins and ends with something else. -/
theorem ends_rdropWhile_dropWhile {α : Type} (p : α → Bool) (l : List α) :
    (∀ a, ((l.dropWhile p).rdropWhile p).head? = some a → p a = false)
      ∧ ∀ a, ((l.dropWhile p).rdropWhile p).getLast? = some a → p a = false := by
  refine ⟨fun a ha => ?_, fun a ha => ?_⟩
  · -- the end that is dropped second does not change how the rest begins
    obtain ⟨r, hr⟩ := List.head?_eq_some_iff.mp ha
    obtain ⟨q, hq⟩ := List.rdropWhile_prefix p (l.dropWhile p)
    exact head?_dropWhile (by rw [← hq, hr]; rfl)
  · obtain ⟨r, hr⟩ := List.getLast?_eq_some_iff.mp ha
    have hne : (l.dropWhile p).rdropWhile p ≠ [] := by simp [hr]
    have hnot := List.rdropWhile_last_not p (l.dropWhile p) hne
    simpa [hr] using hnot

namespace Text

variable {p : Char → Bool} {t b : Text}

theorem head?_cons_of_not {c : Char} (hc : p c = false) (t : Text) :
    ∀ a, (c :: t).head? = some a → p a = false :=
  fun _ ha => Option.some.inj ha ▸ hc

/-- A class is taken up to the first character that is not of it. -/
theorem span_append {a r : Text} (ha : ∀ c ∈ a, p c = true)
    (hr : ∀ c, r.head? = some c → p c = false) :
    (a ++ r).takeWhile p = a ∧ (a ++ r).dropWhile p = r := by
  rw [List.takeWhile_append_of_pos ha, List.dropWhile_append_of_pos ha]
  cases r with
  | nil => simp
  | cons c r => simp [hr c rfl]

theorem prefix_trimEnd (p : Char → Bool) (t : Text) : trimEnd p t <+: t :=
  List.rdropWhile_prefix p t

theorem trimEnd_trimEnd (p : Char → Bool) (t : Text) : trimEnd p (trimEnd p t) = trimEnd p t :=
  List.rdropWhile_idempotent p t

theorem infix_trim (p : Char → Bool) (t : Text) : trim p t <:+: t :=
  (prefix_trimEnd p _).isInfix.trans (List.dropWhile_suffix p).isInfix

theorem trim_trim (p : Char → Bool) (t : Text) : trim p (trim p t) = trim p t := by
  obtain ⟨hfirst, hlast⟩ := ends_rdropWhile_dropWhile p t
  exact trim_of_ends hfirst hlast

theorem trim_append_left (hb : ∀ c ∈ b, p c = true) (t : Text) : trim p (b ++ t) = trim p t := by
  rw [trim, trimStart, List.dropWhile_append_of_pos hb]
  rfl

theorem trim_append_right (t : Text) (hb : ∀ c ∈ b, p c = true) : trim p (t ++ b) = trim p t := by
  have hall : b.dropWhile p = [] := List.dropWhile_eq_nil_iff.mpr hb
  have hend : ∀ u, trimEnd p (u ++ b) = trimEnd p u := by
    intro u
    rw [trimEnd, List.reverse_append, List.dropWhile_append_of_pos]
    · rfl
    · exact fun c hc => hb c (List.mem_reverse.mp hc)
  rw [trim, trim, trimStart, trimStart, List.dropWhile_append]
  split
  · -- nothing is left of the text itself
    rename_i hnil
    rw [hall, List.isEmpty_iff.mp hnil]
  · exact hend _

theorem isBlank_of_mem_space : ∀ c ∈ [' '], isBlank c = true :=
  List.forall_mem_singleton.mpr (by decide)

/-- A line is blank if nothing is left without the blanks at its end. -/
theorem stripEnd_eq_nil_iff : stripEnd t = [] ↔ isBlankText t = true := by
  rw [isBlankText, List.all_eq_true]
  exact List.rdropWhile_eq_nil_iff

/-- Nothing is left of a blank text. -/
theorem strip_eq_nil_iff : strip t = [] ↔ isBlankText t = true := by
  rw [isBlankText, List.all_eq_true]
  refine List.rdropWhile_eq_nil_iff.trans ⟨fun h c hc => ?_, fun h c hc => ?_⟩
  · rw [← List.takeWhile_append_dropWhile (p := isBlank) (l := t)] at hc
    rcases List.mem_append.mp hc with hc | hc
    · exact List.mem_takeWhile_imp hc
    · exact h c hc
  · exact h c ((List.dropWhile_suffix isBlank).subset hc)

end Text
end DocPress
