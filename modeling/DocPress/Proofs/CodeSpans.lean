import DocPress.Markdown.CodeSpan
import DocPress.Proofs.Trimming

/-!
# Code spans read back

A reader of Markdown finds a code span by its fences: the one that opens it is the run of backticks
at the start, and the one that closes it is the next run that is just as long. Runs of any other
length belong to the text. A space is then dropped at either end of what is between the fences, if
there is one at both ends and something else besides. `CodeSpan.read?` is this reader.

What `CodeSpan.write` puts between fences is read back, and nothing of the span is left behind it
(`write_reads_back`). The fence is longer than every run inside, so none of them closes the span
early. No run grows together with a fence either: a text with runs in it has spaces around it, which
are dropped again, and a text without has no backtick at its ends.
-/

namespace DocPress.CodeSpan

open Text

/-! ## A reader of code spans -/

/-- What stands before the next run of just `n` backticks, and what stands behind that run. The text
goes on behind `k` backticks, which are part of the run it begins with. -/
def close? (n k : Nat) : Text → Option (Text × Text)
  | [] => if k = n then some ([], []) else none
  | c :: cs =>
    if c = '`' then close? n (k + 1) cs
    else if k = n then some ([], c :: cs)
    else (close? n 0 cs).map fun (inside, rest) => (List.replicate k '`' ++ c :: inside, rest)

/-- One space less at either end, if both ends have one and there is more than spaces. -/
def unpad (t : Text) : Text :=
  if t.head? = some ' ' && t.getLast? = some ' ' && t.any (· ≠ ' ') then t.tail.dropLast else t

/-- The text of the code span that the text begins with, and what stands behind the span. -/
def read? (t : Text) : Option (Text × Text) :=
  let fence := t.takeWhile (· = '`')
  if fence.isEmpty then none
  else
    (close? fence.length 0 (t.dropWhile (· = '`'))).map fun (inside, rest) => (unpad inside, rest)

/-! ## Runs -/

theorem le_longestRun (k : Nat) (t : Text) : k ≤ longestRun k t := by
  induction t generalizing k with
  | nil => exact Nat.le_refl k
  | cons c t ih =>
    rw [longestRun]
    split
    · exact Nat.le_of_succ_le (ih (k + 1))
    · exact Nat.le_max_left ..

theorem longestRun_of_ne {c : Char} (hc : c ≠ '`') (k : Nat) (t : Text) :
    longestRun k (c :: t) = max k (longestRun 0 t) := by
  rw [longestRun, if_neg hc]

/-- A space at the end makes no run longer. -/
theorem longestRun_concat_space (k : Nat) (t : Text) :
    longestRun k (t ++ [' ']) = longestRun k t := by
  induction t generalizing k with
  | nil => simp [longestRun]
  | cons c t ih => simp only [List.cons_append, longestRun, ih]

theorem longestRun_eq_zero_iff {t : Text} : longestRun 0 t = 0 ↔ '`' ∉ t := by
  induction t with
  | nil => simp [longestRun]
  | cons c t ih =>
    by_cases hc : c = '`'
    · have hrun := le_longestRun 1 t
      subst hc
      rw [longestRun, if_pos rfl, Nat.zero_add]
      simp only [List.mem_cons, true_or, not_true_eq_false, iff_false]
      omega
    · rw [longestRun_of_ne hc, Nat.zero_max, ih]
      simp [Ne.symm hc]

/-! ## The closing fence -/

theorem close?_replicate (n k m : Nat) : close? n k (List.replicate m '`')
    = if k + m = n then some ([], []) else none := by
  induction m generalizing k with
  | zero => rfl
  | succ m ih => rw [List.replicate_succ, close?, if_pos rfl, ih, Nat.succ_add_eq_add_succ]

/--
Behind a text whose runs are all shorter, a fence closes. The induction is on the text, with the
run that is still open before it. A run that is open at the end would make the fence longer.
-/
theorem close?_append_fence {n k : Nat} {t : Text} (hrun : longestRun k t < n)
    (hlast : (List.replicate k '`' ++ t).getLast? ≠ some '`') :
    close? n k (t ++ List.replicate n '`') = some (List.replicate k '`' ++ t, []) := by
  induction t generalizing k with
  | nil =>
    obtain rfl : k = 0 := by
      by_contra hk
      exact hlast (by simp [List.getLast?_replicate, hk])
    simp [close?_replicate]
  | cons c t ih =>
    rw [List.cons_append, close?]
    by_cases hc : c = '`'
    · subst hc
      have hopen : List.replicate k '`' ++ '`' :: t = List.replicate (k + 1) '`' ++ t := by
        rw [List.replicate_succ', List.append_assoc, List.singleton_append]
      rw [longestRun, if_pos rfl] at hrun
      rw [hopen] at hlast ⊢
      rw [if_pos rfl]
      exact ih hrun hlast
    · rw [longestRun_of_ne hc] at hrun
      have hk : k ≠ n := by omega
      have hrest : (List.replicate 0 '`' ++ t).getLast? ≠ some '`' := by
        intro hend
        have htail : t.getLast? = some '`' := hend
        apply hlast
        rw [List.getLast?_append_of_ne_nil _ (List.cons_ne_nil c t), List.getLast?_cons, htail]
        rfl
      rw [if_neg hc, if_neg hk, ih (by omega) hrest]
      rfl

/-! ## Written spans -/

/-- A text between two fences that are longer than its runs, and that its ends keep apart. -/
theorem read?_fenced {n : Nat} {inside : Text} (hrun : longestRun 0 inside < n)
    (hfirst : ∃ c r, inside = c :: r ∧ c ≠ '`') (hlast : inside.getLast? ≠ some '`') :
    read? (List.replicate n '`' ++ inside ++ List.replicate n '`') = some (unpad inside, []) := by
  have hticks : ∀ c ∈ List.replicate n '`', decide (c = '`') = true := by
    intro c hc
    exact decide_eq_true (List.eq_of_mem_replicate hc)
  have hstop : ∀ c, (inside ++ List.replicate n '`').head? = some c → decide (c = '`') = false := by
    obtain ⟨d, r, rfl, hd⟩ := hfirst
    exact head?_cons_of_not (decide_eq_false hd) (r ++ List.replicate n '`')
  obtain ⟨htake, hdrop⟩ := span_append hticks hstop
  have hclose : close? n 0 (inside ++ List.replicate n '`') = some (inside, []) :=
    close?_append_fence hrun hlast
  have hopen : (List.replicate n '`').isEmpty = false := by
    have hn : n ≠ 0 := by omega
    simpa using hn
  rw [List.append_assoc, read?, htake, hdrop, List.length_replicate, hclose, hopen]
  rfl

theorem unpad_of_ends {t : Text} (h : t.head? ≠ some ' ' ∨ t.getLast? ≠ some ' ') :
    unpad t = t := by
  rw [unpad, if_neg]
  rcases h with h | h <;> simp [h]

theorem unpad_padded {t : Text} (h : '`' ∈ t) : unpad (' ' :: t ++ [' ']) = t := by
  have hlast : (' ' :: t ++ [' ']).getLast? = some ' ' := List.getLast?_concat
  have hsome : (' ' :: t ++ [' ']).any (· ≠ ' ') = true :=
    List.any_eq_true.mpr ⟨'`', by simp [h], by decide⟩
  rw [unpad, hlast, hsome, if_pos (by simp)]
  exact List.dropLast_concat

/--
**A code span is undone by reading it.**

The span of a text closes at its very end, and what is read is the text that was written, provided
that it is not empty and has not a space at both ends.
-/
theorem write_reads_back {t : Text} (hne : t ≠ [])
    (hends : t.head? ≠ some ' ' ∨ t.getLast? ≠ some ' ') : read? (write t) = some (t, []) := by
  by_cases hrun : longestRun 0 t = 0
  · -- no backtick inside: a single one on either side, and no spaces
    have hnone : '`' ∉ t := longestRun_eq_zero_iff.mp hrun
    have hwrite : write t = List.replicate 1 '`' ++ t ++ List.replicate 1 '`' := by
      rw [write, if_pos hrun, hrun]
    have hfirst : ∃ c r, t = c :: r ∧ c ≠ '`' := by
      obtain ⟨c, r, rfl⟩ := List.exists_cons_of_ne_nil hne
      exact ⟨c, r, rfl, fun he => hnone (he ▸ List.mem_cons_self ..)⟩
    have hlast : t.getLast? ≠ some '`' := fun he => hnone (List.mem_of_getLast? he)
    rw [hwrite, read?_fenced (by omega) hfirst hlast, unpad_of_ends hends]
  · -- the spaces keep the runs at the ends from the fences
    have hsome : '`' ∈ t := not_not.mp (mt longestRun_eq_zero_iff.mpr hrun)
    have hwrite : write t = List.replicate (longestRun 0 t + 1) '`'
        ++ (' ' :: t ++ [' ']) ++ List.replicate (longestRun 0 t + 1) '`' := by
      rw [write, if_neg hrun]
      simp
    have hlonger : longestRun 0 (' ' :: t ++ [' ']) < longestRun 0 t + 1 := by
      rw [longestRun_concat_space, longestRun_of_ne (by decide), Nat.zero_max]
      exact Nat.lt_succ_self _
    have hlast : (' ' :: t ++ [' ']).getLast? ≠ some '`' := by
      rw [List.getLast?_concat]
      decide
    rw [hwrite, read?_fenced hlonger ⟨' ', _, rfl, by decide⟩ hlast, unpad_padded hsome]

theorem write_reads_back_of_runs_at_ends :
    "`a``|b`".toList ≠ [] ∧ "`a``|b`".toList.head? ≠ some ' '
      ∧ write "`a``|b`".toList = "``` `a``|b` ```".toList
      ∧ read? (write "`a``|b`".toList) = some ("`a``|b`".toList, []) :=
  ⟨by decide, by decide, by decide, write_reads_back (by decide) (.inl (by decide))⟩

/-- Runs of another length do not close a span, and what is behind it is left alone. -/
example : read? "``a`b```c`` d`".toList = some ("a`b```c".toList, " d`".toList) := by decide

end DocPress.CodeSpan
