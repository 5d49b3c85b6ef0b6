import DocPress.Proofs.Trimming
import Mathlib.Data.List.Forall2

/-!
# The form of a body

A comment's token can be any text at all, but the body that is made of it is empty or in one form,
that of `Body.IsNormal`. The steps that lead there come one after the other, and each leaves alone
what the ones before it have settled:

* lines have no line breaks in them, and neither has what is left of a line without its gutter;
* once the blank lines at the ends are gone, the first line and the last one are not blank;
* the indentation that is taken away is the longest that all lines below the first begin with, blank
  ones apart. So none of them gets shorter by anything else, and a tab or space that all of them
  began with afterwards would have been part of it (`prefix_commonIndent_iff`);
* stripping a line changes neither whether it is blank nor, at its end, how it begins.

`ofToken_is_normal` says this of every token, and also which lines the body is made of.
-/

namespace DocPress

namespace Text

/-! ## Lines and common starts -/

theorem noBreak_of_mem_lines {t l : Text} (h : l ∈ lines t) : ∀ c ∈ l, isLineBreak c = false := by
  induction t using lines.induct generalizing l with
  | case1 => exact absurd h (by simp [lines])
  | case2 cs ih =>
    rw [lines] at h
    rcases List.mem_cons.mp h with rfl | h
    · simp
    · exact ih h
  | case3 c cs hpair hbreak ih =>
    rw [lines, if_pos hbreak] at h
    · rcases List.mem_cons.mp h with rfl | h
      · simp
      · exact ih h
    · exact hpair
  | case4 c cs hpair hbreak hnil ih =>
    rw [lines, if_neg hbreak, hnil] at h
    · obtain rfl := List.mem_singleton.mp h
      simpa using hbreak
    · exact hpair
  | case5 c cs hpair hbreak m ms hcons ih =>
    rw [hcons] at ih
    rw [lines, if_neg hbreak, hcons] at h
    · rcases List.mem_cons.mp h with rfl | h
      · exact List.forall_mem_cons.mpr ⟨by simpa using hbreak, ih (List.mem_cons_self ..)⟩
      · exact ih (List.mem_cons_of_mem m h)
    · exact hpair

theorem splitOn_join {s : Char} {ts : List Text} (hne : ts ≠ []) (h : ∀ t ∈ ts, s ∉ t) :
    splitOn s (join [s] ts) = ts := by
  induction ts with
  | nil => exact absurd rfl hne
  | cons t ts ih =>
    have ht := h t (List.mem_cons_self ..)
    cases ts with
    | nil => simpa [join] using splitOn_of_notMem ht
    | cons u us =>
      have hrest := ih (List.cons_ne_nil u us) fun v hv => h v (List.mem_cons_of_mem t hv)
      rw [join_cons_cons, List.append_assoc, List.singleton_append, splitOn_append_sep, hrest,
        splitOn_of_notMem ht]
      rfl

/-- Where two texts agree from the start is the longest start of both. -/
theorem prefix_commonStart_iff {q s t : Text} : q <+: commonStart s t ↔ q <+: s ∧ q <+: t := by
  induction s generalizing q t with
  | nil =>
    have hstart : commonStart [] t = [] := by cases t <;> rfl
    rw [hstart]
    constructor
    · intro h
      obtain rfl := List.prefix_nil.mp h
      exact ⟨h, List.nil_prefix⟩
    · exact And.left
  | cons a s ih =>
    cases t with
    | nil =>
      constructor
      · intro h
        obtain rfl := List.prefix_nil.mp h
        exact ⟨List.nil_prefix, h⟩
      · exact And.right
    | cons b t =>
      cases q with
      | nil => simp
      | cons c q =>
        by_cases hab : a = b
        · subst hab
          rw [commonStart, if_pos rfl, List.cons_prefix_cons, List.cons_prefix_cons,
            List.cons_prefix_cons, ih]
          exact and_and_left
        · rw [commonStart, if_neg hab, List.cons_prefix_cons, List.cons_prefix_cons]
          constructor
          · intro h
            exact absurd h (by simp)
          · rintro ⟨⟨rfl, -⟩, rfl, -⟩
            exact absurd rfl hab

end Text

namespace Body

open Text

/-! ## Indentation -/

theorem isBlank_of_isIndent {c : Char} (h : isIndent c = true) : isBlank c = true := by
  have hcases : c = '\t' ∨ c = ' ' := by simpa [isIndent] using h
  rcases hcases with rfl | rfl <;> decide

theorem prefix_indentOf_iff {q l : Text} :
    q <+: indentOf l ↔ (∀ c ∈ q, isIndent c = true) ∧ q <+: l := by
  constructor
  · intro h
    exact ⟨fun c hc => List.mem_takeWhile_imp (h.subset hc), h.trans (List.takeWhile_prefix _)⟩
  · rintro ⟨hq, r, rfl⟩
    rw [indentOf, List.takeWhile_append_of_pos hq]
    exact List.prefix_append ..

/-- The indentation that lines have in common is the longest that all of them begin with. -/
theorem prefix_commonIndent_iff {ls : List Text} (hne : ls ≠ []) {q : Text} :
    q <+: commonIndent ls ↔ (∀ c ∈ q, isIndent c = true) ∧ ∀ l ∈ ls, q <+: l := by
  have hfold : ∀ (ms : List Text) (common : Text),
      q <+: ms.foldl (fun common m => commonStart common (indentOf m)) common
        ↔ q <+: common ∧ ∀ m ∈ ms, q <+: indentOf m := by
    intro ms
    induction ms with
    | nil => intro common; simp
    | cons m ms ih =>
      intro common
      rw [List.foldl_cons, ih, prefix_commonStart_iff, List.forall_mem_cons, and_assoc]
  obtain ⟨l, ms, rfl⟩ := List.exists_cons_of_ne_nil hne
  rw [commonIndent, hfold, ← List.forall_mem_cons (p := fun m => q <+: indentOf m)]
  simp only [prefix_indentOf_iff]
  constructor
  · exact fun h => ⟨(h l (List.mem_cons_self ..)).1, fun m hm => (h m hm).2⟩
  · exact fun h m hm => ⟨h.1, h.2 m hm⟩

theorem isIndent_of_mem_commonIndent (ls : List Text) :
    ∀ c ∈ commonIndent ls, isIndent c = true := by
  cases ls with
  | nil => simp [commonIndent]
  | cons l ls => exact ((prefix_commonIndent_iff (List.cons_ne_nil l ls)).mp (List.prefix_refl _)).1

theorem isBlankText_append {t u : Text} (h : ∀ c ∈ t, isIndent c = true) :
    isBlankText (t ++ u) = isBlankText u := by
  have hblank : t.all isBlank = true :=
    List.all_eq_true.mpr fun c hc => isBlank_of_isIndent (h c hc)
  rw [isBlankText, List.all_append, hblank]
  rfl

/-- What becomes of a line below the first. A blank one is empty afterwards, and any other begins
with `indent` and loses it, together with the blanks at its end. -/
inductive Becomes (indent : Text) : Text → Text → Prop where
  | empty {l : Text} : isBlankText l = true → Becomes indent l []
  | line {r : Text} : isBlankText r = false → Becomes indent (indent ++ r) (stripEnd r)

/-- The indentation common to the lines that are not blank is taken from each of them. -/
theorem becomes_outdent {below : List Text} {l : Text} (hl : l ∈ below) :
    let indent := commonIndent (below.filter (!isBlankText ·))
    Becomes indent l (stripEnd (outdent indent l)) := by
  intro indent
  cases hblank : isBlankText l with
  | true =>
    -- a part of a blank line is blank
    have hpart : isBlankText (outdent indent l) = true := by
      rw [outdent]
      cases hafter : after? indent l with
      | none => exact hblank
      | some r =>
        obtain rfl := after?_eq_some_iff.mp hafter
        rwa [isBlankText_append (isIndent_of_mem_commonIndent _)] at hblank
    rw [stripEnd_eq_nil_iff.mpr hpart]
    exact .empty hblank
  | false =>
    have hmem : l ∈ below.filter (!isBlankText ·) := List.mem_filter.mpr ⟨hl, by simp [hblank]⟩
    have hcommon := prefix_commonIndent_iff (List.ne_nil_of_mem hmem) (q := indent)
    obtain ⟨r, hr⟩ := (hcommon.mp (List.prefix_refl _)).2 l hmem
    have hout : outdent indent l = r := by rw [outdent, after?_eq_some_iff.mpr hr.symm]; rfl
    rw [← hr, isBlankText_append (isIndent_of_mem_commonIndent _)] at hblank
    rw [hout, ← hr]
    exact .line hblank

theorem Becomes.isBlankText_eq {indent l m : Text} (hindent : ∀ c ∈ indent, isIndent c = true)
    (h : Becomes indent l m) : isBlankText m = isBlankText l := by
  cases h with
  | empty hl => rw [hl]; rfl
  | @line r hr =>
    rw [isBlankText_append hindent, hr, ← Bool.not_eq_true, ← stripEnd_eq_nil_iff, stripEnd,
      stripEnd, trimEnd_trimEnd]
    exact fun hnil => by simp [stripEnd_eq_nil_iff.mp hnil] at hr

theorem Becomes.stripEnd_eq {indent l m : Text} (h : Becomes indent l m) : stripEnd m = m := by
  cases h with
  | empty => rfl
  | line => exact trimEnd_trimEnd ..

theorem Becomes.sublist {indent l m : Text} (h : Becomes indent l m) : m.Sublist l := by
  cases h with
  | empty => exact List.nil_sublist _
  | line => exact ((prefix_trimEnd _ _).sublist).trans (List.sublist_append_right ..)

/-- What a line begins with afterwards stood behind the indentation. -/
theorem Becomes.prefix_of_head? {indent l m : Text} {c : Char} (h : Becomes indent l m)
    (hhead : m.head? = some c) : indent ++ [c] <+: l := by
  cases h with
  | empty => exact absurd hhead (by simp)
  | @line r hr =>
    obtain ⟨q, hq⟩ := List.head?_eq_some_iff.mp hhead
    have hstart : [c] <+: stripEnd r := ⟨q, hq.symm⟩
    exact (List.prefix_append_right_inj indent).mpr (hstart.trans (prefix_trimEnd isBlank r))

/-! ## The lines of a body -/

theorem dropSpace_suffix (l : Text) : dropSpace l <:+ l := by
  unfold dropSpace
  split
  · exact List.suffix_cons ..
  · exact List.suffix_refl _

theorem dropStar_suffix (l : Text) : dropStar l <:+ l := by
  unfold dropStar
  split
  · rename_i r hr
    have hline := List.dropWhile_suffix isIndent (l := l)
    rw [hr] at hline
    exact (List.suffix_cons '*' r).trans hline
  · exact List.suffix_refl _

/-- Without the gutter each line is an end of what it was. -/
theorem forall₂_dropGutter (ls : List Text) : List.Forall₂ (· <:+ ·) (dropGutter ls) ls := by
  cases ls with
  | nil => exact .nil
  | cons first below =>
    have hsame : List.Forall₂ (· <:+ ·) below below :=
      List.forall₂_same.mpr fun l _ => List.suffix_refl l
    have hoff : List.Forall₂ (· <:+ ·) (below.map fun l => dropSpace (dropStar l)) below :=
      List.forall₂_map_left_iff.mpr <| List.forall₂_same.mpr fun l _ =>
        (dropSpace_suffix _).trans (dropStar_suffix l)
    unfold dropGutter
    dsimp only
    split
    · exact .cons (List.suffix_refl first) hoff
    · exact .cons (List.suffix_refl first) hsame

theorem noBreak_dropGutter {ls : List Text} (h : ∀ l ∈ ls, ∀ c ∈ l, isLineBreak c = false) :
    ∀ l ∈ dropGutter ls, ∀ c ∈ l, isLineBreak c = false := by
  have hall : ∀ {ms ls : List Text}, List.Forall₂ (· <:+ ·) ms ls →
      (∀ l ∈ ls, ∀ c ∈ l, isLineBreak c = false) → ∀ m ∈ ms, ∀ c ∈ m, isLineBreak c = false := by
    intro ms ls hforall
    induction hforall with
    | nil => simp
    | cons hsuffix _ ih =>
      rw [List.forall_mem_cons, List.forall_mem_cons]
      exact fun hls => ⟨fun c hc => hls.1 c (hsuffix.subset hc), ih hls.2⟩
  exact hall (forall₂_dropGutter ls) h

/-- The lines that a body is made of: those of the token without delimiters and gutter, and without
the blank ones at either end. -/
def bareLines (token : Text) : List Text :=
  trimBlankLines (dropGutter (lines (dropClosing (dropOpening token))))

theorem bareLines_sublist (token : Text) :
    (bareLines token).Sublist (dropGutter (lines (dropClosing (dropOpening token)))) :=
  (List.rdropWhile_prefix isBlankText _).sublist.trans (List.dropWhile_sublist isBlankText)

theorem noBreak_bareLines (token : Text) :
    ∀ l ∈ bareLines token, ∀ c ∈ l, isLineBreak c = false := by
  intro l hl
  have hline := (bareLines_sublist token).subset hl
  exact noBreak_dropGutter (fun m hm => noBreak_of_mem_lines hm) l hline

/-- Neither the first of these lines nor the last is blank. -/
theorem ends_bareLines (token : Text) :
    (∀ l, (bareLines token).head? = some l → isBlankText l = false)
      ∧ ∀ l, (bareLines token).getLast? = some l → isBlankText l = false :=
  ends_rdropWhile_dropWhile isBlankText _

/-! ## The form -/

/-- A tab or space with which each line still began would have been part of the indentation. -/
theorem exists_head?_ne {below : List Text} {f : Text → Text}
    (hf : ∀ l ∈ below, Becomes (commonIndent (below.filter (!isBlankText ·))) l (f l)) {c : Char}
    (hc : isIndent c = true) (hne : (below.map f).filter (!isBlankText ·) ≠ []) :
    ∃ m ∈ below.map f, isBlankText m = false ∧ m.head? ≠ some c := by
  by_contra hall
  push Not at hall
  have hindent := isIndent_of_mem_commonIndent (below.filter (!isBlankText ·))
  set indent := commonIndent (below.filter (!isBlankText ·)) with hcommon
  obtain ⟨m, hm⟩ := List.exists_mem_of_ne_nil _ hne
  obtain ⟨hmem, hnonblank⟩ := List.mem_filter.mp hm
  obtain ⟨l, hl, rfl⟩ := List.mem_map.mp hmem
  have hsome : below.filter (!isBlankText ·) ≠ [] := by
    rw [(hf l hl).isBlankText_eq hindent] at hnonblank
    exact List.ne_nil_of_mem (List.mem_filter.mpr ⟨hl, hnonblank⟩)
  -- each line goes on with the character behind the indentation
  have hlonger : indent ++ [c] <+: indent := by
    refine (prefix_commonIndent_iff hsome).mpr ⟨fun a ha => ?_, fun k hk => ?_⟩
    · rcases List.mem_append.mp ha with ha | ha
      · exact hindent a ha
      · exact List.mem_singleton.mp ha ▸ hc
    · obtain ⟨hk, hblank⟩ := List.mem_filter.mp hk
      have hhead := hall (f k) (List.mem_map_of_mem hk) (by
        rw [(hf k hk).isBlankText_eq hindent]
        simpa using hblank)
      exact (hf k hk).prefix_of_head? hhead
  have hlen := hlonger.length_le
  rw [List.length_append, List.length_singleton] at hlen
  omega

/-- The lines of a body are normal once each has become what it is there. -/
theorem isNormal_of_becomes {first : Text} {below : List Text} {f : Text → Text}
    (hbreak : ∀ l ∈ first :: below, ∀ c ∈ l, isLineBreak c = false)
    (hfirst : isBlankText first = false)
    (hlast : ∀ l, (first :: below).getLast? = some l → isBlankText l = false)
    (hf : ∀ l ∈ below, Becomes (commonIndent (below.filter (!isBlankText ·))) l (f l)) :
    IsNormal (strip first :: below.map f) := by
  have hne : strip first ≠ [] := by
    intro hnil
    rw [strip_eq_nil_iff.mp hnil] at hfirst
    exact absurd hfirst (by decide)
  have hstrip : strip (strip first) = strip first := trim_trim isBlank first
  refine ⟨List.forall_mem_cons.mpr ⟨fun c hc => ?_, fun m hm c hc => ?_⟩,
    ⟨strip first, rfl, hne, hstrip⟩, ?_, List.forall_mem_cons.mpr ⟨?_, fun m hm => ?_⟩,
    fun c hc hsome => exists_head?_ne hf hc hsome⟩
  · exact hbreak first (List.mem_cons_self ..) c ((infix_trim isBlank first).subset hc)
  · obtain ⟨l, hl, rfl⟩ := List.mem_map.mp hm
    exact hbreak l (List.mem_cons_of_mem first hl) c ((hf l hl).sublist.subset hc)
  · rcases List.eq_nil_or_concat below with rfl | ⟨init, l, rfl⟩
    · exact ⟨strip first, rfl, not_isBlankText_of_strip hne hstrip⟩
    · have hl : l ∈ init.concat l := by simp
      refine ⟨f l, by simp [List.getLast?_cons], ?_⟩
      rw [(hf l hl).isBlankText_eq (isIndent_of_mem_commonIndent _)]
      exact hlast l (by simp [List.getLast?_cons])
  · exact trimEnd_trimEnd ..
  · obtain ⟨l, hl, rfl⟩ := List.mem_map.mp hm
    exact (hf l hl).stripEnd_eq

/-- The body of a token that has lines left: they are joined as they have become. -/
theorem exists_becomes {token first : Text} {below : List Text}
    (h : bareLines token = first :: below) :
    ∃ indent f, (∀ c ∈ indent, isIndent c = true) ∧ (∀ l ∈ below, Becomes indent l (f l))
      ∧ IsNormal (strip first :: below.map f)
      ∧ ofToken token = join ['\n'] (strip first :: below.map f) := by
  have hbreak := noBreak_bareLines token
  obtain ⟨hfirst, hlast⟩ := ends_bareLines token
  rw [h] at hbreak hfirst hlast
  let indent := commonIndent (below.filter (!isBlankText ·))
  let f := fun l => stripEnd (outdent indent l)
  have hf : ∀ l ∈ below, Becomes indent l (f l) := fun l hl => becomes_outdent hl
  have hnormal : IsNormal (strip first :: below.map f) :=
    isNormal_of_becomes hbreak (hfirst first rfl) hlast hf
  have hbody : ofToken token = assemble (dropIndent (bareLines token)) := rfl
  refine ⟨indent, f, isIndent_of_mem_commonIndent _, hf, hnormal, ?_⟩
  rw [hbody, h, dropIndent, assemble, List.map_map]
  exact stripEnd_join hnormal

/-- No lines, no body. -/
theorem ofToken_of_no_lines {token : Text} (h : bareLines token = []) : ofToken token = [] := by
  have hbody : ofToken token = assemble (dropIndent (bareLines token)) := rfl
  rw [hbody, h]
  rfl

/--
**Every body is empty or normal.**

If no line of the token is left, the body is empty. Otherwise its lines are normal: without line
breaks and without blanks at their ends, the first and the last one not blank, and no tab or space
before all of those below the first. They are the lines of the token, the first one stripped; from
those below it the same indentation is taken, with which each that is not blank begins.
-/
theorem ofToken_is_normal (token : Text) :
    (bareLines token = [] ∧ ofToken token = [])
      ∨ ∃ first below indent, bareLines token = first :: below ∧ (∀ c ∈ indent, isIndent c = true)
        ∧ IsNormal (splitOn '\n' (ofToken token))
        ∧ ∃ after, splitOn '\n' (ofToken token) = strip first :: after
          ∧ List.Forall₂ (Becomes indent) below after := by
  cases hlines : bareLines token with
  | nil => exact .inl ⟨rfl, ofToken_of_no_lines hlines⟩
  | cons first below =>
    obtain ⟨indent, f, hindent, hf, hnormal, hbody⟩ := exists_becomes hlines
    have hsplit : splitOn '\n' (ofToken token) = strip first :: below.map f := by
      rw [hbody]
      refine splitOn_join (by simp) fun l hl hfeed => ?_
      exact absurd (hnormal.noBreak l hl '\n' hfeed) (by decide)
    rw [hsplit]
    exact .inr ⟨first, below, indent, rfl, hindent, hnormal, below.map f, rfl,
      List.forall₂_map_right_iff.mpr (List.forall₂_same.mpr hf)⟩

end Body
end DocPress
