import DocPress.Comment.Reader
import DocPress.Proofs.PathNames

/-!
# Reading keeps the text

A comment is taken apart in many places: its text falls into lines, lines into a tag's kind and the
rest, the description into paragraphs, and nearly everything is stripped on the way. What may get
lost in this is blanks and line breaks, which are blanks as well. The ink of a text is what is left
of it without blanks, and each of the operations is told here by what it does to the ink: most leave
it as it is, and those that take a text apart leave it in the parts, in order.

Put together, the ink of a comment's text is the ink of what was read from it (`read_keeps_ink`).
-/

namespace DocPress

/-- A line break is a blank. -/
theorem isBlank_of_isLineBreak {c : Char} (h : isLineBreak c = true) : isBlank c = true := by
  simp only [isLineBreak, lineBreaks, isBlank, blanks, Ranges.has, List.any_cons, List.any_nil,
    Bool.or_false, Bool.or_eq_true, Bool.and_eq_true, decide_eq_true_eq] at h ⊢
  omega

namespace Text

/-- The characters of a text that are not blank. -/
def ink (t : Text) : Text := t.filter (!isBlank ·)

@[simp] theorem ink_nil : ink [] = [] := rfl

@[simp] theorem ink_append (t u : Text) : ink (t ++ u) = ink t ++ ink u := List.filter_append ..

theorem ink_cons_of_blank {c : Char} (h : isBlank c = true) (t : Text) : ink (c :: t) = ink t := by
  simp [ink, h]

theorem ink_cons (c : Char) (t : Text) : ink (c :: t) = ink [c] ++ ink t := ink_append [c] t

/-- There is no ink in blanks. -/
theorem ink_eq_nil {t : Text} (h : ∀ c ∈ t, isBlank c = true) : ink t = [] := by
  rw [ink, List.filter_eq_nil_iff]
  intro c hc
  simp [h c hc]

/-! ## Trimming -/

/-- Trimming a class of blanks at the start takes no ink. -/
theorem ink_dropWhile {p : Char → Bool} (hp : ∀ c, p c = true → isBlank c = true) (t : Text) :
    ink (t.dropWhile p) = ink t := by
  have hstart : ink (t.takeWhile p) = [] :=
    ink_eq_nil fun c hc => hp c (List.all_eq_true.mp List.all_takeWhile c hc)
  calc ink (t.dropWhile p) = ink (t.takeWhile p) ++ ink (t.dropWhile p) := by
        rw [hstart, List.nil_append]
    _ = ink t := by rw [← ink_append, List.takeWhile_append_dropWhile]

theorem ink_reverse (t : Text) : ink t.reverse = (ink t).reverse := List.filter_reverse ..

/-- Trimming a class of blanks at both ends takes no ink. -/
theorem ink_trim {p : Char → Bool} (hp : ∀ c, p c = true → isBlank c = true) (t : Text) :
    ink (trim p t) = ink t := by
  rw [trim, trimEnd, trimStart, ink_reverse, ink_dropWhile hp, ink_reverse, List.reverse_reverse,
    ink_dropWhile hp]

@[simp] theorem ink_strip (t : Text) : ink (strip t) = ink t := ink_trim (fun _ h => h) t

@[simp] theorem ink_stripStart (t : Text) : ink (stripStart t) = ink t :=
  ink_dropWhile (fun _ h => h) t

/-! ## Lines -/

/-- Joining by blanks adds no ink. -/
theorem ink_join {sep : Text} (hsep : ink sep = []) (ts : List Text) :
    ink (join sep ts) = ts.flatMap ink := by
  induction ts with
  | nil => rfl
  | cons t ts ih =>
    cases ts with
    | nil => simp [join]
    | cons u us =>
      rw [join_cons_cons, ink_append, ink_append, hsep, ih, List.append_nil, ← List.flatMap_cons]

/-- The lines of a text have its ink. -/
theorem ink_lines (t : Text) : (lines t).flatMap ink = ink t := by
  induction t using lines.induct with
  | case1 => rfl
  | case2 cs ih =>
    -- two characters make one break
    have hreturn : isBlank '\r' = true := by decide
    have hfeed : isBlank '\n' = true := by decide
    rw [lines, List.flatMap_cons, ih, ink_cons_of_blank hreturn, ink_cons_of_blank hfeed]
    rfl
  | case3 c cs hpair hbreak ih =>
    rw [lines, if_pos hbreak, List.flatMap_cons, ih,
      ink_cons_of_blank (isBlank_of_isLineBreak hbreak)]
    · rfl
    · exact hpair
  | case4 c cs hpair hbreak hnil ih =>
    rw [hnil, List.flatMap_nil] at ih
    rw [lines, if_neg hbreak, hnil, ink_cons c cs, ← ih]
    · simp
    · exact hpair
  | case5 c cs hpair hbreak l ls hcons ih =>
    rw [hcons, List.flatMap_cons] at ih
    rw [lines, if_neg hbreak, hcons, ink_cons c cs, ← ih]
    · rw [List.flatMap_cons, ink_cons c l, List.append_assoc]
    · exact hpair

end Text

namespace Comment

open Text

/-! ## Tags and the description -/

/-- The text of a tag as it is written: its kind behind an at sign, and what follows. -/
def tagText (kind string : Text) : Text := '@' :: kind ++ string

/-- A line that opens a tag has the ink of the tag. -/
theorem ink_tagLine? {l kind first : Text} (h : tagLine? l = some (kind, first)) :
    ink l = ink (tagText kind first) := by
  have hstart := ink_stripStart l
  unfold tagLine? at h
  split at h
  · rename_i c r hl
    split at h
    · obtain ⟨rfl, rfl⟩ := Prod.mk.inj (Option.some.inj h)
      have hline : '@' :: c :: r
          = '@' :: c :: r.takeWhile isKindChar ++ r.dropWhile isKindChar := by
        simp [List.takeWhile_append_dropWhile]
      rw [← hstart, hl, hline, tagText, ink_append, ink_append, ink_strip]
    · exact absurd h (by simp)
  · exact absurd h (by simp)

/-- Only empty texts are left out when the parts of a tag are joined. -/
theorem ink_joinParts (ts : List Text) : ink (joinParts ts) = ts.flatMap ink := by
  have hspace : ink [' '] = [] := by decide
  rw [joinParts, ink_join hspace]
  induction ts with
  | nil => rfl
  | cons t ts ih =>
    cases t with
    | nil => simpa using ih
    | cons c t => simpa using ih

/-- The lines of a comment have the ink of the description and the tags that they fall into. -/
theorem ink_blocks (ls : List Text) : ls.flatMap ink
    = (blocks ls).1.flatMap ink ++ (blocks ls).2.flatMap fun tag => ink (tagText tag.1 tag.2) := by
  induction ls with
  | nil => rfl
  | cons l ls ih =>
    rw [blocks, List.flatMap_cons, ih]
    cases htag : tagLine? l with
    | none => simp
    | some tag =>
      obtain ⟨kind, first⟩ := tag
      -- the lines before the next tag go behind what stands on the tag's own line
      have hfree : ((blocks ls).1.map Text.strip).flatMap ink = (blocks ls).1.flatMap ink := by
        simp [List.flatMap_map]
      have hparts : ink (joinParts (first :: (blocks ls).1.map Text.strip))
          = ink first ++ (blocks ls).1.flatMap ink := by
        rw [ink_joinParts, List.flatMap_cons, hfree]
      rw [ink_tagLine? htag]
      simp only [tagText, List.flatMap_nil, List.nil_append, List.flatMap_cons, ink_append, hparts,
        List.append_assoc]

/-- The paragraphs have the ink of the description. -/
theorem ink_splitParagraph (t : Text) :
    ink (splitParagraph t).1 ++ ink (splitParagraph t).2 = ink t := by
  induction t with
  | nil => rfl
  | cons c cs ih =>
    rw [splitParagraph]
    split
    · rename_i hsplit
      obtain ⟨rfl, -⟩ : c = '\n' ∧ startsBlankLine cs = true := by simpa using hsplit
      exact (ink_cons_of_blank (by decide) cs).symm
    · show ink (c :: (splitParagraph cs).1) ++ ink (splitParagraph cs).2 = ink (c :: cs)
      rw [ink_cons c, ink_cons c cs, List.append_assoc, ih]

/--
**Reading keeps the text.**

Blanks apart, the text of a comment is its summary, then its body, then each of its tags in order:
the at sign, the kind and the string of the tag. So nothing is lost, doubled or moved.
-/
theorem read_keeps_ink (t file : Text) (line : Int) :
    let c := read t file line
    ink (c.summary ++ c.body ++ c.tags.flatMap fun tag => tagText tag.kind tag.string) = ink t := by
  intro c
  have hfeed : ∀ a : Char, (a == '\n') = true → isBlank a = true := by
    intro a ha
    rw [beq_iff_eq.mp ha]
    decide
  have hdescription : ink c.summary ++ ink c.body = (blocks (lines t)).1.flatMap ink := by
    show ink (strip _) ++ ink (strip _) = _
    rw [ink_strip, ink_strip, ink_splitParagraph, ink_trim hfeed, ink_join (by decide)]
  have htags : ink (c.tags.flatMap fun tag => tagText tag.kind tag.string)
      = (blocks (lines t)).2.flatMap fun tag => ink (tagText tag.1 tag.2) := by
    show ink (((blocks (lines t)).2.map _).flatMap _) = _
    rw [List.flatMap_map, ink, List.filter_flatMap]
    rfl
  calc ink (c.summary ++ c.body ++ c.tags.flatMap fun tag => tagText tag.kind tag.string)
      = (blocks (lines t)).1.flatMap ink
        ++ (blocks (lines t)).2.flatMap fun tag => ink (tagText tag.1 tag.2) := by
        rw [ink_append, ink_append, hdescription, htags]
    _ = (lines t).flatMap ink := (ink_blocks (lines t)).symm
    _ = ink t := ink_lines t

end Comment
end DocPress
