import DocPress.Comment.Body
import DocPress.Proofs.PathNames

/-!
# Taking the decoration off again

A body is written into a source file behind a gutter: a line that opens the comment, each line of
the body behind a blank, a star and another blank, and a line that closes it. Reading such a block
gives the body back (`ofToken_block`), provided that the body is in the form that reading leaves
behind, which is what `IsNormal` says: there is nothing at the ends of it or of its lines that would
be taken away, and no indentation that all lines below the first have in common.

The gutter is found although lines of the body may begin with stars, since each line has a star of
its own before that. It is taken off before blank lines and indentation are looked at.
-/

namespace DocPress

namespace Text

/-! ## Lines -/

theorem lines_cons {c : Char} (h : isLineBreak c = false) (t : Text) :
    lines (c :: t) = match lines t with
      | [] => [[c]]
      | l :: ls => (c :: l) :: ls := by
  rw [lines, h]
  · rfl
  · rintro r rfl -
    exact absurd h (by decide)

theorem lines_lineFeed (t : Text) : lines ('\n' :: t) = [] :: lines t := by
  rw [lines]
  · rw [if_pos (by decide)]
  · intro r he
    exact absurd he (by decide)

/-- A line and its line feed, before other lines. -/
theorem lines_append_lineFeed {l : Text} (h : ∀ c ∈ l, isLineBreak c = false) (t : Text) :
    lines (l ++ '\n' :: t) = l :: lines t := by
  induction l with
  | nil => exact lines_lineFeed t
  | cons c l ih =>
    rw [List.cons_append, lines_cons (h c (List.mem_cons_self ..)),
      ih fun a ha => h a (List.mem_cons_of_mem c ha)]

/-- A last line without a line feed. -/
theorem lines_of_noBreak {l : Text} (hne : l ≠ []) (h : ∀ c ∈ l, isLineBreak c = false) :
    lines l = [l] := by
  induction l with
  | nil => exact absurd rfl hne
  | cons c l ih =>
    rw [lines_cons (h c (List.mem_cons_self ..))]
    by_cases hl : l = []
    · subst hl
      rfl
    · rw [ih hl fun a ha => h a (List.mem_cons_of_mem c ha)]

/-- Lines, each with its line feed, and a last one without. -/
theorem lines_flatMap_append {ls : List Text} {last : Text} (hne : last ≠ [])
    (h : ∀ l ∈ ls ++ [last], ∀ c ∈ l, isLineBreak c = false) :
    lines (ls.flatMap (· ++ ['\n']) ++ last) = ls ++ [last] := by
  induction ls with
  | nil => exact lines_of_noBreak hne (h last (by simp))
  | cons l ls ih =>
    have hrest := ih fun m hm => h m (List.mem_cons_of_mem l hm)
    have htext : (l :: ls).flatMap (· ++ ['\n']) ++ last
        = l ++ '\n' :: (ls.flatMap (· ++ ['\n']) ++ last) := by simp
    rw [htext, lines_append_lineFeed (h l (List.mem_cons_self ..)), hrest]
    rfl

theorem join_splitOn (s : Char) (t : Text) : join [s] (splitOn s t) = t := by
  induction t with
  | nil => rfl
  | cons c t ih =>
    obtain ⟨w, ws, hws⟩ := List.exists_cons_of_ne_nil (splitOn_ne_nil s t)
    unfold splitOn
    rw [hws] at ih
    by_cases hc : c = s
    · subst hc
      rw [if_pos rfl, hws, join_cons_cons, ih]
      rfl
    · rw [if_neg hc, hws]
      cases ws with
      | nil => exact congrArg (c :: ·) ih
      | cons v ws =>
        rw [join_cons_cons] at ih ⊢
        exact congrArg (c :: ·) ih

theorem infix_join {sep w : Text} {ws : List Text} (h : w ∈ ws) : w <:+: join sep ws := by
  induction ws with
  | nil => exact absurd h (by simp)
  | cons v ws ih =>
    cases ws with
    | nil =>
      obtain rfl := List.mem_singleton.mp h
      exact ⟨[], [], by simp [join]⟩
    | cons u us =>
      rw [join_cons_cons]
      rcases List.mem_cons.mp h with rfl | h
      · exact ⟨[], sep ++ join sep (u :: us), by simp⟩
      · exact (ih h).trans (List.suffix_append _ _).isInfix

theorem infix_of_mem_splitOn {s : Char} {t w : Text} (h : w ∈ splitOn s t) : w <:+: t := by
  have hjoin := @infix_join [s] w _ h
  rw [join_splitOn] at hjoin
  exact hjoin

/-! ## Ends -/

theorem trimEnd_concat {p : Char → Bool} {c : Char} (t : Text) (hc : p c = false) :
    trimEnd p (t ++ [c]) = t ++ [c] := by
  simp [trimEnd, hc]

/-- A text that is not changed by trimming its end, and is not empty, ends in another character. -/
theorem exists_concat_of_trimEnd {p : Char → Bool} {t : Text} (h : trimEnd p t = t) (hne : t ≠ []) :
    ∃ r c, t = r ++ [c] ∧ p c = false := by
  obtain ⟨r, c, hr⟩ := (List.eq_nil_or_concat t).resolve_left hne
  rw [List.concat_eq_append] at hr
  refine ⟨r, c, hr, ?_⟩
  by_contra hc
  rw [Bool.not_eq_false] at hc
  -- the last character would be trimmed
  have hlen := congrArg List.length h
  have hle : ((r.reverse).dropWhile p).length ≤ r.length := by
    have := (List.dropWhile_sublist p (l := r.reverse)).length_le
    simpa using this
  rw [hr] at hlen
  simp [trimEnd, hc] at hlen
  omega

end Text

namespace Body

/-! ## Blocks -/

/-- A line behind the gutter. -/
def gutter (l : Text) : Text := ' ' :: '*' :: ' ' :: l

/-- The block in which the lines of a body stand. -/
def block (ls : List Text) : Text :=
  "/**\n".toList ++ ls.flatMap (fun l => gutter l ++ ['\n']) ++ " */".toList

/-- The lines of a body in the form in which reading leaves them. -/
structure IsNormal (ls : List Text) : Prop where
  /-- No line holds a line break. -/
  noBreak : ∀ l ∈ ls, ∀ c ∈ l, isLineBreak c = false
  /-- The first line is not empty and has no blanks at its ends. -/
  first : ∃ l, ls.head? = some l ∧ l ≠ [] ∧ Text.strip l = l
  /-- The last line is not blank. -/
  last : ∃ l, ls.getLast? = some l ∧ Text.isBlankText l = false
  /-- No line has blanks at its end. -/
  ends : ∀ l ∈ ls, Text.stripEnd l = l
  /-- The lines below the first that are not blank, if there are any, do not all begin with the same
  tab or space. -/
  indent : ∀ c, isIndent c = true → ls.tail.filter (!Text.isBlankText ·) ≠ [] →
    ∃ l ∈ ls.tail, Text.isBlankText l = false ∧ l.head? ≠ some c

variable {ls : List Text}

theorem isBlank_star : isBlank '*' = false := by decide

theorem dropClosing_block {t : Text} {c : Char} (hc : isBlank c = false) :
    dropClosing (t ++ [c] ++ "\n */".toList) = t ++ [c] := by
  have hreverse : (t ++ [c] ++ "\n */".toList).reverse
      = '/' :: '*' :: ' ' :: '\n' :: c :: t.reverse := by simp
  have hslash : isBlank '/' = false := by decide
  have hspace : isBlank ' ' = true := by decide
  have hfeed : isBlank '\n' = true := by decide
  unfold dropClosing
  rw [hreverse, List.dropWhile_cons, hslash]
  simp [hspace, hfeed, hc]

/-- Behind the delimiters each line of the body stands behind its gutter. -/
theorem lines_block (h : IsNormal ls) :
    Text.lines (dropClosing (dropOpening (block ls))) = [] :: ls.map gutter := by
  obtain ⟨last, hlast, hnonblank⟩ := h.last
  obtain ⟨init, rfl⟩ := List.getLast?_eq_some_iff.mp hlast
  have hmem : last ∈ init ++ [last] := by simp
  have hne : last ≠ [] := by
    rintro rfl
    exact absurd hnonblank (by decide)
  obtain ⟨r, c, hr, hc⟩ := Text.exists_concat_of_trimEnd (h.ends last hmem) hne
  -- the last line ends in something that is not blank, up to which the closing is taken off
  have hopened : dropOpening (block (init ++ [last]))
      = ('\n' :: init.flatMap (fun l => gutter l ++ ['\n']) ++ gutter r) ++ [c]
        ++ "\n */".toList := by
    have hstart : dropOpening (block (init ++ [last]))
        = '\n' :: ((init ++ [last]).flatMap (fun l => gutter l ++ ['\n']) ++ " */".toList) := rfl
    rw [hstart, hr]
    simp [gutter]
  have hgutter : ∀ l ∈ init.map gutter ++ [gutter last], ∀ a ∈ l, isLineBreak a = false := by
    have hblanks : isLineBreak ' ' = false ∧ isLineBreak '*' = false := by decide
    have hall : ∀ a ∈ [' ', '*', ' '], isLineBreak a = false := by simp [hblanks]
    intro l hl a ha
    have hmap : l ∈ (init ++ [last]).map gutter := by rw [List.map_append]; exact hl
    obtain ⟨m, hm, rfl⟩ := List.mem_map.mp hmap
    rcases List.mem_append.mp (show a ∈ [' ', '*', ' '] ++ m from ha) with ha | ha
    · exact hall a ha
    · exact h.noBreak m hm a ha
  have htext : ('\n' :: init.flatMap (fun l => gutter l ++ ['\n']) ++ gutter r) ++ [c]
      = '\n' :: ((init.map gutter).flatMap (· ++ ['\n']) ++ gutter last) := by
    rw [hr, List.flatMap_map]
    simp [gutter]
  rw [hopened, dropClosing_block hc, htext, Text.lines_lineFeed,
    Text.lines_flatMap_append (by simp [gutter]) hgutter, List.map_append]
  rfl

/-- The gutter is found and taken off. -/
theorem dropGutter_block (hne : ls ≠ []) : dropGutter ([] :: ls.map gutter) = [] :: ls := by
  have hstar : ∀ l, (gutter l).dropWhile isIndent = '*' :: ' ' :: l := fun l => by
    have hspace : isIndent ' ' = true := by decide
    have hno : isIndent '*' = false := by decide
    simp [gutter, hspace, hno]
  -- the star makes each line count, blank lines of the body as well
  have hmarked : (ls.map gutter).filter (!Text.isBlankText ·) = ls.map gutter := by
    refine List.filter_eq_self.mpr fun l hl => ?_
    obtain ⟨m, -, rfl⟩ := List.mem_map.mp hl
    simp [gutter, Text.isBlankText, isBlank_star]
  have hall : (ls.map gutter).all hasStar = true := by
    rw [List.all_eq_true]
    intro l hl
    obtain ⟨m, -, rfl⟩ := List.mem_map.mp hl
    rw [hasStar, hstar]
    exact Text.startsWith_iff.mpr ⟨' ' :: m, rfl⟩
  have hoff : (ls.map gutter).map (fun l => dropSpace (dropStar l)) = ls := by
    rw [List.map_map]
    refine (List.map_congr_left fun l _ => ?_).trans (List.map_id ls)
    show dropSpace (dropStar (gutter l)) = l
    rw [dropStar, hstar]
    rfl
  have hsome : ((ls.map gutter).isEmpty) = false := by
    cases ls with
    | nil => exact absurd rfl hne
    | cons l ls => rfl
  rw [dropGutter, hmarked, hall, hsome, hoff]
  rfl

theorem not_isBlankText_of_strip {l : Text} (hne : l ≠ []) (h : Text.strip l = l) :
    Text.isBlankText l = false := by
  by_contra hblank
  rw [Bool.not_eq_false, Text.isBlankText, List.all_eq_true] at hblank
  have hnil : l.dropWhile isBlank = [] := List.dropWhile_eq_nil_iff.mpr hblank
  rw [Text.strip, Text.trim, Text.trimStart, hnil] at h
  exact hne h.symm

/-- The first and the last line of a body are not blank, so there are no blank lines to trim but the
one that follows the opening delimiter. -/
theorem trimBlankLines_block (h : IsNormal ls) : trimBlankLines ([] :: ls) = ls := by
  obtain ⟨first, hfirst, hne, hstrip⟩ := h.first
  obtain ⟨last, hlast, hnonblank⟩ := h.last
  have hstart : ls.dropWhile Text.isBlankText = ls := by
    obtain ⟨rest, rfl⟩ := List.head?_eq_some_iff.mp hfirst
    rw [List.dropWhile_cons, not_isBlankText_of_strip hne hstrip]
    rfl
  have hend : ls.reverse.dropWhile Text.isBlankText = ls.reverse := by
    obtain ⟨init, rfl⟩ := List.getLast?_eq_some_iff.mp hlast
    rw [List.reverse_append, List.reverse_singleton, List.singleton_append, List.dropWhile_cons,
      hnonblank]
    rfl
  have hblank : Text.isBlankText [] = true := rfl
  rw [trimBlankLines, List.dropWhile_cons, hblank, if_pos rfl, hstart, hend, List.reverse_reverse]

theorem head?_commonStart {s t : Text} {c : Char} (h : (Text.commonStart s t).head? = some c) :
    s.head? = some c ∧ t.head? = some c := by
  cases s with
  | nil => exact absurd h (by simp [Text.commonStart])
  | cons a s =>
    cases t with
    | nil => exact absurd h (by simp [Text.commonStart])
    | cons b t =>
      unfold Text.commonStart at h
      split at h
      · rename_i hab
        subst hab
        exact ⟨h, h⟩
      · exact absurd h (by simp)

/-- What an indentation that lines have in common begins with, each of them begins with. -/
theorem head?_of_commonIndent {ls : List Text} {c : Char} (h : (commonIndent ls).head? = some c) :
    isIndent c = true ∧ ∀ l ∈ ls, l.head? = some c := by
  have hindent : ∀ l : Text, (indentOf l).head? = some c →
      isIndent c = true ∧ l.head? = some c := by
    intro l hl
    cases l with
    | nil => exact absurd hl (by simp [indentOf])
    | cons a l =>
      rw [indentOf, List.takeWhile_cons] at hl
      split at hl
      · rename_i ha
        obtain rfl := Option.some.inj hl
        exact ⟨ha, rfl⟩
      · exact absurd hl (by simp)
  have hfold : ∀ (ms : List Text) (common : Text),
      (ms.foldl (fun common m => Text.commonStart common (indentOf m)) common).head? = some c →
      common.head? = some c ∧ ∀ m ∈ ms, (indentOf m).head? = some c := by
    intro ms
    induction ms with
    | nil => intro common h; exact ⟨h, by simp⟩
    | cons m ms ih =>
      intro common h
      obtain ⟨hboth, hrest⟩ := ih _ h
      obtain ⟨hcommon, hm⟩ := head?_commonStart hboth
      exact ⟨hcommon, List.forall_mem_cons.mpr ⟨hm, hrest⟩⟩
  cases ls with
  | nil => exact absurd h (by simp [commonIndent])
  | cons l ms =>
    obtain ⟨hl, hms⟩ := hfold ms (indentOf l) h
    refine ⟨(hindent l hl).1, List.forall_mem_cons.mpr ⟨(hindent l hl).2, fun m hm => ?_⟩⟩
    exact (hindent m (hms m hm)).2

/-- There is no indentation to take away. -/
theorem dropIndent_block (h : IsNormal ls) : dropIndent ls = ls := by
  cases ls with
  | nil => rfl
  | cons first below =>
    -- what they have in common would begin with a tab or space that all of them begin with
    have hcommon : commonIndent (below.filter (!Text.isBlankText ·)) = [] := by
      cases hc : (commonIndent (below.filter (!Text.isBlankText ·))).head? with
      | none => exact List.head?_eq_none_iff.mp hc
      | some c =>
        obtain ⟨hindent, hall⟩ := head?_of_commonIndent hc
        have hsome : below.filter (!Text.isBlankText ·) ≠ [] := by
          intro hnil
          rw [hnil] at hc
          exact absurd hc (by simp [commonIndent])
        obtain ⟨l, hl, hnonblank, hhead⟩ := h.indent c hindent hsome
        exact absurd (hall l (List.mem_filter.mpr ⟨hl, by simp [hnonblank]⟩)) hhead
    have hsame : below.map (outdent []) = below :=
      (List.map_congr_left fun _ _ => rfl).trans (List.map_id below)
    rw [dropIndent, hcommon, hsame]

/-- A normal body ends in something that is not blank. -/
theorem stripEnd_join (h : IsNormal ls) :
    Text.stripEnd (Text.join ['\n'] ls) = Text.join ['\n'] ls := by
  obtain ⟨last, hlast, hnonblank⟩ := h.last
  have hne : last ≠ [] := by
    rintro rfl
    exact absurd hnonblank (by decide)
  obtain ⟨init, rfl⟩ := List.getLast?_eq_some_iff.mp hlast
  obtain ⟨r, c, hr, hc⟩ := Text.exists_concat_of_trimEnd (h.ends last (by simp)) hne
  obtain ⟨before, hbefore⟩ := Text.suffix_join ['\n'] init last
  rw [← hbefore, hr, ← List.append_assoc]
  exact Text.trimEnd_concat (before ++ r) hc

/-- Nothing is stripped of the lines any more. -/
theorem assemble_block (h : IsNormal ls) : assemble ls = Text.join ['\n'] ls := by
  obtain ⟨first, hfirst, -, hstrip⟩ := h.first
  have hends : ls.map Text.stripEnd = ls :=
    (List.map_congr_left fun l hl => h.ends l hl).trans (List.map_id ls)
  have hassemble : assemble ls = Text.stripEnd (Text.join ['\n'] ls) := by
    obtain ⟨rest, rfl⟩ := List.head?_eq_some_iff.mp hfirst
    rw [List.map_cons] at hends
    rw [assemble, hstrip, (List.cons.inj hends).2]
  rw [hassemble, stripEnd_join h]

/-- **Reading a block gives the body back.** -/
theorem ofToken_block (h : IsNormal ls) : ofToken (block ls) = Text.join ['\n'] ls := by
  obtain ⟨first, hfirst, -, -⟩ := h.first
  have hne : ls ≠ [] := by
    rintro rfl
    exact absurd hfirst (by simp)
  rw [ofToken, lines_block h, dropGutter_block hne, trimBlankLines_block h, dropIndent_block h,
    assemble_block h]

/-- An empty body is read from a block without lines, and from one with an empty line. -/
theorem ofToken_block_empty : ofToken (block []) = [] ∧ ofToken (block [[]]) = [] := by
  decide

end Body

end DocPress
