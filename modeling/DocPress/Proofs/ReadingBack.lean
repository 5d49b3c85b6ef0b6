import DocPress.Comment.Reader
import DocPress.Proofs.Undecorating
import Mathlib.Data.List.Basic

/-!
# Writing a comment and reading it back

A comment is written in the usual form: its summary, an empty line, its body, and then a line for
each tag, an at sign with the kind and behind a space the string. `Comment.write` is that form, and
reading gives back what was written (`read_write`), under the conditions that `IsWritable` lists.
They say no more than that each part is one that reading can give: a summary is a paragraph and not
several, no line of the description is that of a tag, nothing has blanks at its ends.

The text falls into the lines it was made of, since none of them has a line break in it and the last
one is not empty. Lines of the description open no tag and those of tags do. What is left is the
description, where the first empty line is the one behind the summary.
-/

namespace DocPress

namespace Text

/-! ## Joined lines -/

theorem join_append (sep : Text) {ts us : List Text} (hts : ts ≠ []) (hus : us ≠ []) :
    join sep (ts ++ us) = join sep ts ++ sep ++ join sep us := by
  obtain ⟨t, ts, rfl⟩ := List.exists_cons_of_ne_nil hts
  obtain ⟨u, us, rfl⟩ := List.exists_cons_of_ne_nil hus
  rw [List.cons_append, join_cons, join_cons, join_cons, List.flatMap_append, List.flatMap_cons]
  simp

/-- Lines that were joined are the lines of the text, unless the last one is empty. -/
theorem lines_join {ls : List Text} (h : ∀ l ∈ ls, ∀ c ∈ l, isLineBreak c = false)
    (hlast : ls.getLast? ≠ some []) : lines (join ['\n'] ls) = ls := by
  induction ls with
  | nil => rfl
  | cons l ls ih =>
    have hl := h l (List.mem_cons_self ..)
    cases ls with
    | nil =>
      have hne : l ≠ [] := fun hnil => hlast (by simp [hnil])
      simpa [join] using lines_of_noBreak hne hl
    | cons m ms =>
      have hrest := ih (fun k hk => h k (List.mem_cons_of_mem l hk)) (by
        rwa [List.getLast?_cons_cons] at hlast)
      rw [join_cons_cons, List.append_assoc, List.singleton_append, lines_append_lineFeed hl, hrest]

/-- Pieces that are joined may as well be split before. -/
theorem join_flatMap_splitOn (s : Char) (ts : List Text) :
    join [s] (ts.flatMap (splitOn s)) = join [s] ts := by
  induction ts with
  | nil => rfl
  | cons t ts ih =>
    cases ts with
    | nil => simpa [join] using join_splitOn s t
    | cons u us =>
      have hne : (u :: us).flatMap (splitOn s) ≠ [] := by
        rw [List.flatMap_cons]
        exact List.append_ne_nil_of_left_ne_nil (splitOn_ne_nil s u) _
      rw [List.flatMap_cons, join_append [s] (splitOn_ne_nil s t) hne, join_splitOn, ih,
        join_cons_cons]

/-- The last piece is not empty unless a separator ends the text. -/
theorem getLast?_splitOn_ne {s : Char} {t : Text} (hne : t ≠ []) (hlast : t.getLast? ≠ some s) :
    (splitOn s t).getLast? ≠ some [] := by
  induction t with
  | nil => exact absurd rfl hne
  | cons c t ih =>
    cases t with
    | nil =>
      have hc : c ≠ s := fun he => hlast (by simp [he])
      simp [splitOn, hc]
    | cons d r =>
      rw [List.getLast?_cons_cons] at hlast
      have hrest := ih (List.cons_ne_nil d r) hlast
      obtain ⟨w, ws, hws⟩ := List.exists_cons_of_ne_nil (splitOn_ne_nil s (d :: r))
      rw [hws] at hrest
      rw [splitOn, hws]
      by_cases hc : c = s
      · rw [if_pos hc, List.getLast?_cons_cons]
        exact hrest
      · rw [if_neg hc]
        cases ws with
        | nil => simp
        | cons v vs =>
          rw [List.getLast?_cons_cons] at hrest ⊢
          exact hrest

/-! ## Ends -/

/-- A text keeps its ends if neither is of the class that is trimmed. -/
theorem trim_of_ends {p : Char → Bool} {t : Text} (hfirst : ∀ c, t.head? = some c → p c = false)
    (hlast : ∀ c, t.getLast? = some c → p c = false) : trim p t = t := by
  have hstart : trimStart p t = t := by
    cases t with
    | nil => rfl
    | cons c r => rw [trimStart, List.dropWhile_cons, hfirst c rfl]; rfl
  rw [trim, hstart]
  rcases List.eq_nil_or_concat t with rfl | ⟨r, c, hr⟩
  · rfl
  · rw [List.concat_eq_append] at hr
    rw [hr]
    exact trimEnd_concat r (hlast c (by simp [hr]))

/-- A text that trimming leaves as it is has no end of the class that is trimmed. -/
theorem ends_of_trim {p : Char → Bool} {t : Text} (h : trim p t = t) :
    (∀ c, t.head? = some c → p c = false) ∧ ∀ c, t.getLast? = some c → p c = false := by
  have hlen : (trimEnd p (trimStart p t)).length = t.length := congrArg List.length h
  have hstart : (trimStart p t).length ≤ t.length :=
    (List.dropWhile_sublist p (l := t)).length_le
  have hend : (trimEnd p (trimStart p t)).length ≤ (trimStart p t).length := by
    have := (List.dropWhile_sublist p (l := (trimStart p t).reverse)).length_le
    simpa [trimEnd] using this
  have hsame : trimStart p t = t :=
    (List.dropWhile_sublist p (l := t)).eq_of_length (by unfold trimStart at *; omega)
  refine ⟨fun c hc => ?_, fun c hc => ?_⟩
  · obtain ⟨r, rfl⟩ := List.head?_eq_some_iff.mp hc
    by_contra hp
    rw [Bool.not_eq_false] at hp
    -- the first character would be trimmed
    have hle := (List.dropWhile_sublist p (l := r)).length_le
    have hcut := congrArg List.length hsame
    rw [trimStart, List.dropWhile_cons, if_pos hp, List.length_cons] at hcut
    omega
  · rw [trim, hsame] at h
    have hne : t ≠ [] := by
      rintro rfl
      exact absurd hc (by simp)
    obtain ⟨r, d, hr, hd⟩ := exists_concat_of_trimEnd h hne
    rw [hr, List.getLast?_concat] at hc
    exact Option.some.inj hc ▸ hd

/-- Blanks before a stripped text are stripped. -/
theorem strip_cons_of_blank {c : Char} (hc : isBlank c = true) {t : Text} (h : strip t = t) :
    strip (c :: t) = t := by
  rw [strip, trim, trimStart, List.dropWhile_cons, if_pos hc]
  exact h

end Text

/-- A line break is no word character. -/
theorem not_isWord_of_isLineBreak {c : Char} (h : isLineBreak c = true) : isWord c = false := by
  have hbreaks : ∀ n ∈ [0x0A, 0x0B, 0x0C, 0x0D, 0x1C, 0x1D, 0x1E, 0x85, 0x2028, 0x2029],
      isWord (Char.ofNat n) = false := by decide +kernel
  simp only [isLineBreak, lineBreaks, Ranges.has, List.any_cons, List.any_nil, Bool.or_false,
    Bool.or_eq_true, Bool.and_eq_true, decide_eq_true_eq] at h
  have hmem : c.toNat ∈ [0x0A, 0x0B, 0x0C, 0x0D, 0x1C, 0x1D, 0x1E, 0x85, 0x2028, 0x2029] := by
    simp only [List.mem_cons, List.not_mem_nil, or_false]
    omega
  have hword := hbreaks c.toNat hmem
  rwa [Char.ofNat_toNat] at hword

namespace Comment

open Text

/-! ## The form of a comment -/

/-- The line of a tag. -/
def writeTag (tag : Text × Text) : Text := '@' :: tag.1 ++ ' ' :: tag.2

/-- Summary and body with an empty line between them, or the one that is there. -/
def paragraphs : (summary body : Text) → List Text
  | [], [] => []
  | summary, [] => [summary]
  | [], body => [body]
  | summary, body => [summary, [], body]

/-- A comment as it is written: summary and body, and a line for each tag. -/
def write (summary body : Text) (tags : List (Text × Text)) : Text :=
  join ['\n'] (paragraphs summary body ++ tags.map writeTag)

/-- The line is that of a tag: blanks, an at sign and a word character. -/
def OpensTag (l : Text) : Prop :=
  ∃ blanks c r, l = blanks ++ '@' :: c :: r ∧ (∀ b ∈ blanks, isBlank b = true) ∧ isWord c = true

/-- A kind of tag: a word character, and behind it word characters and hyphens. -/
def IsKind (kind : Text) : Prop :=
  ∃ c r, kind = c :: r ∧ isWord c = true ∧ ∀ a ∈ r, isWord a = true ∨ a = '-'

/-- The parts of a comment that can be written and read back. -/
structure IsWritable (summary body : Text) (tags : List (Text × Text)) : Prop where
  /-- The lines of summary and body end in line feeds. -/
  breaks : ∀ c ∈ summary ++ body, isLineBreak c = true → c = '\n'
  /-- The summary has no blanks at its ends. -/
  summaryEnds : strip summary = summary
  /-- The body has no blanks at its ends. -/
  bodyEnds : strip body = body
  /-- There is a body only below a summary. -/
  bodyBelow : summary = [] → body = []
  /-- No line of the summary is blank. -/
  noBlankLine : summary ≠ [] → ∀ l ∈ splitOn '\n' summary, isBlankText l = false
  /-- No line of summary or body is that of a tag. -/
  noTag : ∀ l ∈ splitOn '\n' summary ++ splitOn '\n' body, ¬ OpensTag l
  /-- The tags are of some kind. -/
  kinds : ∀ tag ∈ tags, IsKind tag.1
  /-- Their strings have no blanks at the ends and no line break. -/
  strings : ∀ tag ∈ tags, strip tag.2 = tag.2 ∧ ∀ c ∈ tag.2, isLineBreak c = false

/-! ## Lines of tags -/

/-- Reading takes a line for that of a tag exactly if it is one. -/
theorem tagLine?_eq_none_iff {l : Text} : tagLine? l = none ↔ ¬ OpensTag l := by
  constructor
  · rintro h ⟨blanks, c, r, rfl, hblanks, hc⟩
    have hat : isBlank '@' = false := by decide
    have hstart : stripStart (blanks ++ '@' :: c :: r) = '@' :: c :: r := by
      rw [stripStart, trimStart, List.dropWhile_append_of_pos hblanks, List.dropWhile_cons, hat]
      rfl
    simp [tagLine?, hstart, hc] at h
  · intro h
    unfold tagLine?
    split
    · rename_i c r hl
      rw [if_neg]
      intro hc
      have hblanks := List.all_eq_true.mp (List.all_takeWhile (p := isBlank) (l := l))
      have hline := List.takeWhile_append_dropWhile (p := isBlank) (l := l)
      rw [show l.dropWhile isBlank = '@' :: c :: r from hl] at hline
      exact h ⟨_, c, r, hline.symm, hblanks, hc⟩
    · rfl

instance (l : Text) : Decidable (OpensTag l) :=
  decidable_of_iff (tagLine? l ≠ none) (by rw [Ne, tagLine?_eq_none_iff, not_not])

/-- The line of a tag opens that tag. -/
theorem tagLine?_writeTag {tag : Text × Text} (hkind : IsKind tag.1)
    (hstring : strip tag.2 = tag.2) : tagLine? (writeTag tag) = some tag := by
  obtain ⟨kind, string⟩ := tag
  obtain ⟨c, r, rfl, hc, hr⟩ := hkind
  have hstart : stripStart (writeTag (c :: r, string)) = '@' :: c :: (r ++ ' ' :: string) := by
    have hat : isBlank '@' = false := by decide
    simp [writeTag, stripStart, trimStart, hat]
  have hkindChars : ∀ a ∈ r, isKindChar a = true := by
    intro a ha
    rcases hr a ha with hword | rfl
    · simp [isKindChar, hword]
    · rfl
  have hspace : isKindChar ' ' = false := by decide
  -- the space ends the kind, whatever the string begins with
  have htake : (r ++ ' ' :: string).takeWhile isKindChar = r := by
    rw [List.takeWhile_append_of_pos hkindChars, List.takeWhile_cons, hspace]
    simp
  have hdrop : (r ++ ' ' :: string).dropWhile isKindChar = ' ' :: string := by
    rw [List.dropWhile_append_of_pos hkindChars, List.dropWhile_cons, hspace]
    rfl
  have hstrip : strip (' ' :: string) = string := strip_cons_of_blank (by decide) hstring
  rw [tagLine?, hstart]
  simp only [hc, if_true, htake, hdrop, hstrip]

theorem noBreak_writeTag {tag : Text × Text} (hkind : IsKind tag.1)
    (hstring : ∀ c ∈ tag.2, isLineBreak c = false) : ∀ c ∈ writeTag tag, isLineBreak c = false := by
  obtain ⟨kind, string⟩ := tag
  obtain ⟨c, r, rfl, hc, hr⟩ := hkind
  have hword : ∀ a, isWord a = true → isLineBreak a = false := by
    intro a ha
    rw [← Bool.not_eq_true]
    intro hbreak
    rw [not_isWord_of_isLineBreak hbreak] at ha
    exact absurd ha (by decide)
  intro a ha
  simp only [writeTag, List.cons_append, List.mem_cons, List.mem_append] at ha
  rcases ha with rfl | rfl | ha | rfl | ha
  · decide
  · exact hword a hc
  · rcases hr a ha with hword' | rfl
    · exact hword a hword'
    · decide
  · decide
  · exact hstring a ha

/-- Each line of a tag is a tag, with nothing to be joined to it. -/
theorem blocks_writeTag {tags : List (Text × Text)}
    (htags : ∀ tag ∈ tags, tagLine? (writeTag tag) = some tag) :
    blocks (tags.map writeTag) = ([], tags) := by
  induction tags with
  | nil => rfl
  | cons tag tags ih =>
    have hrest := ih fun t ht => htags t (List.mem_cons_of_mem tag ht)
    have hparts : joinParts [tag.2] = tag.2 := by
      obtain ⟨kind, string⟩ := tag
      cases string <;> simp [joinParts, join]
    rw [List.map_cons, blocks, hrest, htags tag (List.mem_cons_self ..)]
    simp [hparts]

/-- Lines that open no tag come before the tags. -/
theorem blocks_append {ds : List Text} {tags : List (Text × Text)}
    (hds : ∀ l ∈ ds, tagLine? l = none) (htags : ∀ tag ∈ tags, tagLine? (writeTag tag) = some tag) :
    blocks (ds ++ tags.map writeTag) = (ds, tags) := by
  induction ds with
  | nil => exact blocks_writeTag htags
  | cons l ds ih =>
    rw [List.cons_append, blocks, ih fun m hm => hds m (List.mem_cons_of_mem l hm),
      hds l (List.mem_cons_self ..)]

/-! ## Paragraphs -/

theorem splitParagraph_of_notMem {l : Text} (h : '\n' ∉ l) : splitParagraph l = (l, []) := by
  induction l with
  | nil => rfl
  | cons c l ih =>
    obtain ⟨hc, hl⟩ := not_or.mp (mt List.mem_cons.mpr h)
    rw [splitParagraph, ih hl]
    simp [Ne.symm hc]

/-- A line is passed over, and the paragraph ends behind it if the next line is blank. -/
theorem splitParagraph_line {l : Text} (h : '\n' ∉ l) (t : Text) :
    splitParagraph (l ++ '\n' :: t) = if startsBlankLine t then (l, t)
      else (l ++ '\n' :: (splitParagraph t).1, (splitParagraph t).2) := by
  induction l with
  | nil =>
    rw [List.nil_append, splitParagraph]
    cases startsBlankLine t <;> simp
  | cons c l ih =>
    obtain ⟨hc, hl⟩ := not_or.mp (mt List.mem_cons.mpr h)
    rw [List.cons_append, splitParagraph, ih hl]
    cases startsBlankLine t <;> simp [Ne.symm hc]

/-- A line with something on it is no blank line. -/
theorem startsBlankLine_append {l : Text} (hfeed : '\n' ∉ l) (hnonblank : isBlankText l = false)
    (t : Text) : startsBlankLine (l ++ t) = false := by
  induction l with
  | nil => exact absurd hnonblank (by decide)
  | cons c l ih =>
    obtain ⟨hc, hl⟩ := not_or.mp (mt List.mem_cons.mpr hfeed)
    rw [startsBlankLine, List.cons_append, List.takeWhile_cons]
    by_cases hblank : isBlank c = true
    · have hrest : isBlankText l = false := by simpa [isBlankText, hblank] using hnonblank
      have hstart := ih hl hrest
      rw [startsBlankLine] at hstart
      rw [if_pos hblank, List.contains_cons, hstart, beq_eq_false_iff_ne.mpr hc]
      rfl
    · simp [hblank]

/-- Lines with something on them are one paragraph, up to the end or the first empty line. -/
theorem splitParagraph_join {ls : List Text} (hne : ls ≠ []) (hfeed : ∀ l ∈ ls, '\n' ∉ l)
    (hnonblank : ∀ l ∈ ls, isBlankText l = false) (t : Text) :
    splitParagraph (join ['\n'] ls) = (join ['\n'] ls, [])
      ∧ splitParagraph (join ['\n'] ls ++ '\n' :: '\n' :: t) = (join ['\n'] ls, '\n' :: t) := by
  induction ls with
  | nil => exact absurd rfl hne
  | cons l ls ih =>
    have hl := hfeed l (List.mem_cons_self ..)
    cases ls with
    | nil =>
      have hsingle : join ['\n'] [l] = l := by simp [join]
      have hblank : startsBlankLine ('\n' :: t) = true := by
        have hfeedBlank : isBlank '\n' = true := by decide
        simp [startsBlankLine, hfeedBlank]
      rw [hsingle, splitParagraph_line hl, hblank]
      exact ⟨splitParagraph_of_notMem hl, rfl⟩
    | cons m ms =>
      obtain ⟨hend, hgap⟩ := ih (List.cons_ne_nil m ms)
        (fun k hk => hfeed k (List.mem_cons_of_mem l hk))
        (fun k hk => hnonblank k (List.mem_cons_of_mem l hk))
      -- the next line has something on it, so the paragraph goes on
      have hon : ∀ u, startsBlankLine (join ['\n'] (m :: ms) ++ u) = false := by
        intro u
        rw [join_cons, List.append_assoc]
        exact startsBlankLine_append (hfeed m (by simp)) (hnonblank m (by simp)) _
      have hjoin : join ['\n'] (l :: m :: ms) = l ++ '\n' :: join ['\n'] (m :: ms) := by
        simp [join_cons_cons]
      have honEnd := hon []
      rw [List.append_nil] at honEnd
      rw [hjoin, List.append_assoc, List.cons_append, splitParagraph_line hl,
        splitParagraph_line hl, honEnd, hon, hend, hgap]
      exact ⟨rfl, rfl⟩

/-! ## The whole comment -/

variable {summary body : Text} {tags : List (Text × Text)}

theorem mem_paragraphs {p : Text} (h : p ∈ paragraphs summary body) :
    p = summary ∨ p = [] ∨ p = body := by
  unfold paragraphs at h
  split at h
  · exact absurd h (by simp)
  · exact Or.inl (List.mem_singleton.mp h)
  · exact Or.inr (Or.inr (List.mem_singleton.mp h))
  · simpa using h

/-- The last paragraph has no blanks at its ends. -/
theorem strip_of_getLast?_paragraphs (h : IsWritable summary body tags) {p : Text}
    (hp : (paragraphs summary body).getLast? = some p) : p ≠ [] ∧ strip p = p := by
  cases summary with
  | nil =>
    rw [h.bodyBelow rfl] at hp
    exact absurd hp (by simp [paragraphs])
  | cons c r =>
    cases body with
    | nil => exact Option.some.inj hp ▸ ⟨List.cons_ne_nil c r, h.summaryEnds⟩
    | cons d q => exact Option.some.inj hp ▸ ⟨List.cons_ne_nil d q, h.bodyEnds⟩

/-- The lines of the text are those of summary and body, and those of the tags. -/
theorem lines_write (h : IsWritable summary body tags) : lines (write summary body tags)
    = (paragraphs summary body).flatMap (splitOn '\n') ++ tags.map writeTag := by
  have htagBreak : ∀ l ∈ tags.map writeTag, ∀ c ∈ l, isLineBreak c = false := by
    intro l hl
    obtain ⟨tag, htag, rfl⟩ := List.mem_map.mp hl
    exact noBreak_writeTag (h.kinds tag htag) (h.strings tag htag).2
  have htagLines : (tags.map writeTag).flatMap (splitOn '\n') = tags.map writeTag := by
    have hsingle : ∀ l ∈ tags.map writeTag, splitOn '\n' l = [l] := by
      intro l hl
      refine splitOn_of_notMem fun hmem => ?_
      exact absurd (htagBreak l hl '\n' hmem) (by decide)
    rw [List.flatMap_def, List.map_congr_left hsingle, ← List.flatMap_def,
      List.flatMap_singleton']
  have htext : write summary body tags = join ['\n']
      ((paragraphs summary body).flatMap (splitOn '\n') ++ tags.map writeTag) := by
    rw [write, ← join_flatMap_splitOn, List.flatMap_append, htagLines]
  rw [htext]
  refine lines_join (fun l hl c hc => ?_) ?_
  · rcases List.mem_append.mp hl with hl | hl
    · -- a line break would have to be a line feed, and at these the lines were split
      obtain ⟨p, hp, hlp⟩ := List.mem_flatMap.mp hl
      have hcp : c ∈ p := (infix_of_mem_splitOn hlp).subset hc
      have hmem : c ∈ summary ++ body := by
        rcases mem_paragraphs hp with rfl | rfl | rfl
        · exact List.mem_append_left _ hcp
        · exact absurd hcp (by simp)
        · exact List.mem_append_right _ hcp
      rw [← Bool.not_eq_true]
      intro hbreak
      exact sep_notMem_of_mem_splitOn hlp (h.breaks c hmem hbreak ▸ hc)
    · exact htagBreak l hl c hc
  · rcases List.eq_nil_or_concat tags with rfl | ⟨init, tag, rfl⟩
    · rcases List.eq_nil_or_concat (paragraphs summary body) with hnil | ⟨ps, p, hps⟩
      · simp [hnil]
      · have hlast : (paragraphs summary body).getLast? = some p := by simp [hps]
        obtain ⟨hne, hstrip⟩ := strip_of_getLast?_paragraphs h hlast
        have hfeed : p.getLast? ≠ some '\n' := fun hp =>
          absurd ((ends_of_trim hstrip).2 '\n' hp) (by decide)
        have hsome : splitOn '\n' p ≠ [] := splitOn_ne_nil _ _
        rw [hps, List.concat_eq_append, List.flatMap_append, List.flatMap_singleton, List.map_nil,
          List.append_nil, List.getLast?_append_of_ne_nil _ hsome]
        exact getLast?_splitOn_ne hne hfeed
    · simp [writeTag]

/-- Summary and body are told apart at the empty line between them. -/
theorem splitParagraph_paragraphs (h : IsWritable summary body tags) :
    let parts := splitParagraph (trim (· == '\n') (join ['\n'] (paragraphs summary body)))
    strip parts.1 = summary ∧ strip parts.2 = body := by
  have hclass : ∀ c : Char, isBlank c = false → (c == '\n') = false := by
    intro c hc
    rw [beq_eq_false_iff_ne]
    rintro rfl
    exact absurd hc (by decide)
  cases summary with
  | nil =>
    rw [h.bodyBelow rfl]
    exact ⟨rfl, rfl⟩
  | cons c r =>
    obtain ⟨hfirst, hlast⟩ := ends_of_trim h.summaryEnds
    have hlines := fun t => splitParagraph_join (splitOn_ne_nil '\n' (c :: r))
      (fun l hl => sep_notMem_of_mem_splitOn hl) (h.noBlankLine (List.cons_ne_nil c r)) t
    rw [join_splitOn] at hlines
    cases body with
    | nil =>
      have htext : join ['\n'] (paragraphs (c :: r) []) = c :: r := by simp [paragraphs, join]
      rw [htext, trim_of_ends (fun a ha => hclass a (hfirst a ha))
        (fun a ha => hclass a (hlast a ha)), (hlines []).1]
      exact ⟨h.summaryEnds, rfl⟩
    | cons d q =>
      obtain ⟨-, hlastBody⟩ := ends_of_trim h.bodyEnds
      have htext : join ['\n'] (paragraphs (c :: r) (d :: q))
          = (c :: r) ++ '\n' :: '\n' :: d :: q := by simp [paragraphs, join]
      have hends : trim (· == '\n') ((c :: r) ++ '\n' :: '\n' :: d :: q)
          = (c :: r) ++ '\n' :: '\n' :: d :: q := by
        refine trim_of_ends (fun a ha => hclass a (hfirst a ha)) fun a ha => hclass a ?_
        rw [List.getLast?_append_of_ne_nil _ (by simp), List.getLast?_cons_cons,
          List.getLast?_cons_cons] at ha
        exact hlastBody a ha
      rw [htext, hends, (hlines (d :: q)).2]
      exact ⟨h.summaryEnds, strip_cons_of_blank (by decide) h.bodyEnds⟩

/--
**What was written is read back.**

From the text of summary, body and tags, whatever they are as long as each can be told apart,
reading makes just this summary, this body and these tags, each with the fields that its string has.
-/
theorem read_write (summary body : Text) (tags : List (Text × Text)) (file : Text) (line : Int)
    (h : IsWritable summary body tags) :
    read (write summary body tags) file line
      = { file, line, summary, body, tags := tags.map fun tag => tagOf tag.1 tag.2 } := by
  have hdescription : ∀ l ∈ (paragraphs summary body).flatMap (splitOn '\n'),
      tagLine? l = none := by
    intro l hl
    obtain ⟨p, hp, hlp⟩ := List.mem_flatMap.mp hl
    rcases mem_paragraphs hp with rfl | rfl | rfl
    · exact tagLine?_eq_none_iff.mpr (h.noTag l (List.mem_append_left _ hlp))
    · obtain rfl := List.mem_singleton.mp hlp
      rfl
    · exact tagLine?_eq_none_iff.mpr (h.noTag l (List.mem_append_right _ hlp))
  have htags : ∀ tag ∈ tags, tagLine? (writeTag tag) = some tag := fun tag htag =>
    tagLine?_writeTag (h.kinds tag htag) (h.strings tag htag).1
  obtain ⟨hsummary, hbody⟩ := splitParagraph_paragraphs h
  rw [read, lines_write h, blocks_append hdescription htags]
  simp only [join_flatMap_splitOn, hsummary, hbody]

theorem read_write_of_three_tags :
    IsWritable "Adds two.\n  See @ below".toList "First.\n\n\n @ last".toList
        [("docs".toList, "A // B".toList), ("x-y".toList, []),
          ("param".toList, "\x7ba|b\x7d n - d".toList)]
      ∧ read ("Adds two.\n  See @ below\n\nFirst.\n\n\n @ last\n@docs A // B\n@x-y \n".toList
          ++ "@param \x7ba|b\x7d n - d".toList) "a.js".toList 7
        = { file := "a.js".toList, line := 7
            summary := "Adds two.\n  See @ below".toList, body := "First.\n\n\n @ last".toList
            tags := [⟨"docs".toList, "A // B".toList, [], [], "A // B".toList⟩,
              ⟨"x-y".toList, [], [], [], []⟩,
              ⟨"param".toList, "\x7ba|b\x7d n - d".toList, ["a".toList, "b".toList], "n".toList,
                "d".toList⟩] } := by
  have hwritable : IsWritable "Adds two.\n  See @ below".toList "First.\n\n\n @ last".toList
      [("docs".toList, "A // B".toList), ("x-y".toList, []),
        ("param".toList, "\x7ba|b\x7d n - d".toList)] := by
    have hbreaks : ("Adds two.\n  See @ below".toList ++ "First.\n\n\n @ last".toList).all
        (fun c => !isLineBreak c || c == '\n') = true := by decide
    have hkinds : ["docs".toList, "x-y".toList, "param".toList].all (fun kind =>
        kind.head?.any isWord && kind.tail.all fun a => isWord a || a == '-') = true := by decide
    have hstrings : ["A // B".toList, [], "\x7ba|b\x7d n - d".toList].all (fun string =>
        strip string = string && string.all (!isLineBreak ·)) = true := by decide
    refine ⟨fun c hc hbreak => ?_, by decide, by decide, by decide, fun _ => by decide, by decide,
      fun tag htag => ?_, fun tag htag => ?_⟩
    · simpa [hbreak] using List.all_eq_true.mp hbreaks c hc
    · have hkind := List.all_eq_true.mp hkinds tag.1 (List.mem_map_of_mem (f := Prod.fst) htag)
      cases hshape : tag.1 with
      | nil => simp [hshape] at hkind
      | cons c r => exact ⟨c, r, rfl, by simpa [hshape] using hkind⟩
    · have hstring := List.all_eq_true.mp hstrings tag.2 (List.mem_map_of_mem (f := Prod.snd) htag)
      simpa using hstring
  have htext : write "Adds two.\n  See @ below".toList "First.\n\n\n @ last".toList
      [("docs".toList, "A // B".toList), ("x-y".toList, []),
        ("param".toList, "\x7ba|b\x7d n - d".toList)]
      = "Adds two.\n  See @ below\n\nFirst.\n\n\n @ last\n@docs A // B\n@x-y \n".toList
        ++ "@param \x7ba|b\x7d n - d".toList := by decide
  have hread := read_write _ _ _ "a.js".toList 7 hwritable
  rw [htext] at hread
  exact ⟨hwritable, hread⟩

end Comment
end DocPress
