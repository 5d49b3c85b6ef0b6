import DocPress.Markdown.Render
import DocPress.Proofs.BodyForm
import DocPress.Proofs.TagForms

/-!
# Tables keep their shape

A table of tags has a line for each of them and an empty line at the end. What a line shows can be
read off again: it is split at the bars that no backslash stands before, each cell is stripped, and
every escaped bar becomes a bar (`splitCells`, `unescapeBars`). The cells hold the name, the type
between backticks and the description of the tag, or for a tag that is not a row two dashes and the
placeholder with its text (`shown`).

Types, descriptions and the texts of malformed tags are free, with bars and backslashes in them. All
the same a bar that comes from them is never taken for one that ends a cell, since a backslash has
been put right before it; and a bar that ends a cell has a space before it. Undoing the escapes
gives back also a text in which a bar stood behind a backslash from the beginning: of the two
backslashes before such a bar only the second goes.

That there is one line for each tag needs tags without line feeds. Tags that are read from a
comment are of this kind (`isOneLine_of_mem_read`).
-/

namespace DocPress

namespace Text

/-- Lines that are each ended by a separator are the pieces; the last piece is empty. -/
theorem splitOn_flatMap_concat {s : Char} {ls : List Text} (h : ∀ l ∈ ls, s ∉ l) :
    splitOn s (ls.flatMap (· ++ [s])) = ls ++ [[]] := by
  induction ls with
  | nil => rfl
  | cons l ls ih =>
    have hrest := ih fun m hm => h m (List.mem_cons_of_mem l hm)
    have htext : (l :: ls).flatMap (· ++ [s]) = l ++ s :: ls.flatMap (· ++ [s]) := by simp
    rw [htext, splitOn_append_sep, splitOn_of_notMem (h l (List.mem_cons_self ..)), hrest]
    rfl

/-- Joining brings in nothing but the separator. -/
theorem notMem_join {c : Char} {sep : Text} (hsep : c ∉ sep) {ts : List Text}
    (h : ∀ t ∈ ts, c ∉ t) : c ∉ join sep ts := by
  cases ts with
  | nil => exact List.not_mem_nil
  | cons t ts =>
    rw [join_cons, List.mem_append, List.mem_flatMap]
    rintro (hmem | ⟨u, hu, hmem⟩)
    · exact h t (List.mem_cons_self ..) hmem
    · exact (List.mem_append.mp hmem).elim hsep (h u (List.mem_cons_of_mem t hu))

theorem strip_of_ends {t : Text} {a b : Char} (hfirst : t.head? = some a)
    (hlast : t.getLast? = some b) (ha : isBlank a = false) (hb : isBlank b = false) :
    strip t = t := by
  refine trim_of_ends (fun c hc => ?_) (fun c hc => ?_)
  · rw [hfirst] at hc
    exact Option.some.inj hc ▸ ha
  · rw [hlast] at hc
    exact Option.some.inj hc ▸ hb

end Text

namespace Markdown

open Text TagParts

/-! ## Reading a row -/

/-- The cells of a line: it is split at the bars that no backslash stands before. `escaped` tells
whether one stands before the line itself. -/
def splitCells (escaped : Bool) : Text → List Text
  | [] => [[]]
  | c :: cs =>
    if c = '|' && !escaped then [] :: splitCells false cs
    else match splitCells (c = '\\') cs with
      | [] => [[c]]
      | w :: ws => (c :: w) :: ws

/-- The text with a bar for every escaped one. -/
def unescapeBars : Text → Text
  | [] => []
  | '\\' :: '|' :: cs => '|' :: unescapeBars cs
  | c :: cs => c :: unescapeBars cs

/-- What a cell holds. -/
def content (cell : Text) : Text := unescapeBars (strip cell)

/-- What the row of a tag has to show. -/
def shown (tag : Tag) : List Text :=
  match ofRow tag.kind tag.string with
  | .ok p => [p.name, '`' :: p.type ++ ['`'], p.description]
  | .error m => ["&mdash;".toList, "&mdash;".toList, placeholder m]

/-- The line has three cells, which hold what the row of the tag has to show. -/
structure Shows (line : Text) (tag : Tag) : Prop where
  three : (splitCells false line).length = 3
  contents : (splitCells false line).map content = shown tag

/-- There is no line feed in the tag, neither in its kind nor in its text. -/
structure IsOneLine (tag : Tag) : Prop where
  kind : '\n' ∉ tag.kind
  string : '\n' ∉ tag.string

/-! ## Escaped texts -/

theorem escapeBars_append (a b : Text) : escapeBars (a ++ b) = escapeBars a ++ escapeBars b := by
  rw [escapeBars, replace, List.flatMap_append]
  rfl

theorem escapeBars_bar (t : Text) : escapeBars ('|' :: t) = '\\' :: '|' :: escapeBars t :=
  escapeBars_append ['|'] t

theorem escapeBars_cons {c : Char} (hc : c ≠ '|') (t : Text) :
    escapeBars (c :: t) = c :: escapeBars t := by
  have hone : escapeBars [c] = [c] := by simp [escapeBars, replace, hc]
  exact (escapeBars_append [c] t).trans (by rw [hone, List.singleton_append])

theorem escapeBars_of_notMem {t : Text} (h : '|' ∉ t) : escapeBars t = t := by
  induction t with
  | nil => rfl
  | cons c t ih =>
    obtain ⟨hc, ht⟩ := not_or.mp (mt List.mem_cons.mpr h)
    rw [escapeBars_cons (Ne.symm hc), ih ht]

/-- Escaping brings in nothing but backslashes. -/
theorem mem_of_mem_escapeBars {c : Char} (hc : c ≠ '\\') {t : Text} (h : c ∈ escapeBars t) :
    c ∈ t := by
  obtain ⟨x, hx, hmem⟩ := List.mem_flatMap.mp h
  split at hmem
  · rename_i hbar
    obtain rfl : c = '|' := by simpa [hc] using hmem
    exact hbar ▸ hx
  · exact List.mem_singleton.mp hmem ▸ hx

/-- A bar at the start of a text is not the start of the escaped one. -/
theorem head?_escapeBars (t : Text) :
    (escapeBars t).head? = t.head?.map fun c => if c = '|' then '\\' else c := by
  cases t with
  | nil => rfl
  | cons c t =>
    by_cases hc : c = '|'
    · subst hc
      rfl
    · rw [escapeBars_cons hc]
      simp [hc]

/-- A bar at the end stays there. -/
theorem getLast?_escapeBars (t : Text) : (escapeBars t).getLast? = t.getLast? := by
  induction t with
  | nil => rfl
  | cons c t ih =>
    by_cases hc : c = '|'
    · subst hc
      rw [escapeBars_bar, List.getLast?_cons_cons, List.getLast?_cons, List.getLast?_cons, ih]
    · rw [escapeBars_cons hc, List.getLast?_cons, List.getLast?_cons, ih]

theorem unescapeBars_cons {c : Char} {t : Text} (h : t.head? ≠ some '|') :
    unescapeBars (c :: t) = c :: unescapeBars t := by
  rw [unescapeBars]
  rintro cs - rfl
  exact h rfl

/-- **Every text can be read back from its escaped form.** -/
theorem unescapeBars_escapeBars (t : Text) : unescapeBars (escapeBars t) = t := by
  induction t with
  | nil => rfl
  | cons c t ih =>
    by_cases hc : c = '|'
    · subst hc
      rw [escapeBars_bar, unescapeBars, ih]
    · have hnext : (escapeBars t).head? ≠ some '|' := by
        rw [head?_escapeBars]
        intro he
        obtain ⟨a, -, ha⟩ := Option.map_eq_some_iff.mp he
        split at ha
        · exact absurd ha (by decide)
        · exact absurd ha ‹_›
      rw [escapeBars_cons hc, unescapeBars_cons hnext, ih]

/-- Escaping changes nothing about blanks at the ends. -/
theorem strip_escapeBars {t : Text} (h : strip t = t) : strip (escapeBars t) = escapeBars t := by
  obtain ⟨hfirst, hlast⟩ := ends_of_trim h
  refine trim_of_ends (fun a ha => ?_) (fun a ha => ?_)
  · rw [head?_escapeBars] at ha
    obtain ⟨c, hc, rfl⟩ := Option.map_eq_some_iff.mp ha
    split
    · decide
    · exact hfirst c hc
  · rw [getLast?_escapeBars] at ha
    exact hlast a ha

theorem content_escapeBars {t : Text} (h : strip t = t) : content (escapeBars t) = t := by
  rw [content, strip_escapeBars h, unescapeBars_escapeBars]

/-! ## Cells -/

/-- A character that ends no cell belongs to the first one of what follows. -/
theorem splitCells_cons {escaped : Bool} {c : Char} {t w : Text} {ws : List Text}
    (hc : c ≠ '|' ∨ escaped = true) (h : splitCells (c = '\\') t = w :: ws) :
    splitCells escaped (c :: t) = (c :: w) :: ws := by
  rw [splitCells, if_neg, h]
  rcases hc with hc | hc <;> simp [hc]

/--
An escaped text goes into one cell with whatever the first cell behind it is: no bar of it stands
without a backslash.
-/
theorem splitCells_escapeBars_append (escaped : Bool) (t : Text) {r w : Text} {ws : List Text}
    (h : ∀ e, splitCells e r = w :: ws) :
    splitCells escaped (escapeBars t ++ r) = (escapeBars t ++ w) :: ws := by
  induction t generalizing escaped with
  | nil => exact h escaped
  | cons c t ih =>
    by_cases hc : c = '|'
    · subst hc
      have hbar : splitCells true ('|' :: (escapeBars t ++ r))
          = ('|' :: (escapeBars t ++ w)) :: ws := splitCells_cons (.inr rfl) (ih _)
      exact splitCells_cons (.inl (by decide)) hbar
    · rw [escapeBars_cons hc]
      exact splitCells_cons (.inl hc) (ih _)

/-- A space and a bar end a cell. -/
theorem splitCells_space_bar (escaped : Bool) (t : Text) :
    splitCells escaped (' ' :: '|' :: t) = [' '] :: splitCells false t := by
  have hbar : splitCells false ('|' :: t) = [] :: splitCells false t := rfl
  exact splitCells_cons (.inl (by decide)) hbar

/-- A row with these cells. -/
def writeCells (cs : List Text) : Text := join " | ".toList (cs.map escapeBars)

/--
**The cells of a row read back.**

Each but the first stands behind a bar and a space. The induction is on the cells behind the first,
which may itself have spaces before it.
-/
theorem map_content_splitCells_append {c : Text} {cs : List Text} (h : ∀ d ∈ cs, strip d = d) :
    (splitCells false (escapeBars c ++ (cs.map escapeBars).flatMap (" | ".toList ++ ·))).map content
      = content (escapeBars c) :: cs := by
  induction cs generalizing c with
  | nil =>
    rw [List.map_nil, List.flatMap_nil, splitCells_escapeBars_append false c fun _ => rfl,
      List.append_nil]
    rfl
  | cons d cs ih =>
    have hd := h d (List.mem_cons_self ..)
    have hrest := ih (c := ' ' :: d) fun e he => h e (List.mem_cons_of_mem d he)
    have htext : escapeBars c ++ ((d :: cs).map escapeBars).flatMap (" | ".toList ++ ·)
        = escapeBars c ++ ' ' :: '|' :: (escapeBars (' ' :: d)
          ++ (cs.map escapeBars).flatMap (" | ".toList ++ ·)) := by
      rw [escapeBars_cons (by decide)]
      simp
    have hfirst : content (escapeBars c ++ [' ']) = content (escapeBars c) := by
      rw [content, strip, trim_append_right _ isBlank_of_mem_space]
      rfl
    have hsecond : content (escapeBars (' ' :: d)) = d := by
      rw [escapeBars_cons (by decide), content,
        strip_cons_of_blank (by decide) (strip_escapeBars hd), unescapeBars_escapeBars]
    rw [htext, splitCells_escapeBars_append false c fun e => splitCells_space_bar e _,
      List.map_cons, hrest, hfirst, hsecond]

theorem map_content_splitCells {cs : List Text} (hne : cs ≠ []) (h : ∀ c ∈ cs, strip c = c) :
    (splitCells false (writeCells cs)).map content = cs := by
  obtain ⟨c, cs, rfl⟩ := List.exists_cons_of_ne_nil hne
  rw [writeCells, List.map_cons, join_cons,
    map_content_splitCells_append fun d hd => h d (List.mem_cons_of_mem c hd),
    content_escapeBars (h c (List.mem_cons_self ..))]

/-! ## The row of a tag -/

theorem ofRow_eq_error {kind raw : Text} {m : Malformed} (h : ofRow kind raw = .error m) :
    m = ⟨kind, raw, .notRow⟩ := by
  unfold ofRow at h
  dsimp only at h
  split at h
  · exact absurd h (by simp)
  · exact (Except.error.inj h).symm

/-- The parts of a row are parts of its text. -/
theorem mem_of_isRow {p : TagParts} {t : Text} (h : IsRow p t) {c : Char}
    (hc : c ∈ p.name ++ p.type ++ p.description) : c ∈ t := by
  obtain ⟨rest, ⟨-⟩, hnamed⟩ := h.form
  have hname : c ∈ p.name ++ p.description → c ∈ rest := by
    intro hc
    cases hnamed <;> simp only [List.mem_append, List.mem_cons] at hc ⊢ <;> tauto
  simp only [List.mem_append, List.mem_cons] at hc hname ⊢
  tauto

theorem getLast?_write (t : Text) : (CodeSpan.write t).getLast? = some '`' := by
  have hfence : ∀ n, (List.replicate (n + 1) '`').getLast? = some '`' := fun n => by
    simp [List.getLast?_replicate]
  unfold CodeSpan.write
  dsimp only
  split
  · rw [List.getLast?_append_of_ne_nil _ (by simp), hfence]
  · rw [List.getLast?_append_of_ne_nil _ (by simp), List.getLast?_cons, hfence]
    rfl

/-- A placeholder has no line feed if the tag has none. -/
theorem notMem_placeholder {m : Malformed} (hkind : '\n' ∉ m.kind) (hraw : '\n' ∉ m.raw) :
    '\n' ∉ placeholder m := by
  have hfence (n : Nat) : '\n' ∉ List.replicate n '`' := by
    rw [List.mem_replicate]
    rintro ⟨-, he⟩
    exact absurd he (by decide)
  have hspan : '\n' ∉ CodeSpan.write m.raw := by
    unfold CodeSpan.write
    dsimp only
    split <;> simp only [List.mem_append, List.mem_cons, not_or]
    · exact ⟨⟨hfence _, hraw⟩, hfence _⟩
    · exact ⟨⟨hfence _, by decide, hraw⟩, by decide, hfence _⟩
  have hopening : '\n' ∉ "*Malformed @".toList := by decide
  have hbehind : '\n' ∉ " tag:* ".toList := by decide
  intro h
  rcases List.mem_append.mp h with h | h
  · rcases List.mem_append.mp h with h | h
    · exact (List.mem_append.mp h).elim hopening hkind
    · exact hbehind h
  · exact hspan h

/-- What a row shows has no blanks at its ends. -/
theorem strip_of_mem_shown {tag : Tag} : ∀ cell ∈ shown tag, strip cell = cell := by
  unfold shown
  split
  · rename_i p hrow
    have hp := isRow_of_ofRow hrow
    have hname : strip p.name = p.name :=
      trim_of_ends (fun c hc => hp.name.not_isBlank (List.mem_of_head? hc))
        fun c hc => hp.name.not_isBlank (List.mem_of_getLast? hc)
    have htype : strip ('`' :: p.type ++ ['`']) = '`' :: p.type ++ ['`'] :=
      strip_of_ends rfl List.getLast?_concat (by decide) (by decide)
    simp only [List.forall_mem_cons]
    exact ⟨hname, htype, hp.description.2, by simp⟩
  · rename_i m hrow
    have hend : (placeholder m).getLast? = some '`' := by
      have hspan : CodeSpan.write m.raw ≠ [] := by
        intro hnil
        have hlast := getLast?_write m.raw
        rw [hnil] at hlast
        exact absurd hlast (by decide)
      exact (List.getLast?_append_of_ne_nil _ hspan).trans (getLast?_write m.raw)
    have hspan : strip (placeholder m) = placeholder m :=
      strip_of_ends rfl hend (by decide) (by decide)
    simp only [List.forall_mem_cons]
    exact ⟨by decide, by decide, hspan, by simp⟩

/-- What a row shows has no line feed, since the tag has none. -/
theorem notMem_of_mem_shown {tag : Tag} (htag : IsOneLine tag) :
    ∀ cell ∈ shown tag, '\n' ∉ cell := by
  unfold shown
  split
  · rename_i p hrow
    have hparts : '\n' ∉ p.name ++ p.type ++ p.description := by
      intro hmem
      have hstrip : '\n' ∈ strip tag.string := mem_of_isRow (isRow_of_ofRow hrow) hmem
      exact htag.string ((infix_trim isBlank tag.string).subset hstrip)
    simp only [List.mem_append, not_or] at hparts
    obtain ⟨⟨hname, htype⟩, hdescription⟩ := hparts
    simp only [List.forall_mem_cons]
    exact ⟨hname, by simp [htype], hdescription, by simp⟩
  · rename_i m hrow
    obtain rfl := ofRow_eq_error hrow
    simp only [List.forall_mem_cons]
    exact ⟨by decide, by decide, notMem_placeholder htag.kind htag.string, by simp⟩

theorem writeCells_three (a b d : Text) : writeCells [a, b, d]
    = escapeBars a ++ " | ".toList ++ escapeBars b ++ " | ".toList ++ escapeBars d := by
  simp [writeCells, join_cons]

/-- The line of a tag is made of the cells that it has to show. -/
theorem text_row (c : Comment) (tag : Tag) :
    (row c tag).text = writeCells (shown tag) ++ ['\n'] := by
  unfold row shown
  cases hrow : ofRow tag.kind tag.string with
  | ok p =>
    have hname : '|' ∉ p.name := by
      intro hbar
      exact absurd ((isRow_of_ofRow hrow).name.2 '|' hbar) (by decide)
    have htype : escapeBars ('`' :: p.type ++ ['`']) = '`' :: escapeBars p.type ++ ['`'] := by
      rw [escapeBars_append, List.cons_append, escapeBars_cons (by decide)]
      rfl
    dsimp only
    rw [writeCells_three, escapeBars_of_notMem hname, htype]
    simp
  | error m =>
    have hdash : escapeBars "&mdash;".toList = "&mdash;".toList := by decide
    dsimp only
    rw [writeCells_three, hdash]
    rfl

theorem text_rows (c : Comment) (tags : List Tag) : (rows c tags).text
    = (tags.map (fun tag => writeCells (shown tag)) ++ [[]]).flatMap (· ++ ['\n']) := by
  simp [rows, Rendered.concat, List.flatMap_map, text_row]

theorem shows_writeCells (tag : Tag) : Shows (writeCells (shown tag)) tag := by
  have hne : shown tag ≠ [] := by
    unfold shown
    split <;> exact List.cons_ne_nil _ _
  have hlength : (shown tag).length = 3 := by
    unfold shown
    split <;> rfl
  have hcontents := map_content_splitCells hne strip_of_mem_shown
  have hcells := congrArg List.length hcontents
  rw [List.length_map] at hcells
  exact ⟨hcells.trans hlength, hcontents⟩

theorem notMem_writeCells {cs : List Text} (h : ∀ c ∈ cs, '\n' ∉ c) : '\n' ∉ writeCells cs := by
  refine notMem_join (by decide) fun t ht hmem => ?_
  obtain ⟨c, hc, rfl⟩ := List.mem_map.mp ht
  exact h c hc (mem_of_mem_escapeBars (by decide) hmem)

/-- The lines of the rows, one for each tag; what stands behind the last line feed is empty. -/
theorem splitOn_rows (c : Comment) {tags : List Tag} (h : ∀ tag ∈ tags, IsOneLine tag) :
    splitOn '\n' (rows c tags).text
      = tags.map (fun tag => writeCells (shown tag)) ++ [[], []] := by
  have hlines : ∀ l ∈ tags.map (fun tag => writeCells (shown tag)) ++ [[]], '\n' ∉ l := by
    intro l hl
    rcases List.mem_append.mp hl with hl | hl
    · obtain ⟨tag, htag, rfl⟩ := List.mem_map.mp hl
      exact notMem_writeCells (notMem_of_mem_shown (h tag htag))
    · rw [List.mem_singleton.mp hl]
      exact List.not_mem_nil
  rw [text_rows, splitOn_flatMap_concat hlines, List.append_assoc]
  rfl

/-! ## Tags that are read -/

open Comment

/-- A line that opens a tag has all the characters of the tag. -/
theorem mem_of_tagLine? {l kind first : Text} (h : tagLine? l = some (kind, first)) {a : Char}
    (ha : a ∈ kind ++ first) : a ∈ l := by
  unfold tagLine? at h
  split at h
  · rename_i c r hl
    split at h
    · obtain ⟨rfl, rfl⟩ := Prod.mk.inj (Option.some.inj h)
      have hmem : a ∈ c :: r := by
        rw [List.cons_append, List.mem_cons, List.mem_append] at ha
        rcases ha with rfl | ha | ha
        · exact List.mem_cons_self ..
        · exact List.mem_cons_of_mem c ((List.takeWhile_prefix isKindChar).subset ha)
        · have hdrop := (infix_trim isBlank (r.dropWhile isKindChar)).subset ha
          exact List.mem_cons_of_mem c ((List.dropWhile_suffix isKindChar).subset hdrop)
      have hstart : a ∈ stripStart l := hl ▸ List.mem_cons_of_mem '@' hmem
      exact (List.dropWhile_suffix isBlank).subset hstart
    · exact absurd h (by simp)
  · exact absurd h (by simp)

/-- Lines without a line feed fall into free lines and tags without one. -/
theorem noFeed_blocks {ls : List Text} (h : ∀ l ∈ ls, '\n' ∉ l) :
    (∀ l ∈ (blocks ls).1, '\n' ∉ l) ∧ ∀ tag ∈ (blocks ls).2, '\n' ∉ tag.1 ∧ '\n' ∉ tag.2 := by
  induction ls with
  | nil => simp [blocks]
  | cons l ls ih =>
    obtain ⟨hfree, htags⟩ := ih fun m hm => h m (List.mem_cons_of_mem l hm)
    have hl := h l (List.mem_cons_self ..)
    rw [blocks]
    cases hline : tagLine? l with
    | none => exact ⟨List.forall_mem_cons.mpr ⟨hl, hfree⟩, htags⟩
    | some tag =>
      obtain ⟨kind, first⟩ := tag
      have hkind : '\n' ∉ kind := fun hmem =>
        hl (mem_of_tagLine? hline (List.mem_append_left _ hmem))
      have hfirst : '\n' ∉ first := fun hmem =>
        hl (mem_of_tagLine? hline (List.mem_append_right _ hmem))
      have hparts : ∀ t ∈ first :: (blocks ls).1.map strip, '\n' ∉ t := by
        refine List.forall_mem_cons.mpr ⟨hfirst, fun t ht hmem => ?_⟩
        obtain ⟨m, hm, rfl⟩ := List.mem_map.mp ht
        exact hfree m hm ((infix_trim isBlank m).subset hmem)
      have hstring : '\n' ∉ joinParts (first :: (blocks ls).1.map strip) :=
        notMem_join (by decide) fun t ht => hparts t (List.mem_of_mem_filter ht)
      exact ⟨by simp, List.forall_mem_cons.mpr ⟨⟨hkind, hstring⟩, htags⟩⟩

/-- A tag that is read from a comment has no line feed. -/
theorem isOneLine_of_mem_read {body file : Text} {line : Int} {tag : Tag}
    (h : tag ∈ (Comment.read body file line).tags) : IsOneLine tag := by
  have hlines : ∀ l ∈ lines body, '\n' ∉ l := fun l hl hmem =>
    absurd (noBreak_of_mem_lines hl '\n' hmem) (by decide)
  obtain ⟨⟨kind, string⟩, hblock, rfl⟩ := List.mem_map.mp h
  obtain ⟨hkind, hstring⟩ := (noFeed_blocks hlines).2 _ hblock
  exact ⟨hkind, hstring⟩

/--
**Tables keep their shape.**

Tags that are read from a comment have no line feed. And the rows of any such tags are a line for
each of them, in order, and an empty one at the end; each line has three cells, which hold what the
tag has to show; and with another such tag in the place of one, no line but that of this one is
another.
-/
theorem rows_keep_shape :
    (∀ body file line, ∀ tag ∈ (Comment.read body file line).tags, IsOneLine tag)
      ∧ ∀ (c : Comment) (tags : List Tag), (∀ tag ∈ tags, IsOneLine tag) →
        ∃ lines : List Text, splitOn '\n' (rows c tags).text = lines ++ [[], []]
          ∧ List.Forall₂ Shows lines tags
          ∧ ∀ i other, IsOneLine other → ∃ line,
            splitOn '\n' (rows c (tags.set i other)).text = lines.set i line ++ [[], []] := by
  refine ⟨fun body file line tag => isOneLine_of_mem_read, fun c tags h => ?_⟩
  refine ⟨_, splitOn_rows c h, ?_, fun i other hother => ⟨writeCells (shown other), ?_⟩⟩
  · rw [List.forall₂_map_left_iff]
    exact List.forall₂_same.mpr fun tag _ => shows_writeCells tag
  · have hset : ∀ tag ∈ tags.set i other, IsOneLine tag := by
      intro tag htag
      rcases List.mem_or_eq_of_mem_set htag with htag | rfl
      · exact h tag htag
      · exact hother
    rw [splitOn_rows c hset, List.map_set]

theorem rows_keep_shape_of_bars :
    (rows { file := "a.js".toList, line := 1 }
        [tagOf "param".toList "\x7ba|b\\\x7d n - x \\| y|".toList,
          tagOf "data".toList "no `|` row".toList]).text
      = ("n | `a\\|b\\` | x \\\\| y\\|\n"
        ++ "&mdash; | &mdash; | *Malformed @data tag:* `` no `\\|` row ``\n\n").toList
      ∧ ∃ lines : List Text,
        List.Forall₂ Shows lines
            [tagOf "param".toList "\x7ba|b\\\x7d n - x \\| y|".toList,
              tagOf "data".toList "no `|` row".toList]
          ∧ ∃ line, splitOn '\n' (rows { file := "a.js".toList, line := 1 }
              [tagOf "param".toList "|".toList, tagOf "data".toList "no `|` row".toList]).text
            = lines.set 0 line ++ [[], []] := by
  have htags : ∀ tag ∈ [tagOf "param".toList "\x7ba|b\\\x7d n - x \\| y|".toList,
      tagOf "data".toList "no `|` row".toList], IsOneLine tag := by
    simp only [List.forall_mem_cons]
    exact ⟨⟨by decide, by decide⟩, ⟨by decide, by decide⟩, by simp⟩
  obtain ⟨lines, -, hshows, hset⟩ :=
    rows_keep_shape.2 { file := "a.js".toList, line := 1 } _ htags
  exact ⟨by decide, lines, hshows,
    hset 0 (tagOf "param".toList "|".toList) ⟨by decide, by decide⟩⟩

end Markdown
end DocPress
