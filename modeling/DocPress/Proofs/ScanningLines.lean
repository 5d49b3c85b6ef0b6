import DocPress.Plan.Basic
import DocPress.Proofs.Inline
import DocPress.Proofs.Scanning

/-!
# The parts of a line

The few rounds that one part of a line takes: its indentation and hyphen, a key with its colon, a
value. Each lemma starts at a place of the text and says which tokens have come and which
collections are open behind the part.

Collections are nested two columns apart. So their columns are told by how deep they are, and back
at a column it is known how many of them end.
-/

namespace DocPress.Yaml.Scanner

/-! ## Between tokens -/

theorem layout_stop {x : Char} (r : Text) (hbreak : isBreak x = false) (hspace : x ≠ ' ')
    (hcomment : x ≠ '#') : layout false (x :: r) = (0, false) := by
  simp [layout, hbreak, hspace, hcomment]

theorem layout_spaces (n : Nat) {x : Char} (r : Text) (hbreak : isBreak x = false)
    (hspace : x ≠ ' ') (hcomment : x ≠ '#') :
    layout false (List.replicate n ' ' ++ x :: r) = (n, false) := by
  induction n with
  | zero => exact layout_stop r hbreak hspace hcomment
  | succ n ih =>
    rw [List.replicate_succ, List.cons_append, layout]
    have hnot : isBreak ' ' = false := rfl
    simp only [hnot, Bool.false_eq_true, if_false, Bool.false_or, decide_true, Bool.true_or,
      if_true]
    have hsharp : decide (' ' = '#') = false := rfl
    rw [hsharp, ih]

theorem layout_lineFeed (t : Text) : layout false ('\n' :: t) = ((layout false t).1 + 1, true) :=
  rfl

/-! ## The columns of nested collections -/

/-- The columns at which collections are open, each two deeper than the one around it. -/
def columnsTo : Nat → List Nat
  | 0 => [0]
  | n + 1 => 2 * (n + 1) :: columnsTo n

theorem head?_columnsTo (n : Nat) : (columnsTo n).head? = some (2 * n) := by
  cases n <;> rfl

theorem le_of_head?_columnsTo {k n : Nat} (h : 2 * k ≤ n) :
    ∀ y, (columnsTo k).head? = some y → y ≤ n := by
  intro y hy
  rw [head?_columnsTo] at hy
  exact Option.some.inj hy ▸ h

/-- One level further in is deeper than all that is open. -/
theorem isDeeper_columnsTo (k : Nat) :
    (columnsTo k).head?.all (· < 2 * (k + 1)) = true := by
  rw [head?_columnsTo]
  simp

theorem length_takeWhile_columnsTo {k m : Nat} (h : k ≤ m) :
    ((columnsTo m).takeWhile (2 * k < ·)).length = m - k := by
  induction m with
  | zero => simp [columnsTo]
  | succ m ih =>
    rw [columnsTo]
    by_cases hk : k = m + 1
    · subst hk
      rw [List.takeWhile_cons_of_neg (by simp), Nat.sub_self]
      rfl
    · rw [List.takeWhile_cons_of_pos (by simp; omega), List.length_cons, ih (by omega)]
      omega

theorem drop_columnsTo {k m : Nat} (h : k ≤ m) : (columnsTo m).drop (m - k) = columnsTo k := by
  induction m with
  | zero => obtain rfl : k = 0 := by omega
            rfl
  | succ m ih =>
    by_cases hk : k = m + 1
    · subst hk
      rw [Nat.sub_self, List.drop_zero]
    · have hsucc : m + 1 - k = (m - k) + 1 := by omega
      rw [hsucc, columnsTo, List.drop_succ_cons, ih (by omega)]

/-- Back at a column, what is deeper has ended. -/
theorem unwind_columnsTo {c : Cursor} {tokens : List Token} {mayKey : Bool}
    {key : Option KeyPlace} {k m : Nat} (h : k ≤ m) :
    (outside c tokens (columnsTo m) mayKey key).unwind (some (2 * k))
      = outside c (tokens ++ List.replicate (m - k) .blockEnd) (columnsTo k) mayKey key := by
  have htake : ((columnsTo m).takeWhile fun x => (some (2 * k)).all (· < x)).length = m - k :=
    length_takeWhile_columnsTo h
  rw [unwind_outside, List.map_const', htake, drop_columnsTo h]

/-! ## The parts of a line -/

section Parts

variable {r : Text} {i l col : Nat} {tokens : List Token} {columns : List Nat} {mayKey : Bool}

theorem advance_indent (n : Nat) (r : Text) (i l col : Nat) :
    (⟨'\n' :: (List.replicate n ' ' ++ r), i, l, col⟩ : Cursor).advance (n + 1)
      = ⟨r, i + 1 + n, l + 1, n⟩ := by
  have hspaces : ∀ x ∈ List.replicate n ' ', isBreak x = false := by
    intro x hx
    rw [(List.mem_replicate.mp hx).2]
    rfl
  have hpass := Cursor.advance_of_noBreak hspaces
    (c := ⟨List.replicate n ' ' ++ r, i + 1, l + 1, 0⟩) rfl
  rw [List.length_replicate, width_replicate_space, Nat.zero_add] at hpass
  rw [Cursor.advance, Cursor.next_lineFeed rfl]
  exact hpass

theorem advance_space (r : Text) (i l col : Nat) :
    (⟨' ' :: r, i, l, col⟩ : Cursor).advance 1 = ⟨r, i + 1, l, col + 1⟩ := by
  rw [Cursor.advance, Cursor.advance, Cursor.next_of_not_isBreak rfl rfl]
  rfl

/-- The indentation of a line and the hyphen of an item. -/
theorem fetch_item (n : Nat) :
    (outside ⟨'\n' :: (List.replicate n ' ' ++ '-' :: ' ' :: r), i, l, col⟩ tokens columns mayKey
        none).fetch
      = ((outside ⟨'-' :: ' ' :: r, i + 1 + n, l + 1, n⟩ tokens columns true none).unwind
          (some n)).fetchHere := by
  have hlayout : layout false ('\n' :: (List.replicate n ' ' ++ '-' :: ' ' :: r))
      = (n + 1, true) := by
    rw [layout_lineFeed, layout_spaces n _ rfl (by decide) (by decide)]
  rw [fetch_outside rfl hlayout, advance_indent, Bool.or_true]

/-- An item of a sequence that is open. What is deeper ends before it. -/
theorem reaches_item {k m : Nat} (h : k ≤ m) :
    Reaches
      (outside ⟨'\n' :: (List.replicate (2 * k) ' ' ++ '-' :: ' ' :: r), i, l, col⟩ tokens
        (columnsTo m) mayKey none)
      (outside ⟨' ' :: r, i + 1 + 2 * k + 1, l + 1, 2 * k + 1⟩
        (tokens ++ List.replicate (m - k) .blockEnd ++ [.item]) (columnsTo k) true none) := by
  have hnot : (columnsTo k).head?.all (· < 2 * k) = false := by
    rw [head?_columnsTo]; simp
  refine reaches_of_fetch rfl ?_ dropStale_outside_none ?_
  · rw [fetch_item, unwind_columnsTo h, fetchHere_hyphen, hnot]
    rfl
  · simp only [outside, List.length_cons, List.length_append, List.length_replicate]
    omega

/-- The first item of a sequence that is deeper than all that is open. -/
theorem reaches_firstItem (m : Nat) :
    Reaches
      (outside ⟨'\n' :: (List.replicate (2 * (m + 1)) ' ' ++ '-' :: ' ' :: r), i, l, col⟩ tokens
        (columnsTo m) mayKey none)
      (outside ⟨' ' :: r, i + 1 + 2 * (m + 1) + 1, l + 1, 2 * (m + 1) + 1⟩
        (tokens ++ [.blockSequence] ++ [.item]) (columnsTo (m + 1)) true none) := by
  have hle := le_of_head?_columnsTo (show 2 * m ≤ 2 * (m + 1) by omega)
  have hstay : (outside ⟨'-' :: ' ' :: r, i + 1 + 2 * (m + 1), l + 1, 2 * (m + 1)⟩ tokens
        (columnsTo m) true none).unwind (some (2 * (m + 1)))
      = outside ⟨'-' :: ' ' :: r, i + 1 + 2 * (m + 1), l + 1, 2 * (m + 1)⟩ tokens (columnsTo m)
        true none := unwind_outside_of_le hle
  refine reaches_of_fetch rfl ?_ dropStale_outside_none ?_
  · rw [fetch_item, hstay, fetchHere_hyphen, isDeeper_columnsTo]
    rfl
  · simp only [outside, List.length_cons, List.length_append, List.length_replicate]
    omega

theorem readQuoted_quote {t : Text} (ht : IsLine t) (hr : r.head? ≠ some '\'') (i l col : Nat) :
    readQuoted false ⟨Plan.quote t ++ r, i, l, col⟩
      = .ok (.scalar t false,
        ⟨r, i + (Plan.quote t).length, l, col + width (Plan.quote t)⟩) := by
  have hnoBreak : ∀ x ∈ t, isBreak x = false := fun x hx => not_isBreak_of_isInline (ht x hx)
  have hquoteLine : ∀ x ∈ Plan.quote t, isBreak x = false := fun x hx =>
    not_isBreak_of_isInline (Plan.isLine_quote ht x hx)
  have hnext : (⟨Plan.quote t ++ r, i, l, col⟩ : Cursor).next.rest
      = Text.replace '\'' ['\'', '\''] t ++ '\'' :: r := by
    rw [Cursor.next_of_not_isBreak (x := '\'')
      (r := Text.replace '\'' ['\'', '\''] t ++ '\'' :: r) (by simp [Plan.quote]) rfl]
  rw [readQuoted, hnext, Gap.none, quoted_replace hnoBreak hr]
  have hjump := (Cursor.jump_eq_advance (c := ⟨Plan.quote t ++ r, i, l, col⟩) rfl).trans
    (Cursor.advance_of_noBreak hquoteLine rfl)
  show Except.ok (Token.scalar t false, Cursor.jump _ r) = _
  rw [hjump]

/-- A space, and then something that is no deeper than what is open. -/
theorem fetch_space {x : Char} (hbreak : isBreak x = false) (hspace : x ≠ ' ') (hcomment : x ≠ '#')
    (hle : ∀ y, columns.head? = some y → y ≤ col + 1) :
    (outside ⟨' ' :: x :: r, i, l, col⟩ tokens columns mayKey none).fetch
      = (outside ⟨x :: r, i + 1, l, col + 1⟩ tokens columns mayKey none).fetchHere := by
  have hlayout : layout false (' ' :: x :: r) = (1, false) :=
    layout_spaces 1 r hbreak hspace hcomment
  have hstay : (outside ⟨x :: r, i + 1, l, col + 1⟩ tokens columns mayKey none).unwind
      (some (col + 1)) = outside ⟨x :: r, i + 1, l, col + 1⟩ tokens columns mayKey none :=
    unwind_outside_of_le hle
  rw [fetch_outside rfl hlayout, advance_space, Bool.or_false, hstay]

/-- A colon behind a key. -/
theorem reaches_colon {t : Token} {k : KeyPlace} (hr : atGap r = true)
    (hle : ∀ y, columns.head? = some y → y ≤ col) (hnumber : k.number = tokens.length)
    (hline : k.line = l) (hnear : i ≤ k.index + 1024) :
    Reaches (outside ⟨':' :: r, i, l, col⟩ (tokens ++ [t]) columns false (some k))
      (if columns.head?.all (· < k.column) then
        outside ⟨r, i + 1, l, col + 1⟩ (tokens ++ [.blockMapping, .key] ++ [t] ++ [.value])
          (k.column :: columns) false none
      else outside ⟨r, i + 1, l, col + 1⟩ (tokens ++ [.key] ++ [t] ++ [.value]) columns false
        none) := by
  have hlayout : layout false (':' :: r) = (0, false) := layout_stop r rfl (by decide) (by decide)
  have hskip : (outside ⟨':' :: r, i, l, col⟩ (tokens ++ [t]) columns false (some k)).skipLayout
      = outside ⟨':' :: r, i, l, col⟩ (tokens ++ [t]) columns false (some k) :=
    (skipLayout_outside rfl hlayout).trans rfl
  have hstay : (outside ⟨':' :: r, i, l, col⟩ (tokens ++ [t]) columns false (some k)).unwind
      (some col) = outside ⟨':' :: r, i, l, col⟩ (tokens ++ [t]) columns false (some k) :=
    unwind_outside_of_le hle
  have hfetch : (outside ⟨':' :: r, i, l, col⟩ (tokens ++ [t]) columns false (some k)).fetch
      = (outside ⟨':' :: r, i, l, col⟩ (tokens ++ [t]) columns false (some k)).fetchValue := by
    rw [fetch, hskip, dropStale_outside_some hline hnear]
    show ((outside ⟨':' :: r, i, l, col⟩ (tokens ++ [t]) columns false (some k)).unwind
      (some col)).fetchHere = _
    rw [hstay, fetchHere_colon hr]
  refine reaches_of_fetch rfl (hfetch.trans (fetchValue_key hnumber)) ?_ ?_
  · split <;> exact dropStale_outside_none
  · split <;> simp [outside]

theorem reaches_colon_deeper {t : Token} {k : KeyPlace} (hr : atGap r = true)
    (hle : ∀ y, columns.head? = some y → y ≤ col) (hnumber : k.number = tokens.length)
    (hline : k.line = l) (hnear : i ≤ k.index + 1024)
    (hlt : ∀ y, columns.head? = some y → y < k.column) :
    Reaches (outside ⟨':' :: r, i, l, col⟩ (tokens ++ [t]) columns false (some k))
      (outside ⟨r, i + 1, l, col + 1⟩ (tokens ++ [.blockMapping, .key] ++ [t] ++ [.value])
        (k.column :: columns) false none) := by
  have hdeeper : columns.head?.all (· < k.column) = true := by
    cases hy : columns.head? with
    | none => rfl
    | some y => simpa using hlt y hy
  have h : Reaches _ (if columns.head?.all (· < k.column) then _ else _) :=
    reaches_colon (t := t) hr hle hnumber hline hnear
  rwa [if_pos hdeeper] at h

/-- A text in quotes behind a space, where a key may begin. -/
theorem fetch_quoted_key {t : Text} (ht : IsLine t) (hr : r.head? ≠ some '\'')
    (hle : ∀ y, columns.head? = some y → y ≤ col + 1) :
    (outside ⟨' ' :: (Plan.quote t ++ r), i, l, col⟩ tokens columns true none).fetch
      = .ok (outside ⟨r, i + 1 + (Plan.quote t).length, l, col + 1 + width (Plan.quote t)⟩
        (tokens ++ [.scalar t false]) columns false
        (some (keyHere ⟨Plan.quote t ++ r, i + 1, l, col + 1⟩ tokens columns))) :=
  (fetch_space rfl (by decide) (by decide) hle).trans
    ((fetchHere_quote _ _ _ _).trans (fetchWith_key (readQuoted_quote ht hr _ _ _)))

/-- A text in quotes behind a space, where none may begin. -/
theorem fetch_quoted_noKey {t : Text} (ht : IsLine t) (hr : r.head? ≠ some '\'')
    (hle : ∀ y, columns.head? = some y → y ≤ col + 1) :
    (outside ⟨' ' :: (Plan.quote t ++ r), i, l, col⟩ tokens columns false none).fetch
      = .ok (outside ⟨r, i + 1 + (Plan.quote t).length, l, col + 1 + width (Plan.quote t)⟩
        (tokens ++ [.scalar t false]) columns false none) :=
  (fetch_space rfl (by decide) (by decide) hle).trans
    ((fetchHere_quote _ _ _ _).trans (fetchWith_noKey (readQuoted_quote ht hr _ _ _)))

/-- A quoted key behind a space, deeper than what is open, and its colon: a mapping begins. -/
theorem reaches_quotedKey {t : Text} (ht : IsLine t) (hlength : (Plan.quote t).length ≤ 1024)
    (hr : atGap r = true) (hlt : ∀ y, columns.head? = some y → y < col + 1) :
    Reaches (outside ⟨' ' :: (Plan.quote t ++ ':' :: r), i, l, col⟩ tokens columns true none)
      (outside ⟨r, i + 1 + (Plan.quote t).length + 1, l, col + 1 + width (Plan.quote t) + 1⟩
        (tokens ++ [.blockMapping, .key] ++ [.scalar t false] ++ [.value]) ((col + 1) :: columns)
        false none) := by
  have hnear : i + 1 + (Plan.quote t).length ≤ i + 1 + 1024 := by omega
  have hle : ∀ y, columns.head? = some y → y ≤ col + 1 := fun y hy => Nat.le_of_lt (hlt y hy)
  have hfetch := @fetch_quoted_key (':' :: r) i l col tokens columns t ht (by simp) hle
  refine (reaches_of_fetch rfl hfetch (dropStale_outside_some rfl hnear) ?_).trans
    (reaches_colon_deeper hr (fun y hy => ?_) rfl rfl hnear hlt)
  · simp only [outside, List.length_cons, List.length_append]
    omega
  · have := hlt y hy
    omega

/-- A quoted value behind a space. -/
theorem reaches_quotedValue {t : Text} (ht : IsLine t) (hr : r.head? ≠ some '\'')
    (hle : ∀ y, columns.head? = some y → y ≤ col + 1) :
    Reaches (outside ⟨' ' :: (Plan.quote t ++ r), i, l, col⟩ tokens columns false none)
      (outside ⟨r, i + 1 + (Plan.quote t).length, l, col + 1 + width (Plan.quote t)⟩
        (tokens ++ [.scalar t false]) columns false none) := by
  refine reaches_of_fetch rfl (fetch_quoted_noKey ht hr hle) dropStale_outside_none ?_
  simp only [outside, List.length_cons, List.length_append]
  omega

/-- A word as a key, and its colon. -/
theorem reaches_wordKey {c : Cursor} {n : Nat} {broken : Bool} {w : Text}
    (hmark : c.rest.head?.any (·.toNat = 0xFEFF) = false)
    (hlayout : layout false c.rest = (n, broken)) (hmay : (mayKey || broken) = true)
    (hpass : c.advance n = ⟨w ++ ':' :: r, i, l, col⟩)
    (hlen : (w ++ ':' :: r).length ≤ c.rest.length) (hw : IsWord w) (hr : atGap r = true)
    (hle : ∀ y, columns.head? = some y → y ≤ col) :
    Reaches (outside c tokens columns mayKey none)
      (if columns.head?.all (· < col) then
        outside ⟨r, i + w.length + 1, l, col + w.length + 1⟩
          (tokens ++ [.blockMapping, .key] ++ [.scalar w true] ++ [.value]) (col :: columns) false
          none
      else outside ⟨r, i + w.length + 1, l, col + w.length + 1⟩
          (tokens ++ [.key] ++ [.scalar w true] ++ [.value]) columns false none) := by
  obtain ⟨x, v, rfl⟩ := List.exists_cons_of_ne_nil hw.nonempty
  have hx := hw.isWordSign_of_mem x (List.mem_cons_self ..)
  have hstay : (outside ⟨x :: v ++ ':' :: r, i, l, col⟩ tokens columns true none).unwind (some col)
      = outside ⟨x :: v ++ ':' :: r, i, l, col⟩ tokens columns true none :=
    unwind_outside_of_le hle
  have hfetch : (outside c tokens columns mayKey none).fetch
      = .ok (outside ⟨':' :: r, i + (x :: v).length, l, col + (x :: v).length⟩
        (tokens ++ [.scalar (x :: v) true]) columns false
        (some (keyHere ⟨x :: v ++ ':' :: r, i, l, col⟩ tokens columns))) := by
    rw [fetch_outside hmark hlayout, hmay, hpass, hstay]
    exact (fetchHere_word hx (v ++ ':' :: r) i l col).trans
      (fetchPlain_key (plain_word hw hr _ i l col))
  -- at the colon the key is still near enough to count
  have hnear : i + (x :: v).length ≤ i + 1024 := Nat.add_le_add_left hw.length i
  refine (reaches_of_fetch rfl hfetch (dropStale_outside_some rfl hnear) ?_).trans
    (reaches_colon hr (fun y hy => ?_) rfl rfl hnear)
  · simp only [outside, List.length_cons, List.length_append] at hlen ⊢
    omega
  · have := hle y hy
    omega

end Parts

section Words

variable {w r : Text} {i l : Nat} {ts : List Token}

theorem layout_spaces_word (n : Nat) (hw : IsWord w) (r : Text) :
    layout false (List.replicate n ' ' ++ (w ++ r)) = (n, false) := by
  obtain ⟨x, v, rfl⟩ := List.exists_cons_of_ne_nil hw.nonempty
  have hx := hw.isWordSign_of_mem x (List.mem_cons_self ..)
  exact layout_spaces n (v ++ r) (not_isBreak_of_isWordSign hx) (ne_of_isWordSign hx rfl)
    (ne_of_isWordSign hx rfl)

/-- A word at the start of the text, before a colon, begins a mapping. -/
theorem reaches_firstWord (hw : IsWord w) (hr : atGap r = true) :
    Reaches (outside ⟨w ++ ':' :: r, i, l, 0⟩ ts [] true none)
      (outside ⟨r, i + w.length + 1, l, 0 + w.length + 1⟩
        (ts ++ [.blockMapping, .key] ++ [.scalar w true] ++ [.value]) (columnsTo 0) false
        none) := by
  have hmark : (w ++ ':' :: r).head?.any (·.toNat = 0xFEFF) = false := by
    obtain ⟨x, v, rfl⟩ := List.exists_cons_of_ne_nil hw.nonempty
    have hx := hw.isWordSign_of_mem x (List.mem_cons_self ..)
    simp [toNat_ne_of_isWordSign hx (n := 0xFEFF) rfl]
  have hlayout : layout false (w ++ ':' :: r) = (0, false) := layout_spaces_word 0 hw _
  exact reaches_wordKey hmark hlayout rfl rfl le_rfl hw hr (by simp)

/-- A word at the start of a line, before a colon, is a key of the mapping that began there. -/
theorem reaches_lineWord (hw : IsWord w) (hr : atGap r = true) (col : Nat) (mayKey : Bool) :
    Reaches (outside ⟨'\n' :: (w ++ ':' :: r), i, l, col⟩ ts (columnsTo 0) mayKey none)
      (outside ⟨r, i + 1 + w.length + 1, l + 1, 0 + w.length + 1⟩
        (ts ++ [.key] ++ [.scalar w true] ++ [.value]) (columnsTo 0) false none) := by
  have hlayout : layout false ('\n' :: (w ++ ':' :: r)) = (1, true) := by
    have hword : layout false (w ++ ':' :: r) = (0, false) := layout_spaces_word 0 hw _
    rw [layout_lineFeed, hword]
  exact reaches_wordKey rfl hlayout (Bool.or_true _) (advance_indent 0 _ i l col) (by simp) hw hr
    (by simp [columnsTo])

/-- A word behind the hyphen of an item, before a colon, begins a mapping. -/
theorem reaches_itemWord (hw : IsWord w) (hr : atGap r = true) (k : Nat) :
    Reaches (outside ⟨' ' :: (w ++ ':' :: r), i, l, 2 * k + 1⟩ ts (columnsTo k) true none)
      (outside ⟨r, i + 1 + w.length + 1, l, 2 * (k + 1) + w.length + 1⟩
        (ts ++ [.blockMapping, .key] ++ [.scalar w true] ++ [.value]) (columnsTo (k + 1)) false
        none) := by
  have hlayout : layout false (' ' :: (w ++ ':' :: r)) = (1, false) := layout_spaces_word 1 hw _
  have hpass : (⟨' ' :: (w ++ ':' :: r), i, l, 2 * k + 1⟩ : Cursor).advance 1
      = ⟨w ++ ':' :: r, i + 1, l, 2 * (k + 1)⟩ := advance_space _ i l (2 * k + 1)
  have hkey := @reaches_wordKey r (i + 1) l (2 * (k + 1)) ts (columnsTo k) true _ _ _ _ rfl hlayout
    rfl hpass (by simp) hw hr (le_of_head?_columnsTo (by omega))
  rwa [if_pos (isDeeper_columnsTo k)] at hkey

end Words

end DocPress.Yaml.Scanner
