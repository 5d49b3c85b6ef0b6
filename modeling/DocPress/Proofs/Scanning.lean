import DocPress.Yaml.Scanner

/-!
# Rounds of the scanner

What the scanner does in one round on the tokens that plain lines are made of: hyphens, colons,
words, and texts in single quotes.

`Reaches` ties the rounds together. The scanner has one round for each character that is left, so
what has to be seen of a run is only that each of its rounds takes a character.

Outside of brackets and between the parts of a line the state of the scanner is told by its place,
its tokens, the columns of the open collections and the place of a key that may have begun, if
there is one.
-/

namespace DocPress.Yaml

/-! ## Passing characters -/

/-- The columns that a text takes. -/
def width (t : Text) : Nat := t.countP (·.toNat ≠ 0xFEFF)

namespace Cursor

theorem next_of_not_isBreak {c : Cursor} {x : Char} {r : Text} (hrest : c.rest = x :: r)
    (hx : isBreak x = false) :
    c.next = ⟨r, c.index + 1, c.line, c.column + width [x]⟩ := by
  rw [next, hrest]
  simp only [hx, Bool.false_and, Bool.false_eq_true, if_false]
  by_cases hbom : x.toNat = 0xFEFF
  · simp [width, hbom]
  · simp [width, hbom]

theorem next_lineFeed {c : Cursor} {r : Text} (hrest : c.rest = '\n' :: r) :
    c.next = ⟨r, c.index + 1, c.line + 1, 0⟩ := by
  rw [next, hrest]
  rfl

/-- Passing a text within a line. -/
theorem advance_of_noBreak {t r : Text} (ht : ∀ x ∈ t, isBreak x = false) {c : Cursor}
    (hrest : c.rest = t ++ r) :
    c.advance t.length = ⟨r, c.index + t.length, c.line, c.column + width t⟩ := by
  induction t generalizing c with
  | nil =>
    obtain ⟨rest, index, line, column⟩ := c
    obtain rfl : rest = r := hrest
    rfl
  | cons x t ih =>
    have hnext := next_of_not_isBreak hrest (ht x (List.mem_cons_self ..))
    rw [List.length_cons, advance, hnext,
      ih (fun y hy => ht y (List.mem_cons_of_mem x hy)) rfl]
    have hwidth : width (x :: t) = width [x] + width t := by
      rw [width, width, width, ← List.countP_append, List.singleton_append]
    rw [hwidth]
    simp only [Cursor.mk.injEq, true_and]
    omega

theorem jump_eq_advance {c : Cursor} {t r : Text} (hrest : c.rest = t ++ r) :
    c.jump r = c.advance t.length := by
  rw [jump, hrest, List.length_append, Nat.add_sub_cancel]

end Cursor

theorem width_of_ne {t : Text} (h : ∀ x ∈ t, x.toNat ≠ 0xFEFF) : width t = t.length :=
  List.countP_eq_length.mpr fun x hx => decide_eq_true (h x hx)

theorem width_replicate_space (n : Nat) : width (List.replicate n ' ') = n := by
  rw [width_of_ne, List.length_replicate]
  intro x hx
  rw [(List.mem_replicate.mp hx).2]
  decide

/-! ## Quoted scalars -/

theorem break?_of_not_isBreak {c : Char} (r : Text) (h : isBreak c = false) :
    break? (c :: r) = none := by
  have hne : ∀ d : Char, isBreak d = true → c ≠ d := fun d hd he => by rw [he, hd] at h; cases h
  have hcr := hne '\r' rfl
  have hlf := hne '\n' rfl
  have hnel : c.toNat ≠ 0x85 := fun he => by simp [isBreak, he] at h
  rw [break?.eq_def]
  split
  · rename_i heq
    exact absurd (List.cons.inj heq).1 hcr
  · rename_i heq
    obtain ⟨rfl, -⟩ := List.cons.inj heq
    simp [hcr, hlf, hnel, h]
  · rfl

theorem quoted_blank {x : Char} (blanks r : Text) (hx : isGap x = true) :
    quoted false (.blanks blanks) 0 (x :: r) = quoted false (.blanks (blanks ++ [x])) 0 r := by
  rw [quoted.eq_def]
  dsimp only
  simp only [Gap.isFresh, Bool.false_and, Bool.false_eq_true, if_false, hx, if_true]
  rfl

theorem quoted_char {x : Char} (blanks r : Text) (hgap : isGap x = false)
    (hbreak : isBreak x = false) (hquote : x ≠ '\'') :
    quoted false (.blanks blanks) 0 (x :: r)
      = (quoted false .none 0 r).map fun v => (blanks ++ [x] ++ v.1, v.2) := by
  rw [quoted.eq_def]
  dsimp only
  simp only [Gap.isFresh, Bool.false_and, Bool.false_eq_true, if_false, hgap,
    break?_of_not_isBreak r hbreak, if_neg hquote]
  rfl

theorem quoted_close {r : Text} (blanks : Text) (hr : r.head? ≠ some '\'') :
    quoted false (.blanks blanks) 0 ('\'' :: r) = .ok (blanks, r) := by
  rw [quoted.eq_def]
  dsimp only
  simp only [Gap.isFresh, Bool.false_and, Bool.false_eq_true, if_false,
    break?_of_not_isBreak r (show isBreak '\'' = false from rfl)]
  rw [if_neg (by decide), if_pos trivial]
  split
  · exact absurd rfl hr
  · rfl

/-- Two quotes are one that belongs to the text. -/
theorem quoted_twice (blanks r : Text) :
    quoted false (.blanks blanks) 0 ('\'' :: '\'' :: r)
      = (quoted false .none 0 r).map fun v => (blanks ++ ['\''] ++ v.1, v.2) := by
  rw [quoted.eq_def]
  dsimp only
  simp only [Gap.isFresh, Bool.false_and, Bool.false_eq_true, if_false,
    break?_of_not_isBreak ('\'' :: r) (show isBreak '\'' = false from rfl)]
  rw [if_neg (by decide), if_pos trivial]
  rfl

/-- A text within a line that was put in single quotes is read back from behind the first. -/
theorem quoted_replace {t r : Text} (ht : ∀ x ∈ t, isBreak x = false) (hr : r.head? ≠ some '\'')
    (blanks : Text) :
    quoted false (.blanks blanks) 0 (Text.replace '\'' ['\'', '\''] t ++ '\'' :: r)
      = .ok (blanks ++ t, r) := by
  induction t generalizing blanks with
  | nil => rw [List.append_nil]; exact quoted_close blanks hr
  | cons x t ih =>
    have hx := ht x (List.mem_cons_self ..)
    have hrest := fun blanks => ih (fun y hy => ht y (List.mem_cons_of_mem x hy)) blanks
    by_cases hquote : x = '\''
    · subst hquote
      -- a quote is written twice, and the blanks before it come with it
      show quoted false (.blanks blanks) 0
        ('\'' :: '\'' :: (Text.replace '\'' ['\'', '\''] t ++ '\'' :: r)) = _
      rw [quoted_twice, Gap.none, hrest]
      simp [Except.map]
    · have hcons : Text.replace '\'' ['\'', '\''] (x :: t)
          = x :: Text.replace '\'' ['\'', '\''] t := by
        rw [Text.replace, List.flatMap_cons, if_neg hquote]
        rfl
      rw [hcons, List.cons_append]
      cases hgap : isGap x with
      | true =>
        -- blanks wait for what follows them
        rw [quoted_blank _ _ hgap, hrest, List.append_assoc, List.singleton_append]
      | false =>
        rw [quoted_char _ _ hgap hx hquote, Gap.none, hrest]
        simp [Except.map]

/-! ## Words -/

/-- The characters of words: letters, digits and low lines. -/
def isWordSign (c : Char) : Bool := c.isAlphanum || c = '_'

theorem ne_of_isWordSign {x d : Char} (hx : isWordSign x = true) (hd : isWordSign d = false) :
    x ≠ d := by
  rintro rfl
  rw [hd] at hx
  cases hx

theorem toNat_ne_of_isWordSign {x : Char} (hx : isWordSign x = true) {n : Nat}
    (hn : isWordSign (Char.ofNat n) = false) : x.toNat ≠ n := fun he =>
  ne_of_isWordSign hx hn (by rw [← he, Char.ofNat_toNat])

/-- A text that can be a key as it is. -/
structure IsWord (w : Text) : Prop where
  nonempty : w ≠ []
  signs : w.all isWordSign = true
  length : w.length ≤ 1024

theorem IsWord.isWordSign_of_mem {w : Text} (hw : IsWord w) : ∀ x ∈ w, isWordSign x = true :=
  List.all_eq_true.mp hw.signs

theorem not_isBreak_of_isWordSign {x : Char} (hx : isWordSign x = true) : isBreak x = false := by
  simp [isBreak, ne_of_isWordSign hx (d := '\n') rfl, ne_of_isWordSign hx (d := '\r') rfl,
    toNat_ne_of_isWordSign hx (n := 0x85) rfl, toNat_ne_of_isWordSign hx (n := 0x2028) rfl,
    toNat_ne_of_isWordSign hx (n := 0x2029) rfl]

theorem plainWord_before_colon {w r : Text} (hw : ∀ x ∈ w, isWordSign x = true)
    (hr : atGap r = true) : plainWord false (w ++ ':' :: r) = w := by
  induction w with
  | nil =>
    rw [List.nil_append, plainWord]
    simp [endsAtColon, hr]
  | cons x w ih =>
    have hx := hw x (List.mem_cons_self ..)
    have hgap : isGap x = false := by
      simp [isGap, ne_of_isWordSign hx (d := ' ') rfl, ne_of_isWordSign hx (d := '\t') rfl]
    rw [List.cons_append, plainWord, hgap, not_isBreak_of_isWordSign hx,
      ih fun y hy => hw y (List.mem_cons_of_mem x hy)]
    simp [ne_of_isWordSign hx (d := ':') rfl]

theorem plainGap_at_colon (r : Text) (i l col : Nat) :
    plainGap ⟨':' :: r, i, l, col⟩ = (none, ⟨':' :: r, i, l, col⟩, false) := by
  have hskip : (⟨':' :: r, i, l, col⟩ : Cursor).skipSpaces = ⟨':' :: r, i, l, col⟩ := by
    rw [Cursor.skipSpaces, List.dropWhile_cons_of_neg (by decide), Cursor.jump, Nat.sub_self]
    rfl
  rw [plainGap, hskip, break?_of_not_isBreak r rfl]
  rfl

/-- A word before a colon is a plain scalar of its own. -/
theorem plain_word {w r : Text} (hw : IsWord w) (hr : atGap r = true) (indent i l col : Nat) :
    plain false indent ⟨w ++ ':' :: r, i, l, col⟩
      = (w, ⟨':' :: r, i + w.length, l, col + w.length⟩, false) := by
  have hsign := hw.isWordSign_of_mem
  have hpass : (⟨w ++ ':' :: r, i, l, col⟩ : Cursor).advance w.length
      = ⟨':' :: r, i + w.length, l, col + w.length⟩ := by
    rw [Cursor.advance_of_noBreak (fun x hx => not_isBreak_of_isWordSign (hsign x hx)) rfl,
      width_of_ne fun x hx => toNat_ne_of_isWordSign (hsign x hx) rfl]
  have hsharp : (⟨w ++ ':' :: r, i, l, col⟩ : Cursor).sees '#' = false := by
    obtain ⟨x, v, rfl⟩ := List.exists_cons_of_ne_nil hw.nonempty
    have hx : x ≠ '#' := ne_of_isWordSign (hsign x (List.mem_cons_self ..)) rfl
    simp [Cursor.sees, hx]
  rw [plain, plainFrom, hsharp]
  simp only [Bool.false_eq_true, if_false, plainWord_before_colon hsign hr, hpass,
    plainGap_at_colon, List.isEmpty_iff, hw.nonempty, List.nil_append]

namespace Scanner

/-! ## Runs -/

/-- From one state the scanner gets to another, in no more rounds than it passes characters. -/
def Reaches (s s' : Scanner) : Prop :=
  ∃ n, n + s'.cursor.rest.length ≤ s.cursor.rest.length
    ∧ ∀ count fuel, ∃ count', run count (n + fuel) s = run count' fuel s'

theorem Reaches.refl (s : Scanner) : Reaches s s :=
  ⟨0, by omega, fun count fuel => ⟨count, by rw [Nat.zero_add]⟩⟩

theorem Reaches.trans {s s' s'' : Scanner} (h : Reaches s s') (h' : Reaches s' s'') :
    Reaches s s'' := by
  obtain ⟨n, hn, hrun⟩ := h
  obtain ⟨n', hn', hrun'⟩ := h'
  refine ⟨n + n', by omega, fun count fuel => ?_⟩
  obtain ⟨count', h⟩ := hrun count (n' + fuel)
  obtain ⟨count'', h'⟩ := hrun' count' fuel
  exact ⟨count'', by rw [Nat.add_assoc, h, h']⟩

/-- One round. -/
theorem reaches_of_fetch {s s₁ s₂ : Scanner} (hgoing : s.finished = false)
    (hfetch : s.fetch = .ok s₁) (hdrop : s₁.dropStale = .ok s₂)
    (hlen : s₂.cursor.rest.length < s.cursor.rest.length) : Reaches s s₂ := by
  refine ⟨1, by omega, fun count fuel => ⟨s₂.settled, ?_⟩⟩
  rw [Nat.add_comm, run, hgoing, hfetch]
  simp only [Bool.false_eq_true, if_false, hdrop]

/-! ## States outside of brackets -/

/-- The scanner at a place outside of brackets, with the tokens so far, the columns of the open
collections, whether a key may begin, and the place of a key that may have begun. -/
def outside (c : Cursor) (tokens : List Token) (columns : List Nat) (mayKey : Bool)
    (key : Option KeyPlace) : Scanner :=
  { cursor := c, tokens, columns, mayKey, keys := key.toList.map ((0 : Int), ·) }

section Outside

variable {c : Cursor} {tokens : List Token} {columns : List Nat} {mayKey : Bool}

theorem skipLayout_outside {key : Option KeyPlace} {n : Nat} {broken : Bool}
    (hmark : c.rest.head?.any (·.toNat = 0xFEFF) = false)
    (hlayout : layout false c.rest = (n, broken)) :
    (outside c tokens columns mayKey key).skipLayout
      = outside (c.advance n) tokens columns (mayKey || broken) key := by
  have hstart : ((outside c tokens columns mayKey key).cursor.index = 0
      && (outside c tokens columns mayKey key).cursor.peek.any (·.toNat = 0xFEFF)) = false := by
    rw [Bool.and_eq_false_iff]
    exact Or.inr hmark
  have hflow : (outside c tokens columns mayKey key).inFlow = false := rfl
  have hlayout : layout false (outside c tokens columns mayKey key).cursor.rest = (n, broken) :=
    hlayout
  rw [skipLayout]
  simp only [hstart, Bool.false_eq_true, if_false, hlayout, hflow, Bool.not_false, Bool.and_true]
  rfl

theorem dropStale_outside_none :
    (outside c tokens columns mayKey none).dropStale = .ok (outside c tokens columns mayKey none) :=
  rfl

theorem dropStale_outside_some {k : KeyPlace} (hline : k.line = c.line)
    (hnear : c.index ≤ k.index + 1024) :
    (outside c tokens columns mayKey (some k)).dropStale
      = .ok (outside c tokens columns mayKey (some k)) := by
  have hfresh : (outside c tokens columns mayKey (some k)).isStale k = false := by
    have hline' : k.line = (outside c tokens columns mayKey (some k)).cursor.line := hline
    have hnear' : (outside c tokens columns mayKey (some k)).cursor.index ≤ k.index + 1024 := hnear
    rw [isStale]
    simp [hline', hnear']
  have hkeys : (outside c tokens columns mayKey (some k)).keys = [(0, k)] := rfl
  rw [dropStale, hkeys]
  simp only [List.any_cons, List.any_nil, hfresh, Bool.and_false, Bool.or_false,
    Bool.false_eq_true, if_false, List.filter_cons, List.filter_nil, Bool.not_false, if_true]
  rfl

/-- Collections that are deeper than a column end there. -/
theorem unwind_outside (column : Option Nat) (key : Option KeyPlace) :
    (outside c tokens columns mayKey key).unwind column
      = outside c
        (tokens ++ (columns.takeWhile fun x => column.all (· < x)).map fun _ => .blockEnd)
        (columns.drop (columns.takeWhile fun x => column.all (· < x)).length) mayKey key := rfl

/-- No collection is as deep as the place. -/
theorem unwind_outside_of_le {key : Option KeyPlace}
    (h : ∀ x, columns.head? = some x → x ≤ c.column) :
    (outside c tokens columns mayKey key).unwind (some c.column)
      = outside c tokens columns mayKey key := by
  have hnone : (columns.takeWhile fun x => (some c.column).all (· < x)) = [] := by
    cases columns with
    | nil => rfl
    | cons x xs =>
      have hx := h x rfl
      rw [List.takeWhile_cons_of_neg]
      simp [hx]
  rw [unwind_outside, hnone, List.map_nil, List.append_nil, List.length_nil, List.drop_zero]

/-- A round begins with what is between the tokens. -/
theorem fetch_outside {n : Nat} {broken : Bool}
    (hmark : c.rest.head?.any (·.toNat = 0xFEFF) = false)
    (hlayout : layout false c.rest = (n, broken)) :
    (outside c tokens columns mayKey none).fetch
      = ((outside (c.advance n) tokens columns (mayKey || broken) none).unwind
          (some (c.advance n).column)).fetchHere := by
  rw [fetch, skipLayout_outside hmark hlayout, dropStale_outside_none]
  rfl

theorem openAt_outside_deeper {key : Option KeyPlace} (t : Token)
    (h : columns.head?.all (· < c.column) = true) :
    (outside c tokens columns mayKey key).openAt t
      = outside c (tokens ++ [t]) (c.column :: columns) mayKey key := by
  have hdeep : (outside c tokens columns mayKey key).isDeeper
      (outside c tokens columns mayKey key).cursor.column = true := h
  rw [openAt, hdeep]
  rfl

theorem openAt_outside_not {key : Option KeyPlace} (t : Token)
    (h : columns.head?.all (· < c.column) = false) :
    (outside c tokens columns mayKey key).openAt t = outside c tokens columns mayKey key := by
  have hdeep : (outside c tokens columns mayKey key).isDeeper
      (outside c tokens columns mayKey key).cursor.column = false := h
  rw [openAt, hdeep]
  rfl

/-! ## Single tokens -/

/-- What is noted of a key that may begin here. -/
def keyHere (c : Cursor) (tokens : List Token) (columns : List Nat) : KeyPlace :=
  { number := tokens.length, line := c.line, index := c.index, column := c.column
    required := columns.head? = some c.column }

theorem fetchWith_ok {read : Cursor → Except Error (Token × Cursor)} {s s' : Scanner} {t : Token}
    {c' : Cursor} (hnote : s.noteKey = .ok s') (hread : read s'.cursor = .ok (t, c')) :
    s.fetchWith read = .ok { s'.emit t with cursor := c', mayKey := false } := by
  rw [fetchWith, hnote]
  show (read s'.cursor >>= _) = _
  rw [hread]
  rfl

/-- Reading where a key may begin notes the place. -/
theorem fetchWith_key {read : Cursor → Except Error (Token × Cursor)} {t : Token} {c' : Cursor}
    (hread : read c = .ok (t, c')) :
    (outside c tokens columns true none).fetchWith read
      = .ok (outside c' (tokens ++ [t]) columns false (some (keyHere c tokens columns))) := by
  have hnote : (outside c tokens columns true none).noteKey
      = .ok (outside c tokens columns true (some (keyHere c tokens columns))) := rfl
  exact fetchWith_ok hnote hread

/-- Reading where none may begin does not. -/
theorem fetchWith_noKey {read : Cursor → Except Error (Token × Cursor)} {t : Token} {c' : Cursor}
    (hread : read c = .ok (t, c')) :
    (outside c tokens columns false none).fetchWith read
      = .ok (outside c' (tokens ++ [t]) columns false none) := by
  have hnote : (outside c tokens columns false none).noteKey
      = .ok (outside c tokens columns false none) := rfl
  exact fetchWith_ok hnote hread

theorem fetchPlain_key {t : Text} {c' : Cursor}
    (hplain : plain false (columns.head?.elim 0 (· + 1)) c = (t, c', false)) :
    (outside c tokens columns true none).fetchPlain
      = .ok (outside c' (tokens ++ [.scalar t true]) columns false
        (some (keyHere c tokens columns))) := by
  have hnote : (outside c tokens columns true none).noteKey
      = .ok (outside c tokens columns true (some (keyHere c tokens columns))) := rfl
  have hplain' : plain (outside c tokens columns true (some (keyHere c tokens columns))).inFlow
      (columns.head?.elim 0 (· + 1)) c = (t, c', false) := hplain
  rw [fetchPlain, hnote]
  dsimp only [bind, Except.bind, pure, Except.pure, outside] at hplain' ⊢
  rw [hplain']
  rfl

/-- At the colon the marks of the key go before its token, and a mapping begins if the key is deeper
than the collections that are open. -/
theorem fetchValue_key {r : Text} {i l col : Nat} {t : Token} {k : KeyPlace}
    (hnumber : k.number = tokens.length) :
    (outside ⟨':' :: r, i, l, col⟩ (tokens ++ [t]) columns false (some k)).fetchValue
      = .ok (if columns.head?.all (· < k.column) then
          outside ⟨r, i + 1, l, col + 1⟩ (tokens ++ [.blockMapping, .key] ++ [t] ++ [.value])
            (k.column :: columns) false none
        else outside ⟨r, i + 1, l, col + 1⟩ (tokens ++ [.key] ++ [t] ++ [.value]) columns false
          none) := by
  have hlookup : (outside ⟨':' :: r, i, l, col⟩ (tokens ++ [t]) columns false (some k)).keys.lookup
      (outside ⟨':' :: r, i, l, col⟩ (tokens ++ [t]) columns false (some k)).flow = some k := rfl
  -- the marks go between the tokens before the key and the one token of the key
  have htake : (tokens ++ [t]).take k.number = tokens := by
    rw [hnumber, List.take_left]
  have hdrop : (tokens ++ [t]).drop k.number = [t] := by
    rw [hnumber, List.drop_left]
  rw [fetchValue, hlookup]
  dsimp only
  cases hdeep : columns.head?.all (· < k.column) with
  | true =>
    have hdeep' : (outside ⟨':' :: r, i, l, col⟩ (tokens ++ [t]) columns false (some k)).isDeeper
        k.column = true := hdeep
    rw [markKey, hdeep']
    dsimp only [outside]
    rw [htake, hdrop]
    rfl
  | false =>
    have hdeep' : (outside ⟨':' :: r, i, l, col⟩ (tokens ++ [t]) columns false (some k)).isDeeper
        k.column = false := hdeep
    rw [markKey, hdeep']
    dsimp only [outside]
    rw [htake, hdrop]
    rfl

/-! ## By the first character -/

theorem atSeparator_of_ne {x : Char} (r : Text) (hhyphen : x ≠ '-') (hdot : x ≠ '.') :
    atSeparator (x :: r) = false := by
  match r with
  | [] => rfl
  | [_] => rfl
  | _ :: _ :: _ => simp [atSeparator, hhyphen, hdot]

theorem fetchHere_hyphen (r : Text) (i l col : Nat) :
    (outside ⟨'-' :: ' ' :: r, i, l, col⟩ tokens columns true none).fetchHere
      = .ok (if columns.head?.all (· < col) then
          outside ⟨' ' :: r, i + 1, l, col + 1⟩ (tokens ++ [.blockSequence] ++ [.item])
            (col :: columns) true none
        else outside ⟨' ' :: r, i + 1, l, col + 1⟩ (tokens ++ [.item]) columns true none) := by
  have hsep : atSeparator ('-' :: ' ' :: r) = false := by cases r <;> rfl
  have hhere : (outside ⟨'-' :: ' ' :: r, i, l, col⟩ tokens columns true none).fetchHere
      = (outside ⟨'-' :: ' ' :: r, i, l, col⟩ tokens columns true none).fetchItem := by
    rw [fetchHere]
    simp only [outside, hsep, Bool.and_false]
    rfl
  rw [hhere, fetchItem]
  cases hdeep : columns.head?.all (· < col) with
  | true => rw [openAt_outside_deeper .blockSequence hdeep]; rfl
  | false => rw [openAt_outside_not .blockSequence hdeep]; rfl

theorem fetchHere_quote (r : Text) (i l col : Nat) :
    (outside ⟨'\'' :: r, i, l, col⟩ tokens columns mayKey none).fetchHere
      = (outside ⟨'\'' :: r, i, l, col⟩ tokens columns mayKey none).fetchWith
        (readQuoted false) := by
  have hsep := atSeparator_of_ne r (show '\'' ≠ '-' by decide) (by decide)
  rw [fetchHere]
  simp only [outside, hsep, Bool.and_false]
  rfl

theorem fetchHere_colon {r : Text} {key : Option KeyPlace} (hr : atGap r = true) (i l col : Nat) :
    (outside ⟨':' :: r, i, l, col⟩ tokens columns mayKey key).fetchHere
      = (outside ⟨':' :: r, i, l, col⟩ tokens columns mayKey key).fetchValue := by
  have hsep := atSeparator_of_ne r (show ':' ≠ '-' by decide) (by decide)
  rw [fetchHere]
  simp only [outside, hsep, Bool.and_false, hr]
  rfl

/-- A word is a plain scalar. -/
theorem fetchHere_word {x : Char} (hx : isWordSign x = true) (r : Text) (i l col : Nat) :
    (outside ⟨x :: r, i, l, col⟩ tokens columns mayKey none).fetchHere
      = (outside ⟨x :: r, i, l, col⟩ tokens columns mayKey none).fetchPlain := by
  have hne : ∀ d : Char, isWordSign d = false → x ≠ d := fun d hd => ne_of_isWordSign hx hd
  have hsep := atSeparator_of_ne r (hne '-' rfl) (hne '.' rfl)
  have hindicator : x ∉ indicators := by
    have hall : indicators.all (isWordSign · = false) = true := by decide
    exact fun hmem => hne x (of_decide_eq_true (List.all_eq_true.mp hall x hmem)) rfl
  have hstarts : startsPlain false (x :: r) = true := by
    simp [startsPlain, isGap, not_isBreak_of_isWordSign hx, hindicator, hne ' ' rfl, hne '\t' rfl]
  have hflow : (outside ⟨x :: r, i, l, col⟩ tokens columns mayKey none).inFlow = false := rfl
  rw [fetchHere, hflow]
  simp only [outside, hsep, hstarts, hne '%' rfl, hne '[' rfl, hne '{' rfl, hne ']' rfl,
    hne '}' rfl, hne ',' rfl, hne '-' rfl, hne '?' rfl, hne ':' rfl, hne '*' rfl, hne '&' rfl,
    hne '!' rfl, hne '|' rfl, hne '>' rfl, hne '\'' rfl, hne '"' rfl, decide_false, Bool.false_and,
    Bool.and_false, Bool.false_eq_true, if_false, if_true]

end Outside

end Scanner
end DocPress.Yaml
