import DocPress.Path
import Mathlib.Data.List.Induction
import Mathlib.Data.List.TakeWhile

/-!
# Paths as lists of names

Whatever is done with a path as a text can be told of its components. This module says so for the
operations that the disk and the publishing use: appending appends the components, the parent has
all but the last, and normalising a rooted path leaves nothing but plain names, which are those that
an entry of a directory can have.

For plain names the text of a path and its components determine each other, so a normalised rooted
path may be read as the list of names on the way from the root.
-/

namespace DocPress

namespace Text

theorem splitOn_append_sep (s : Char) (a b : Text) :
    splitOn s (a ++ s :: b) = splitOn s a ++ splitOn s b := by
  induction a with
  | nil => simp [splitOn]
  | cons c a ih =>
    by_cases hc : c = s
    · simp [splitOn, hc, ih]
    · cases ha : splitOn s a with
      | nil => exact absurd ha (splitOn_ne_nil s a)
      | cons w ws => simp [splitOn, hc, ih, ha]

theorem splitOn_of_notMem {s : Char} {t : Text} (h : s ∉ t) : splitOn s t = [t] := by
  induction t with
  | nil => rfl
  | cons c t ih =>
    obtain ⟨hc, ht⟩ := not_or.mp (mt List.mem_cons.mpr h)
    simp [splitOn, Ne.symm hc, ih ht]

theorem sep_notMem_of_mem_splitOn {s : Char} {t w : Text} (h : w ∈ splitOn s t) : s ∉ w := by
  induction t generalizing w with
  | nil =>
    obtain rfl : w = [] := by simpa [splitOn] using h
    simp
  | cons c t ih =>
    by_cases hc : c = s
    · rw [splitOn, if_pos hc] at h
      rcases List.mem_cons.mp h with h | h
      · subst h; simp
      · exact ih h
    · rw [splitOn, if_neg hc] at h
      cases ht : splitOn s t with
      | nil => exact absurd ht (splitOn_ne_nil s t)
      | cons v vs =>
        rw [ht] at h ih
        rcases List.mem_cons.mp h with h | h
        · subst h
          have hv : s ∉ v := ih (List.mem_cons_self ..)
          simp [hv, Ne.symm hc]
        · exact ih (List.mem_cons_of_mem v h)

theorem join_cons_cons (sep w v : Text) (ws : List Text) :
    join sep (w :: v :: ws) = w ++ sep ++ join sep (v :: ws) :=
  List.intercalate_cons_cons

/-- All pieces but the first stand behind a separator. -/
theorem join_cons (sep t : Text) (ts : List Text) :
    join sep (t :: ts) = t ++ ts.flatMap (sep ++ ·) := by
  induction ts generalizing t with
  | nil => simp [join]
  | cons u ts ih => simp only [join_cons_cons, ih, List.flatMap_cons, List.append_assoc]

theorem suffix_join (sep : Text) (ws : List Text) (w : Text) : w <:+ join sep (ws ++ [w]) := by
  induction ws with
  | nil => exact ⟨[], by simp [join]⟩
  | cons v ws ih =>
    obtain ⟨u, us, hus⟩ := List.exists_cons_of_ne_nil (List.append_ne_nil_of_right_ne_nil ws
      (List.cons_ne_nil w []))
    rw [List.cons_append, hus, join_cons_cons, ← hus]
    exact ih.trans (List.suffix_append _ _)

end Text

namespace Path

/-- A name that an entry of a directory can have: there is something to it, it has no slash in it,
and it is not one of the two that point elsewhere. -/
structure IsName (c : Text) : Prop where
  ne_nil : c ≠ []
  no_slash : '/' ∉ c
  ne_dot : c ≠ dot
  ne_dotDot : c ≠ dotDot

theorem isName_iff {c : Text} : IsName c ↔ c ≠ [] ∧ '/' ∉ c ∧ c ≠ dot ∧ c ≠ dotDot :=
  ⟨fun h => ⟨h.ne_nil, h.no_slash, h.ne_dot, h.ne_dotDot⟩,
    fun ⟨hne, hslash, hdot, hdotDot⟩ => ⟨hne, hslash, hdot, hdotDot⟩⟩

instance (c : Text) : Decidable (IsName c) := decidable_of_iff _ isName_iff.symm

/-! ## Components -/

theorem isRooted_iff {p : Text} : isRooted p = true ↔ ∃ r, p = '/' :: r := by
  simp [isRooted, Text.startsWith_iff]

theorem components_append_slash (a b : Text) :
    components (a ++ '/' :: b) = components a ++ components b := by
  simp [components, Text.splitOn_append_sep]

theorem components_nil : components [] = [] := rfl

theorem components_slash_cons (p : Text) : components ('/' :: p) = components p :=
  components_append_slash [] p

theorem mem_components {c p : Text} (h : c ∈ components p) : c ≠ [] ∧ '/' ∉ c := by
  obtain ⟨hc, hne⟩ := List.mem_filter.mp h
  exact ⟨by simpa using hne, Text.sep_notMem_of_mem_splitOn hc⟩

theorem components_of_notMem {c : Text} (hne : c ≠ []) (hslash : '/' ∉ c) : components c = [c] := by
  simp [components, Text.splitOn_of_notMem hslash, hne]

theorem components_join {cs : List Text} (h : ∀ c ∈ cs, c ≠ [] ∧ '/' ∉ c) :
    components (Text.join ['/'] cs) = cs := by
  induction cs with
  | nil => rfl
  | cons c cs ih =>
    obtain ⟨hne, hslash⟩ := h c (List.mem_cons_self ..)
    cases cs with
    | nil => simpa [Text.join, List.intercalate] using components_of_notMem hne hslash
    | cons b bs =>
      rw [Text.join_cons_cons, List.append_assoc, List.singleton_append, components_append_slash,
        components_of_notMem hne hslash, ih fun a ha => h a (List.mem_cons_of_mem c ha)]
      rfl

theorem components_lead_append (p q : Text) : components (lead p ++ q) = components q := by
  unfold lead
  split
  · exact components_slash_cons q
  · exact (components_slash_cons _).trans (components_slash_cons q)
  · exact components_slash_cons q
  · rfl

/-! ## Appending -/

theorem components_append {p q : Text} (h : isRooted q = false) :
    components (append p q) = components p ++ components q := by
  rw [append, if_neg (by simp [h])]
  split
  · rename_i hend
    rcases List.eq_nil_or_concat p with rfl | ⟨r, c, rfl⟩
    · rfl
    · obtain rfl : c = '/' := by simpa using hend
      have hr : components (r ++ ['/']) = components r := by
        rw [components_append_slash, components_nil, List.append_nil]
      rw [List.concat_eq_append, hr, List.append_assoc, List.singleton_append,
        components_append_slash]
  · exact components_append_slash p q

theorem append_of_isRooted {p q : Text} (h : isRooted q = true) : append p q = q := by
  rw [append, if_pos h]

theorem isRooted_append {p q : Text} (h : isRooted p = true) : isRooted (append p q) = true := by
  obtain ⟨r, rfl⟩ := isRooted_iff.mp h
  unfold append
  split
  · assumption
  · split
    · exact isRooted_iff.mpr ⟨r ++ q, rfl⟩
    · exact isRooted_iff.mpr ⟨r ++ '/' :: q, rfl⟩

theorem isRooted_append_of_ne_nil {a : Text} (b : Text) (h : a ≠ []) :
    isRooted (a ++ b) = isRooted a := by
  obtain ⟨c, a, rfl⟩ := List.exists_cons_of_ne_nil h
  rw [Bool.eq_iff_iff, isRooted_iff, isRooted_iff]
  simp

/-- What is appended to a path decides nothing about its start, unless it is rooted. -/
theorem isRooted_append_of_not {q : Text} (p : Text) (h : isRooted q = false) :
    isRooted (append p q) = isRooted p := by
  rw [append, if_neg (by simp [h])]
  by_cases hp : p = []
  · subst hp
    exact h
  · split
    · exact isRooted_append_of_ne_nil q hp
    · exact isRooted_append_of_ne_nil _ hp

theorem isRooted_of_notMem {c : Text} (h : '/' ∉ c) : isRooted c = false := by
  cases hc : isRooted c with
  | false => rfl
  | true =>
    obtain ⟨r, rfl⟩ := isRooted_iff.mp hc
    exact absurd (List.mem_cons_self ..) h

theorem isRooted_appendAll {p : Text} (cs : List Text) (h : isRooted p = true) :
    isRooted (appendAll p cs) = true := by
  induction cs generalizing p with
  | nil => exact h
  | cons c cs ih => exact ih (isRooted_append h)

theorem components_appendAll {p : Text} {cs : List Text} (h : ∀ c ∈ cs, '/' ∉ c) :
    components (appendAll p cs) = components p ++ cs.filter (!·.isEmpty) := by
  induction cs generalizing p with
  | nil => simp [appendAll]
  | cons c cs ih =>
    have hc := h c (List.mem_cons_self ..)
    have hcs := ih (p := append p c) fun a ha => h a (List.mem_cons_of_mem c ha)
    rw [appendAll, List.foldl_cons, ← appendAll, hcs, components_append (isRooted_of_notMem hc)]
    by_cases hne : c = []
    · subst hne; simp [components_nil]
    · simp [components_of_notMem hne hc, hne]

/-! ## Dots -/

/-- Walks from a place: a dot stays, two dots go up, and any other name goes down. -/
def walk (place : List Text) (cs : List Text) : List Text :=
  cs.foldl (fun l c => if c = dot then l else if c = dotDot then l.dropLast else l ++ [c]) place

@[simp] theorem walk_nil (place : List Text) : walk place [] = place := rfl

theorem walk_cons (place : List Text) (c : Text) (cs : List Text) :
    walk place (c :: cs)
      = walk (if c = dot then place else if c = dotDot then place.dropLast else place ++ [c]) cs :=
  rfl

theorem walk_append (place : List Text) (as bs : List Text) :
    walk place (as ++ bs) = walk (walk place as) bs := List.foldl_append

/-- Plain names only go down. -/
theorem walk_of_isName {cs : List Text} (place : List Text) (h : ∀ c ∈ cs, IsName c) :
    walk place cs = place ++ cs := by
  induction cs generalizing place with
  | nil => simp
  | cons c cs ih =>
    have hc := h c (List.mem_cons_self ..)
    rw [walk_cons, if_neg hc.ne_dot, if_neg hc.ne_dotDot,
      ih _ fun a ha => h a (List.mem_cons_of_mem c ha), List.append_assoc]
    rfl

/-- Resolving dots from the root is walking from there. -/
theorem reverse_foldl_push {before cs : List Text} (hb : dotDot ∉ before) (hcs : [] ∉ cs) :
    (cs.foldl (push true) before).reverse = walk before.reverse cs := by
  induction cs generalizing before with
  | nil => rfl
  | cons c cs ih =>
    obtain ⟨hc, hcs⟩ := not_or.mp (mt List.mem_cons.mpr hcs)
    rw [List.foldl_cons, walk_cons]
    by_cases hdot : c = dot
    · rw [push.eq_def, if_pos (by simp [hdot]), if_pos hdot]
      exact ih hb hcs
    · have hskip : ¬ ((c = []) || (c = dot)) = true := by simp [hdot, Ne.symm hc]
      rw [push.eq_def, if_neg hskip, if_neg hdot]
      by_cases hup : c = dotDot
      · rw [if_pos hup, if_pos hup]
        cases before with
        | nil => exact ih hb hcs
        | cons b bs =>
          -- no two dots are kept from the root, so the last name that was kept is taken back
          obtain ⟨hne, hbs⟩ := not_or.mp (mt List.mem_cons.mpr hb)
          rw [List.reverse_cons, List.dropLast_concat]
          simp only [if_neg (Ne.symm hne)]
          exact ih hbs hcs
      · rw [if_neg hup, if_neg hup, ← List.reverse_cons]
        refine ih (fun hmem => ?_) hcs
        rcases List.mem_cons.mp hmem with h | h
        · exact hup h.symm
        · exact hb h

theorem resolveDots_eq_walk {cs : List Text} (h : [] ∉ cs) : resolveDots true cs = walk [] cs := by
  rw [resolveDots, reverse_foldl_push (by simp) h]; rfl

/-- From anywhere else, what is left of the dots leads where all of them lead. -/
theorem walk_foldl_push (place : List Text) {before cs : List Text} (hb : dot ∉ before)
    (hcs : [] ∉ cs) :
    walk place (cs.foldl (push false) before).reverse = walk place (before.reverse ++ cs) := by
  induction cs generalizing before with
  | nil => rw [List.append_nil]; rfl
  | cons c cs ih =>
    obtain ⟨hc, hcs⟩ := not_or.mp (mt List.mem_cons.mpr hcs)
    rw [List.foldl_cons, walk_append, walk_cons]
    by_cases hdot : c = dot
    · rw [push.eq_def, if_pos (by simp [hdot]), if_pos hdot, ih hb hcs, walk_append]
    · have hskip : ¬ ((c = []) || (c = dot)) = true := by simp [hdot, Ne.symm hc]
      have hpushed : walk place ((c :: before).reverse ++ cs) = walk
          (if c = dot then walk place before.reverse
            else if c = dotDot then (walk place before.reverse).dropLast
            else walk place before.reverse ++ [c]) cs := by
        rw [List.reverse_cons, List.append_assoc, walk_append]
        rfl
      rw [push.eq_def, if_neg hskip]
      by_cases hup : c = dotDot
      · rw [if_pos hup]
        cases before with
        | nil => rw [← hpushed]; exact ih (by simp [Ne.symm hdot]) hcs
        | cons b bs =>
          obtain ⟨hbdot, hbs⟩ := not_or.mp (mt List.mem_cons.mpr hb)
          by_cases hbup : b = dotDot
          · simp only [if_pos hbup]
            rw [← hpushed]
            exact ih (fun hmem => (List.mem_cons.mp hmem).elim (Ne.symm hdot) hb) hcs
          · -- the name before goes down and the dots come back up
            simp only [if_neg hbup]
            rw [ih hbs hcs, walk_append, if_neg hdot, if_pos hup, List.reverse_cons, walk_append,
              walk_cons, if_neg (Ne.symm hbdot), if_neg hbup, walk_nil, List.dropLast_concat]
      · rw [if_neg hup, ← hpushed]
        exact ih (fun hmem => (List.mem_cons.mp hmem).elim (Ne.symm hdot) hb) hcs

theorem mem_of_mem_foldl_push {rooted : Bool} {before cs : List Text} {c : Text}
    (h : c ∈ cs.foldl (push rooted) before) : c ∈ before ∨ c ∈ cs := by
  induction cs generalizing before with
  | nil => exact Or.inl h
  | cons a cs ih =>
    rcases ih h with hmem | hmem
    · have hpush : c ∈ before ∨ c = a := by
        rw [push.eq_def] at hmem
        split at hmem
        · exact Or.inl hmem
        · split at hmem
          · split at hmem
            · split at hmem
              · exact absurd hmem (by simp)
              · exact Or.inr (List.mem_singleton.mp hmem)
            · split at hmem
              · exact (List.mem_cons.mp hmem).symm
              · exact Or.inl (List.mem_cons_of_mem _ hmem)
          · exact (List.mem_cons.mp hmem).symm
      rcases hpush with hmem | rfl
      · exact Or.inl hmem
      · exact Or.inr (List.mem_cons_self ..)
    · exact Or.inr (List.mem_cons_of_mem a hmem)

/-- From the root, only plain names are left. -/
theorem isName_of_mem_walk {cs : List Text} (h : ∀ c ∈ cs, c ≠ [] ∧ '/' ∉ c) :
    ∀ c ∈ walk [] cs, IsName c := by
  induction cs using List.reverseRecOn with
  | nil => simp
  | append_singleton cs b ih =>
    have hcs := ih fun c hc => h c (List.mem_append_left _ hc)
    have hb := h b (by simp)
    intro c hc
    rw [walk_append, walk_cons, walk_nil] at hc
    split at hc
    · exact hcs c hc
    · rename_i hdot
      split at hc
      · exact hcs c ((List.dropLast_sublist _).subset hc)
      · rename_i hup
        rcases List.mem_append.mp hc with hc | hc
        · exact hcs c hc
        · obtain rfl := List.mem_singleton.mp hc
          exact ⟨hb.1, hb.2, hdot, hup⟩

/-! ## Normalising -/

theorem lead_of_isRooted {p : Text} (h : isRooted p = true) :
    lead p = ['/'] ∨ lead p = ['/', '/'] := by
  obtain ⟨r, rfl⟩ := isRooted_iff.mp h
  unfold lead
  split
  · exact Or.inl rfl
  · exact Or.inr rfl
  · exact Or.inl rfl
  · rename_i hno
    exact absurd rfl (hno r)

theorem normalize_of_isRooted {p : Text} (h : isRooted p = true) :
    normalize p = lead p ++ Text.join ['/'] (walk [] (components p)) := by
  have hne : [] ∉ components p := fun hmem => (mem_components hmem).1 rfl
  rw [normalize, h, resolveDots_eq_walk hne]
  rcases lead_of_isRooted h with hl | hl <;> rw [hl] <;> rfl

theorem isRooted_normalize {p : Text} (h : isRooted p = true) : isRooted (normalize p) = true := by
  rw [normalize_of_isRooted h, isRooted_iff]
  rcases lead_of_isRooted h with hl | hl <;> rw [hl] <;> exact ⟨_, rfl⟩

/-- The components of a normalised rooted path are where its components lead from the root. -/
theorem components_normalize {p : Text} (h : isRooted p = true) :
    components (normalize p) = walk [] (components p) := by
  have hnames := isName_of_mem_walk fun c hc => mem_components (p := p) hc
  rw [normalize_of_isRooted h, components_lead_append,
    components_join fun c hc => ⟨(hnames c hc).ne_nil, (hnames c hc).no_slash⟩]

theorem isRooted_join {cs : List Text} (h : ∀ c ∈ cs, c ≠ [] ∧ '/' ∉ c) :
    isRooted (Text.join ['/'] cs) = false := by
  cases cs with
  | nil => rfl
  | cons c cs =>
    obtain ⟨hne, hslash⟩ := h c (List.mem_cons_self ..)
    have hc : isRooted c = false := isRooted_of_notMem hslash
    cases cs with
    | nil => simpa [Text.join, List.intercalate] using hc
    | cons b bs =>
      obtain ⟨x, c, rfl⟩ := List.exists_cons_of_ne_nil hne
      have hx : x ≠ '/' := fun he => hslash (he ▸ List.mem_cons_self ..)
      rw [Text.join_cons_cons, Bool.eq_false_iff]
      intro hr
      obtain ⟨r, hr⟩ := isRooted_iff.mp hr
      exact hx (List.cons.inj hr).1

/-- Normalising does not change where a path leads. -/
theorem walk_normalize (place : List Text) {p : Text} (h : isRooted p = false) :
    isRooted (normalize p) = false
      ∧ walk place (components (normalize p)) = walk place (components p) := by
  have hlead : lead p = [] := by
    unfold lead
    split
    · exact absurd h (by simp [isRooted, Text.startsWith_iff])
    · exact absurd h (by simp [isRooted, Text.startsWith_iff])
    · exact absurd h (by simp [isRooted, Text.startsWith_iff])
    · rfl
  have hleft : ∀ c ∈ resolveDots false (components p), c ≠ [] ∧ '/' ∉ c := by
    intro c hc
    rcases mem_of_mem_foldl_push (List.mem_reverse.mp hc) with hc | hc
    · exact absurd hc (by simp)
    · exact mem_components hc
  -- the text of what is left is read back, unless nothing is left and a dot stands for it
  have hwalk : walk place (resolveDots false (components p)) = walk place (components p) :=
    walk_foldl_push place (by simp) fun hmem => (mem_components hmem).1 rfl
  have hroot := isRooted_join hleft
  have hjoin := components_join hleft
  rw [normalize, h, hlead, List.nil_append]
  split
  · rename_i hnil
    rw [hnil, components_nil] at hjoin
    rw [← hwalk, ← hjoin]
    exact ⟨rfl, by rw [show components dot = [dot] from rfl, walk_cons, if_pos rfl]⟩
  · rename_i q hq
    exact ⟨hroot, by rw [hjoin, hwalk]⟩

/-! ## Plain paths -/

/-- A path from the root through plain names. It means the place that it spells. -/
structure IsPlain (p : Text) : Prop where
  rooted : isRooted p = true
  names : ∀ c ∈ components p, IsName c

theorem isPlain_normalize {p : Text} (h : isRooted p = true) : IsPlain (normalize p) := by
  refine ⟨isRooted_normalize h, ?_⟩
  rw [components_normalize h]
  exact isName_of_mem_walk fun c hc => mem_components hc

theorem isPlain_absolute {cwd : Text} (p : Text) (h : isRooted cwd = true) :
    IsPlain (absolute cwd p) :=
  isPlain_normalize (isRooted_append h)

/-- There is nothing to resolve in a plain path. -/
theorem IsPlain.components_absolute {p : Text} (h : IsPlain p) (cwd : Text) :
    components (absolute cwd p) = components p := by
  rw [absolute, append_of_isRooted h.rooted, components_normalize h.rooted,
    walk_of_isName _ h.names, List.nil_append]

theorem components_append_name {c : Text} (p : Text) (hc : IsName c) :
    components (append p c) = components p ++ [c] := by
  rw [components_append (isRooted_of_notMem hc.no_slash), components_of_notMem hc.ne_nil hc.no_slash]

theorem IsPlain.append {p c : Text} (h : IsPlain p) (hc : IsName c) : IsPlain (append p c) := by
  refine ⟨isRooted_append h.rooted, fun a ha => ?_⟩
  rw [components_append_name p hc] at ha
  rcases List.mem_append.mp ha with ha | ha
  · exact h.names a ha
  · exact List.mem_singleton.mp ha ▸ hc

/-! ## Parents -/

theorem components_of_slashes {t : Text} (h : ∀ c ∈ t, c = '/') : components t = [] := by
  induction t with
  | nil => rfl
  | cons c t ih =>
    obtain rfl := h c (List.mem_cons_self ..)
    rw [components_slash_cons]
    exact ih fun a ha => h a (List.mem_cons_of_mem _ ha)

/-- Slashes at the end of a path add no components. -/
theorem components_append_slashes (a : Text) {t : Text} (h : ∀ c ∈ t, c = '/') :
    components (a ++ t) = components a := by
  cases t with
  | nil => rw [List.append_nil]
  | cons c t =>
    obtain rfl := h c (List.mem_cons_self ..)
    rw [components_append_slash, components_of_slashes fun c hc => h c (List.mem_cons_of_mem _ hc),
      List.append_nil]

theorem components_append_of_getLast? {a : Text} (b : Text)
    (h : a = [] ∨ a.getLast? = some '/') :
    components (a ++ b) = components a ++ components b := by
  rcases h with rfl | h
  · rfl
  · obtain ⟨a, rfl⟩ := List.getLast?_eq_some_iff.mp h
    rw [List.append_assoc, List.singleton_append, components_append_slash, components_append_slash,
      components_nil, List.append_nil]

theorem split_eq_ite (p : Text) : split p = if (p.reverse.dropWhile (· ≠ '/')).all (· = '/')
    then ((p.reverse.dropWhile (· ≠ '/')).reverse, (p.reverse.takeWhile (· ≠ '/')).reverse)
    else (((p.reverse.dropWhile (· ≠ '/')).dropWhile (· = '/')).reverse,
      (p.reverse.takeWhile (· ≠ '/')).reverse) := rfl

/-- A path is its head, slashes, and its last part. -/
theorem split_eq (p : Text) : ∃ slashes, (∀ c ∈ slashes, c = '/')
    ∧ p = (split p).1 ++ slashes ++ (split p).2
    ∧ ((split p).1 ++ slashes = [] ∨ ((split p).1 ++ slashes).getLast? = some '/')
    ∧ ((split p).1 = [] → slashes = []) := by
  have hp : p = (p.reverse.dropWhile (· ≠ '/')).reverse
      ++ (p.reverse.takeWhile (· ≠ '/')).reverse := by
    rw [← List.reverse_append, List.takeWhile_append_dropWhile, List.reverse_reverse]
  have hlast : p.reverse.dropWhile (· ≠ '/') = []
      ∨ (p.reverse.dropWhile (· ≠ '/')).head? = some '/' := by
    cases hd : p.reverse.dropWhile (· ≠ '/') with
    | nil => exact Or.inl rfl
    | cons c r =>
      have hc := List.head?_dropWhile_not (· ≠ '/') p.reverse
      rw [hd] at hc
      exact Or.inr (by simpa using hc)
  rw [split_eq_ite]
  -- a head of slashes alone keeps them, any other head loses those at its end
  generalize p.reverse.dropWhile (· ≠ '/') = head at hp hlast ⊢
  by_cases hall : head.all (· = '/') = true
  · rw [if_pos hall]
    refine ⟨[], by simp, by simpa using hp, ?_, fun _ => rfl⟩
    simpa using hlast
  · rw [if_neg hall]
    have hhead : (head.dropWhile (· = '/')).reverse ++ (head.takeWhile (· = '/')).reverse
        = head.reverse := by
      rw [← List.reverse_append, List.takeWhile_append_dropWhile]
    refine ⟨(head.takeWhile (· = '/')).reverse, fun c hc => ?_, ?_, ?_, fun hnil => ?_⟩
    · simpa using List.mem_takeWhile_imp (List.mem_reverse.mp hc)
    · rw [hhead]; exact hp
    · rw [hhead]; simpa using hlast
    · refine absurd (List.all_eq_true.mpr ?_) hall
      exact List.dropWhile_eq_nil_iff.mp (List.reverse_eq_nil_iff.mp hnil)

theorem slash_notMem_base (p : Text) : '/' ∉ base p := by
  have hbase : base p = (p.reverse.takeWhile (· ≠ '/')).reverse := by
    show (split p).2 = _
    rw [split_eq_ite]
    split <;> rfl
  rw [hbase, List.mem_reverse]
  intro hmem
  simpa using List.mem_takeWhile_imp hmem

theorem components_split (p : Text) :
    components p = components (split p).1 ++ components (split p).2 := by
  obtain ⟨slashes, hslashes, hp, hlast, -⟩ := split_eq p
  conv_lhs => rw [hp]
  rw [components_append_of_getLast? _ hlast, components_append_slashes _ hslashes]

theorem prefix_components_parent (p : Text) : components (parent p) <+: components p :=
  ⟨_, (components_split p).symm⟩

theorem isRooted_parent {p : Text} (h : parent p ≠ []) : isRooted (parent p) = isRooted p := by
  obtain ⟨slashes, -, hp, -⟩ := split_eq p
  conv_rhs => rw [hp, List.append_assoc]
  exact (isRooted_append_of_ne_nil _ h).symm

theorem parent_ne_nil {p : Text} (h : isRooted p = true) : parent p ≠ [] := by
  obtain ⟨slashes, -, hp, -, hnil⟩ := split_eq p
  intro he
  have hp : p = base p := by
    rw [hnil he, show (split p).1 = [] from he] at hp
    exact hp
  rw [hp, isRooted_of_notMem (slash_notMem_base p)] at h
  exact absurd h (by simp)

theorem IsPlain.parent {p : Text} (h : IsPlain p) : IsPlain (parent p) :=
  ⟨(isRooted_parent (parent_ne_nil h.rooted)).trans h.rooted,
    fun c hc => h.names c ((prefix_components_parent p).subset hc)⟩

/-- The directories above a path are met on the way to it. -/
theorem mem_upwardsFrom {p q : Text} {fuel : Nat} (h : q ∈ upwardsFrom p fuel) :
    components q <+: components p ∧ isRooted q = isRooted p := by
  induction fuel generalizing p with
  | zero =>
    obtain rfl := List.mem_singleton.mp h
    exact ⟨List.prefix_refl _, rfl⟩
  | succ fuel ih =>
    -- whichever of the two heads is taken, it is the head of a head or the head itself
    have hstep : ∀ head tail : Text, components head <+: components p
        ∧ (head ≠ [] → isRooted head = isRooted p) →
        q ∈ (if head.isEmpty || tail.isEmpty then [p] else p :: upwardsFrom head fuel) →
        components q <+: components p ∧ isRooted q = isRooted p := by
      intro head tail ⟨hpre, hroot⟩ hmem
      split at hmem
      · obtain rfl := List.mem_singleton.mp hmem
        exact ⟨List.prefix_refl _, rfl⟩
      · rename_i hne
        have hhead : head ≠ [] := fun he => hne (by simp [he])
        rcases List.mem_cons.mp hmem with rfl | hmem
        · exact ⟨List.prefix_refl _, rfl⟩
        · obtain ⟨hq, hr⟩ := ih hmem
          exact ⟨hq.trans hpre, hr.trans (hroot hhead)⟩
    have hone : components (parent p) <+: components p
        ∧ (parent p ≠ [] → isRooted (parent p) = isRooted p) :=
      ⟨prefix_components_parent p, isRooted_parent⟩
    have htwo : components (parent (parent p)) <+: components p
        ∧ (parent (parent p) ≠ [] → isRooted (parent (parent p)) = isRooted p) := by
      refine ⟨(prefix_components_parent _).trans hone.1, fun hne => ?_⟩
      have hne' : parent p ≠ [] := fun he => hne (by rw [he]; rfl)
      exact (isRooted_parent hne).trans (hone.2 hne')
    refine hstep (if (split p).2.isEmpty then parent (parent p) else parent p)
      (if (split p).2.isEmpty then (split (split p).1).2 else (split p).2) ?_ h
    by_cases he : (split p).2.isEmpty = true
    · rw [if_pos he]; exact htwo
    · rw [if_neg he]; exact hone

theorem mem_upwards {p q : Text} (h : q ∈ upwards p) :
    components q <+: components p ∧ isRooted q = isRooted p :=
  mem_upwardsFrom h

/-! ## Being inside -/

theorem prefix_commonComponents (as bs : List Text) : commonComponents as bs <+: bs := by
  induction as generalizing bs with
  | nil => exact List.nil_prefix
  | cons a as ih =>
    cases bs with
    | nil => exact List.nil_prefix
    | cons b bs =>
      rw [commonComponents]
      split
      · rename_i hab
        exact List.cons_prefix_cons.mpr ⟨hab, ih bs⟩
      · exact List.nil_prefix

/-- A path inside a directory begins with the components of the directory. -/
theorem components_prefix_of_isInside {cwd p d : Text} (h : isInside cwd p d = true) :
    components (absolute cwd d) <+: components (absolute cwd p) := by
  have h := of_decide_eq_true h
  have hcommon := prefix_commonComponents (components (absolute cwd d)) (components (absolute cwd p))
  have hnames : ∀ c ∈ commonComponents (components (absolute cwd d)) (components (absolute cwd p)),
      c ≠ [] ∧ '/' ∉ c := fun c hc => mem_components (hcommon.subset hc)
  rw [← h, components_slash_cons, components_join hnames]
  exact hcommon

end Path
end DocPress
