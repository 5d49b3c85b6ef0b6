import DocPress.Proofs.Named

/-!
# What uses make of a page

A page comes to be what it is by being used: a path is walked, which makes the pages on it, and
something may be put into a section at its end. `Page.grouped` says outright what a row of uses
leaves behind, without any page being changed: the sections of the things put here, and for each
name that is first on a path a page made by the uses that go on from there.

The step lemma `use_grouped` is the reason for the definition: using a grouped page is grouping with
one use more. The views `find?`, `stored` and `items` are then read off the grouping, level by level.
-/

namespace DocPress

variable {α : Type}

/-- One use of a page: a path that is walked, and what is put into which section at its end. -/
structure Use (α : Type) where
  path : List Text
  entry : Option (Text × α)

namespace Use

/-- The change at the end of the path. -/
def change (u : Use α) : Page α → Page α :=
  match u.entry with
  | none => id
  | some (h, x) => Page.add h x

/-- What was put onto the page itself. -/
def entries (us : List (Use α)) : List (Text × α) :=
  us.filterMap fun u => if u.path = [] then u.entry else none

/-- The names that paths begin with. -/
def names (us : List (Use α)) : List Text := us.filterMap (·.path.head?)

/-- The uses of the page of a name, seen from that page. -/
def below (n : Text) : List (Use α) → List (Use α)
  | [] => []
  | ⟨[], _⟩ :: us => below n us
  | ⟨m :: path, e⟩ :: us => if m = n then ⟨path, e⟩ :: below n us else below n us

/-- The uses of the page at the end of a path, seen from that page. -/
def belowAll : List Text → List (Use α) → List (Use α)
  | [], us => us
  | n :: path, us => belowAll path (below n us)

/-- The steps that paths take, all together. -/
def steps (us : List (Use α)) : Nat := (us.flatMap (·.path)).length

theorem entries_append (us vs : List (Use α)) : entries (us ++ vs) = entries us ++ entries vs :=
  List.filterMap_append

theorem names_append (us vs : List (Use α)) : names (us ++ vs) = names us ++ names vs :=
  List.filterMap_append

theorem below_append (n : Text) (us vs : List (Use α)) :
    below n (us ++ vs) = below n us ++ below n vs := by
  induction us using below.induct n with
  | case1 => rfl
  | case2 e us ih => simpa [below] using ih
  | case3 path e us ih => simp [below, ih]
  | case4 m path e us hm ih => simp [below, hm, ih]

/-- A use is one of the page of a name if it goes on where a path with that name in front did. -/
theorem mem_below_iff {n : Text} {u : Use α} {us : List (Use α)} :
    u ∈ below n us ↔ ⟨n :: u.path, u.entry⟩ ∈ us := by
  induction us using below.induct n with
  | case1 => simp [below]
  | case2 e us ih => simp [below, ih]
  | case3 path e us ih => obtain ⟨path', e'⟩ := u; simp [below, ih]
  | case4 m path e us hm ih => simp [below, hm, Ne.symm hm, ih]

/-- A name is on the first level exactly if some use goes on from there. -/
theorem mem_names_iff {n : Text} {us : List (Use α)} : n ∈ names us ↔ below n us ≠ [] := by
  rw [names, List.mem_filterMap]
  constructor
  · rintro ⟨⟨path, e⟩, hu, hn⟩
    cases path with
    | nil => simp at hn
    | cons m path =>
      obtain rfl : m = n := by simpa using hn
      exact List.ne_nil_of_mem (mem_below_iff (u := ⟨path, e⟩).mpr hu)
  · intro h
    obtain ⟨u, hu⟩ := List.exists_mem_of_ne_nil _ h
    exact ⟨_, mem_below_iff.mp hu, rfl⟩

/-- Going down to the page of a name leaves fewer steps, one less for each use. -/
theorem steps_below_add_count_le (n : Text) (us : List (Use α)) :
    steps (below n us) + (below n us).length ≤ steps us := by
  induction us using below.induct n with
  | case1 => exact Nat.le_refl _
  | case2 e us ih => simpa [steps, below] using ih
  | case3 path e us ih =>
    simp only [steps, below, if_true, List.flatMap_cons, List.length_append, List.length_cons]
      at ih ⊢
    omega
  | case4 m path e us hm ih =>
    simp only [steps, below, if_neg hm, List.flatMap_cons, List.length_append, List.length_cons]
      at ih ⊢
    omega

theorem steps_below_lt {n : Text} {us : List (Use α)} (h : n ∈ names us) :
    steps (below n us) < steps us := by
  have hle := steps_below_add_count_le n us
  have hpos := List.length_pos_iff.mpr (mem_names_iff.mp h)
  omega

end Use

namespace Page

open Use

/-- The page after one more use. -/
def use (p : Page α) (u : Use α) : Page α := updateAt u.change u.path p

/-- What was put under a heading. -/
def under (h : Text) (es : List (Text × α)) : List α :=
  es.filterMap fun e => if e.1 = h then some e.2 else none

/-- Sections in the order in which their headings first came, each with all that was put there. -/
def sectionsOf (es : List (Text × α)) : List (Text × List α) :=
  (es.map Prod.fst).eraseDups.map fun h => (h, under h es)

/-- The page that a row of uses makes. -/
def grouped (name : Text) (us : List (Use α)) : Page α :=
  { name
    sections := sectionsOf (entries us)
    pages := (names us).eraseDups.attach.map fun n => grouped n.1 (below n.1 us) }
termination_by steps us
decreasing_by exact steps_below_lt (List.mem_eraseDups.mp n.2)

theorem grouped_eq (name : Text) (us : List (Use α)) :
    grouped name us = ⟨name, sectionsOf (entries us),
      (names us).eraseDups.map fun n => grouped n (below n us)⟩ := by
  rw [grouped]
  simp only [List.map_attach_eq_pmap, List.pmap_eq_map]

@[simp] theorem grouped_name (name : Text) (us : List (Use α)) : (grouped name us).name = name := by
  rw [grouped_eq]

/-- Without uses there is nothing on the page. -/
theorem grouped_nil (name : Text) : grouped name ([] : List (Use α)) = empty name := by
  rw [grouped_eq]; rfl

/-! ## One more use -/

/-- Something more under one heading is something more among the sections. -/
theorem addToSections_sectionsOf (es : List (Text × α)) (h : Text) (x : α) :
    addToSections h x (sectionsOf es) = sectionsOf (es ++ [(h, x)]) := by
  have hmap := alterNamed_map Prod.fst (fun h' => (h', under h' es)) (fun _ => rfl)
    (es.map Prod.fst) h (fun s => (h, s.elim [] Prod.snd ++ [x]))
  rw [addToSections_eq, sectionsOf, hmap, sectionsOf, List.map_append]
  refine List.map_congr_left fun h' _ => ?_
  by_cases hh : h' = h
  · subst hh
    by_cases hmem : h' ∈ es.map Prod.fst
    · simp [hmem, under]
    · have hnone : under h' es = [] := by
        refine List.filterMap_eq_nil_iff.mpr fun e he => ?_
        rw [if_neg fun hk : e.1 = h' => hmem (hk ▸ List.mem_map_of_mem he)]
      rw [if_pos rfl, if_neg hmem]
      simp only [under, List.filterMap_append] at hnone ⊢
      simp [hnone]
  · simp [hh, Ne.symm hh, under]

/-- **One more use.** Using a grouped page is grouping with that use at the end. -/
theorem use_grouped (name : Text) (us : List (Use α)) (u : Use α) :
    (grouped name us).use u = grouped name (us ++ [u]) := by
  obtain ⟨path, e⟩ := u
  induction path generalizing name us with
  | nil =>
    -- nothing but a section of the page itself can change
    have hbelow : ∀ n, below n (us ++ [⟨[], e⟩]) = below n us := by
      intro n; rw [below_append]; simp [below]
    have hnames : names (us ++ [⟨[], e⟩]) = names us := by
      rw [names_append]; simp [names]
    rw [grouped_eq name us, grouped_eq name (us ++ _), hnames]
    simp only [hbelow, entries_append]
    cases e with
    | none => simp [use, updateAt, Use.change, entries]
    | some e =>
      obtain ⟨h, x⟩ := e
      simp [use, updateAt, Use.change, add, addToSections_sectionsOf, entries]
  | cons n path ih =>
    have hentries : entries (us ++ [⟨n :: path, e⟩]) = entries us := by
      rw [entries_append]; simp [entries]
    have hnames : names (us ++ [⟨n :: path, e⟩]) = names us ++ [n] := by
      rw [names_append]; simp [names]
    have hmap := alterNamed_map Page.name (fun m => grouped m (below m us))
      (fun m => grouped_name m _) (names us) n
      (fun q => updateAt (Use.change ⟨n :: path, e⟩) path (q.getD (empty n)))
    rw [grouped_eq name us, grouped_eq name (us ++ _), hentries, hnames]
    simp only [use, updateAt, updateNamed_eq, hmap, Page.mk.injEq, true_and]
    refine List.map_congr_left fun m _ => ?_
    by_cases hm : m = n
    · subst hm
      -- the page of the name is there already, or it is new and nothing has used it
      have hold : (if m ∈ names us then some (grouped m (below m us)) else none).getD (empty m)
          = grouped m (below m us) := by
        by_cases hmem : m ∈ names us
        · rw [if_pos hmem]; rfl
        · have hnil : below m us = [] := not_not.mp (mt mem_names_iff.mpr hmem)
          rw [if_neg hmem, hnil, grouped_nil]; rfl
      rw [if_pos rfl, hold, below_append]
      simpa [use, Use.change, below] using ih m (below m us)
    · rw [if_neg hm, below_append]
      simp [below, Ne.symm hm]

/-- **A run of uses.** A page that was empty is the grouping of all that has been done to it. -/
theorem foldl_use_empty (name : Text) (us : List (Use α)) :
    us.foldl use (empty name) = grouped name us := by
  induction us using List.reverseRecOn with
  | nil => exact (grouped_nil name).symm
  | append_singleton us u ih => rw [List.foldl_append, ih]; exact use_grouped name us u

/-! ## Where pages are -/

/-- `p.At path q`: going down from `p` along the names of `path` one can come to `q`. Where names
are not distinct there are several such pages. -/
inductive At : Page α → List Text → Page α → Prop where
  | here (p : Page α) : At p [] p
  | there {p q r : Page α} {path : List Text} :
      q ∈ p.pages → At q path r → At p (q.name :: path) r

theorem at_nil_iff {p q : Page α} : p.At [] q ↔ q = p := by
  constructor
  · intro h; cases h; rfl
  · rintro rfl; exact At.here _

theorem at_cons_iff {p r : Page α} {n : Text} {path : List Text} :
    p.At (n :: path) r ↔ ∃ q ∈ p.pages, q.name = n ∧ q.At path r := by
  constructor
  · intro h
    cases h with
    | there hq hr => exact ⟨_, hq, rfl, hr⟩
  · rintro ⟨q, hq, rfl, hr⟩; exact At.there hq hr

theorem grouped_at_cons_iff {name n : Text} {us : List (Use α)} {path : List Text} {r : Page α} :
    (grouped name us).At (n :: path) r ↔ n ∈ names us ∧ (grouped n (below n us)).At path r := by
  rw [at_cons_iff, grouped_eq]
  constructor
  · rintro ⟨q, hq, hn, hr⟩
    obtain ⟨m, hm, rfl⟩ := List.mem_map.mp hq
    rw [grouped_name] at hn
    subst hn
    exact ⟨List.mem_eraseDups.mp hm, hr⟩
  · rintro ⟨hn, hr⟩
    exact ⟨_, List.mem_map.mpr ⟨n, List.mem_eraseDups.mpr hn, rfl⟩, grouped_name n _, hr⟩

theorem find?_grouped_cons (name n : Text) (us : List (Use α)) (path : List Text) :
    (grouped name us).find? (n :: path)
      = if n ∈ names us then (grouped n (below n us)).find? path else none := by
  have hfind := find?_map_eraseDups Page.name (fun m => grouped m (below m us))
    (fun m => grouped_name m _) (names us) n
  rw [grouped_eq, find?, hfind]
  split <;> rfl

/-- The names of a grouped page are distinct on every level, so what can be come to is found. -/
theorem find?_grouped_eq_some_iff {name : Text} {us : List (Use α)} {path : List Text}
    {q : Page α} : (grouped name us).find? path = some q ↔ (grouped name us).At path q := by
  induction path generalizing name us with
  | nil => rw [at_nil_iff, find?, Option.some.injEq, eq_comm]
  | cons n path ih =>
    rw [grouped_at_cons_iff, find?_grouped_cons]
    by_cases hn : n ∈ names us
    · simp [hn, ih]
    · simp [hn]

/-- The page at the end of a path is the grouping of the uses that went on from there. -/
theorem grouped_at_iff {name : Text} {us : List (Use α)} {path : List Text} {q : Page α} :
    (grouped name us).At path q ↔
      (path = [] ∨ belowAll path us ≠ [])
        ∧ q = grouped (path.getLastD name) (belowAll path us) := by
  induction path generalizing name us with
  | nil => simp [at_nil_iff, belowAll]
  | cons n path ih =>
    have hnil : belowAll path ([] : List (Use α)) = [] := by
      clear ih
      induction path with
      | nil => rfl
      | cons m path ih => simpa [belowAll, below] using ih
    rw [grouped_at_cons_iff, ih, mem_names_iff, List.getLastD_cons]
    constructor
    · rintro ⟨hn, hpath | hpath, rfl⟩
      · subst hpath; exact ⟨Or.inr hn, rfl⟩
      · exact ⟨Or.inr hpath, rfl⟩
    · rintro ⟨hpath, rfl⟩
      have hall : belowAll path (below n us) ≠ [] := hpath.resolve_left (by simp)
      have hn : below n us ≠ [] := fun h => hall (by rw [h, hnil])
      exact ⟨hn, Or.inr hall, rfl⟩

/-! ## Uses below a path, told from the top -/

/-- The name with which a path goes on behind another one, if it begins with that and goes on. -/
def stepAfter? : (path whole : List Text) → Option Text
  | [], whole => whole.head?
  | _ :: _, [] => none
  | n :: path, m :: whole => if m = n then stepAfter? path whole else none

theorem mem_belowAll_iff {path : List Text} {u : Use α} {us : List (Use α)} :
    u ∈ belowAll path us ↔ ⟨path ++ u.path, u.entry⟩ ∈ us := by
  induction path generalizing us with
  | nil => rfl
  | cons n path ih => rw [belowAll, ih, mem_below_iff]; rfl

theorem entries_belowAll (path : List Text) (us : List (Use α)) :
    entries (belowAll path us) = us.filterMap fun u => if u.path = path then u.entry else none := by
  induction path generalizing us with
  | nil => rfl
  | cons n path ih =>
    rw [belowAll, ih]
    induction us using below.induct n with
    | case1 => rfl
    | case2 e us ih => simpa [below] using ih
    | case3 path' e us ih => simp [below, List.filterMap_cons, ih]
    | case4 m path' e us hm ih => simp [below, hm, ih]

theorem names_belowAll (path : List Text) (us : List (Use α)) :
    names (belowAll path us) = us.filterMap fun u => stepAfter? path u.path := by
  induction path generalizing us with
  | nil => rfl
  | cons n path ih =>
    rw [belowAll, ih]
    induction us using below.induct n with
    | case1 => rfl
    | case2 e us ih => simp [below, stepAfter?, ih, List.filterMap_cons]
    | case3 path' e us ih => simp [below, stepAfter?, List.filterMap_cons, ih]
    | case4 m path' e us hm ih => simp [below, stepAfter?, hm, ih]

/-- What a section of a grouped page holds is what was put under its heading. -/
theorem inSections_sectionsOf (h : Text) (es : List (Text × α)) :
    inSections h (sectionsOf es) = under h es := by
  have hfind := find?_map_eraseDups Prod.fst (fun h' => (h', under h' es))
    (fun _ => rfl) (es.map Prod.fst) h
  rw [inSections, sectionsOf, hfind]
  by_cases hmem : h ∈ es.map Prod.fst
  · rw [if_pos hmem]; rfl
  · rw [if_neg hmem, under, Option.map_none, Option.getD_none, eq_comm,
      List.filterMap_eq_nil_iff]
    intro e he
    rw [if_neg fun hk : e.1 = h => hmem (hk ▸ List.mem_map_of_mem he)]

/-- What is stored in a section of a grouped page is what the uses put there, in order. -/
theorem stored_grouped (name : Text) (us : List (Use α)) (path : List Text) (h : Text) :
    (grouped name us).stored path h
      = under h (us.filterMap fun u => if u.path = path then u.entry else none) := by
  rw [← entries_belowAll]
  unfold stored
  cases hf : (grouped name us).find? path with
  | some q =>
    obtain ⟨-, rfl⟩ := grouped_at_iff.mp (find?_grouped_eq_some_iff.mp hf)
    rw [Option.map_some, Option.getD_some, grouped_eq, inSections_sectionsOf]
  | none =>
    have hnil : belowAll path us = [] := by
      by_contra hne
      have := find?_grouped_eq_some_iff.mpr (@grouped_at_iff _ name _ _ _ |>.mpr ⟨Or.inr hne, rfl⟩)
      rw [hf] at this
      exact absurd this (by simp)
    rw [hnil]; rfl

/-! ## Nothing is lost -/

theorem items_eq (p : Page α) : p.items = p.sections.flatMap (·.2) ++ itemsOfAll p.pages := by
  cases p; rw [items]

theorem flatMap_addToSections_perm (h : Text) (x : α) (ss : List (Text × List α)) :
    ((addToSections h x ss).flatMap (·.2)).Perm (x :: ss.flatMap (·.2)) := by
  induction ss with
  | nil => simp [addToSections]
  | cons s ss ih =>
    obtain ⟨h', xs⟩ := s
    by_cases hh : h' = h
    · simp only [addToSections, if_pos hh, List.flatMap_cons, List.append_assoc]
      exact List.perm_middle
    · simp only [addToSections, if_neg hh, List.flatMap_cons]
      exact (ih.append_left xs).trans List.perm_middle

theorem itemsOfAll_updateNamed_perm {f : Page α → Page α} {xs : List α}
    (hf : ∀ q, (f q).items.Perm (xs ++ q.items)) (n : Text) (ps : List (Page α)) :
    (itemsOfAll (updateNamed n f ps)).Perm (xs ++ itemsOfAll ps) := by
  induction ps with
  | nil =>
    have hempty : (empty n : Page α).items = [] := by rw [items_eq]; rfl
    have := hf (empty n)
    rw [hempty] at this
    simpa [updateNamed, itemsOfAll] using this
  | cons p ps ih =>
    by_cases hp : p.name = n
    · simp only [updateNamed, if_pos hp, itemsOfAll]
      rw [← List.append_assoc]
      exact (hf p).append_right _
    · simp only [updateNamed, if_neg hp, itemsOfAll]
      exact (ih.append_left _).trans (List.perm_append_comm_assoc _ _ _)

/-- A use adds what it puts in, wherever that goes, and nothing else. -/
theorem items_use_perm (p : Page α) (u : Use α) :
    (p.use u).items.Perm ((u.entry.map Prod.snd).toList ++ p.items) := by
  obtain ⟨path, e⟩ := u
  induction path generalizing p with
  | nil =>
    cases e with
    | none => exact List.Perm.refl _
    | some e =>
      obtain ⟨h, x⟩ := e
      simp only [use, updateAt, Use.change, add, items_eq, Option.map_some, Option.toList_some,
        List.singleton_append]
      exact (flatMap_addToSections_perm h x p.sections).append_right _
  | cons n path ih =>
    have hpages := itemsOfAll_updateNamed_perm (fun q => ih q) n p.pages
    simp only [use, updateAt, items_eq p, items_eq { p with pages := _ }]
    exact (hpages.append_left _).trans (List.perm_append_comm_assoc _ _ _)

/-- All that was put anywhere on a grouped page is among its items, as often as it was put. -/
theorem items_grouped_perm (name : Text) (us : List (Use α)) :
    (grouped name us).items.Perm (us.filterMap fun u => u.entry.map Prod.snd) := by
  induction us using List.reverseRecOn with
  | nil => rw [grouped_nil]; exact List.Perm.refl _
  | append_singleton us u ih =>
    rw [← use_grouped, List.filterMap_append]
    refine (items_use_perm _ u).trans ?_
    refine (ih.append_left _).trans (List.perm_append_comm.trans ?_)
    cases he : u.entry <;> simp [he]

end Page
end DocPress
