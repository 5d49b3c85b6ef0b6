import DocPress.Proofs.PageUses
import Mathlib.Data.List.Basic

/-!
# A page as a store

Three operations change a page: a path is walked, something is added at the end of a path, or
something is built in along a list of names. They may come in any order and at any place, again and
again, and `IsStore` says what the page is after any row of them: which pages there are, what is
stored where, and in which order everything stands.

Each operation is performed step by step, as a walk that is followed by an addition, and each of
them comes to one use of the page (`page_perform`). So a run of operations is a run of uses, which
leaves the grouping of all of them. Only a building without a name is refused, behind a walk that
goes nowhere.
-/

namespace DocPress.Page

variable {α : Type}

/-! ## Operations -/

/-- What can be done to a page. -/
inductive Operation (α : Type) where
  /-- Walks a path of names. -/
  | visit (path : List Text)
  /-- Walks a path of names and adds to a section of the page at its end. -/
  | add (path : List Text) (heading : Text) (x : α)
  /-- Walks all names but the last one, and adds to the section of the last one. -/
  | build (names : List Text) (x : α)

namespace Operation

/-- The path that is walked. -/
def path : Operation α → List Text
  | visit path => path
  | add path _ _ => path
  | build names _ => names.dropLast

/-- What is added at the end of the path, and under which heading. -/
def entry : Operation α → Option (Text × α)
  | visit _ => none
  | add _ heading x => some (heading, x)
  | build names x => names.getLast?.map (·, x)

/-- The use that an operation makes of the page. -/
def use (o : Operation α) : Use α := ⟨o.path, o.entry⟩

end Operation

/-- What comes of an operation: the page afterwards, and whether the operation was refused. -/
structure Outcome (α : Type) where
  page : Page α
  isRefused : Bool

/-- Performs an operation. What has been walked before a building is refused stays so. -/
def perform (p : Page α) : Operation α → Outcome α
  | .visit path => ⟨p.visit path, false⟩
  | .add path heading x => ⟨(p.visit path).addAt path heading x, false⟩
  | .build names x =>
    let walked := p.visit names.dropLast
    match names.getLast? with
    | none => ⟨walked, true⟩
    | some heading => ⟨walked.addAt names.dropLast heading x, false⟩

/-- The page of a name after a row of operations. -/
def run (name : Text) (os : List (Operation α)) : Page α :=
  os.foldl (fun p o => (p.perform o).page) (empty name)

/-! ## Walking a path twice -/

theorem updateNamed_updateNamed {f g : Page α → Page α} (hg : ∀ q, (g q).name = q.name) (n : Text)
    (ps : List (Page α)) :
    updateNamed n f (updateNamed n g ps) = updateNamed n (fun q => f (g q)) ps := by
  induction ps with
  | nil => simp [updateNamed, hg, empty]
  | cons p ps ih =>
    by_cases hp : p.name = n
    · simp [updateNamed, hp, hg]
    · simp [updateNamed, hp, ih]

theorem name_visit (path : List Text) (p : Page α) : (p.visit path).name = p.name := by
  cases path <;> rfl

/-- Walking a path ahead of a change at its end makes no difference. -/
theorem updateAt_visit (f : Page α → Page α) (path : List Text) (p : Page α) :
    updateAt f path (p.visit path) = updateAt f path p := by
  induction path generalizing p with
  | nil => rfl
  | cons n path ih =>
    have hpages : updateNamed n (updateAt f path) (updateNamed n (visit path) p.pages)
        = updateNamed n (updateAt f path) p.pages := by
      rw [updateNamed_updateNamed (name_visit path), funext ih]
    exact congrArg (Page.mk p.name p.sections) hpages

/-- Building along names is performed step by step. -/
theorem build?_eq_perform (p : Page α) (names : List Text) (x : α) : p.build? names x =
    if (p.perform (.build names x)).isRefused then none
    else some (p.perform (.build names x)).page := by
  rw [build?, perform]
  cases names.getLast? with
  | none => rfl
  | some heading => simp [addAt, updateAt_visit]

/-! ## Operations are uses -/

/-- **One operation.** It comes to one use of the page. -/
theorem page_perform (p : Page α) (o : Operation α) : (p.perform o).page = p.use o.use := by
  cases o with
  | visit path => rfl
  | add path heading x => exact updateAt_visit (add heading x) path p
  | build names x =>
    simp only [perform, use, Operation.use, Operation.path, Operation.entry]
    cases names.getLast? with
    | none => rfl
    | some heading => exact updateAt_visit (add heading x) names.dropLast p

/-- **A run of operations.** It leaves the grouping of the uses that the operations make. -/
theorem run_eq_grouped (name : Text) (os : List (Operation α)) :
    run name os = grouped name (os.map Operation.use) := by
  rw [← foldl_use_empty, List.foldl_map, run]
  congr 1
  funext p o
  exact page_perform p o

/-- Only a building without a name is refused. -/
theorem isRefused_perform_iff {p : Page α} {o : Operation α} :
    (p.perform o).isRefused = true ↔ ∃ x, o = .build [] x := by
  cases o with
  | visit path => simp [perform]
  | add path heading x => simp [perform]
  | build names x =>
    cases names with
    | nil => simp [perform]
    | cons n names => simp [perform, List.getLast?_cons]

/-! ## The store -/

/-- What was added under a heading at the end of a path, in order. -/
def addedAt (path : List Text) (heading : Text) (os : List (Operation α)) : List α :=
  os.filterMap fun o =>
    if o.path = path then (o.entry.filter (·.1 = heading)).map Prod.snd else none

/-- The headings under which something was added at the end of a path, in order. -/
def headingsAt (path : List Text) (os : List (Operation α)) : List Text :=
  os.filterMap fun o => if o.path = path then o.entry.map Prod.fst else none

/-- The names with which walks went on behind a path, in order. -/
def namesAt (path : List Text) (os : List (Operation α)) : List Text :=
  os.filterMap fun o => stepAfter? path o.path

/-- **The page is the store that a row of operations makes.** -/
structure IsStore (os : List (Operation α)) (p : Page α) : Prop where
  /-- The pages inside a page have distinct names, at whatever depth it is. -/
  names_nodup : ∀ path q, p.At path q → (q.pages.map (·.name)).Nodup
  /-- So a path leads to one page at most, which is the one that a search finds. -/
  found : ∀ path q, p.At path q ↔ p.find? path = some q
  /-- There is a page at the end of a path exactly if some operation walked through there. -/
  at_iff : ∀ path, (∃ q, p.At path q) ↔ path = [] ∨ ∃ o ∈ os, path <+: o.path
  /-- What is stored in a section is what was added there, in order. -/
  stored : ∀ path heading, p.stored path heading = addedAt path heading os
  /-- Sections stand in the order of their first use, and there are no others. -/
  sections : ∀ path q, p.At path q → q.sections
    = (headingsAt path os).eraseDups.map fun heading => (heading, addedAt path heading os)
  /-- The pages inside a page stand in the order of their first use, and there are no others. -/
  pages : ∀ path q, p.At path q → q.pages.map (·.name) = (namesAt path os).eraseDups
  /-- All items together are what was added, each as often as it was added. -/
  items : p.items.Perm (os.filterMap fun o => o.entry.map Prod.snd)

section Views

variable {name : Text} {os : List (Operation α)} {path : List Text}

theorem under_entriesAt (path : List Text) (heading : Text) (os : List (Operation α)) :
    under heading (os.filterMap fun o => if o.path = path then o.entry else none)
      = addedAt path heading os := by
  rw [under, List.filterMap_filterMap, addedAt]
  congr 1
  funext o
  split
  · cases o.entry <;> simp [Option.filter]
  · rfl

theorem entries_belowAll_use (path : List Text) (os : List (Operation α)) :
    Use.entries (Use.belowAll path (os.map Operation.use))
      = os.filterMap fun o => if o.path = path then o.entry else none := by
  rw [entries_belowAll, List.filterMap_map]
  rfl

theorem belowAll_use_ne_nil_iff :
    Use.belowAll path (os.map Operation.use) ≠ [] ↔ ∃ o ∈ os, path <+: o.path := by
  constructor
  · intro h
    obtain ⟨u, hu⟩ := List.exists_mem_of_ne_nil _ h
    obtain ⟨o, ho, hpath⟩ := List.mem_map.mp (mem_belowAll_iff.mp hu)
    exact ⟨o, ho, u.path, congrArg Use.path hpath.symm⟩
  · rintro ⟨o, ho, rest, hpath⟩
    have hu : (⟨rest, o.entry⟩ : Use α) ∈ Use.belowAll path (os.map Operation.use) := by
      rw [mem_belowAll_iff, hpath]
      exact List.mem_map_of_mem ho
    exact List.ne_nil_of_mem hu

theorem headingsAt_eq (path : List Text) (os : List (Operation α)) : headingsAt path os
    = (os.filterMap fun o => if o.path = path then o.entry else none).map Prod.fst := by
  rw [List.map_filterMap, headingsAt]
  congr 1
  funext o
  split <;> rfl

/-- A page that a run leaves, level by level. -/
theorem run_at_iff {q : Page α} : (run name os).At path q ↔ (path = [] ∨ ∃ o ∈ os, path <+: o.path)
    ∧ q = grouped (path.getLastD name) (Use.belowAll path (os.map Operation.use)) := by
  rw [run_eq_grouped, grouped_at_iff, belowAll_use_ne_nil_iff]

theorem sections_of_run_at {q : Page α} (h : (run name os).At path q) : q.sections
    = (headingsAt path os).eraseDups.map fun heading => (heading, addedAt path heading os) := by
  obtain ⟨-, rfl⟩ := run_at_iff.mp h
  rw [grouped_eq, sectionsOf, entries_belowAll_use, headingsAt_eq]
  simp only [under_entriesAt]

theorem pages_of_run_at {q : Page α} (h : (run name os).At path q) :
    q.pages.map (·.name) = (namesAt path os).eraseDups := by
  obtain ⟨-, rfl⟩ := run_at_iff.mp h
  rw [grouped_eq, names_belowAll, List.filterMap_map]
  simp only [List.map_map, Function.comp_def, grouped_name, List.map_id']
  rfl

end Views

theorem isStore_run (name : Text) (os : List (Operation α)) : IsStore os (run name os) where
  names_nodup path q h := by
    rw [pages_of_run_at h]
    exact nodup_eraseDups _
  found path q := by rw [run_eq_grouped, find?_grouped_eq_some_iff]
  at_iff path := by simp only [run_at_iff, exists_and_left, exists_eq, and_true]
  stored path heading := by
    rw [run_eq_grouped, stored_grouped, List.filterMap_map]
    exact under_entriesAt path heading os
  sections path q h := sections_of_run_at h
  pages path q h := pages_of_run_at h
  items := by
    rw [run_eq_grouped]
    have hitems := items_grouped_perm name (os.map Operation.use)
    rw [List.filterMap_map] at hitems
    exact hitems

/--
**Pages are an ordered store.**

After any row of operations on an empty page, the page is the store that they make. Whatever is done
next, it is refused exactly if it is a building without a name, which leaves the page as it is; and
building comes to what it is in steps.
-/
theorem operations_make_store (name : Text) (os : List (Operation α)) :
    IsStore os (run name os)
      ∧ (∀ o, ((run name os).perform o).isRefused = true ↔ ∃ x, o = .build [] x)
      ∧ (∀ x, ((run name os).perform (.build [] x)).page = run name os)
      ∧ ∀ names x, (run name os).build? names x =
        if ((run name os).perform (.build names x)).isRefused then none
        else some ((run name os).perform (.build names x)).page :=
  ⟨isStore_run name os, fun _ => isRefused_perform_iff, fun _ => rfl,
    fun names x => build?_eq_perform _ names x⟩

-- a page that is only walked to comes before one that is made later, and a refusal leaves no trace
example : run "Guide".toList [.visit ["b".toList], .build [] 1, .build ["a".toList, "S".toList] 2]
    = ⟨"Guide".toList, [], [⟨"b".toList, [], []⟩, ⟨"a".toList, [("S".toList, [2])], []⟩]⟩ := by
  rfl

end DocPress.Page
