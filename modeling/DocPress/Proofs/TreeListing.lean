import DocPress.Proofs.DiskContent
import DocPress.Source.Discovery
import Mathlib.Data.List.Nodup

/-!
# Listing a tree

`Node.files` lists all files below a directory, depth first: the files of a directory in the order
of their names, and then, in the order of theirs, its directories with what is below them. Nothing
is left out: the places in the list are those at which there is a file (`mem_files_iff`). What comes
before what can be told from the two places alone (`Precedes`): where they part, a file comes before
a directory, and else the names decide (`pairwise_files`). There is no other list of these places in
this order (`Lists.unique`).
-/

namespace DocPress

/-! ## The order of texts -/

namespace Text

theorem le_cons_iff {a b : Char} {s t : Text} :
    le (a :: s) (b :: t) = true ↔ a.toNat < b.toNat ∨ (a = b ∧ le s t = true) := by
  simp [le]

theorem le_total (s t : Text) : (le s t || le t s) = true := by
  induction s generalizing t with
  | nil => simp [le]
  | cons a s ih =>
    cases t with
    | nil => simp [le]
    | cons b t =>
      rw [Bool.or_eq_true, le_cons_iff, le_cons_iff]
      rcases Nat.lt_trichotomy a.toNat b.toNat with hlt | heq | hlt
      · exact Or.inl (Or.inl hlt)
      · obtain rfl := Char.toNat_inj.mp heq
        rcases Bool.or_eq_true .. ▸ ih t with hle | hle
        · exact Or.inl (Or.inr ⟨rfl, hle⟩)
        · exact Or.inr (Or.inr ⟨rfl, hle⟩)
      · exact Or.inr (Or.inl hlt)

theorem le_trans (r s t : Text) (h : le r s = true) (h' : le s t = true) : le r t = true := by
  induction r generalizing s t with
  | nil => rfl
  | cons a r ih =>
    cases s with
    | nil => exact absurd h (by simp [le])
    | cons b s =>
      cases t with
      | nil => exact absurd h' (by simp [le])
      | cons c t =>
        rw [le_cons_iff] at h h' ⊢
        rcases h with hlt | ⟨rfl, hle⟩ <;> rcases h' with hlt' | ⟨rfl, hle'⟩
        · exact Or.inl (by omega)
        · exact Or.inl hlt
        · exact Or.inl hlt'
        · exact Or.inr ⟨rfl, ih s t hle hle'⟩

theorem le_antisymm {s t : Text} (h : le s t = true) (h' : le t s = true) : s = t := by
  induction s generalizing t with
  | nil =>
    cases t with
    | nil => rfl
    | cons b t => exact absurd h' (by simp [le])
  | cons a s ih =>
    cases t with
    | nil => exact absurd h (by simp [le])
    | cons b t =>
      rw [le_cons_iff] at h h'
      rcases h with hlt | ⟨rfl, hle⟩
      · rcases h' with hlt' | ⟨rfl, -⟩ <;> omega
      · rcases h' with hlt' | ⟨-, hle'⟩
        · omega
        · rw [ih hle hle']

end Text

/-! ## Sorting by name -/

/-- The order of named things by their names. -/
def byName {α : Type} (a b : Text × α) : Bool := Text.le a.1 b.1

section Sorting

variable {α : Type} {es : List (Text × α)}

/-- The one text comes before the other one. -/
def Before (s t : Text) : Prop := Text.le s t = true ∧ s ≠ t

theorem pairwise_sort {ts : List Text} (h : ts.Nodup) : (Text.sort ts).Pairwise Before := by
  have hle := List.pairwise_mergeSort Text.le_trans Text.le_total ts
  have hne : (Text.sort ts).Nodup := (List.mergeSort_perm ts Text.le).nodup_iff.mpr h
  exact hle.and hne

theorem byName_trans (a b c : Text × α) (h : byName a b = true) (h' : byName b c = true) :
    byName a c = true := Text.le_trans _ _ _ h h'

theorem byName_total (a b : Text × α) : (byName a b || byName b a) = true := Text.le_total _ _

theorem pairwise_byName (h : (es.map (·.1)).Nodup) :
    (es.mergeSort byName).Pairwise fun a b => Before a.1 b.1 := by
  have hle := List.pairwise_mergeSort byName_trans byName_total es
  have hne : ((es.mergeSort byName).map (·.1)).Nodup :=
    ((List.mergeSort_perm es byName).map (·.1)).nodup_iff.mpr h
  exact hle.and (List.pairwise_map.mp hne)

/-- Things of distinct names can be picked before they are sorted or afterwards. -/
theorem filter_mergeSort_byName (h : (es.map (·.1)).Nodup) (p : Text × α → Bool) :
    (es.mergeSort byName).filter p = (es.filter p).mergeSort byName := by
  have hsorted (fs : List (Text × α)) := List.pairwise_mergeSort byName_trans byName_total fs
  have hperm : ((es.mergeSort byName).filter p).Perm ((es.filter p).mergeSort byName) :=
    ((List.mergeSort_perm es byName).filter p).trans (List.mergeSort_perm _ byName).symm
  refine hperm.eq_of_pairwise (fun a b ha hb hle hle' => ?_) ((hsorted es).filter p) (hsorted _)
  -- the order tells names apart, and things by their names
  have ha : a ∈ es := List.mem_mergeSort.mp (List.mem_filter.mp ha).1
  have hb : b ∈ es := (List.mem_filter.mp (List.mem_mergeSort.mp hb)).1
  exact List.inj_on_of_nodup_map h ha hb (Text.le_antisymm hle hle')

end Sorting

/-! ## The files below a directory -/

namespace Node

mutual

/-- The places of the files below a node. -/
def files : Node → List Location
  | file _ => []
  | dir es =>
    (Text.sort (Discovery.fileNames es)).map ([·]) ++
      ((filesIn es).mergeSort byName).flatMap fun e => e.2.map (e.1 :: ·)

/-- The directories among entries, with the places of the files below each. -/
def filesIn : List (Text × Node) → List (Text × List Location)
  | [] => []
  | (_, file _) :: es => filesIn es
  | (name, dir entries) :: es => (name, files (dir entries)) :: filesIn es

end

variable {es : List (Text × Node)} {n : Text} {l k : Location}

theorem mem_fileNames_iff : n ∈ Discovery.fileNames es ↔ ∃ bytes, (n, file bytes) ∈ es := by
  unfold Discovery.fileNames
  constructor
  · intro h
    obtain ⟨⟨m, x⟩, he, rfl⟩ := List.mem_map.mp h
    obtain ⟨he, hfile⟩ := List.mem_filter.mp he
    cases x with
    | file bytes => exact ⟨bytes, he⟩
    | dir entries => exact absurd hfile (by simp [isDir])
  · rintro ⟨bytes, he⟩
    exact List.mem_map.mpr ⟨_, List.mem_filter.mpr ⟨he, rfl⟩, rfl⟩

theorem nodup_fileNames (h : (es.map (·.1)).Nodup) : (Discovery.fileNames es).Nodup :=
  h.sublist (List.filter_sublist.map _)

theorem mem_filesIn_iff {e : Text × List Location} :
    e ∈ filesIn es ↔ ∃ entries, (e.1, dir entries) ∈ es ∧ e.2 = files (dir entries) := by
  induction es with
  | nil => simp [filesIn]
  | cons f es ih =>
    obtain ⟨m, x⟩ := f
    cases x with
    | file bytes => simp [filesIn, ih]
    | dir entries =>
      rw [filesIn, List.mem_cons, ih]
      constructor
      · rintro (rfl | ⟨entries', he, hfiles⟩)
        · exact ⟨entries, List.mem_cons_self .., rfl⟩
        · exact ⟨entries', List.mem_cons_of_mem _ he, hfiles⟩
      · rintro ⟨entries', he, hfiles⟩
        rcases List.mem_cons.mp he with he | he
        · obtain ⟨rfl, hdir⟩ := Prod.mk.inj he
          obtain rfl := Node.dir.inj hdir
          exact Or.inl (Prod.ext rfl hfiles)
        · exact Or.inr ⟨entries', he, hfiles⟩

theorem sublist_filesIn (es : List (Text × Node)) :
    ((filesIn es).map (·.1)).Sublist (es.map (·.1)) := by
  induction es with
  | nil => exact List.Sublist.refl _
  | cons f es ih =>
    obtain ⟨m, x⟩ := f
    cases x with
    | file bytes => exact ih.cons m
    | dir entries => exact ih.cons_cons m

/-- A place in the list is that of a file of the directory, or of one in a directory of it. -/
theorem mem_files_dir_iff : l ∈ files (dir es) ↔
    (∃ n bytes, (n, file bytes) ∈ es ∧ l = [n])
      ∨ ∃ n entries k, (n, dir entries) ∈ es ∧ k ∈ files (dir entries) ∧ l = n :: k := by
  rw [files, List.mem_append]
  refine or_congr ?_ ?_
  · constructor
    · intro h
      obtain ⟨n, hn, rfl⟩ := List.mem_map.mp h
      obtain ⟨bytes, he⟩ := mem_fileNames_iff.mp (List.mem_mergeSort.mp hn)
      exact ⟨n, bytes, he, rfl⟩
    · rintro ⟨n, bytes, he, rfl⟩
      exact List.mem_map.mpr ⟨n, List.mem_mergeSort.mpr (mem_fileNames_iff.mpr ⟨bytes, he⟩), rfl⟩
  · constructor
    · intro h
      obtain ⟨e, he, hl⟩ := List.mem_flatMap.mp h
      obtain ⟨k, hk, rfl⟩ := List.mem_map.mp hl
      obtain ⟨entries, hmem, hfiles⟩ := mem_filesIn_iff.mp (List.mem_mergeSort.mp he)
      exact ⟨e.1, entries, k, hmem, hfiles ▸ hk, rfl⟩
    · rintro ⟨n, entries, k, hmem, hk, rfl⟩
      have he : (n, files (dir entries)) ∈ filesIn es := mem_filesIn_iff.mpr ⟨entries, hmem, rfl⟩
      exact List.mem_flatMap.mpr ⟨_, List.mem_mergeSort.mpr he, List.mem_map.mpr ⟨k, hk, rfl⟩⟩

theorem nil_notMem_files (x : Node) : [] ∉ x.files := by
  cases x with
  | file bytes => simp [files]
  | dir es =>
    intro h
    rcases mem_files_dir_iff.mp h with ⟨n, bytes, -, hl⟩ | ⟨n, entries, k, -, -, hl⟩ <;>
      exact absurd hl (by simp)

theorem lookup?_eq_some_iff {x : Node} (h : (es.map (·.1)).Nodup) :
    lookup? n es = some x ↔ (n, x) ∈ es := by
  refine ⟨mem_of_lookup?_eq_some, fun hmem => ?_⟩
  induction es with
  | nil => exact absurd hmem (by simp)
  | cons e es ih =>
    obtain ⟨m, y⟩ := e
    rw [List.map_cons, List.nodup_cons] at h
    rcases List.mem_cons.mp hmem with he | hmem
    · obtain ⟨rfl, rfl⟩ := Prod.mk.inj he
      rw [lookup?, if_pos rfl]
    · have hne : m ≠ n := by
        rintro rfl
        exact h.1 (List.mem_map.mpr ⟨_, hmem, rfl⟩)
      rw [lookup?, if_neg hne]
      exact ih h.2 hmem

theorem Sound.of_dir (h : Sound (Node.dir es)) :
    (es.map (·.1)).Nodup ∧ (∀ e ∈ es, Path.IsName e.1) ∧ ∀ e ∈ es, Sound e.2 := by
  cases h with
  | dir hnodup hnames hsub => exact ⟨hnodup, hnames, hsub⟩

/-- **The list holds the places at which there is a file.** -/
theorem mem_files_iff (hx : Sound (dir es)) :
    l ∈ files (dir es) ↔ ∃ bytes, at? l (dir es) = some (file bytes) := by
  induction l generalizing es with
  | nil => exact iff_of_false (nil_notMem_files _) (by simp [at?])
  | cons n l ih =>
    obtain ⟨hnodup, -, hsub⟩ := hx.of_dir
    rw [mem_files_dir_iff]
    constructor
    · rintro (⟨m, bytes, he, hl⟩ | ⟨m, entries, k, he, hk, hl⟩)
      · obtain ⟨rfl, rfl⟩ := List.cons.inj hl
        exact ⟨bytes, by rw [at?_singleton, (lookup?_eq_some_iff hnodup).mpr he]⟩
      · obtain ⟨rfl, rfl⟩ := List.cons.inj hl
        obtain ⟨bytes, hfile⟩ := (ih (hsub _ he)).mp hk
        exact ⟨bytes, by rw [at?, (lookup?_eq_some_iff hnodup).mpr he]; exact hfile⟩
    · rintro ⟨bytes, hfile⟩
      rw [at?] at hfile
      obtain ⟨x, hlook, hat⟩ := Option.bind_eq_some_iff.mp hfile
      have he := mem_of_lookup?_eq_some hlook
      cases x with
      | file bytes' =>
        cases l with
        | nil => exact Or.inl ⟨n, bytes', he, rfl⟩
        | cons m l => exact absurd hat (by simp [at?])
      | dir entries => exact Or.inr ⟨n, entries, l, he, (ih (hsub _ he)).mpr ⟨bytes, hat⟩, rfl⟩

/-! ## What comes before what -/

/-- The one place is listed before the other one. -/
def Precedes : Location → Location → Prop
  | [n], [m] => Before n m
  | [_], _ :: _ :: _ => True
  | n :: n' :: l, m :: m' :: k => Before n m ∨ (n = m ∧ Precedes (n' :: l) (m' :: k))
  | _, _ => False

theorem precedes_cons (hl : l ≠ []) (hk : k ≠ []) (n m : Text) :
    Precedes (n :: l) (m :: k) ↔ Before n m ∨ (n = m ∧ Precedes l k) := by
  obtain ⟨n', l, rfl⟩ := List.exists_cons_of_ne_nil hl
  obtain ⟨m', k, rfl⟩ := List.exists_cons_of_ne_nil hk
  exact Iff.rfl

theorem precedes_file (hk : k ≠ []) (n m : Text) : Precedes [n] (m :: k) := by
  obtain ⟨m', k, rfl⟩ := List.exists_cons_of_ne_nil hk
  trivial

mutual

/-- **The list is in order.** -/
theorem pairwise_files : (x : Node) → x.Sound → x.files.Pairwise Precedes
  | file _, _ => by rw [files]; exact List.Pairwise.nil
  | dir es, hx => by
    obtain ⟨hnodup, -, hsub⟩ := hx.of_dir
    have hnames : ((filesIn es).map (·.1)).Nodup := hnodup.sublist (sublist_filesIn es)
    have hne : ∀ e ∈ (filesIn es).mergeSort byName, ∀ k ∈ e.2, k ≠ [] := by
      intro e he k hk hnil
      obtain ⟨entries, -, hfiles⟩ := mem_filesIn_iff.mp (List.mem_mergeSort.mp he)
      rw [hfiles, hnil] at hk
      exact nil_notMem_files _ hk
    rw [files, List.pairwise_append]
    refine ⟨?_, ?_, ?_⟩
    · exact List.pairwise_map.mpr (pairwise_sort (nodup_fileNames hnodup))
    · rw [List.pairwise_flatMap]
      refine ⟨fun e he => ?_, ?_⟩
      · -- within a directory its own list decides
        refine List.pairwise_map.mpr ?_
        have hbelow := pairwise_filesIn es hsub e (List.mem_mergeSort.mp he)
        refine hbelow.imp_of_mem fun hl hk hprecedes => ?_
        exact (precedes_cons (hne e he _ hl) (hne e he _ hk) _ _).mpr (Or.inr ⟨rfl, hprecedes⟩)
      · refine (pairwise_byName hnames).imp_of_mem fun he hf hbefore l hl k hk => ?_
        obtain ⟨l', hl', rfl⟩ := List.mem_map.mp hl
        obtain ⟨k', hk', rfl⟩ := List.mem_map.mp hk
        exact (precedes_cons (hne _ he l' hl') (hne _ hf k' hk') _ _).mpr (Or.inl hbefore)
    · intro l hl k hk
      obtain ⟨n, -, rfl⟩ := List.mem_map.mp hl
      obtain ⟨e, he, hk⟩ := List.mem_flatMap.mp hk
      obtain ⟨k', hk', rfl⟩ := List.mem_map.mp hk
      exact precedes_file (hne e he k' hk') n e.1

theorem pairwise_filesIn : (es : List (Text × Node)) → (∀ e ∈ es, Sound e.2) →
    ∀ e ∈ filesIn es, e.2.Pairwise Precedes
  | [], _ => by simp [filesIn]
  | (_, file _) :: es, h => by
    rw [filesIn]
    exact pairwise_filesIn es fun e he => h e (List.mem_cons_of_mem _ he)
  | (n, dir entries) :: es, h => by
    intro e he
    rw [filesIn] at he
    rcases List.mem_cons.mp he with rfl | he
    · exact pairwise_files (dir entries) (h (n, dir entries) (List.mem_cons_self ..))
    · exact pairwise_filesIn es (fun e he => h e (List.mem_cons_of_mem _ he)) e he

end

theorem precedes_asymm (h : Precedes l k) : ¬ Precedes k l := by
  induction l generalizing k with
  | nil => exact absurd h (by simp [Precedes])
  | cons n l ih =>
    have hbefore {s t : Text} (h : Before s t) : ¬ Before t s := fun h' =>
      h.2 (Text.le_antisymm h.1 h'.1)
    match l, k, h with
    | [], [m], h => exact hbefore h
    | [], m :: m' :: k, _ => exact id
    | n' :: l, m :: m' :: k, h =>
      rcases h with h | ⟨rfl, h⟩
      · rintro (h' | ⟨rfl, -⟩)
        · exact hbefore h h'
        · exact h.2 rfl
      · rintro (h' | ⟨-, h'⟩)
        · exact h'.2 rfl
        · exact ih h h'

/-- The places are those of the files below the node, in order. -/
structure Lists (x : Node) (ls : List Location) : Prop where
  mem : ∀ l, l ∈ ls ↔ ∃ bytes, at? l x = some (file bytes)
  order : ls.Pairwise Precedes

theorem lists_files (hx : Sound (dir es)) : Lists (dir es) (files (dir es)) :=
  ⟨fun _ => mem_files_iff hx, pairwise_files _ hx⟩

/-- **There is one list only.** -/
theorem Lists.unique {x : Node} {ls ks : List Location} (hl : Lists x ls) (hk : Lists x ks) :
    ls = ks := by
  have hnodup {ls : List Location} (h : ls.Pairwise Precedes) : ls.Nodup := by
    refine h.imp fun h he => ?_
    subst he
    exact precedes_asymm h h
  have hperm : ls.Perm ks := by
    refine (List.perm_ext_iff_of_nodup (hnodup hl.order) (hnodup hk.order)).mpr fun l => ?_
    rw [hl.mem, hk.mem]
  exact hperm.eq_of_pairwise (fun _ _ _ _ h h' => absurd h' (precedes_asymm h)) hl.order hk.order

end Node
end DocPress
