import DocPress.Proofs.DiskOperations
import DocPress.Proofs.TreeListing
import Mathlib.Data.List.Infix

/-!
# What discovery finds

A search goes through its sources and prunes on the way: a directory that is ignored is not entered,
and the names that are left are sorted. What it finds can be told without going anywhere. Take the
list of all files below a source (`Node.files`), and keep those that are wanted and that no ignored
directory separates from the source: this is what the source gives (`Search.filesOf`). A search
finds what its sources give, one after the other, each path where it comes up first, up to the first
source that is not there (`run_finds_wanted`).

Pruning is a recursion over the tree, and keeping is a condition on a place; `filesBelow_eq` says
that they come to the same. Sorting and picking change places there, which is why names have to be
distinct.
-/

namespace DocPress

/-! ## Ignore files -/

namespace Ignore

/-- The patterns that count: those that are given, and those of the ignore file if its name is among
them, in its place. -/
def active (d : Disk) (cwd : Text) (patterns : List Text) : List Text :=
  if patterns.contains fileName then
    patterns.filter (· ≠ fileName) ++
      match d.readText (Path.append cwd fileName) with
      | .ok t => patternsOf t
      | .error _ => []
  else patterns

variable {d : Disk} {cwd : Text} {patterns : List Text}

theorem readText_of_not_has {path : Text} (h : d.has path = false) :
    ∃ e, d.readText path = .error e := by
  unfold Disk.has Disk.node? at h
  unfold Disk.readText Disk.read
  cases hlocate : d.locate path with
  | error e => exact ⟨.disk e, rfl⟩
  | ok place =>
    rw [hlocate] at h
    cases hat : d.root.at? place with
    | none => exact ⟨.disk (.failed .notFound path), by simp only [hat]⟩
    | some x => exact absurd h (by simp [hat])

/-- Unless the ignore file is there and cannot be read, the patterns that count are found. -/
theorem expand_ok (h : fileName ∈ patterns → d.has (Path.append cwd fileName) = true →
      ∃ t, d.readText (Path.append cwd fileName) = .ok t) :
    ∃ ignored, (expand d cwd patterns).value = .ok ignored
      ∧ ∀ p, p ∈ ignored ↔ p ∈ active d cwd patterns := by
  unfold expand active
  cases hname : patterns.contains fileName with
  | false => exact ⟨patterns, rfl, fun p => Iff.rfl⟩
  | true =>
    simp only [Bool.not_true, Bool.false_eq_true, if_false, if_true]
    cases hhas : d.has (Path.append cwd fileName) with
    | false =>
      obtain ⟨e, hread⟩ := readText_of_not_has hhas
      refine ⟨_, rfl, fun p => ?_⟩
      simp only [hread, List.append_nil, Text.sort, List.mem_mergeSort, List.mem_eraseDups]
    | true =>
      obtain ⟨t, hread⟩ := h (List.contains_iff_mem.mp hname) hhas
      simp only [hread, Bool.not_true, Bool.false_eq_true, if_false]
      refine ⟨_, rfl, fun p => ?_⟩
      simp only [Text.sort, List.mem_mergeSort, List.mem_eraseDups]

/-- What is ignored depends on which patterns there are, not on their order. -/
theorem isIgnored_congr {ps qs : List Text} (h : ∀ p, p ∈ ps ↔ p ∈ qs) (path rel : Text) :
    isIgnored cwd ps path rel = isIgnored cwd qs path rel := by
  unfold isIgnored
  rw [Bool.eq_iff_iff, List.any_eq_true, List.any_eq_true]
  exact exists_congr fun p => and_congr_left fun _ => h p

end Ignore

/-! ## Nodes of a tree -/

theorem Node.Sound.of_at? {x y : Node} {l : Location} (hx : x.Sound) (h : x.at? l = some y) :
    y.Sound := by
  induction l generalizing x with
  | nil =>
    obtain rfl := Option.some.inj h
    exact hx
  | cons n l ih =>
    cases x with
    | file bytes => exact absurd h (by simp [Node.at?])
    | dir es =>
      obtain ⟨z, hlook, hat⟩ := Option.bind_eq_some_iff.mp h
      exact ih (hx.of_dir.2.2 _ (Node.mem_of_lookup?_eq_some hlook)) hat

/-! ## The way from one path to another -/

namespace Path

theorem commonComponents_append (cs ds : List Text) : commonComponents cs (cs ++ ds) = cs := by
  induction cs with
  | nil => cases ds <;> rfl
  | cons c cs ih => rw [List.cons_append, commonComponents, if_pos rfl, ih]

/-- From a directory to a place below it lead the names of the place. -/
theorem relativeTo_appendAll (root : Text) {l : Location} (hl : l ≠ [])
    (hnames : ∀ c ∈ l, IsName c) : relativeTo root (appendAll root l) = Text.join ['/'] l := by
  have hslash : ∀ c ∈ l, '/' ∉ c := fun c hc => (isName_iff.mp (hnames c hc)).2.1
  have hfilter : l.filter (!·.isEmpty) = l := by
    refine List.filter_eq_self.mpr fun c hc => ?_
    have hne := (isName_iff.mp (hnames c hc)).1
    simpa using hne
  unfold relativeTo
  simp only [components_appendAll hslash, hfilter, commonComponents_append, Nat.sub_self,
    List.replicate_zero, List.nil_append, List.drop_left]

end Path

namespace Discovery

/-! ## Places below a source -/

/-- What is come upon at a place below. -/
def Find.at (f : Find) (l : Location) : Find := l.foldl Find.entry f

/-- The file at a place below a source. -/
def below (root : Text) (l : Location) : Find :=
  { path := Path.appendAll root l
    rel := Path.relativeTo root (Path.appendAll root l) }

theorem Find.path_at (f : Find) (l : Location) : (f.at l).path = Path.appendAll f.path l := by
  induction l generalizing f with
  | nil => rfl
  | cons n l ih => exact ih (f.entry n)

theorem Find.rel_at {f : Find} (hf : f.rel ≠ []) (l : Location) :
    (f.at l).rel = Text.join ['/'] (f.rel :: l) := by
  induction l generalizing f with
  | nil => simp [Find.at, Text.join]
  | cons n l ih =>
    have hentry : (f.entry n).rel = f.rel ++ '/' :: n := by
      simp only [Find.entry, List.isEmpty_iff, hf, if_false]
    have hrest := ih (f := f.entry n) (by rw [hentry]; simp)
    show ((f.entry n).at l).rel = _
    rw [hrest, hentry, Text.join_cons_cons]
    cases l with
    | nil => simp [Text.join]
    | cons m l => rw [Text.join_cons_cons, Text.join_cons_cons]; simp

/-- The path of a find as it was put together on the way is the way from the source. -/
theorem at_eq_below (root : Text) {l : Location} (hl : l ≠ []) (hnames : ∀ c ∈ l, Path.IsName c) :
    Find.at ⟨root, []⟩ l = below root l := by
  obtain ⟨n, l, rfl⟩ := List.exists_cons_of_ne_nil hl
  have hne : n ≠ [] := (Path.isName_iff.mp (hnames n (List.mem_cons_self ..))).1
  have hrel : (Find.at ⟨root, []⟩ (n :: l)).rel = Text.join ['/'] (n :: l) :=
    Find.rel_at (f := Find.entry ⟨root, []⟩ n) hne l
  have hpath := Find.path_at ⟨root, []⟩ (n :: l)
  unfold below
  rw [Path.relativeTo_appendAll root hl hnames, ← hrel, ← hpath]

/-! ## Pruning -/

/-- No directory on the way to a place is ignored. -/
def isOpen (s : Search) (top : Find) : Location → Bool
  | n :: m :: l => !s.ignores (top.entry n) && isOpen s (top.entry n) (m :: l)
  | _ => true

variable {s : Search} {top : Find} {l : Location}

theorem isOpen_cons (n : Text) (hl : l ≠ []) :
    isOpen s top (n :: l) = (!s.ignores (top.entry n) && isOpen s (top.entry n) l) := by
  obtain ⟨m, l, rfl⟩ := List.exists_cons_of_ne_nil hl
  rfl

theorem isOpen_iff : isOpen s top l = true
    ↔ ∀ k, k <+: l → k ≠ [] → k ≠ l → s.ignores (top.at k) = false := by
  induction l generalizing top with
  | nil =>
    refine iff_of_true rfl fun k hk hne => absurd (List.prefix_nil.mp hk) hne
  | cons n l ih =>
    by_cases hl : l = []
    · subst hl
      refine iff_of_true rfl fun k hk hne hne' => ?_
      rcases List.prefix_cons_iff.mp hk with rfl | ⟨k', rfl, hk'⟩
      · exact absurd rfl hne
      · exact absurd (by rw [List.prefix_nil.mp hk']) hne'
    · rw [isOpen_cons n hl, Bool.and_eq_true, Bool.not_eq_true', ih]
      constructor
      · rintro ⟨hfirst, hrest⟩ k hk hne hne'
        rcases List.prefix_cons_iff.mp hk with rfl | ⟨k', rfl, hk'⟩
        · exact absurd rfl hne
        · by_cases hnil : k' = []
          · subst hnil
            exact hfirst
          · exact hrest k' hk' hnil fun he => hne' (by rw [he])
      · intro h
        have hcons {k : Location} (hk : k <+: l) (hne : k ≠ l) :
            s.ignores (top.at (n :: k)) = false :=
          h (n :: k) (List.cons_prefix_cons.mpr ⟨rfl, hk⟩) (by simp) fun he =>
            hne (List.cons.inj he).2
        exact ⟨hcons List.nil_prefix (Ne.symm hl), fun k hk _ hne => hcons hk hne⟩

/-- What is below one of the directories is kept if the directory is not ignored, and the way on is
free. -/
theorem filter_isOpen_cons (n : Text) {ls : List Location} (hls : [] ∉ ls) :
    ((ls.map (n :: ·)).filter (isOpen s top)).map top.at
      = if s.ignores (top.entry n) then []
        else (ls.filter (isOpen s (top.entry n))).map (top.entry n).at := by
  have hne : ∀ k ∈ ls, k ≠ [] := fun k hk hnil => hls (hnil ▸ hk)
  rw [List.filter_map, List.map_map]
  split
  · rename_i hignored
    have hnone : ls.filter (isOpen s top ∘ (n :: ·)) = [] := by
      refine List.filter_eq_nil_iff.mpr fun k hk => ?_
      rw [Function.comp_apply, isOpen_cons n (hne k hk), hignored]
      simp
    rw [hnone]
    rfl
  · rename_i hnot
    have hsame : ls.filter (isOpen s top ∘ (n :: ·)) = ls.filter (isOpen s (top.entry n)) := by
      refine List.filter_congr fun k hk => ?_
      rw [Function.comp_apply, isOpen_cons n (hne k hk), Bool.eq_false_iff.mpr hnot]
      simp
    rw [hsame]
    rfl

theorem flatMap_filter {α β : Type} (p : α → Bool) (f : α → List β) (as : List α) :
    (as.filter p).flatMap f = as.flatMap fun a => if p a then f a else [] := by
  induction as with
  | nil => rfl
  | cons a as ih =>
    rw [List.filter_cons, List.flatMap_cons]
    cases hp : p a <;> simp [ih]

mutual

/-- **Pruning on the way and picking from the list come to the same.** -/
theorem filesBelow_eq (s : Search) (top : Find) : (x : Node) → x.Sound →
    filesBelow s top x = (x.files.filter (isOpen s top)).map top.at
  | .file _, _ => by rw [filesBelow, Node.files]; rfl
  | .dir es, hx => by
    obtain ⟨hnodup, -, hsub⟩ := hx.of_dir
    have hnames : ((Node.filesIn es).map (·.1)).Nodup :=
      hnodup.sublist (Node.sublist_filesIn es)
    -- the files of the directory itself: nothing is on the way to them
    have hhere : ((Text.sort (fileNames es)).map ([·])).filter (isOpen s top)
        = (Text.sort (fileNames es)).map ([·]) := by
      refine List.filter_eq_self.mpr fun l hl => ?_
      obtain ⟨n, -, rfl⟩ := List.mem_map.mp hl
      rfl
    rw [filesBelow, Node.files, List.filter_append, List.map_append, hhere, List.map_map]
    refine congrArg₂ (· ++ ·) rfl ?_
    have hsorted (ds : List (Text × List Location)) (f : Text × List Location → List Find) :
        (ds.map fun e => (e.1, f e)).mergeSort nameLe
          = (ds.mergeSort byName).map fun e => (e.1, f e) := by
      symm
      exact List.map_mergeSort fun _ _ _ _ => rfl
    rw [listings_eq s top es hsub, hsorted, ← filter_mergeSort_byName hnames, List.flatMap_map,
      flatMap_filter, List.filter_flatMap, List.map_flatMap]
    refine List.flatMap_congr fun e he => ?_
    have hne : [] ∉ e.2 := by
      obtain ⟨entries, -, hfiles⟩ := Node.mem_filesIn_iff.mp (List.mem_mergeSort.mp he)
      rw [hfiles]
      exact Node.nil_notMem_files _
    rw [filter_isOpen_cons e.1 hne]
    cases s.ignores (top.entry e.1) <;> rfl

theorem listings_eq (s : Search) (top : Find) : (es : List (Text × Node)) →
    (∀ e ∈ es, e.2.Sound) → listings s top es
      = ((Node.filesIn es).filter fun e => !s.ignores (top.entry e.1)).map fun e =>
        (e.1, (e.2.filter (isOpen s (top.entry e.1))).map (top.entry e.1).at)
  | [], _ => by rw [listings, Node.filesIn]; rfl
  | (_, .file _) :: es, h => by
    rw [listings, Node.filesIn]
    exact listings_eq s top es fun e he => h e (List.mem_cons_of_mem _ he)
  | (n, .dir entries) :: es, h => by
    have hrest := listings_eq s top es fun e he => h e (List.mem_cons_of_mem _ he)
    have hbelow := filesBelow_eq s (top.entry n) (.dir entries)
      (h (n, .dir entries) (List.mem_cons_self ..))
    rw [listings, Node.filesIn, List.filter_cons, hrest, hbelow]
    cases s.ignores (top.entry n) <;> rfl

end

/-! ## What sources give -/

/-- The search accepts a file: the expression occurs in its path, the glob fits its name or its path
as seen from the source, and it is not ignored. -/
structure Accepts (s : Search) (f : Find) : Prop where
  regex : ∀ x, s.regex = some x → x.occursIn f.path = true
  pattern : s.pattern = [] ∨ Glob.fits s.pattern (Path.base f.path) = true
    ∨ Glob.fits s.pattern f.rel = true
  itself : s.ignores f = false

theorem wants_iff {f : Find} : s.wants f = true ↔ Accepts s f := by
  have hregex : s.regex.all (·.occursIn f.path) = true
      ↔ ∀ x, s.regex = some x → x.occursIn f.path = true := by
    cases s.regex <;> simp
  have hpattern : s.fitsPattern f = true ↔ s.pattern = []
      ∨ Glob.fits s.pattern (Path.base f.path) = true ∨ Glob.fits s.pattern f.rel = true := by
    simp [Search.fitsPattern, or_assoc]
  unfold Search.wants
  rw [Bool.and_eq_true, Bool.and_eq_true, Bool.not_eq_true', hregex, hpattern]
  exact ⟨fun ⟨⟨hitself, hregex⟩, hpattern⟩ => ⟨hregex, hpattern, hitself⟩,
    fun h => ⟨⟨h.itself, h.regex⟩, h.pattern⟩⟩

instance (s : Search) (f : Find) : Decidable (Accepts s f) := decidable_of_iff _ wants_iff

/-- No directory between a source and a place below it is ignored. -/
def Open (s : Search) (root : Text) (l : Location) : Prop :=
  ∀ k, k <+: l → k ≠ [] → k ≠ l → s.ignores (below root k) = false

instance (s : Search) (root : Text) (l : Location) : Decidable (Open s root l) :=
  decidable_of_iff (∀ k ∈ l.inits, k ≠ [] → k ≠ l → s.ignores (below root k) = false)
    (forall_congr' fun k => by rw [List.mem_inits])

/-- The paths that a source gives: the source itself if it is a file, and else what is below it, as
far as it is accepted and the way is open. -/
def Search.filesOf (d : Disk) (s : Search) (source : Text) : List Text :=
  let root := Path.absolute s.cwd source
  match d.node? root with
  | none => []
  | some (.file _) => if Accepts s ⟨root, Path.base root⟩ then [root] else []
  | some (.dir es) =>
    ((Node.dir es).files.filter fun l => Accepts s (below root l) ∧ Open s root l).map
      (Path.appendAll root)

variable {d : Disk}

/-- Whether the way is open can be told on the way. -/
theorem isOpen_iff_open (root : Text) (hnames : ∀ c ∈ l, Path.IsName c) :
    isOpen s ⟨root, []⟩ l = true ↔ Open s root l := by
  rw [isOpen_iff]
  refine forall_congr' fun k => forall_congr' fun hk => forall_congr' fun hne => ?_
  rw [at_eq_below root hne fun c hc => hnames c (hk.subset hc)]

theorem sound_of_node? {path : Text} {x : Node} (hd : d.Sound) (h : d.node? path = some x) :
    x.Sound := by
  unfold Disk.node? at h
  split at h
  · exact hd.root.of_at? h
  · exact absurd h (by simp)

/-- Below a directory, what was come upon and wanted is what is accepted where the way is open. -/
theorem wanted_filesBelow {es : List (Text × Node)} (hx : (Node.dir es).Sound) (root : Text) :
    ((filesBelow s ⟨root, []⟩ (.dir es)).filter s.wants).map (·.path)
      = ((Node.dir es).files.filter fun l => Accepts s (below root l) ∧ Open s root l).map
        (Path.appendAll root) := by
  -- a place in the list has names, so that its path and the way to it are as they should be
  have hkept : ∀ l ∈ (Node.dir es).files,
      ((s.wants ∘ Find.at ⟨root, []⟩) l && isOpen s ⟨root, []⟩ l)
        = decide (Accepts s (below root l) ∧ Open s root l) := by
    intro l hl
    obtain ⟨bytes, hfile⟩ := (Node.mem_files_iff hx).mp hl
    have hne : l ≠ [] := fun hnil => Node.nil_notMem_files _ (hnil ▸ hl)
    have hnames := hx.isName_of_mem hfile
    rw [Bool.eq_iff_iff, Bool.and_eq_true, decide_eq_true_eq, Function.comp_apply,
      at_eq_below root hne hnames, wants_iff, isOpen_iff_open root hnames]
  have hpath : (·.path) ∘ Find.at ⟨root, []⟩ = Path.appendAll root :=
    funext fun l => Find.path_at ⟨root, []⟩ l
  rw [filesBelow_eq s _ _ hx, List.filter_map, List.filter_filter, List.map_map, hpath,
    List.filter_congr hkept]

theorem filesOf_of_dir (source : Text) {es : List (Text × Node)}
    (h : d.node? (Path.absolute s.cwd source) = some (.dir es)) :
    s.filesOf d source = ((Node.dir es).files.filter fun l =>
        Accepts s (below (Path.absolute s.cwd source) l)
          ∧ Open s (Path.absolute s.cwd source) l).map
            (Path.appendAll (Path.absolute s.cwd source)) := by
  simp only [Search.filesOf, h]

/-- A source that is there gives what was wanted of its files. -/
theorem filesOf_of_ofSource? (hd : d.Sound) {source : Text} {files : List Find}
    (h : ofSource? d s source = .ok files) :
    (files.filter s.wants).map (·.path) = s.filesOf d source := by
  unfold ofSource? at h
  cases hnode : d.node? (Path.absolute s.cwd source) with
  | none =>
    simp only [hnode] at h
    exact absurd h (by simp)
  | some x =>
    simp only [hnode] at h
    cases x with
    | file bytes =>
      obtain rfl := Except.ok.inj h
      simp only [Search.filesOf, hnode]
      rw [List.filter_cons]
      split
      · rename_i hwants
        rw [if_pos (wants_iff.mp hwants)]
        rfl
      · rename_i hwants
        rw [if_neg (mt wants_iff.mpr hwants)]
        rfl
    | dir es =>
      obtain rfl := Except.ok.inj h
      rw [filesOf_of_dir source hnode]
      exact wanted_filesBelow (sound_of_node? hd hnode) _

theorem ofSource?_of_not_has {source : Text} (h : d.has (Path.absolute s.cwd source) = false) :
    ofSource? d s source = .error (Path.absolute s.cwd source) := by
  have hnone : d.node? (Path.absolute s.cwd source) = none := by simpa [Disk.has] using h
  unfold ofSource?
  simp only [hnone]

theorem ofSource?_of_has {source : Text} (h : d.has (Path.absolute s.cwd source) = true) :
    ∃ files, ofSource? d s source = .ok files := by
  obtain ⟨x, hx⟩ := Option.isSome_iff_exists.mp h
  unfold ofSource?
  simp only [hx]
  cases x <;> exact ⟨_, rfl⟩

/-- **Sources give their files up to the first one that is not there.** -/
theorem ofSources_eq (hd : d.Sound) (s : Search) (sources : List Text) :
    ((ofSources d s sources).1.filter s.wants).map (·.path)
        = (sources.takeWhile fun p => d.has (Path.absolute s.cwd p)).flatMap (s.filesOf d)
      ∧ (ofSources d s sources).2
        = (sources.find? fun p => !d.has (Path.absolute s.cwd p)).map (Path.absolute s.cwd) := by
  induction sources with
  | nil => exact ⟨rfl, rfl⟩
  | cons source rest ih =>
    rw [ofSources]
    cases hhas : d.has (Path.absolute s.cwd source) with
    | false => simp [ofSource?_of_not_has hhas, hhas]
    | true =>
      obtain ⟨files, hfiles⟩ := ofSource?_of_has hhas
      simp only [hfiles, List.takeWhile_cons, List.find?_cons, hhas, if_true, Bool.not_true]
      rw [List.filter_append, List.map_append, ih.1, filesOf_of_ofSource? hd hfiles,
        List.flatMap_cons]
      exact ⟨rfl, ih.2⟩

/-! ## Searching -/

/-- What a request looks for, with the patterns that count. -/
def Request.search (d : Disk) (r : Request) (x : Option Regex.Expression) : Search :=
  { cwd := r.cwd
    ignored := Ignore.active d r.cwd r.ignored
    regex := x
    pattern := r.pattern }

/-- Searches that ignore the same find the same. -/
theorem filesOf_congr {s s' : Search} (hcwd : s'.cwd = s.cwd) (hregex : s'.regex = s.regex)
    (hpattern : s'.pattern = s.pattern) (hignores : ∀ f, s'.ignores f = s.ignores f) :
    s'.filesOf d = s.filesOf d := by
  have haccepts : ∀ f, Accepts s' f ↔ Accepts s f := by
    intro f
    rw [← wants_iff, ← wants_iff, Search.wants, Search.wants, Search.fitsPattern,
      Search.fitsPattern, hignores, hregex, hpattern]
  have hopen : ∀ root l, Open s' root l ↔ Open s root l := by
    intro root l
    unfold Open
    simp only [hignores]
  funext source
  unfold Search.filesOf
  simp only [hcwd, haccepts, hopen]

/--
**Discovery finds the files that are wanted, in order, once each.**

Let the expression be one, and let the ignore file be readable if its name is among the patterns and
there is one. The paths that are found are the first occurrences, in order, of what the sources give
that come before the first one that is not there; a source gives itself if it is a file, and else,
of the list of all files below it, those in whose path the expression occurs, whose name or path as
seen from the source fits the glob, and which are not ignored, nor is a directory between them and
the source. The search fails for the first source that is not there, and for no other reason. The
list is the one in which each directory has its files in order, and then its directories in theirs.
-/
theorem run_finds_wanted (d : Disk) (hd : d.Sound) (r : Request) (x : Option Regex.Expression)
    (hregex : r.expression = .ok x)
    (hignore : Ignore.fileName ∈ r.ignored → d.has (Path.append r.cwd Ignore.fileName) = true →
      ∃ t, d.readText (Path.append r.cwd Ignore.fileName) = .ok t) :
    let isThere source := d.has (Path.absolute r.cwd source)
    (run d r).value.found
        = ((r.sources.takeWhile isThere).flatMap ((r.search d x).filesOf d)).eraseDups
      ∧ (run d r).value.failure = (r.sources.find? (!isThere ·)).map
        (fun source => .missingSource (Path.absolute r.cwd source))
      ∧ ∀ source es, d.node? (Path.absolute r.cwd source) = some (.dir es) →
        Node.Lists (.dir es) (Node.dir es).files := by
  intro isThere
  obtain ⟨ignored, hexpand, hactive⟩ := Ignore.expand_ok hignore
  let s : Search := { cwd := r.cwd, ignored, regex := x, pattern := r.pattern }
  have hrun : (run d r).value
      = ⟨(((ofSources d s r.sources).1.filter s.wants).map (·.path)).eraseDups,
        (ofSources d s r.sources).2.map .missingSource⟩ := by
    unfold run
    simp only [hexpand, hregex]
    rfl
  have hsame : s.filesOf d = (r.search d x).filesOf d :=
    filesOf_congr rfl rfl rfl fun f => Ignore.isIgnored_congr hactive f.path f.rel
  obtain ⟨hfound, hmissing⟩ := ofSources_eq hd s r.sources
  rw [hrun]
  refine ⟨?_, ?_, fun source es hnode => Node.lists_files (sound_of_node? hd hnode)⟩
  · rw [hfound, hsame]
  · show (ofSources d s r.sources).2.map Error.missingSource = _
    rw [hmissing, Option.map_map]
    rfl

/-- A file that is below two sources is found once, and a source that is missing ends the search. -/
theorem run_finds_wanted_once :
    let lib : Node := .dir [("b.js".toList, .file [])]
    let d : Disk := ⟨.dir [("lib".toList, lib), ("a.js".toList, .file [])], []⟩
    let r : Request :=
      { cwd := "/".toList
        sources := ["lib".toList, ".".toList, "gone".toList, "a.js".toList]
        ignored := []
        regex := none
        pattern := "*.js".toList }
    d.Sound ∧ (run d r).value.found = ["/lib/b.js".toList, "/a.js".toList]
      ∧ (run d r).value.failure = some (.missingSource "/gone".toList) := by
  intro lib d r
  have hnames : Path.IsName "lib".toList ∧ Path.IsName "a.js".toList ∧ Path.IsName "b.js".toList := by
    decide
  obtain ⟨hlibName, haName, hbName⟩ := hnames
  have hlib : lib.Sound :=
    .dir (by simp) (by simpa using hbName) (by simpa using .file [])
  have hsound : d.Sound :=
    ⟨.dir (by decide) (by simpa using ⟨hlibName, haName⟩) (by simpa using ⟨hlib, .file []⟩),
      by simp [d]⟩
  obtain ⟨hfound, hfailure, -⟩ := run_finds_wanted d hsound r none rfl (by simp [r])
  have hthere : r.sources.takeWhile (fun p => d.has (Path.absolute r.cwd p))
      = ["lib".toList, ".".toList] := by decide +kernel
  have hlists : lib.files = [["b.js".toList]]
      ∧ d.root.files = [["a.js".toList], ["lib".toList, "b.js".toList]] := by
    simp [d, lib, Node.files, Node.filesIn, fileNames, Node.isDir, Text.sort]
  have hof : (r.search d none).filesOf d "lib".toList = ["/lib/b.js".toList]
      ∧ (r.search d none).filesOf d ".".toList = ["/a.js".toList, "/lib/b.js".toList] := by
    rw [filesOf_of_dir "lib".toList rfl, filesOf_of_dir ".".toList rfl]
    show ((lib.files.filter _).map _) = _ ∧ ((d.root.files.filter _).map _) = _
    rw [hlists.1, hlists.2]
    decide +kernel
  refine ⟨hsound, ?_, ?_⟩
  · rw [hfound, hthere, List.flatMap_cons, List.flatMap_cons, hof.1, hof.2]
    decide +kernel
  · rw [hfailure]
    decide +kernel

end Discovery
end DocPress
