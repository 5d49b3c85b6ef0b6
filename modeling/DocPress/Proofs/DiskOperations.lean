import DocPress.Proofs.DiskContent

/-!
# What operations do to a disk

Each operation that changes a disk is told by what it does to `Disk.content`. One that fails leaves
the disk alone by its type; one that succeeds is an update at the place that its path means.

Making the directories of a path is the only operation that may fail half way. What it leaves behind
is described by `Adds`: directories where there was nothing, at some of the places it was asked for,
and everything else as it was. The description is transitive, so it does for any run of operations
that make directories and write files.
-/

namespace DocPress.Disk

/-- What lies at a place: nothing, a directory, or a file with its bytes. -/
def content (d : Disk) (l : Location) : Option (Option (List UInt8)) :=
  (d.root.at? l).map Node.face

/-- A disk as there can be one: in every directory the names are distinct and plain, and plain names
lead to the working directory. -/
structure Sound (d : Disk) : Prop where
  root : d.root.Sound
  here : ∀ c ∈ d.here, Path.IsName c

/-- The place that a path means. -/
def placeOf (d : Disk) (path : Text) : Location :=
  Path.walk (d.origin path) (Path.components path)

/-! ## Contents -/

theorem content_eq_dir_iff {d : Disk} {l : Location} :
    d.content l = some none ↔ ∃ es, d.root.at? l = some (.dir es) := by
  rw [content]
  cases d.root.at? l with
  | none => simp
  | some x => cases x <;> simp [Node.face]

theorem content_eq_none_iff {d : Disk} {l : Location} :
    d.content l = none ↔ d.root.at? l = none := by simp [content]

/-- There is nothing below a place that is no directory. -/
theorem content_below_eq_none {d : Disk} {l r : Location} (hr : r ≠ [])
    (h : d.content l ≠ some none) : d.content (l ++ r) = none := by
  rw [content_eq_none_iff]
  cases hx : d.root.at? (l ++ r) with
  | none => rfl
  | some x => exact absurd (content_eq_dir_iff.mpr (Node.isDir_above hr hx)) h

/-! ## Following paths -/

/-- Above a directory there are directories. -/
theorem content_above_dir {d : Disk} {l k : Location} (hk : d.content k = some none)
    (hl : l <+: k) : d.content l = some none := by
  obtain ⟨r, rfl⟩ := hl
  by_cases hr : r = []
  · rw [hr, List.append_nil] at hk
    exact hk
  · by_contra hno
    rw [content_below_eq_none hr hno] at hk
    exact absurd hk (by simp)

theorem walk_concat_dot (place : Location) (cs : List Text) :
    Path.walk place (cs ++ [Path.dot]) = Path.walk place cs := by
  rw [Path.walk_append, Path.walk_cons, if_pos rfl, Path.walk_nil]

/-- Following components leads where walking them leads, or nowhere. -/
theorem follow_ok {root : Node} {place l : Location} {cs : List Text}
    (h : follow root place cs = .ok l) : l = Path.walk place cs := by
  induction cs generalizing place with
  | nil => exact (Except.ok.inj h).symm
  | cons c cs ih =>
    rw [follow] at h
    rw [Path.walk_cons]
    cases hx : root.at? place with
    | none => rw [hx] at h; exact absurd h (by simp)
    | some x =>
      cases x with
      | file bytes => rw [hx] at h; exact absurd h (by simp)
      | dir es =>
        simp only [hx] at h
        by_cases hdot : c = Path.dot
        · rw [if_pos hdot] at h ⊢; exact ih h
        · rw [if_neg hdot] at h ⊢
          by_cases hup : c = Path.dotDot
          · rw [if_pos hup] at h ⊢; exact ih h
          · rw [if_neg hup] at h ⊢
            split at h
            · exact absurd h (by simp)
            · split at h
              · exact ih h
              · exact absurd h (by simp)

theorem locate_ok {d : Disk} {path : Text} {l : Location} (h : d.locate path = .ok l) :
    l = d.placeOf path := by
  rw [locate] at h
  split at h
  · exact absurd h (by simp)
  · split at h
    · rename_i place hplace
      rw [← Except.ok.inj h, follow_ok hplace, placeOf, steps]
      split
      · exact walk_concat_dot _ _
      · rfl
    · exact absurd h (by simp)

/-- Where something of the path's last name would be: in a directory that is there. -/
theorem target_ok {d : Disk} {path : Text} {place : Location} {name : Text}
    (h : d.target path = .ok (place, some name)) :
    d.placeOf path = place ++ [name] ∧ Path.IsName name
      ∧ ∃ es, d.root.at? place = some (.dir es) := by
  rw [target] at h
  split at h
  · exact absurd h (by simp)
  · dsimp only at h
    split at h
    · exact absurd h (by simp)
    · rename_i l hl
      split at h
      · exact absurd h (by simp)
      · rename_i es c hes hlast
        split at h
        · exact absurd h (by simp)
        · rename_i hdots
          split at h
          · exact absurd h (by simp)
          · obtain ⟨rfl, rfl⟩ : l = place ∧ c = name := by simpa using h
            obtain ⟨hdot, hup⟩ : c ≠ Path.dot ∧ c ≠ Path.dotDot := by simpa using hdots
            -- all names but the last were followed, and the last one is no dot
            obtain ⟨cs, hcs⟩ := List.getLast?_eq_some_iff.mp hlast
            have hc := Path.mem_components (p := path) (c := c) (by rw [hcs]; simp)
            rw [hcs, List.dropLast_concat] at hl
            refine ⟨?_, ⟨hc.1, hc.2, hdot, hup⟩, es, hes⟩
            rw [placeOf, hcs, Path.walk_append, ← follow_ok hl, Path.walk_cons, if_neg hdot,
              if_neg hup, Path.walk_nil]
      · exact absurd h (by simp)

/-! ## Updates -/

/-- `d'` is `d` with something else at one place, a directory or a file that was put into a
directory that is there. -/
structure Sets (d : Disk) (l : Location) (c : Option (List UInt8)) (d' : Disk) : Prop where
  here : d'.here = d.here
  sound : d.Sound → d'.Sound
  /-- The place is below one where there is a directory. -/
  above : ∀ r s, l = r ++ s → s ≠ [] → d.content r = some none
  content : ∀ k, d'.content k = if k = l then some c else d.content k

/-- Putting an empty directory or a file where no directory was. -/
theorem put_sets {d : Disk} {place : Location} {name : Text} {x : Node} {es : List (Text × Node)}
    (hname : Path.IsName name) (hdir : d.root.at? place = some (.dir es))
    (hx : x = .dir [] ∨ ∃ bytes, x = .file bytes) (hold : d.content (place ++ [name]) ≠ some none) :
    d.Sets (place ++ [name]) x.face (d.put (place ++ [name]) (some x)) := by
  have hself : (d.put (place ++ [name]) (some x)).root.at? (place ++ [name]) = some x :=
    Node.at?_alter_some hdir
  have hxsound : x.Sound := by
    rcases hx with rfl | ⟨bytes, rfl⟩
    · exact Node.Sound.dir (by simp) (by simp) (by simp)
    · exact Node.Sound.file bytes
  refine ⟨rfl, fun hd => ⟨?_, hd.here⟩, fun r s hrs hs => ?_, fun k => ?_⟩
  · refine Node.sound_alter hd.root (fun c hc => ?_) fun o z _ hz => Option.some.inj hz ▸ hxsound
    rcases List.mem_append.mp hc with hc | hc
    · exact hd.root.isName_of_mem hdir c hc
    · exact List.mem_singleton.mp hc ▸ hname
  · rw [content_eq_dir_iff]
    rcases List.eq_nil_or_concat s with rfl | ⟨s, c, rfl⟩
    · exact absurd rfl hs
    · rw [List.concat_eq_append, ← List.append_assoc] at hrs
      -- so `r` is the directory the name is put into, or one above it
      obtain ⟨hrs, -⟩ := List.append_inj' hrs rfl
      subst hrs
      by_cases hs : s = []
      · subst hs; exact ⟨es, by simpa using hdir⟩
      · exact Node.isDir_above hs hdir
  · by_cases hk : place ++ [name] <+: k
    · obtain ⟨r, rfl⟩ := hk
      by_cases hr : r = []
      · subst hr
        rw [List.append_nil, if_pos rfl, content, hself]
        rfl
      · -- nothing was below the place before, and what was put there is empty
        rw [if_neg (by simp [hr]), content_below_eq_none hr hold, content, Node.at?_append, hself,
          Option.bind_some]
        obtain ⟨n, r, rfl⟩ := List.exists_cons_of_ne_nil hr
        rcases hx with rfl | ⟨bytes, rfl⟩ <;> rfl
    · have hne : k ≠ place ++ [name] := fun he => hk (he ▸ List.prefix_refl _)
      rw [if_neg hne]
      exact Node.face_alter_of_not_below _ d.root hk

/-- Making a directory: there is one where nothing was. -/
theorem makeDir_sets {d d' : Disk} {path : Text} (h : d.makeDir path = .ok d') :
    d.Sets (d.placeOf path) none d' ∧ d.content (d.placeOf path) = none := by
  rw [makeDir] at h
  split at h
  · exact absurd h (by simp)
  · exact absurd h (by simp)
  · rename_i place name htarget
    obtain ⟨hplace, hname, es, hes⟩ := target_ok htarget
    split at h
    · exact absurd h (by simp)
    · rename_i hnone
      have hnone := content_eq_none_iff.mpr hnone
      rw [← Except.ok.inj h, hplace]
      exact ⟨put_sets hname hes (Or.inl rfl) (by rw [hnone]; simp), hnone⟩

/-- Writing a file: it is there with its bytes, where no directory was. -/
theorem write_sets {d d' : Disk} {path : Text} {bytes : List UInt8}
    (h : d.write path bytes = .ok d') :
    d.Sets (d.placeOf path) (some bytes) d' ∧ d.content (d.placeOf path) ≠ some none := by
  rw [write] at h
  split at h
  · exact absurd h (by simp)
  · exact absurd h (by simp)
  · rename_i place name htarget
    obtain ⟨hplace, hname, es, hes⟩ := target_ok htarget
    split at h
    · exact absurd h (by simp)
    · rename_i hno
      have hold : d.content (place ++ [name]) ≠ some none := by
        intro hdir
        obtain ⟨es, hes⟩ := content_eq_dir_iff.mp hdir
        exact hno es hes
      rw [← Except.ok.inj h, hplace]
      exact ⟨put_sets hname hes (Or.inr ⟨bytes, rfl⟩) hold, hold⟩

theorem here_removeTree {d d' : Disk} {path : Text} (h : d.removeTree path = .ok d') :
    d'.here = d.here := by
  rw [removeTree] at h
  split at h
  · exact absurd h (by simp)
  · split at h
    · rw [← Except.ok.inj h]; rfl
    · exact absurd h (by simp)
    · exact absurd h (by simp)

/-- Taking a tree away: there was a directory, and nothing is left of it. -/
theorem removeTree_ok {d d' : Disk} {path : Text} (hd : d.Sound) (hne : d.placeOf path ≠ [])
    (h : d.removeTree path = .ok d') :
    d'.here = d.here ∧ d'.Sound ∧ d.content (d.placeOf path) = some none
      ∧ ∀ k, d'.content k = if d.placeOf path <+: k then none else d.content k := by
  rw [removeTree] at h
  split at h
  · exact absurd h (by simp)
  · rename_i l hl
    obtain rfl := locate_ok hl
    split at h
    · rename_i es hes
      rw [← Except.ok.inj h]
      refine ⟨rfl, ⟨?_, hd.here⟩, content_eq_dir_iff.mpr ⟨es, hes⟩, fun k => ?_⟩
      · exact Node.sound_alter hd.root (hd.root.isName_of_mem hes) fun o z _ hz => by simp at hz
      · by_cases hk : d.placeOf path <+: k
        · obtain ⟨r, rfl⟩ := hk
          rw [if_pos (List.prefix_append _ _), content_eq_none_iff, put, Node.at?_append,
            Node.at?_alter_none hd.root hne, Option.bind_none]
        · rw [if_neg hk]
          exact Node.face_alter_of_not_below _ d.root hk
    · exact absurd h (by simp)
    · exact absurd h (by simp)

/-! ## Adding directories and files -/

/-- `d'` is `d` with directories where there was nothing, at some of the places `dirs`, and with
files where no directory was, at some of the places `files`. -/
structure Adds (dirs files : Location → Prop) (d d' : Disk) : Prop where
  here : d'.here = d.here
  sound : d.Sound → d'.Sound
  content : ∀ l, d'.content l = d.content l
    ∨ (dirs l ∧ d.content l = none ∧ d'.content l = some none)
    ∨ (files l ∧ d.content l ≠ some none ∧ ∃ bytes, d'.content l = some (some bytes))

variable {dirs files : Location → Prop} {d d' d'' : Disk}

theorem Adds.refl (dirs files : Location → Prop) (d : Disk) : Adds dirs files d d :=
  ⟨rfl, id, fun _ => Or.inl rfl⟩

theorem Adds.trans (h : Adds dirs files d d') (h' : Adds dirs files d' d'') :
    Adds dirs files d d'' := by
  refine ⟨h'.here.trans h.here, h'.sound ∘ h.sound, fun l => ?_⟩
  rcases h'.content l with hl' | ⟨hS, hnone, hdir⟩ | ⟨hS, hnodir, hfile⟩
  · rw [hl']
    exact h.content l
  · -- nothing was there in between, so nothing was there before
    rcases h.content l with hl | ⟨-, -, hdir'⟩ | ⟨-, -, bytes, hfile'⟩
    · exact Or.inr (Or.inl ⟨hS, hl ▸ hnone, hdir⟩)
    · rw [hnone] at hdir'; exact absurd hdir' (by simp)
    · rw [hnone] at hfile'; exact absurd hfile' (by simp)
  · rcases h.content l with hl | ⟨-, -, hdir'⟩ | ⟨-, hnodir', -⟩
    · exact Or.inr (Or.inr ⟨hS, hl ▸ hnodir, hfile⟩)
    · exact absurd hdir' hnodir
    · exact Or.inr (Or.inr ⟨hS, hnodir', hfile⟩)

theorem Adds.mono {dirs' files' : Location → Prop} (h : Adds dirs files d d')
    (hd : ∀ l, dirs l → dirs' l) (hf : ∀ l, files l → files' l) : Adds dirs' files' d d' := by
  refine ⟨h.here, h.sound, fun l => ?_⟩
  rcases h.content l with hl | ⟨hS, hrest⟩ | ⟨hS, hrest⟩
  · exact Or.inl hl
  · exact Or.inr (Or.inl ⟨hd l hS, hrest⟩)
  · exact Or.inr (Or.inr ⟨hf l hS, hrest⟩)

/-- A file stays as it is where none is written. -/
theorem Adds.file {bytes : List UInt8} {l : Location} (h : Adds dirs files d d')
    (hl : d.content l = some (some bytes)) (hf : ¬ files l) :
    d'.content l = some (some bytes) := by
  rcases h.content l with heq | ⟨-, hnone, -⟩ | ⟨hS, -⟩
  · rw [heq, hl]
  · rw [hl] at hnone; exact absurd hnone (by simp)
  · exact absurd hS hf

theorem placeOf_eq_of_here_eq (h : d'.here = d.here) (path : Text) :
    d'.placeOf path = d.placeOf path := by
  rw [placeOf, placeOf, origin, origin, h]

/-- Directories are made only at the places of the paths that are asked for. -/
theorem makeUpwards_adds (d : Disk) (ps : List Text) :
    Adds (fun l => ∃ p ∈ ps, l = d.placeOf p) (fun _ => False) d (d.makeUpwards ps).1 := by
  induction ps generalizing d with
  | nil => exact Adds.refl _ _ d
  | cons p above ih =>
    rw [makeUpwards]
    -- first those above, if they are missing, then the path itself
    have hfirst : ∀ b : Bool, Adds (fun l => ∃ q ∈ p :: above, l = d.placeOf q) (fun _ => False) d
        (if b then d.makeUpwards above else (d, none)).1 := by
      intro b
      cases b with
      | false => exact Adds.refl _ _ d
      | true =>
        exact (ih d).mono (fun l ⟨q, hq, hl⟩ => ⟨q, List.mem_cons_of_mem p hq, hl⟩) fun _ => id
    generalize above.head?.any (!d.has ·) = missing
    specialize hfirst missing
    generalize (if missing then d.makeUpwards above else (d, none)) = r at hfirst
    obtain ⟨d₁, failure⟩ := r
    dsimp only at hfirst ⊢
    cases failure with
    | some e => exact hfirst
    | none =>
      dsimp only
      split
      · exact hfirst
      · split
        · rename_i d₂ hmade
          obtain ⟨hsets, hnone⟩ := makeDir_sets hmade
          refine hfirst.trans ⟨hsets.here, hsets.sound, fun l => ?_⟩
          by_cases hl : l = d₁.placeOf p
          · subst hl
            have hp := placeOf_eq_of_here_eq hfirst.here p
            exact Or.inr (Or.inl ⟨⟨p, List.mem_cons_self .., hp⟩, hnone,
              by rw [hsets.content, if_pos rfl]⟩)
          · exact Or.inl (by rw [hsets.content, if_neg hl])
        · split <;> exact hfirst

theorem makeDirs_adds (d : Disk) (path : Text) :
    Adds (fun l => ∃ p ∈ Path.upwards path, l = d.placeOf p) (fun _ => False) d
      (d.makeDirs path).1 :=
  makeUpwards_adds d _

/-- Writing a file adds it. -/
theorem write_adds {path : Text} {bytes : List UInt8} (h : d.write path bytes = .ok d') :
    Adds (fun _ => False) (fun l => l = d.placeOf path) d d' := by
  obtain ⟨hsets, hold⟩ := write_sets h
  refine ⟨hsets.here, hsets.sound, fun l => ?_⟩
  rw [hsets.content]
  by_cases hl : l = d.placeOf path
  · subst hl
    exact Or.inr (Or.inr ⟨rfl, hold, bytes, by rw [if_pos rfl]⟩)
  · exact Or.inl (by rw [if_neg hl])

/-! ## The place of a path -/

theorem placeOf_append (d : Disk) {p q : Text} (h : Path.isRooted q = false) :
    d.placeOf (Path.append p q) = Path.walk (d.placeOf p) (Path.components q) := by
  rw [placeOf, placeOf, origin, origin, Path.isRooted_append_of_not p h, Path.components_append h,
    Path.walk_append]

theorem placeOf_appendAll (d : Disk) (p : Text) {cs : List Text} (h : ∀ c ∈ cs, '/' ∉ c) :
    d.placeOf (Path.appendAll p cs) = Path.walk (d.placeOf p) (cs.filter (!·.isEmpty)) := by
  induction cs generalizing p with
  | nil => rfl
  | cons c cs ih =>
    have hc := h c (List.mem_cons_self ..)
    rw [Path.appendAll, List.foldl_cons, ← Path.appendAll,
      ih _ fun a ha => h a (List.mem_cons_of_mem c ha),
      placeOf_append d (Path.isRooted_of_notMem hc), ← Path.walk_append]
    by_cases hne : c = []
    · subst hne; simp [Path.components_nil]
    · simp [Path.components_of_notMem hne hc, hne]

theorem placeOf_normalize (d : Disk) (p : Text) : d.placeOf (Path.normalize p) = d.placeOf p := by
  cases h : Path.isRooted p with
  | true =>
    have hplain := Path.isPlain_normalize h
    rw [placeOf, placeOf, origin, origin, if_pos h, if_pos hplain.rooted,
      Path.walk_of_isName _ hplain.names, Path.components_normalize h, List.nil_append]
  | false =>
    obtain ⟨hroot, hwalk⟩ := Path.walk_normalize d.here h
    rw [placeOf, placeOf, origin, origin, h, hroot, if_neg (by simp), hwalk]

/-- The place of a path is what its text says once it is written from the root. -/
theorem components_absolute_cwd {d : Disk} (h : ∀ c ∈ d.here, Path.IsName c) (p : Text) :
    Path.components (Path.absolute d.cwd p) = d.placeOf p := by
  have hcwd : Path.isRooted d.cwd = true := rfl
  have hhere : Path.components d.cwd = d.here := by
    rw [cwd, Path.components_slash_cons,
      Path.components_join fun c hc => ⟨(h c hc).ne_nil, (h c hc).no_slash⟩]
  rw [Path.absolute, Path.components_normalize (Path.isRooted_append hcwd), placeOf, origin]
  cases hp : Path.isRooted p with
  | true => rw [Path.append_of_isRooted hp, if_pos rfl]
  | false =>
    rw [Path.components_append hp, hhere, Path.walk_append, Path.walk_of_isName _ h,
      List.nil_append, if_neg (by simp)]

/-! ## Plain paths -/

theorem placeOf_of_isPlain {path : Text} (d : Disk) (h : Path.IsPlain path) :
    d.placeOf path = Path.components path := by
  rw [placeOf, origin, if_pos h.rooted, Path.walk_of_isName _ h.names, List.nil_append]

/-- The directories made for a plain path are on the way to it. -/
theorem makeDirs_adds_of_isPlain (d : Disk) {path : Text} (h : Path.IsPlain path) :
    Adds (· <+: Path.components path) (fun _ => False) d (d.makeDirs path).1 := by
  refine (makeDirs_adds d path).mono (fun l hl => ?_) fun _ => id
  obtain ⟨q, hq, rfl⟩ := hl
  obtain ⟨hpre, hroot⟩ := Path.mem_upwards hq
  have hplain : Path.IsPlain q :=
    ⟨hroot.trans h.rooted, fun c hc => h.names c (hpre.subset hc)⟩
  rw [placeOf_of_isPlain d hplain]
  exact hpre

end DocPress.Disk
