import DocPress.Command.Collect
import DocPress.Proofs.DiskOperations

/-!
# What a search sees of a disk

The search for source files looks at names and at nothing in the files but the ignore file. So on
two disks of one outline, which differ in what files hold but not in the names of files and
directories, it comes upon the same files (`Discovery.run_congr`), and the same files can be read
(`Collect.run_congr`).

`Node.bare` is the outline of a tree: the tree with all its files emptied. Writing to a file that is
there leaves the outline alone (`outline_write`).
-/

namespace DocPress

/-- Two results are both there, or missing for one reason. -/
inductive SameFate {ε α β : Type} : Except ε α → Except ε β → Prop where
  | ok (a : α) (b : β) : SameFate (.ok a) (.ok b)
  | error (e : ε) : SameFate (.error e) (.error e)

theorem SameFate.refl {ε α : Type} (x : Except ε α) : SameFate x x := by
  cases x with
  | error e => exact .error e
  | ok a => exact .ok a a

namespace Node

/-! ## Outlines -/

mutual

/-- The tree with empty files. -/
def bare : Node → Node
  | file _ => file []
  | dir entries => dir (bareEntries entries)

def bareEntries : List (Text × Node) → List (Text × Node)
  | [] => []
  | (n, x) :: es => (n, x.bare) :: bareEntries es

end

/-- What has one outline is missing, a file or a directory on both sides. -/
theorem bare_cases {x y : Option Node} (h : y.map bare = x.map bare) :
    (x = none ∧ y = none) ∨ (∃ b c, x = some (file b) ∧ y = some (file c))
      ∨ ∃ es fs, x = some (dir es) ∧ y = some (dir fs) ∧ bareEntries fs = bareEntries es := by
  match x, y with
  | none, none => exact Or.inl ⟨rfl, rfl⟩
  | none, some y => exact absurd h (by simp)
  | some x, none => exact absurd h (by simp)
  | some (file b), some (file c) => exact Or.inr (Or.inl ⟨b, c, rfl, rfl⟩)
  | some (file b), some (dir fs) => exact absurd h (by simp [bare])
  | some (dir es), some (file c) => exact absurd h (by simp [bare])
  | some (dir es), some (dir fs) =>
    exact Or.inr (Or.inr ⟨es, fs, rfl, rfl, by simpa [bare] using h⟩)

theorem lookup?_bareEntries (n : Text) (es : List (Text × Node)) :
    lookup? n (bareEntries es) = (lookup? n es).map bare := by
  induction es with
  | nil => rfl
  | cons e es ih =>
    obtain ⟨m, x⟩ := e
    rw [bareEntries, lookup?, lookup?]
    split
    · rfl
    · exact ih

theorem at?_bare (l : Location) (x : Node) : at? l x.bare = (at? l x).map bare := by
  induction l generalizing x with
  | nil => rfl
  | cons n l ih =>
    cases x with
    | file bytes => rfl
    | dir es =>
      rw [bare, at?, at?, lookup?_bareEntries]
      cases lookup? n es with
      | none => rfl
      | some y => exact ih y

theorem bareEntries_alterEntry {f : Option Node → Option Node} {n : Text}
    {es : List (Text × Node)} {x : Node} (hx : lookup? n es = some x)
    (h : (f (some x)).map bare = some x.bare) :
    bareEntries (alterEntry f n es) = bareEntries es := by
  induction es with
  | nil => exact absurd hx (by simp [lookup?])
  | cons e es ih =>
    obtain ⟨m, y⟩ := e
    rw [lookup?] at hx
    rw [alterEntry]
    by_cases hm : m = n
    · rw [if_pos hm] at hx ⊢
      obtain rfl := Option.some.inj hx
      obtain ⟨z, hz, hbare⟩ := Option.map_eq_some_iff.mp h
      rw [hz]
      simp only [bareEntries, hbare]
    · rw [if_neg hm] at hx ⊢
      rw [bareEntries, bareEntries, ih hx]

/-- A file with other bytes leaves the outline alone. -/
theorem bare_alter {l : Location} {x : Node} {bytes : List UInt8} (old : List UInt8)
    (h : at? l x = some (file old)) : (alter (fun _ => some (file bytes)) l x).bare = x.bare := by
  induction l generalizing x with
  | nil =>
    obtain rfl := Option.some.inj h
    rfl
  | cons n l ih =>
    cases x with
    | file _ => rfl
    | dir es =>
      rw [at?] at h
      obtain ⟨y, hy, hrest⟩ := Option.bind_eq_some_iff.mp h
      -- an entry is changed in its place, at the end of the way or further down
      cases l with
      | nil =>
        obtain rfl := Option.some.inj hrest
        exact congrArg dir (bareEntries_alterEntry hy rfl)
      | cons m l =>
        exact congrArg dir (bareEntries_alterEntry hy (congrArg some (ih hrest)))

end Node

namespace Disk

variable {d d' : Disk} {path : Text}

/-! ## Disks of one outline -/

/-- The disks differ in nothing but what files hold. -/
structure SameOutline (d d' : Disk) : Prop where
  here : d'.here = d.here
  root : d'.root.bare = d.root.bare

theorem follow_bare (x : Node) (place : Location) (cs : List Text) :
    follow x.bare place cs = follow x place cs := by
  induction cs generalizing place with
  | nil => rfl
  | cons c cs ih =>
    rw [follow, follow, Node.at?_bare]
    cases x.at? place with
    | none => rfl
    | some y =>
      cases y with
      | file bytes => rfl
      | dir es =>
        have hlook : (Node.lookup? c (Node.bareEntries es)).isSome
            = (Node.lookup? c es).isSome := by
          rw [Node.lookup?_bareEntries, Option.isSome_map]
        simp only [Option.map_some, Node.bare, hlook, ih]

theorem SameOutline.locate (h : SameOutline d d') (path : Text) :
    d'.locate path = d.locate path := by
  have hfollow : ∀ place cs, follow d'.root place cs = follow d.root place cs := by
    intro place cs
    rw [← follow_bare, h.root, follow_bare]
  rw [Disk.locate, Disk.locate, origin, origin, h.here, hfollow]

theorem SameOutline.node? (h : SameOutline d d') (path : Text) :
    (d'.node? path).map Node.bare = (d.node? path).map Node.bare := by
  rw [Disk.node?, Disk.node?, h.locate]
  cases d.locate path with
  | error e => rfl
  | ok place =>
    show (d'.root.at? place).map Node.bare = (d.root.at? place).map Node.bare
    rw [← Node.at?_bare, ← Node.at?_bare, h.root]

theorem SameOutline.has (h : SameOutline d d') (path : Text) : d'.has path = d.has path := by
  have hnode := congrArg Option.isSome (h.node? path)
  rwa [Option.isSome_map, Option.isSome_map] at hnode

theorem SameOutline.hasDir (h : SameOutline d d') (path : Text) :
    d'.hasDir path = d.hasDir path := by
  rw [Disk.hasDir, Disk.hasDir]
  rcases Node.bare_cases (h.node? path) with ⟨hx, hy⟩ | ⟨b, c, hx, hy⟩ | ⟨es, fs, hx, hy, -⟩ <;>
    rw [hx, hy] <;> rfl

/-- The same files can be read. -/
theorem SameOutline.read (h : SameOutline d d') (path : Text) :
    SameFate (d.read path) (d'.read path) := by
  rw [Disk.read, Disk.read, h.locate]
  cases d.locate path with
  | error e => exact .error e
  | ok place =>
    have hat : (d'.root.at? place).map Node.bare = (d.root.at? place).map Node.bare := by
      rw [← Node.at?_bare, ← Node.at?_bare, h.root]
    rcases Node.bare_cases hat with ⟨hx, hy⟩ | ⟨b, c, hx, hy⟩ | ⟨es, fs, hx, hy, -⟩
    · simp only [hx, hy]
      exact .error _
    · simp only [hx, hy]
      exact .ok b c
    · simp only [hx, hy]
      exact .error _

/-! ## Writing to a file that is there -/

theorem read_of_locate {l : Location} (hl : d.locate path = .ok l) :
    d.read path = match d.content l with
      | some (some bytes) => .ok bytes
      | some none => .error (.failed .isADirectory path)
      | none => .error (.failed .notFound path) := by
  unfold Disk.read content
  rw [hl]
  cases hx : d.root.at? l with
  | none => simp only [hx, Option.map_none]
  | some x => cases x <;> simp only [hx, Option.map_some, Node.face]

/-- A file that can be read lies at the place that its path means. -/
theorem at?_of_read {bytes : List UInt8} (h : d.read path = .ok bytes) :
    d.root.at? (d.placeOf path) = some (.file bytes) := by
  rw [Disk.read] at h
  cases hl : d.locate path with
  | error e => rw [hl] at h; exact absurd h (by simp)
  | ok l =>
    rw [hl] at h
    rw [← locate_ok hl]
    cases hx : d.root.at? l with
    | none => simp [hx] at h
    | some x => cases x <;> simp [hx] at h ⊢; exact h

/-- Writing to a file that is there changes nothing but what is in it. -/
theorem outline_write {old bytes : List UInt8} (hold : d.read path = .ok old)
    (h : d.write path bytes = .ok d') : SameOutline d d' := by
  have hat := at?_of_read hold
  rw [Disk.write] at h
  split at h
  · exact absurd h (by simp)
  · exact absurd h (by simp)
  · rename_i place name htarget
    rw [(target_ok htarget).1] at hat
    split at h
    · exact absurd h (by simp)
    · -- the place that is written to is the one at which the file lies
      rw [← Except.ok.inj h]
      exact ⟨rfl, Node.bare_alter old hat⟩

/-- What is in the other files stays. -/
theorem read_of_write {other : Text} {old bytes : List UInt8} (hold : d.read path = .ok old)
    (h : d.write path bytes = .ok d') (hne : d.placeOf other ≠ d.placeOf path) :
    d'.read other = d.read other := by
  have hlocate := (outline_write hold h).locate other
  cases hl : d.locate other with
  | error e => rw [Disk.read, Disk.read, hlocate, hl]
  | ok l =>
    have hcontent := (write_sets h).1.content l
    rw [locate_ok hl, if_neg hne, ← locate_ok hl] at hcontent
    rw [read_of_locate (hlocate.trans hl), read_of_locate hl, hcontent]

end Disk

/-! ## Searching -/

namespace Discovery

theorem fileNames_bareEntries (es : List (Text × Node)) :
    fileNames (Node.bareEntries es) = fileNames es := by
  induction es with
  | nil => rfl
  | cons e es ih =>
    obtain ⟨n, x⟩ := e
    unfold fileNames at ih ⊢
    rw [Node.bareEntries, List.filter_cons, List.filter_cons]
    cases x with
    | file bytes => simpa [Node.bare, Node.isDir] using ih
    | dir entries => simpa [Node.bare, Node.isDir] using ih

mutual

/-- The files below a node are those below its outline. -/
theorem filesBelow_bare (s : Search) (top : Find) :
    (x : Node) → filesBelow s top x.bare = filesBelow s top x
  | .file _ => rfl
  | .dir es => by
    rw [Node.bare, filesBelow, filesBelow, fileNames_bareEntries, listings_bareEntries s top es]

theorem listings_bareEntries (s : Search) (top : Find) :
    (es : List (Text × Node)) → listings s top (Node.bareEntries es) = listings s top es
  | [] => rfl
  | (n, .file _) :: es => by
    rw [Node.bareEntries, Node.bare, listings, listings, listings_bareEntries s top es]
  | (n, .dir entries) :: es => by
    have hbelow := filesBelow_bare s (top.entry n) (.dir entries)
    rw [Node.bare] at hbelow
    rw [Node.bareEntries, Node.bare, listings, listings, listings_bareEntries s top es, hbelow]

end

variable {d d' : Disk}

theorem ofSource?_congr (h : Disk.SameOutline d d') (s : Search) (source : Text) :
    ofSource? d' s source = ofSource? d s source := by
  unfold ofSource?
  rcases Node.bare_cases (h.node? (Path.absolute s.cwd source)) with
    ⟨hx, hy⟩ | ⟨b, c, hx, hy⟩ | ⟨es, fs, hx, hy, hbare⟩
  · simp only [hx, hy]
  · simp only [hx, hy]
  · -- both directories list what their outline lists
    have hbelow : ∀ top, filesBelow s top (.dir fs) = filesBelow s top (.dir es) := by
      intro top
      rw [← filesBelow_bare s top (.dir fs), ← filesBelow_bare s top (.dir es), Node.bare,
        Node.bare, hbare]
    simp only [hx, hy, hbelow]

theorem ofSources_congr (h : Disk.SameOutline d d') (s : Search) (sources : List Text) :
    ofSources d' s sources = ofSources d s sources := by
  induction sources with
  | nil => rfl
  | cons source rest ih => rw [ofSources, ofSources, ofSource?_congr h, ih]

/-- The same files are found on disks of one outline with one ignore file. -/
theorem run_congr (h : Disk.SameOutline d d') {r : Request}
    (hignore : d'.read (Path.append r.cwd Ignore.fileName)
      = d.read (Path.append r.cwd Ignore.fileName)) : run d' r = run d r := by
  have hexpand : Ignore.expand d' r.cwd r.ignored = Ignore.expand d r.cwd r.ignored := by
    unfold Ignore.expand Disk.readText
    simp only [h.has, hignore]
  unfold run
  simp only [hexpand, ofSources_congr h]

end Discovery

namespace Collect

variable {d d' : Disk}

theorem ofFile_congr (h : Disk.SameOutline d d') (kind path : Text) :
    SameFate (ofFile d kind path).value (ofFile d' kind path).value := by
  have hread := h.read path
  unfold ofFile Script.fileComments Disk.readAnyText
  generalize d.read path = bytes at hread ⊢
  generalize d'.read path = bytes' at hread ⊢
  cases hread with
  | ok bytes bytes' => exact .ok _ _
  | error e => exact .error _

theorem ofFiles_congr (h : Disk.SameOutline d d') (kind : Text) (paths : List Text) :
    SameFate (ofFiles d kind paths).value (ofFiles d' kind paths).value := by
  induction paths with
  | nil => exact .ok [] []
  | cons path paths ih =>
    have hfirst := ofFile_congr h kind path
    unfold ofFiles
    generalize ofFile d kind path = these at hfirst ⊢
    generalize ofFile d' kind path = these' at hfirst ⊢
    obtain ⟨value, log⟩ := these
    obtain ⟨value', log'⟩ := these'
    cases hfirst with
    | error e => exact .error e
    | ok cs cs' =>
      -- the first file is read, so it is up to the others
      show SameFate ((ofFiles d kind paths).value.map (cs ++ ·))
        ((ofFiles d' kind paths).value.map (cs' ++ ·))
      generalize (ofFiles d kind paths).value = others at ih ⊢
      generalize (ofFiles d' kind paths).value = others' at ih ⊢
      cases ih with
      | ok rest rest' => exact .ok _ _
      | error e => exact .error e

/-- The comments can be collected from both disks, or fail to be for one reason. -/
theorem run_congr (h : Disk.SameOutline d d') {s s' : Settings}
    (hrequest : request d'.cwd s' = request d.cwd s) (hdirective : s'.directive = s.directive)
    (hignore : d'.read (Path.append (request d.cwd s).cwd Ignore.fileName)
      = d.read (Path.append (request d.cwd s).cwd Ignore.fileName)) :
    SameFate (run d s).value (run d' s').value := by
  have hfound : Discovery.run d' (request d'.cwd s') = Discovery.run d (request d.cwd s) := by
    rw [hrequest]
    exact Discovery.run_congr h hignore
  unfold run
  rw [hfound, hdirective]
  generalize Discovery.run d (request d.cwd s) = files
  obtain ⟨⟨found, failure⟩, log⟩ := files
  have hfiles := ofFiles_congr h s.directive found
  simp only
  generalize ofFiles d s.directive found = comments at hfiles ⊢
  generalize ofFiles d' s.directive found = comments' at hfiles ⊢
  obtain ⟨value, log⟩ := comments
  obtain ⟨value', log'⟩ := comments'
  cases hfiles with
  | error e => exact .error e
  | ok cs cs' =>
    -- all that was found can be read, so it is up to the search
    cases failure with
    | some e => exact .error _
    | none => exact .ok _ _

end Collect
end DocPress
