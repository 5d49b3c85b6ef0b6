import DocPress.Proofs.DiskOperations
import DocPress.Proofs.PagePaths
import DocPress.Publish
import DocPress.Settings.Basic

/-!
# Publishing stays where it belongs

Publishing a document takes a directory away and then writes to paths made of text that was found
in comments. Three checks keep it in the document's own directory, its home: the name of the
document has to be that of a directory, the path of a page is resolved before it is looked at, and
a page that is then outside of the directory of the pages is left out. A page is never that
directory itself, because the last name of its path is that of a Markdown file.

`Confined` says what may happen to a disk meanwhile. It is transitive, and each step of publishing
keeps to it: recreating the directory, writing one page after the other, writing the manifest.
-/

namespace DocPress.Publish

/-! ## Where things go -/

/-- The place of the directory of a document. -/
def home (output name : Text) : Location := Path.components output ++ [name]

/-- The place is strictly below the directory of the pages. -/
def BelowPages (home l : Location) : Prop := ∃ r, r ≠ [] ∧ l = home ++ "docs".toList :: r

/-- The place is that of the manifest or strictly below the directory of the pages. -/
def IsOutput (home l : Location) : Prop := l = home ++ ["mkdocs.yml".toList] ∨ BelowPages home l

theorem isName_of_checkName {name : Text} (h : checkName name = .ok ()) : Path.IsName name := by
  rw [checkName] at h
  split at h
  · exact absurd h (by simp)
  · rename_i hno
    simp only [Bool.or_eq_true, decide_eq_true_eq, List.contains_iff_mem, not_or] at hno
    exact ⟨hno.1.1.1, hno.2, hno.1.1.2, hno.1.2⟩

theorem isName_docs : Path.IsName "docs".toList := by decide

theorem isName_manifest : Path.IsName "mkdocs.yml".toList := by decide

/-- The path on the disk that the path of a page stands for, in the directory of the pages. -/
def pathIn (directory page : Text) : Text :=
  Path.normalize (Path.appendAll directory (Text.splitOn '/' page))

theorem locatePages_cons (cwd dir : Text) (t : Text × Text) (texts : List (Text × Text)) :
    locatePages cwd dir (t :: texts)
      = (if Path.isInside cwd (pathIn dir t.1) dir then .ok (pathIn dir t.1, t.2)
          else .error (.outside t.1 dir)) :: locatePages cwd dir texts := rfl

/-- A page that is not left out lies in the directory, as its path says. -/
theorem mem_values_locatePages {cwd dir : Text} {texts : List (Text × Text)} {page : Text × Text}
    (h : page ∈ values (locatePages cwd dir texts)) :
    ∃ t ∈ texts, page = (pathIn dir t.1, t.2) ∧ Path.isInside cwd (pathIn dir t.1) dir = true := by
  induction texts with
  | nil => exact absurd h (by simp [locatePages, values])
  | cons t texts ih =>
    rw [locatePages_cons] at h
    have hrest : page ∈ values (locatePages cwd dir texts) → ∃ u ∈ t :: texts,
        page = (pathIn dir u.1, u.2) ∧ Path.isInside cwd (pathIn dir u.1) dir = true := by
      intro hmem
      obtain ⟨u, hu, hpage⟩ := ih hmem
      exact ⟨u, List.mem_cons_of_mem t hu, hpage⟩
    by_cases hin : Path.isInside cwd (pathIn dir t.1) dir = true
    · rw [if_pos hin] at h
      rcases List.mem_cons.mp h with rfl | h
      · exact ⟨t, List.mem_cons_self .., rfl, hin⟩
      · exact hrest h
    · rw [if_neg hin] at h
      exact hrest h

section Paths

variable {output name : Text}

theorem isPlain_directory (ho : Path.IsPlain output) (hn : Path.IsName name) :
    Path.IsPlain (directory output name) := ho.append hn

theorem components_directory (output : Text) (hn : Path.IsName name) :
    Path.components (directory output name) = home output name :=
  Path.components_append_name output hn

theorem isPlain_pagesDirectory (ho : Path.IsPlain output) (hn : Path.IsName name) :
    Path.IsPlain (pagesDirectory output name) := (isPlain_directory ho hn).append isName_docs

theorem components_pagesDirectory (output : Text) (hn : Path.IsName name) :
    Path.components (pagesDirectory output name) = home output name ++ ["docs".toList] := by
  rw [pagesDirectory, Path.components_append_name _ isName_docs, components_directory output hn]

theorem isPlain_manifestPath (ho : Path.IsPlain output) (hn : Path.IsName name) :
    Path.IsPlain (manifestPath output name) := (isPlain_directory ho hn).append isName_manifest

theorem components_manifestPath (output : Text) (hn : Path.IsName name) :
    Path.components (manifestPath output name) = home output name ++ ["mkdocs.yml".toList] := by
  rw [manifestPath, Path.components_append_name _ isName_manifest, components_directory output hn]

/-- Wherever the path of a page leads, its last name is that of a Markdown file. -/
theorem getLast?_components_page {dir page : Text} (hdir : Path.isRooted dir = true)
    (hpage : IsPagePath page) :
    ∃ stem, (Path.components (pathIn dir page)).getLast? = some (stem ++ ".md".toList) := by
  obtain ⟨above, stem, habove⟩ := hpage
  have hslash : ∀ c ∈ Text.splitOn '/' page, '/' ∉ c := fun c hc =>
    Text.sep_notMem_of_mem_splitOn hc
  have hmd : '/' ∉ stem ++ ".md".toList := hslash _ (by rw [habove]; simp)
  have hname := isName_of_md stem fun hs => hmd (List.mem_append_left _ hs)
  have hone : [stem ++ ".md".toList].filter (!·.isEmpty) = [stem ++ ".md".toList] := by simp
  refine ⟨stem, ?_⟩
  -- dots in front can take names away, but the last name stays behind them
  rw [pathIn, Path.components_normalize (Path.isRooted_appendAll _ hdir),
    Path.components_appendAll hslash, habove, List.filter_append, ← List.append_assoc,
    Path.walk_append, hone,
    Path.walk_of_isName _ (by simpa using hname)]
  simp

theorem docs_ne_md (stem : Text) : "docs".toList ≠ stem ++ ".md".toList := by
  intro he
  have hlast := congrArg List.getLast? he
  rw [List.getLast?_append] at hlast
  exact absurd (hlast.trans (b := some 'd') rfl) (by decide)

/-- A page that was located goes below the directory of the pages. -/
theorem located_below (ho : Path.IsPlain output) (hn : Path.IsName name) (cwd : Text)
    {texts : List (Text × Text)} (htexts : ∀ t ∈ texts, IsPagePath t.1) :
    ∀ page ∈ values (locatePages cwd (pagesDirectory output name) texts),
      Path.IsPlain page.1 ∧ BelowPages (home output name) (Path.components page.1) := by
  intro page hpage
  obtain ⟨t, ht, rfl, hinside⟩ := mem_values_locatePages hpage
  have hdir := isPlain_pagesDirectory ho hn
  have hplain : Path.IsPlain (pathIn (pagesDirectory output name) t.1) :=
    Path.isPlain_normalize (Path.isRooted_appendAll _ hdir.rooted)
  have hpre := Path.components_prefix_of_isInside hinside
  rw [hplain.components_absolute, hdir.components_absolute,
    components_pagesDirectory output hn] at hpre
  obtain ⟨r, hr⟩ := hpre
  refine ⟨hplain, r, fun hnil => ?_, by rw [← hr]; simp⟩
  -- the path would end in the name of the directory
  obtain ⟨stem, hlast⟩ := getLast?_components_page hdir.rooted (htexts t ht)
  rw [← hr, hnil, List.append_nil, List.getLast?_concat] at hlast
  exact docs_ne_md stem (Option.some.inj hlast)

end Paths

/-! ## What may happen to the disk -/

/-- `d'` is `d` after some publishing at `home`: nothing is different outside but for directories
that were missing on the way there, and no files are new but those of the output. -/
structure Confined (home : Location) (d d' : Disk) : Prop where
  here : d'.here = d.here
  sound : d.Sound → d'.Sound
  outside : ∀ l, ¬ home <+: l → d'.content l = d.content l
    ∨ (l <+: home ∧ d.content l = none ∧ d'.content l = some none)
  files : ∀ l bytes, d'.content l = some (some bytes) →
    d.content l = some (some bytes) ∨ IsOutput home l

variable {place : Location} {d d' d'' : Disk}

theorem Confined.refl (place : Location) (d : Disk) : Confined place d d :=
  ⟨rfl, id, fun _ _ => Or.inl rfl, fun _ _ => Or.inl⟩

theorem Confined.trans (h : Confined place d d') (h' : Confined place d' d'') :
    Confined place d d'' := by
  refine ⟨h'.here.trans h.here, h'.sound ∘ h.sound, fun l hl => ?_, fun l bytes hfile => ?_⟩
  · rcases h'.outside l hl with heq | ⟨hpre, hnone, hdir⟩
    · rw [heq]
      exact h.outside l hl
    · rcases h.outside l hl with heq | ⟨-, -, hdir'⟩
      · exact Or.inr ⟨hpre, heq ▸ hnone, hdir⟩
      · rw [hnone] at hdir'; exact absurd hdir' (by simp)
  · rcases h'.files l bytes hfile with hfile | hout
    · exact h.files l bytes hfile
    · exact Or.inr hout

/-- Adding directories on the way and files of the output. -/
theorem Confined.of_adds {dirs files : Location → Prop} (h : Disk.Adds dirs files d d')
    (hdirs : ∀ l, dirs l → l <+: place ∨ place <+: l) (hfiles : ∀ l, files l → IsOutput place l) :
    Confined place d d' := by
  refine ⟨h.here, h.sound, fun l hl => ?_, fun l bytes hfile => ?_⟩
  · rcases h.content l with heq | ⟨hS, hrest⟩ | ⟨hS, -⟩
    · exact Or.inl heq
    · -- a directory that was made elsewhere is one on the way
      exact Or.inr ⟨(hdirs l hS).resolve_right hl, hrest⟩
    · refine absurd ?_ hl
      rcases hfiles l hS with rfl | ⟨r, -, rfl⟩
      · exact List.prefix_append _ _
      · exact List.prefix_append _ _
  · rcases h.content l with heq | ⟨-, -, hdir⟩ | ⟨hS, -⟩
    · exact Or.inl (heq ▸ hfile)
    · rw [hdir] at hfile; exact absurd hfile (by simp)
    · exact Or.inr (hfiles l hS)

/-- Taking away what is there. -/
theorem confined_removeTree {path : Text} (hd : d.Sound) (hplace : d.placeOf path = place)
    (hne : place ≠ []) (h : d.removeTree path = .ok d') : Confined place d d' := by
  obtain ⟨hhere, hsound, -, hcontent⟩ := Disk.removeTree_ok hd (hplace ▸ hne) h
  rw [hplace] at hcontent
  refine ⟨hhere, fun _ => hsound, fun l hl => Or.inl ?_, fun l bytes hfile => Or.inl ?_⟩
  · rw [hcontent, if_neg hl]
  · rw [hcontent] at hfile
    split at hfile
    · exact absurd hfile (by simp)
    · exact hfile

/-- Making the directories of a path below, as of one on the way. -/
theorem confined_makeDirs {path : Text} (hpath : Path.IsPlain path)
    (h : Path.components path <+: place ∨ place <+: Path.components path) :
    Confined place d (d.makeDirs path).1 := by
  refine Confined.of_adds (Disk.makeDirs_adds_of_isPlain d hpath) (fun l hl => ?_)
    fun _ => False.elim
  rcases h with h | h
  · exact Or.inl (hl.trans h)
  · exact List.prefix_or_prefix_of_prefix hl h

theorem IsOutput.below_home {l : Location} (h : IsOutput place l) : place <+: l := by
  rcases h with rfl | ⟨r, -, rfl⟩ <;> exact List.prefix_append _ _

/-! ## The steps of publishing -/

theorem confined_recreate {output name : Text} (hd : d.Sound) (ho : Path.IsPlain output)
    (hn : Path.IsName name) :
    Confined (home output name) d
      (recreate d (directory output name) (pagesDirectory output name)).1 := by
  have hbelow : home output name <+: Path.components (pagesDirectory output name) := by
    rw [components_pagesDirectory output hn]
    exact List.prefix_append _ _
  have hmade {e : Disk} : Confined (home output name) e
      (e.makeDirs (pagesDirectory output name)).1 :=
    confined_makeDirs (isPlain_pagesDirectory ho hn) (Or.inr hbelow)
  rw [recreate]
  split
  · split
    · exact Confined.refl _ d
    · rename_i d₁ hremoved
      have hthere : d.placeOf (directory output name) = home output name :=
        (Disk.placeOf_of_isPlain d (isPlain_directory ho hn)).trans (components_directory output hn)
      exact (confined_removeTree hd hthere (by simp [home]) hremoved).trans hmade
  · exact hmade

theorem confined_writeText {path : Text} (text : Text) (hpath : Path.IsPlain path)
    (hout : IsOutput place (Path.components path)) :
    Confined place d (writeText d path text).1 := by
  have hmade : Confined place d (d.makeDirs (Path.parent path)).1 :=
    confined_makeDirs hpath.parent
      (List.prefix_or_prefix_of_prefix (Path.prefix_components_parent path) hout.below_home)
  rw [writeText]
  split
  · rename_i d₁ e h
    rw [h] at hmade; exact hmade
  · rename_i d₁ h
    rw [h] at hmade
    split
    · rename_i d₂ hwritten
      refine hmade.trans (Confined.of_adds (Disk.write_adds hwritten) (fun _ => False.elim) ?_)
      intro l hl
      rw [hl, Disk.placeOf_of_isPlain d₁ hpath]
      exact hout
    · exact hmade

/-- What a result says of the files that were written. -/
theorem written_writeNoting (d : Disk) (r : Result) (path text : Text) :
    ∀ q ∈ (writeNoting d r path text).2.1.written, q ∈ r.written ∨ q = path := by
  intro q hq
  rw [writeNoting] at hq
  split at hq
  · rcases List.mem_append.mp hq with hq | hq
    · exact Or.inl hq
    · exact Or.inr (List.mem_singleton.mp hq)
  · exact Or.inl hq

theorem disk_writeNoting (d : Disk) (r : Result) (path text : Text) :
    (writeNoting d r path text).1 = (writeText d path text).1 := by
  rw [writeNoting]
  split <;> rename_i h <;> rw [h]

/-- One page is written, and then the others. -/
theorem writePages_cons (d : Disk) (r : Result) (page : Text × Text) (pages : List (Text × Text)) :
    (writePages d r (page :: pages)).1 = (writePages (writeNoting d r page.1 page.2).1
        (writeNoting d r page.1 page.2).2.1 pages).1
      ∧ (writePages d r (page :: pages)).2.1 = (writePages (writeNoting d r page.1 page.2).1
        (writeNoting d r page.1 page.2).2.1 pages).2.1 := by
  rw [writePages]
  exact ⟨rfl, rfl⟩

theorem confined_writePages {r : Result} {pages : List (Text × Text)}
    (hpages : ∀ p ∈ pages, Path.IsPlain p.1 ∧ BelowPages place (Path.components p.1)) :
    Confined place d (writePages d r pages).1
      ∧ ∀ q ∈ (writePages d r pages).2.1.written, q ∈ r.written ∨ ∃ p ∈ pages, q = p.1 := by
  induction pages generalizing d r with
  | nil => exact ⟨Confined.refl place d, fun q hq => Or.inl hq⟩
  | cons page pages ih =>
    obtain ⟨hplain, hbelow⟩ := hpages page (List.mem_cons_self ..)
    have hstep : Confined place d (writeNoting d r page.1 page.2).1 := by
      rw [disk_writeNoting]
      exact confined_writeText page.2 hplain (Or.inr hbelow)
    obtain ⟨hrest, hwritten⟩ := ih (d := (writeNoting d r page.1 page.2).1)
      (r := (writeNoting d r page.1 page.2).2.1) fun p hp => hpages p (List.mem_cons_of_mem page hp)
    rw [(writePages_cons d r page pages).1, (writePages_cons d r page pages).2]
    refine ⟨hstep.trans hrest, fun q hq => ?_⟩
    -- what is listed was listed before, by this write, or by one of the others
    rcases hwritten q hq with hq | ⟨p, hp, rfl⟩
    · rcases written_writeNoting d r page.1 page.2 q hq with hq | rfl
      · exact Or.inl hq
      · exact Or.inr ⟨page, List.mem_cons_self .., rfl⟩
    · exact Or.inr ⟨p, List.mem_cons_of_mem page hp, rfl⟩

/-- A document that was prepared: its pages go where they belong, and nothing is written yet. There
is no manifest to write unless the name is one. -/
structure PreparedAt (output : Text) (doc : Document Comment) (job : Job) : Prop where
  name : job.result.name = doc.name
  written : job.result.written = []
  pages : ∀ p ∈ job.pages,
    Path.IsPlain p.1 ∧ BelowPages (home output doc.name) (Path.components p.1)
  manifest : job.manifest ≠ none → Path.IsName doc.name

theorem confined_prepare {output : Text} (layout : Text) (doc : Document Comment) (hd : d.Sound)
    (ho : Path.IsPlain output) :
    Confined (home output doc.name) d (prepare d output layout doc).disk
      ∧ PreparedAt output doc (prepare d output layout doc).job := by
  have hgivenUp : ∀ (d : Disk) (r : Result) e log, r.name = doc.name → r.written = [] →
      PreparedAt output doc (giveUp d r e log).job := fun _ _ _ _ hname hwritten =>
    ⟨hname, hwritten, fun _ hp => absurd hp (by simp [giveUp]), fun hm => absurd rfl hm⟩
  rw [prepare]
  split
  · exact ⟨Confined.refl _ d, hgivenUp _ _ _ _ rfl rfl⟩
  · rename_i hcheck
    have hn := isName_of_checkName hcheck
    have hrecreate : Confined (home output doc.name) d
        (recreate d (directory output doc.name) (pagesDirectory output doc.name)).1 :=
      confined_recreate hd ho hn
    split
    · exact ⟨Confined.refl _ d, hgivenUp _ _ _ _ rfl rfl⟩
    · rename_i lay _
      dsimp only
      split
      · rename_i d₁ e log h
        rw [h] at hrecreate
        exact ⟨hrecreate, hgivenUp _ _ _ _ rfl rfl⟩
      · rename_i d₁ log h
        rw [h] at hrecreate
        exact ⟨hrecreate, rfl, rfl,
          located_below ho hn d₁.cwd fun t ht => Plan.isPagePath_of_mem_texts ht, fun _ => hn⟩

/-! ## Publishing a document -/

/-- The job of a document once its pages are written. -/
def Prepared.withPages (p : Prepared) : Job :=
  { p.job with result := (writePages p.disk p.job.result p.job.pages).2.1, pages := [] }

/-- A single document is prepared, its pages are written, and then its manifest. -/
theorem publish_singleton {d : Disk} {output layout : Text} {doc : Document Comment} {p : Prepared}
    (hp : prepare d output layout doc = p) :
    (publish d output layout [doc]).disk = (writeManifest
        (writePages p.disk p.job.result p.job.pages).1 output p.withPages).1
      ∧ (publish d output layout [doc]).results = [(writeManifest
        (writePages p.disk p.job.result p.job.pages).1 output p.withPages).2.1] := by
  simp only [publish, List.isEmpty_cons, Bool.false_eq_true, if_false, prepareAll, hp,
    writeAllPages, writeManifests, Prepared.withPages, and_self]

theorem name_writePages (d : Disk) (r : Result) (pages : List (Text × Text)) :
    (writePages d r pages).2.1.name = r.name := by
  induction pages generalizing d r with
  | nil => rfl
  | cons page pages ih =>
    rw [(writePages_cons d r page pages).2, ih, writeNoting]
    split <;> rfl

theorem writeManifest_none {job : Job} (d : Disk) (output : Text) (h : job.manifest = none) :
    (writeManifest d output job).1 = d ∧ (writeManifest d output job).2.1 = job.result := by
  rw [writeManifest, h]
  exact ⟨rfl, rfl⟩

theorem writeManifest_some {job : Job} {text : Text} (d : Disk) (output : Text)
    (h : job.manifest = some text) :
    (writeManifest d output job).1
        = (writeNoting d job.result (manifestPath output job.result.name) text).1
      ∧ (writeManifest d output job).2.1
        = (writeNoting d job.result (manifestPath output job.result.name) text).2.1 := by
  rw [writeManifest, h]
  exact ⟨rfl, rfl⟩

theorem confined_writeManifest {output name : Text} (d : Disk) (job : Job)
    (ho : Path.IsPlain output) (hname : job.result.name = name)
    (hmanifest : job.manifest ≠ none → Path.IsName name) :
    Confined (home output name) d (writeManifest d output job).1
      ∧ ∀ q ∈ (writeManifest d output job).2.1.written,
        q ∈ job.result.written ∨ q = manifestPath output name := by
  subst hname
  cases hm : job.manifest with
  | none =>
    obtain ⟨hdisk, hresult⟩ := writeManifest_none d output hm
    rw [hdisk, hresult]
    exact ⟨Confined.refl _ d, fun q hq => Or.inl hq⟩
  | some text =>
    obtain ⟨hdisk, hresult⟩ := writeManifest_some d output hm
    have hn := hmanifest (by rw [hm]; simp)
    have hout : IsOutput (home output job.result.name)
        (Path.components (manifestPath output job.result.name)) :=
      Or.inl (components_manifestPath output hn)
    rw [hdisk, hresult, disk_writeNoting]
    exact ⟨confined_writeText text (isPlain_manifestPath ho hn) hout,
      written_writeNoting d job.result _ text⟩

/-- A document that is given up before its directory is touched leaves the disk as it is. -/
theorem publish_disk_of_rejected (d : Disk) (output : Text) {layout : Text}
    {doc : Document Comment}
    (h : checkName doc.name ≠ .ok () ∨ Layout.ofName? layout = none) :
    (publish d output layout [doc]).disk = d := by
  have hprepare : ∃ r e, prepare d output layout doc = giveUp d r e [] := by
    rw [prepare]
    split
    · exact ⟨_, _, rfl⟩
    · rename_i hcheck
      rw [h.resolve_left fun hne => hne hcheck]
      exact ⟨_, _, rfl⟩
  obtain ⟨r, e, hprepare⟩ := hprepare
  rw [(publish_singleton hprepare).1]
  rfl

/--
**Publishing stays in the document's own directory.**

Whatever the names in a document are, and whatever the disk holds: outside of the directory nothing
is different afterwards but that directories missing on the way there may have been made. New files
are the manifest and files strictly below the directory of the pages, and so is each file that the
result lists. If the name of the document is rejected or the layout is unknown, the disk is as it
was.
-/
theorem publish_confined (d : Disk) (hd : d.Sound) (s : Settings) (layout : Text)
    (doc : Document Comment) :
    let output := s.outputPath d.cwd
    let after := publish d output layout [doc]
    Confined (home output doc.name) d after.disk
      ∧ (∀ r ∈ after.results, ∀ path ∈ r.written, path = manifestPath output doc.name
          ∨ BelowPages (home output doc.name) (after.disk.placeOf path))
      ∧ (checkName doc.name ≠ .ok () ∨ Layout.ofName? layout = none → after.disk = d) := by
  intro output after
  have hcwd : Path.isRooted d.cwd = true := rfl
  have ho : Path.IsPlain output :=
    Path.isPlain_absolute s.output (Path.isPlain_absolute s.base hcwd).rooted
  obtain ⟨hprepared, hjob⟩ := confined_prepare layout doc hd ho
  generalize hp : prepare d output layout doc = p at hprepared hjob
  obtain ⟨hdisk, hresults⟩ := publish_singleton hp
  obtain ⟨hpages, hlisted⟩ := confined_writePages (d := p.disk) (r := p.job.result) hjob.pages
  obtain ⟨hmanifest, hlast⟩ := confined_writeManifest
    (writePages p.disk p.job.result p.job.pages).1 p.withPages ho
    ((name_writePages _ _ _).trans hjob.name) hjob.manifest
  refine ⟨hdisk ▸ (hprepared.trans hpages).trans hmanifest, fun r hr path hpath => ?_,
    publish_disk_of_rejected d output⟩
  rw [hresults] at hr
  obtain rfl := List.mem_singleton.mp hr
  rcases hlast path hpath with hpath | hpath
  · rcases hlisted path hpath with hpath | ⟨q, hq, rfl⟩
    · -- preparing lists nothing
      rw [hjob.written] at hpath; exact absurd hpath (by simp)
    · obtain ⟨hplain, hbelow⟩ := hjob.pages q hq
      exact Or.inr (by rw [Disk.placeOf_of_isPlain _ hplain]; exact hbelow)
  · exact Or.inl hpath

/-- A page that would go two directories up is left out, and a file there is kept. -/
theorem publish_confined_above :
    let d : Disk := ⟨.dir [("keep.md".toList, .file [1])], []⟩
    let doc : Document Comment := ⟨"Guide".toList, ⟨"Guide".toList, [],
      [⟨"..".toList, [], [⟨"..".toList, [("keep".toList, [])], []⟩]⟩]⟩⟩
    d.Sound ∧ (publish d (Settings.outputPath d.cwd {}) "sections".toList [doc]).disk.content
      ["keep.md".toList] = some (some [1]) := by
  intro d doc
  have hname : Path.IsName "keep.md".toList := isName_of_md "keep".toList (by decide)
  have hsound : d.Sound :=
    ⟨.dir (by simp) (by simpa using hname) (by simpa using .file [1]), by simp [d]⟩
  refine ⟨hsound, ?_⟩
  rcases (publish_confined d hsound {} "sections".toList doc).1.outside ["keep.md".toList]
    (by decide) with h | ⟨-, h, -⟩
  · exact h
  · exact absurd h (by decide)

end DocPress.Publish
