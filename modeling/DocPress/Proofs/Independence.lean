import DocPress.Proofs.Gathering
import DocPress.Proofs.PagesKept
import DocPress.Proofs.PublishAgreement

/-!
# Documents do not interfere

Publishing interleaves its documents: all of them are prepared, then the pages of all of them are
written, then all manifests. Each document still comes out as if it were the only one. A step for
one document changes nothing in the directory of another and nothing on the way to it but to make
what is missing there; and a step for a document looks at nothing else. So steps for different
documents are independent of each other, which `Independent.run` carries over to a whole run. It is
used for each of the three stages.

While documents are prepared, two disks are alike for a document if they agree on its scope once the
way to the documents is made. Afterwards it is enough that they agree below the directory of the
document: whatever is still to be written goes into a directory that is there.

What a rejected name leads to is no directory of the document. Under the name of a double dot it is
the directory in which the output directory is, and that one may be made for other documents
(`publish_dotDot_dependent`).
-/

namespace DocPress

/-! ## Independent steps -/

section Steps

variable {σ α β κ : Type}

/-- Takes a step for each element, one after the other. -/
def runAll (step : σ → α → σ × β) (s : σ) : List α → σ × List β
  | [] => (s, [])
  | a :: as =>
    ((runAll step (step s a).1 as).1, (step s a).2 :: (runAll step (step s a).1 as).2)

theorem runAll_map {γ : Type} (step : σ → α → σ × β) (f : γ → α) (s : σ) (cs : List γ) :
    runAll step s (cs.map f) = runAll (fun s c => step s (f c)) s cs := by
  induction cs generalizing s with
  | nil => rfl
  | cons c cs ih => rw [List.map_cons, runAll, runAll, ih]

/-- Steps for elements of different keys are independent on good states: they are alike for a key
before and after a step for another one, and a step does the same on states that are alike for its
own key, if it may be taken there. -/
structure Independent (step : σ → α → σ × β) (key : α → κ) (Good : σ → Prop)
    (Ready : α → σ → Prop) (Alike : κ → σ → σ → Prop) : Prop where
  refl : ∀ k s, Alike k s s
  trans : ∀ {k s s' s''}, Alike k s s' → Alike k s' s'' → Alike k s s''
  good : ∀ {a s}, Good s → Good (step s a).1
  others : ∀ {a s k}, Good s → key a ≠ k → Alike k s (step s a).1
  own : ∀ {a s s'}, Good s → Good s' → Ready a s → Alike (key a) s s' →
    (step s' a).2 = (step s a).2 ∧ Alike (key a) (step s a).1 (step s' a).1

variable {step : σ → α → σ × β} {key : α → κ} {Good : σ → Prop} {Ready : α → σ → Prop}
  {Alike : κ → σ → σ → Prop}

theorem Independent.good_runAll (h : Independent step key Good Ready Alike) {s : σ} (hs : Good s)
    (as : List α) : Good (runAll step s as).1 := by
  induction as generalizing s with
  | nil => exact hs
  | cons a as ih => exact ih (h.good hs)

/-- A run is alike before and after for each key that it has no step for. -/
theorem Independent.runAll_others (h : Independent step key Good Ready Alike) {s : σ} (hs : Good s)
    {as : List α} {k : κ} (hk : k ∉ as.map key) : Alike k s (runAll step s as).1 := by
  induction as generalizing s with
  | nil => exact h.refl k s
  | cons a as ih =>
    rw [List.map_cons, List.mem_cons, not_or] at hk
    exact h.trans (h.others hs (Ne.symm hk.1)) (ih (h.good hs) hk.2)

/-- **Each step of a run does what it does alone**, from wherever it starts alone, so long as that
is alike for its key to where the run starts. -/
theorem Independent.run (h : Independent step key Good Ready Alike) {s : σ} (hs : Good s)
    {as : List α} (hkeys : (as.map key).Nodup) (start : α → σ)
    (hstart : ∀ a ∈ as, Good (start a) ∧ Ready a (start a) ∧ Alike (key a) (start a) s) :
    (runAll step s as).2 = as.map (fun a => (step (start a) a).2)
      ∧ ∀ a ∈ as, Alike (key a) (step (start a) a).1 (runAll step s as).1 := by
  induction as generalizing s with
  | nil => exact ⟨rfl, fun a ha => absurd ha (by simp)⟩
  | cons a as ih =>
    rw [List.map_cons, List.nodup_cons] at hkeys
    obtain ⟨hgood, hready, halike⟩ := hstart a (List.mem_cons_self ..)
    obtain ⟨hsame, hafter⟩ := h.own hgood hs hready halike
    -- for the others nothing has changed
    have hrest : ∀ b ∈ as, Good (start b) ∧ Ready b (start b)
        ∧ Alike (key b) (start b) (step s a).1 := by
      intro b hb
      obtain ⟨hgood, hready, halike⟩ := hstart b (List.mem_cons_of_mem a hb)
      have hne : key a ≠ key b := fun he => hkeys.1 (he ▸ List.mem_map_of_mem hb)
      exact ⟨hgood, hready, h.trans halike (h.others hs hne)⟩
    obtain ⟨houtputs, hends⟩ := ih (h.good hs) hkeys.2 hrest
    rw [runAll, List.map_cons, houtputs, hsame]
    refine ⟨rfl, fun b hb => ?_⟩
    rcases List.mem_cons.mp hb with rfl | hb
    · exact h.trans hafter (h.runAll_others (h.good hs) hkeys.1)
    · exact hends b hb

end Steps

/-! ## The comments of a document -/

namespace Document

/-- If comments can be gathered, the documents are what the placed ones of them make. -/
theorem gather_eq_ok_iff {kind : Text} {cs : List Comment} {docs : List (Document Comment)} :
    (gather kind cs).value = .ok docs
      ↔ (∀ c ∈ cs, c.firstTag? kind ≠ none) ∧ docs = grouped (placed kind cs) := by
  have hvalue : (gather kind cs).value = _ := gatherFrom_value kind [] 0 cs
  rw [foldl_insertInto] at hvalue
  rw [hvalue]
  cases hfind : cs.find? fun c => (c.firstTag? kind).isNone with
  | some b =>
    have hb : b.firstTag? kind = none := by simpa using List.find?_some hfind
    constructor
    · intro h; exact absurd h (by simp)
    · intro h; exact absurd hb (h.1 b (List.mem_of_find?_eq_some hfind))
  | none =>
    have hall : ∀ c ∈ cs, c.firstTag? kind ≠ none := fun c hc hnone =>
      List.find?_eq_none.mp hfind c hc (by simp [hnone])
    constructor
    · intro h; exact ⟨hall, (Except.ok.inj h).symm⟩
    · intro h; rw [h.2]

end Document

namespace Publish

variable {d d' : Disk} {output layout : Text}

/-! ## The stages as runs -/

/-- Prepares a document. -/
def prepareStep (output layout : Text) (d : Disk) (doc : Document Comment) :
    Disk × Job × List Diagnostic :=
  let p := prepare d output layout doc
  (p.disk, p.job, p.diagnostics)

/-- Writes the pages of a job. -/
def pagesStep (d : Disk) (job : Job) : Disk × Job :=
  let w := writePages d job.result job.pages
  (w.1, { job with result := w.2.1, pages := [] })

/-- Writes the manifest of a job. -/
def manifestStep (output : Text) (d : Disk) (job : Job) : Disk × Result :=
  let w := writeManifest d output job
  (w.1, w.2.1)

theorem prepareAll_eq_runAll (d : Disk) (output layout : Text) (docs : List (Document Comment)) :
    let r := runAll (prepareStep output layout) d docs
    (prepareAll d output layout docs).1 = r.1
      ∧ (prepareAll d output layout docs).2.1 = r.2.map (·.1)
      ∧ (prepareAll d output layout docs).2.2.1 = r.2.flatMap (·.2) := by
  induction docs generalizing d with
  | nil => exact ⟨rfl, rfl, rfl⟩
  | cons doc docs ih =>
    obtain ⟨hdisk, hjobs, hdiagnostics⟩ := ih (prepare d output layout doc).disk
    refine ⟨hdisk, ?_, ?_⟩
    · exact congrArg ((prepare d output layout doc).job :: ·) hjobs
    · exact congrArg ((prepare d output layout doc).diagnostics ++ ·) hdiagnostics

theorem writeAllPages_eq_runAll (d : Disk) (jobs : List Job) :
    (writeAllPages d jobs).1 = (runAll pagesStep d jobs).1
      ∧ (writeAllPages d jobs).2.1 = (runAll pagesStep d jobs).2 := by
  induction jobs generalizing d with
  | nil => exact ⟨rfl, rfl⟩
  | cons job jobs ih =>
    obtain ⟨hdisk, hjobs⟩ := ih (writePages d job.result job.pages).1
    exact ⟨hdisk, congrArg ((pagesStep d job).2 :: ·) hjobs⟩

theorem writeManifests_eq_runAll (d : Disk) (output : Text) (jobs : List Job) :
    (writeManifests d output jobs).1 = (runAll (manifestStep output) d jobs).1
      ∧ (writeManifests d output jobs).2.1 = (runAll (manifestStep output) d jobs).2 := by
  induction jobs generalizing d with
  | nil => exact ⟨rfl, rfl⟩
  | cons job jobs ih =>
    obtain ⟨hdisk, hresults⟩ := ih (writeManifest d output job).1
    exact ⟨hdisk, congrArg ((manifestStep output d job).2 :: ·) hresults⟩

/-- Publishing is the three stages, each a run over the documents. -/
theorem publish_eq_runAll (d : Disk) (output layout : Text) (docs : List (Document Comment)) :
    let prepared := runAll (prepareStep output layout) d docs
    let paged := runAll pagesStep prepared.1 (prepared.2.map (·.1))
    let ended := runAll (manifestStep output) paged.1 paged.2
    (publish d output layout docs).disk = ended.1
      ∧ (publish d output layout docs).results = ended.2
      ∧ (publish d output layout docs).diagnostics = prepared.2.flatMap (·.2) := by
  intro prepared paged ended
  obtain ⟨hdisk₁, hjobs₁, hdiagnostics⟩ := prepareAll_eq_runAll d output layout docs
  obtain ⟨hdisk₂, hjobs₂⟩ := writeAllPages_eq_runAll prepared.1 (prepared.2.map (·.1))
  obtain ⟨hdisk₃, hresults⟩ := writeManifests_eq_runAll paged.1 output paged.2
  cases docs with
  | nil => exact ⟨rfl, rfl, rfl⟩
  | cons doc docs =>
    simp only [publish, List.isEmpty_cons, Bool.false_eq_true, if_false]
    rw [hdisk₁, hjobs₁, hdiagnostics, hdisk₂, hjobs₂, hdisk₃, hresults]
    exact ⟨rfl, rfl, rfl⟩

/-! ## Preparing documents -/

/-- Where a document is prepared, the disk is as it was or its directory was recreated. -/
theorem disk_prepare (d : Disk) (output layout : Text) (doc : Document Comment) :
    (prepare d output layout doc).disk = d ∨ (Path.IsName doc.name
      ∧ (prepare d output layout doc).disk = (recreate d (directory output doc.name)
        (pagesDirectory output doc.name)).1) := by
  rw [prepare]
  split
  · exact Or.inl rfl
  · rename_i hcheck
    split
    · exact Or.inl rfl
    · refine Or.inr ⟨isName_of_checkName hcheck, ?_⟩
      dsimp only
      split
      · rename_i h; rw [h]; rfl
      · rename_i h; rw [h]

/-- Once the way is made, the disks agree on the scope of a document. -/
def SettledAlike (output name : Text) (d d' : Disk) : Prop :=
  Disk.AgreeOn (Scope (home output name)) (settle d output) (settle d' output)

/-- Disks that are alike agree in the directory of the document. -/
theorem SettledAlike.agreeOn {name : Text} (ho : Path.IsPlain output)
    (h : SettledAlike output name d d') : Disk.AgreeOn (home output name <+: ·) d d' := by
  refine ⟨?_, fun l hl => ?_⟩
  · exact (settle_adds d' ho).here.symm.trans (h.here.trans (settle_adds d ho).here)
  · rw [← content_settle d ho hl, ← content_settle d' ho hl]
    exact h.content l (Or.inr hl)

/-- Different names, different directories: nothing is in one of them and in the other one as well,
or on the way to it. -/
theorem home_disjoint {name name' : Text} (hne : name ≠ name') {l : Location}
    (hl : home output name' <+: l) : ¬ home output name <+: l ∧ ¬ l <+: home output name := by
  have hlen : (home output name).length = (home output name').length := by simp [home]
  have hdiff : home output name ≠ home output name' := by
    intro he
    have hlast := List.append_cancel_left he
    exact hne (by simpa using hlast)
  constructor
  · intro hpre
    exact hdiff (List.prefix_of_prefix_length_le hpre hl hlen.le |>.eq_of_length hlen)
  · intro hpre
    exact hdiff ((hl.trans hpre).eq_of_length hlen.symm).symm

/-- What is confined to the directory of a document leaves those of others alone. -/
theorem Confined.agreeOn {name name' : Text} (hne : name ≠ name')
    (h : Confined (home output name) d d') : Disk.AgreeOn (home output name' <+: ·) d d' := by
  refine ⟨h.here, fun l hl => ?_⟩
  obtain ⟨hout, habove⟩ := home_disjoint hne hl
  rcases h.outside l hout with heq | ⟨hpre, -⟩
  · exact heq
  · exact absurd hpre habove

/-- Preparing a document makes the way to another one, but nothing that this one would not make. -/
theorem settledAlike_prepare {name : Text} (layout : Text) (doc : Document Comment) (hd : d.Sound)
    (ho : Path.IsPlain output) (hne : doc.name ≠ name) :
    SettledAlike output name d (prepare d output layout doc).disk := by
  have hothers := (confined_prepare layout doc hd ho).1.agreeOn hne
  rcases disk_prepare d output layout doc with hsame | ⟨hn, hrecreated⟩
  · rw [hsame]
    exact Disk.AgreeOn.refl _ _
  · have hway : Disk.AgreeOn (· <+: Path.components output) (settle d output)
        (prepare d output layout doc).disk := by
      refine ⟨hothers.here.trans (settle_adds d ho).here.symm, fun l hl => ?_⟩
      rw [hrecreated]
      exact content_recreate_way hd ho hn hl
    have hsettled := settle_congr ho (fun _ => id) hway
    rw [settle_settle d ho] at hsettled
    refine ⟨hsettled.here, fun l hl => ?_⟩
    have hbelow : home output name <+: l →
        (settle (prepare d output layout doc).disk output).content l
          = (settle d output).content l := by
      intro hl
      rw [content_settle _ ho hl, content_settle d ho hl]
      exact hothers.content l hl
    rcases hl with hl | hl
    · rcases List.prefix_concat_iff.mp hl with rfl | hl
      · exact hbelow (List.prefix_refl _)
      · exact hsettled.content l hl
    · exact hbelow hl

/-- On disks that are alike for a document it is prepared in the same way. -/
theorem prepareStep_congr {doc : Document Comment} (hd : d.Sound) (hd' : d'.Sound)
    (ho : Path.IsPlain output) (h : SettledAlike output doc.name d d') :
    (prepareStep output layout d' doc).2 = (prepareStep output layout d doc).2
      ∧ SettledAlike output doc.name (prepareStep output layout d doc).1
        (prepareStep output layout d' doc).1 := by
  unfold prepareStep prepare
  cases hcheck : checkName doc.name with
  | error e => exact ⟨rfl, h⟩
  | ok _ =>
    cases hlayout : Layout.ofName? layout with
    | none => exact ⟨rfl, h⟩
    | some layout =>
      have hn := isName_of_checkName hcheck
      -- the directory comes out as from disks that agree on the scope
      obtain ⟨hsame, hagree⟩ := recreate_congr ((settle_adds d ho).sound hd)
        ((settle_adds d' ho).sound hd') ho hn h
      rw [recreate_settle d ho hn, recreate_settle d' ho hn] at hsame hagree
      have hafter := settle_congr ho
        (fun l hl => Or.inl (hl.trans (List.prefix_append _ _))) hagree
      dsimp only
      generalize recreate d (directory output doc.name) (pagesDirectory output doc.name) = r
        at hsame hagree hafter
      generalize recreate d' (directory output doc.name) (pagesDirectory output doc.name) = r'
        at hsame hagree hafter
      obtain ⟨d₁, found⟩ := r
      obtain ⟨d₁', found'⟩ := r'
      obtain rfl : found' = found := hsame
      obtain ⟨failure, log⟩ := found'
      cases failure with
      | some e => exact ⟨rfl, hafter⟩
      | none =>
        have hcwd : d₁'.cwd = d₁.cwd := congrArg (fun l => '/' :: Text.join ['/'] l) hagree.here
        exact ⟨by simp only [hcwd], hafter⟩

theorem independent_prepareStep (layout : Text) (ho : Path.IsPlain output) :
    Independent (prepareStep output layout) Document.name Disk.Sound (fun _ _ => True)
      (SettledAlike output) where
  refl _ _ := Disk.AgreeOn.refl _ _
  trans h h' := Disk.AgreeOn.trans h h'
  good hd := (confined_prepare layout _ hd ho).1.sound hd
  others hd hne := settledAlike_prepare layout _ hd ho hne
  own hd hd' _ h := prepareStep_congr hd hd' ho h

/-! ## Writing pages and manifests -/

/-- The job has something to write, and then there is a directory to write it to. -/
def Open (output : Text) (job : Job) (d : Disk) : Prop :=
  job.pages ≠ [] ∨ job.manifest ≠ none → d.content (home output job.result.name) = some none

/-- With the directory of a document, the way to it is there. -/
theorem agreeOn_scope {name : Text} (hopen : d.content (home output name) = some none)
    (h : Disk.AgreeOn (home output name <+: ·) d d') :
    Disk.AgreeOn (Scope (home output name)) d d' := by
  refine ⟨h.here, fun l hl => ?_⟩
  have hopen' : d'.content (home output name) = some none :=
    (h.content _ (List.prefix_refl _)).trans hopen
  rcases hl with hl | hl
  · rw [Disk.content_above_dir hopen hl, Disk.content_above_dir hopen' hl]
  · exact h.content l hl

theorem scope_of_page {name : Text} {l k : Location} (hbelow : BelowPages (home output name) k)
    (hl : l <+: k) : Scope (home output name) l := by
  obtain ⟨r, -, rfl⟩ := hbelow
  exact scope_of_below (List.prefix_append _ _) hl

/-- A job as it comes from preparing a document, with a place for the name of the document. -/
structure JobOf (output name : Text) (job : Job) : Prop where
  named : job.result.name = name
  pages : ∀ p ∈ job.pages,
    Path.IsPlain p.1 ∧ BelowPages (home output name) (Path.components p.1)
  manifest : job.manifest ≠ none → Path.IsName name

theorem PreparedAt.jobOf {doc : Document Comment} {job : Job} (h : PreparedAt output doc job) :
    JobOf output doc.name job := ⟨h.name, h.pages, h.manifest⟩

theorem JobOf.pagesStep {name : Text} {job : Job} (h : JobOf output name job) (d : Disk) :
    JobOf output name (pagesStep d job).2 :=
  ⟨(name_writePages _ _ _).trans h.named, fun _ hp => absurd hp (by simp [Publish.pagesStep]),
    h.manifest⟩

theorem independent_pagesStep {job : Document Comment → Job}
    (hjob : ∀ doc, JobOf output doc.name (job doc)) :
    Independent (fun d doc => pagesStep d (job doc)) Document.name Disk.Sound
      (fun doc d => Open output (job doc) d)
      (fun name => Disk.AgreeOn (home output name <+: ·)) where
  refl _ _ := Disk.AgreeOn.refl _ _
  trans h h' := Disk.AgreeOn.trans h h'
  good {doc d} hd := (confined_writePages (d := d) (hjob doc).pages).1.sound hd
  others {doc d name} _ hne := (confined_writePages (d := d) (hjob doc).pages).1.agreeOn hne
  own {doc d d'} _ _ hopen h := by
    have hpages := (hjob doc).pages
    unfold pagesStep
    by_cases hnil : (job doc).pages = []
    · rw [hnil]
      exact ⟨rfl, h⟩
    · have hdir := hopen (Or.inl hnil)
      rw [(hjob doc).named] at hdir
      obtain ⟨hsame, hagree⟩ := writePages_congr (job doc).result
        (fun p hp => ⟨(hpages p hp).1, fun l hl => scope_of_page (hpages p hp).2 hl⟩)
        (agreeOn_scope hdir h)
      exact ⟨by simp only [hsame], hagree.mono fun l => Or.inr⟩

theorem independent_manifestStep {job : Document Comment → Job} (ho : Path.IsPlain output)
    (hjob : ∀ doc, JobOf output doc.name (job doc)) :
    Independent (fun d doc => manifestStep output d (job doc)) Document.name Disk.Sound
      (fun doc d => Open output (job doc) d)
      (fun name => Disk.AgreeOn (home output name <+: ·)) where
  refl _ _ := Disk.AgreeOn.refl _ _
  trans h h' := Disk.AgreeOn.trans h h'
  good {doc d} hd :=
    (confined_writeManifest d (job doc) ho (hjob doc).named (hjob doc).manifest).1.sound hd
  others {doc d name} _ hne :=
    (confined_writeManifest d (job doc) ho (hjob doc).named (hjob doc).manifest).1.agreeOn hne
  own {doc d d'} _ _ hopen h := by
    unfold manifestStep
    cases hm : (job doc).manifest with
    | none =>
      have hnone := fun e : Disk => writeManifest_none e output hm
      dsimp only
      rw [(hnone d).1, (hnone d').1, (hnone d).2, (hnone d').2]
      exact ⟨rfl, h⟩
    | some text =>
      have hsome : (job doc).manifest ≠ none := by rw [hm]; simp
      have hdir := hopen (Or.inr hsome)
      have hn := (hjob doc).manifest hsome
      rw [(hjob doc).named] at hdir
      have hpath : Path.IsPlain (manifestPath output (job doc).result.name)
          ∧ ∀ l, l <+: Path.components (manifestPath output (job doc).result.name) →
            Scope (home output doc.name) l := by
        rw [(hjob doc).named, components_manifestPath output hn]
        exact ⟨isPlain_manifestPath ho hn,
          fun l hl => scope_of_below (List.prefix_append _ _) hl⟩
      obtain ⟨hsame, hagree⟩ :=
        writeManifest_congr (job doc) (fun _ => hpath) (agreeOn_scope hdir h)
      exact ⟨by simp only [hsame], hagree.mono fun l => Or.inr⟩

/-- A document that was prepared and has something to write has its directory. -/
theorem open_prepare (ho : Path.IsPlain output) (d : Disk) (layout : Text)
    (doc : Document Comment) :
    Open output (prepare d output layout doc).job (prepare d output layout doc).disk := by
  have hgivenUp : ∀ (e : Disk) r err log, Open output (giveUp e r err log).job e := by
    intro e r err log hwrites
    exact absurd hwrites (by simp [giveUp])
  unfold prepare
  cases hcheck : checkName doc.name with
  | error e => exact hgivenUp _ _ _ _
  | ok _ =>
    cases hlayout : Layout.ofName? layout with
    | none => exact hgivenUp _ _ _ _
    | some layout =>
      have hn := isName_of_checkName hcheck
      dsimp only
      split
      · exact hgivenUp _ _ _ _
      · rename_i d₁ log h
        exact fun _ => (content_of_recreate ho hn h).2.1

theorem Open.pagesStep {job : Job} (h : Open output job d) :
    Open output (pagesStep d job).2 (pagesStep d job).1 := by
  intro hwrites
  have hmanifest : job.manifest ≠ none := hwrites.resolve_left (by simp [Publish.pagesStep])
  have hname : (Publish.pagesStep d job).2.result.name = job.result.name :=
    name_writePages d job.result job.pages
  have hdir := h (Or.inr hmanifest)
  rw [hname]
  -- a directory stays where there is one
  rcases (writePages_adds d job.result job.pages).content (home output job.result.name) with
    heq | ⟨-, hnone, -⟩ | ⟨-, hno, -⟩
  · exact heq.trans hdir
  · rw [hdir] at hnone; exact absurd hnone (by simp)
  · exact absurd hdir hno

/-! ## All stages -/

/-- **Documents of different names are published as if each were the only one.** -/
theorem publish_of_nodup (layout : Text) (hd : d.Sound) (ho : Path.IsPlain output)
    {docs : List (Document Comment)} (hnames : (docs.map (·.name)).Nodup) :
    (publish d output layout docs).results
        = docs.flatMap (fun doc => (publish d output layout [doc]).results)
      ∧ (publish d output layout docs).diagnostics
        = docs.flatMap (fun doc => (publish d output layout [doc]).diagnostics)
      ∧ ∀ doc ∈ docs, Disk.AgreeOn (home output doc.name <+: ·)
          (publish d output layout [doc]).disk (publish d output layout docs).disk := by
  -- what a document comes to alone, stage by stage
  let prepared (doc : Document Comment) := prepareStep output layout d doc
  let paged (doc : Document Comment) := pagesStep (prepared doc).1 (prepared doc).2.1
  let ended (doc : Document Comment) := manifestStep output (paged doc).1 (paged doc).2
  have halone : ∀ doc, (publish d output layout [doc]).disk = (ended doc).1
      ∧ (publish d output layout [doc]).results = [(ended doc).2]
      ∧ (publish d output layout [doc]).diagnostics = [(prepared doc).2].flatMap (·.2) := fun doc =>
    publish_eq_runAll d output layout [doc]
  have hprepared := fun doc => confined_prepare layout doc hd ho
  have hjob : ∀ doc, JobOf output doc.name (prepared doc).2.1 := fun doc => (hprepared doc).2.jobOf
  have hsound : ∀ doc, (prepared doc).1.Sound := fun doc => (hprepared doc).1.sound hd
  -- the same stages over all documents
  obtain ⟨hdisk, hresults, hdiagnostics⟩ := publish_eq_runAll d output layout docs
  obtain ⟨houtputs₁, hends₁⟩ := (independent_prepareStep layout ho).run hd hnames
    (fun _ => d) fun _ _ => ⟨hd, trivial, Disk.AgreeOn.refl _ _⟩
  have hgood₁ := (independent_prepareStep layout ho).good_runAll hd docs
  have hjobs : (runAll (prepareStep output layout) d docs).2.map (·.1)
      = docs.map fun doc => (prepared doc).2.1 := by rw [houtputs₁, List.map_map]; rfl
  rw [hjobs, runAll_map pagesStep fun doc => (prepared doc).2.1] at hdisk hresults
  rw [houtputs₁] at hdiagnostics
  have hrun₂ := independent_pagesStep hjob
  obtain ⟨houtputs₂, hends₂⟩ := hrun₂.run hgood₁ hnames (fun doc => (prepared doc).1)
    fun doc hdoc => ⟨hsound doc, open_prepare ho d layout doc, (hends₁ doc hdoc).agreeOn ho⟩
  have hgood₂ := hrun₂.good_runAll hgood₁ docs
  have hrun₃ := independent_manifestStep ho fun doc => (hjob doc).pagesStep (prepared doc).1
  obtain ⟨houtputs₃, hends₃⟩ := hrun₃.run hgood₂ hnames (fun doc => (paged doc).1)
    fun doc hdoc => ⟨hrun₂.good (a := doc) (hsound doc),
      (open_prepare ho d layout doc).pagesStep, hends₂ doc hdoc⟩
  rw [houtputs₂, runAll_map (manifestStep output) fun doc => (paged doc).2] at hdisk hresults
  refine ⟨?_, ?_, fun doc hdoc => ?_⟩
  · rw [hresults, houtputs₃, ← List.flatMap_singleton' (docs.map _), List.flatMap_map]
    exact List.flatMap_congr fun doc _ => (halone doc).2.1.symm
  · rw [hdiagnostics, List.flatMap_map]
    refine List.flatMap_congr fun doc _ => ?_
    rw [(halone doc).2.2, List.flatMap_singleton]
  · rw [hdisk, (halone doc).1]
    exact hends₃ doc hdoc

/-- A document that is published has one result, which has its name. -/
theorem name_publish_singleton (layout : Text) (hd : d.Sound) (ho : Path.IsPlain output)
    (doc : Document Comment) :
    ∃ r, (publish d output layout [doc]).results = [r] ∧ r.name = doc.name := by
  obtain ⟨-, hresult⟩ := publish_singleton (rfl : prepare d output layout doc = _)
  refine ⟨_, hresult, ?_⟩
  have hnoting : ∀ (e : Disk) (r : Result) path text,
      (writeNoting e r path text).2.1.name = r.name := by
    intro e r path text
    unfold writeNoting
    split <;> rfl
  have hname : (prepare d output layout doc).withPages.result.name = doc.name :=
    (name_writePages _ _ _).trans (confined_prepare layout doc hd ho).2.name
  cases hm : (prepare d output layout doc).withPages.manifest with
  | none => rw [(writeManifest_none _ output hm).2, hname]
  | some text => rw [(writeManifest_some _ output hm).2, hnoting, hname]

end Publish
end DocPress
