import DocPress.Proofs.Independence
import DocPress.Proofs.OptionsAgree

/-!
# What a run of the command touches

A run goes through options, settings, sources, comments and documents before it changes anything,
and may end at each of them. `Course` lists the ways a run can take, once and for all: everything
that is said here about a run is read off its course. On all courses but the last the disk is not
touched.

On the last one documents are published. Each stage of publishing is a run over the documents in
which every step keeps to the directory of one of them (`Confined`), so that the whole keeps to what
is below the output directory (`StaysBelow`), but for the way there.

Comments that were collected are those with a directive, so that gathering them cannot fail: the
collection and the documents look for the same tag.
-/

namespace DocPress

/-- What each step keeps is kept by a run, and what each step yields is yielded throughout. -/
theorem runAll_keeps {σ α β : Type} (step : σ → α → σ × β) {Inv : σ → Prop} {P : α → Prop}
    {Q : β → Prop} (hstep : ∀ {s a}, Inv s → P a → Inv (step s a).1 ∧ Q (step s a).2) {s : σ}
    (hs : Inv s) {as : List α} (has : ∀ a ∈ as, P a) :
    Inv (runAll step s as).1 ∧ ∀ b ∈ (runAll step s as).2, Q b := by
  induction as generalizing s with
  | nil => exact ⟨hs, fun b hb => absurd hb (by simp [runAll])⟩
  | cons a as ih =>
    obtain ⟨hs', hb⟩ := hstep hs (has a (List.mem_cons_self ..))
    obtain ⟨hend, hbs⟩ := ih hs' fun a' ha' => has a' (List.mem_cons_of_mem a ha')
    refine ⟨hend, fun b' hb' => ?_⟩
    rcases List.mem_cons.mp hb' with rfl | hb'
    · exact hb
    · exact hbs b' hb'

namespace Publish

/-! ## Below the output directory -/

/-- From `d` to `d'` nothing changes but below a place, and the place itself and what is above it
are made if they are missing. -/
def StaysBelow (place : Location) (d d' : Disk) : Prop :=
  ∀ l, d'.content l = d.content l ∨ (place <+: l ∧ l ≠ place)
    ∨ (l <+: place ∧ d.content l = none ∧ d'.content l = some none)

variable {place : Location} {d d' d'' : Disk} {output layout : Text}

theorem StaysBelow.refl (place : Location) (d : Disk) : StaysBelow place d d := fun _ => Or.inl rfl

theorem StaysBelow.trans (h : StaysBelow place d d') (h' : StaysBelow place d' d'') :
    StaysBelow place d d'' := by
  intro l
  rcases h' l with hsame | hbelow | ⟨hway, hnone, hdir⟩
  · rw [hsame]
    exact h l
  · exact Or.inr (Or.inl hbelow)
  · rcases h l with hsame | hbelow | ⟨-, -, hdir'⟩
    · exact Or.inr (Or.inr ⟨hway, hsame ▸ hnone, hdir⟩)
    · exact Or.inr (Or.inl hbelow)
    · rw [hnone] at hdir'; exact absurd hdir' (by simp)

/-- The directory of a document is below the output directory. -/
theorem Confined.staysBelow {name : Text} (h : Confined (home output name) d d') :
    StaysBelow (Path.components output) d d' := by
  have hbelow : ∀ l, home output name <+: l →
      Path.components output <+: l ∧ l ≠ Path.components output := by
    intro l hl
    refine ⟨(List.prefix_append _ _).trans hl, fun he => ?_⟩
    have hlen := hl.length_le
    rw [he] at hlen
    simp only [home, List.length_append, List.length_singleton] at hlen
    omega
  intro l
  by_cases hl : home output name <+: l
  · exact Or.inr (Or.inl (hbelow l hl))
  · rcases h.outside l hl with hsame | ⟨hway, hnew⟩
    · exact Or.inl hsame
    · rcases List.prefix_concat_iff.mp hway with rfl | hway
      · exact absurd (List.prefix_refl _) hl
      · exact Or.inr (Or.inr ⟨hway, hnew⟩)

/-- What every step of publishing keeps. -/
def Kept (output : Text) (d d' : Disk) : Prop :=
  d'.Sound ∧ StaysBelow (Path.components output) d d'

theorem Kept.confined {name : Text} (h : Kept output d d')
    (hstep : Confined (home output name) d' d'') : Kept output d d'' :=
  ⟨hstep.sound h.1, h.2.trans hstep.staysBelow⟩

/-- A job that belongs to a document of some name. -/
def IsJob (output : Text) (job : Job) : Prop := ∃ name, JobOf output name job

theorem Kept.prepareStep {doc : Document Comment} (ho : Path.IsPlain output)
    (h : Kept output d d') : Kept output d (prepareStep output layout d' doc).1
      ∧ IsJob output (prepareStep output layout d' doc).2.1 := by
  obtain ⟨hstep, hjob⟩ := confined_prepare layout doc h.1 ho
  exact ⟨h.confined hstep, doc.name, hjob.jobOf⟩

theorem Kept.pagesStep {job : Job} (h : Kept output d d') (hjob : IsJob output job) :
    Kept output d (pagesStep d' job).1 ∧ IsJob output (pagesStep d' job).2 := by
  obtain ⟨name, hjob⟩ := hjob
  exact ⟨h.confined (confined_writePages hjob.pages).1, name, hjob.pagesStep d'⟩

theorem Kept.manifestStep {job : Job} (ho : Path.IsPlain output) (h : Kept output d d')
    (hjob : IsJob output job) : Kept output d (manifestStep output d' job).1 := by
  obtain ⟨name, hjob⟩ := hjob
  exact h.confined (confined_writeManifest d' job ho hjob.named hjob.manifest).1

/-- **Publishing stays below the output directory**, whatever the documents are. -/
theorem staysBelow_publish (layout : Text) (hd : d.Sound) (ho : Path.IsPlain output)
    (docs : List (Document Comment)) :
    StaysBelow (Path.components output) d (publish d output layout docs).disk := by
  have hstart : Kept output d d := ⟨hd, StaysBelow.refl _ d⟩
  -- what is kept goes from stage to stage, and the jobs of one are those of the next
  have hdocs : ∀ doc ∈ docs, True := fun _ _ => trivial
  obtain ⟨hprepared, hjobs⟩ := runAll_keeps (prepareStep output layout)
    (Q := fun p => IsJob output p.1) (fun h _ => h.prepareStep ho) hstart hdocs
  have hjobs : ∀ job ∈ (runAll (prepareStep output layout) d docs).2.map (·.1),
      IsJob output job := by
    intro job hjob
    obtain ⟨p, hp, rfl⟩ := List.mem_map.mp hjob
    exact hjobs p hp
  obtain ⟨hpaged, hjobs⟩ := runAll_keeps pagesStep Kept.pagesStep hprepared hjobs
  obtain ⟨hended, -⟩ := runAll_keeps (manifestStep output) (Q := fun _ => True)
    (fun h hjob => ⟨h.manifestStep ho hjob, trivial⟩) hpaged hjobs
  rw [(publish_eq_runAll d output layout docs).1]
  exact hended.2

/-- Each document that was gathered has its result. -/
theorem names_publish {kind : Text} {cs : List Comment} {docs : List (Document Comment)}
    (layout : Text) (hd : d.Sound) (ho : Path.IsPlain output)
    (hdocs : (Document.gather kind cs).value = .ok docs) :
    (publish d output layout docs).results.map (·.name) = docs.map (·.name) := by
  obtain ⟨-, rfl⟩ := Document.gather_eq_ok_iff.mp hdocs
  have hnodup := (Document.grouping_grouped (Document.placed kind cs)).names_nodup
  rw [(publish_of_nodup layout hd ho hnodup).1, List.map_flatMap,
    ← List.flatMap_singleton' (List.map _ (Document.grouped _)), List.flatMap_map]
  refine List.flatMap_congr fun doc _ => ?_
  obtain ⟨r, hr, hname⟩ := name_publish_singleton layout hd ho doc
  rw [hr, List.map_singleton, hname]

end Publish

/-! ## Collected comments can be gathered -/

namespace Collect

variable {d : Disk} {kind : Text}

/-- Of a file the comments with a directive are taken. -/
theorem hasDirective_ofFile {path : Text} {cs : List Comment}
    (h : (ofFile d kind path).value = .ok cs) : ∀ c ∈ cs, Placement.hasDirective c kind = true := by
  unfold ofFile at h
  simp only at h
  split at h
  · exact absurd h (by simp)
  · rename_i found _
    rw [List.partition_eq_filter_filter] at h
    obtain rfl := Except.ok.inj h
    intro c hc
    exact (List.mem_filter.mp hc).2

theorem hasDirective_ofFiles {paths : List Text} {cs : List Comment}
    (h : (ofFiles d kind paths).value = .ok cs) :
    ∀ c ∈ cs, Placement.hasDirective c kind = true := by
  induction paths generalizing cs with
  | nil =>
    obtain rfl := Except.ok.inj h
    intro c hc
    exact absurd hc (by simp)
  | cons path paths ih =>
    unfold ofFiles at h
    simp only at h
    split at h
    · exact absurd h (by simp)
    · rename_i these hthese
      cases hothers : (ofFiles d kind paths).value with
      | error e => rw [hothers] at h; exact absurd h (by simp [Except.map])
      | ok others =>
        rw [hothers] at h
        obtain rfl := Except.ok.inj h
        intro c hc
        rcases List.mem_append.mp hc with hc | hc
        · exact hasDirective_ofFile hthese c hc
        · exact ih hothers c hc

/-- **Comments that were collected can be gathered.** -/
theorem gather_of_run {s : Settings} {cs : List Comment} (h : (run d s).value = .ok cs) :
    ∃ docs, (Document.gather s.directive cs).value = .ok docs := by
  unfold run at h
  simp only at h
  split at h
  · exact absurd h (by simp)
  · exact absurd h (by simp)
  · rename_i found hfound _
    obtain rfl := Except.ok.inj h
    refine ⟨_, Document.gather_eq_ok_iff.mpr ⟨fun c hc hnone => ?_, rfl⟩⟩
    have hdirective := hasDirective_ofFiles hfound c hc
    rw [Placement.hasDirective, hnone] at hdirective
    exact absurd hdirective (by simp)

end Collect

/-! ## The courses of a run -/

namespace Command

variable {d : Disk} {arguments : List Text}

/-- The ways a run can take, and what comes of each. -/
inductive Course (d : Disk) (arguments : List Text) (after : Outcome) : Prop where
  /-- The arguments ask for help or the version, or are not understood. -/
  | stopped (stop : Options.Stop) (read : Options.read arguments = .error stop)
    (disk : after.disk = d)
  /-- There are no settings, or no comments can be collected. -/
  | failed (o : Options) (e : Error) (read : Options.read arguments = .ok o)
    (collected : (collect d o).value = .error e) (disk : after.disk = d)
    (ending : after.ending = if e.isTold then .exit 2 else .broken e)
  | listed (o : Options) (s : Settings) (cs : List Comment)
    (read : Options.read arguments = .ok o) (list : o.list = true)
    (collected : (collect d o).value = .ok (s, cs)) (disk : after.disk = d)
    (ending : after.ending = .exit 0)
  | nothing (o : Options) (s : Settings) (cs : List Comment)
    (read : Options.read arguments = .ok o) (list : o.list = false)
    (collected : (collect d o).value = .ok (s, cs))
    (gathered : (Document.gather s.directive cs).value = .ok []) (disk : after.disk = d)
    (ending : after.ending = .exit 0)
  | published (o : Options) (s : Settings) (cs : List Comment) (docs : List (Document Comment))
    (read : Options.read arguments = .ok o) (list : o.list = false)
    (collected : (collect d o).value = .ok (s, cs))
    (gathered : (Document.gather s.directive cs).value = .ok docs) (some : docs ≠ [])
    (disk : after.disk = (Publish.publish d (s.outputPath d.cwd) s.layout docs).disk)
    (ending : after.ending = .exit
      (if (Publish.publish d (s.outputPath d.cwd) s.layout docs).results.all (·.isOk)
        then 0 else 1))

/-- Settings that comments were collected with are those of the collection. -/
theorem run_of_collect {o : Options} {s : Settings} {cs : List Comment}
    (h : (collect d o).value = .ok (s, cs)) : (Collect.run d s).value = .ok cs := by
  unfold collect at h
  simp only at h
  split at h
  · exact absurd h (by simp)
  · rename_i chosen _
    simp only at h
    split at h
    · exact absurd h (by simp)
    · rename_i found hfound
      obtain ⟨rfl, rfl⟩ := Prod.mk.inj (Except.ok.inj h)
      exact hfound

theorem run_eq_runOptions {o : Options} (h : Options.read arguments = .ok o) :
    (run d arguments).disk = (runOptions d o).disk
      ∧ (run d arguments).ending = (runOptions d o).ending := by
  unfold run
  rw [h]
  exact ⟨rfl, rfl⟩

theorem run_of_stopped {stop : Options.Stop} (h : Options.read arguments = .error stop) :
    (run d arguments).disk = d := by
  unfold run
  rw [h]
  cases stop <;> rfl

section Understood

variable {o : Options} {s : Settings} {cs : List Comment} {docs : List (Document Comment)}

/-- Without settings or comments the run ends with 2, or without a code. -/
theorem run_of_failed {e : Error} (hread : Options.read arguments = .ok o)
    (hcollected : (collect d o).value = .error e) : (run d arguments).disk = d
      ∧ (run d arguments).ending = if e.isTold then .exit 2 else .broken e := by
  rw [(run_eq_runOptions hread).1, (run_eq_runOptions hread).2]
  unfold runOptions
  simp only [hcollected]
  cases htold : e.isTold with
  | true =>
    -- what is told has words to tell it
    obtain ⟨message, hmessage⟩ := message_of_isTold htold
    simp only [hmessage, if_true, and_self]
  | false => exact ⟨rfl, rfl⟩

theorem run_of_listed (hread : Options.read arguments = .ok o) (hlist : o.list = true)
    (hcollected : (collect d o).value = .ok (s, cs)) :
    (run d arguments).disk = d ∧ (run d arguments).ending = .exit 0 := by
  have hruns : runOptions d o = list d o s cs (collect d o).log := by
    simp only [runOptions, hcollected, hlist, if_true]
  rw [(run_eq_runOptions hread).1, (run_eq_runOptions hread).2, hruns]
  exact ⟨rfl, rfl⟩

/-- What was gathered is published. -/
theorem run_of_gathered (hread : Options.read arguments = .ok o) (hlist : o.list = false)
    (hcollected : (collect d o).value = .ok (s, cs)) :
    (run d arguments).disk = (publish d s cs (collect d o).log).disk
      ∧ (run d arguments).ending = (publish d s cs (collect d o).log).ending := by
  have hruns : runOptions d o = publish d s cs (collect d o).log := by
    simp only [runOptions, hcollected, hlist, Bool.false_eq_true, if_false]
  rw [(run_eq_runOptions hread).1, (run_eq_runOptions hread).2, hruns]
  exact ⟨rfl, rfl⟩

theorem publish_of_nothing (log : Log) (h : (Document.gather s.directive cs).value = .ok []) :
    (publish d s cs log).disk = d ∧ (publish d s cs log).ending = .exit 0 := by
  unfold publish
  simp only [h, and_self]

theorem publish_of_some (log : Log) (h : (Document.gather s.directive cs).value = .ok docs)
    (hsome : docs ≠ []) :
    (publish d s cs log).disk = (Publish.publish d (s.outputPath d.cwd) s.layout docs).disk
      ∧ (publish d s cs log).ending = .exit
        (if (Publish.publish d (s.outputPath d.cwd) s.layout docs).results.all (·.isOk)
          then 0 else 1) := by
  obtain ⟨doc, docs, rfl⟩ := List.exists_cons_of_ne_nil hsome
  unfold publish
  simp only [h, and_self]

end Understood

theorem course (d : Disk) (arguments : List Text) : Course d arguments (run d arguments) := by
  cases hread : Options.read arguments with
  | error stop => exact .stopped stop hread (run_of_stopped hread)
  | ok o =>
    cases hcollected : (collect d o).value with
    | error e =>
      obtain ⟨hdisk, hending⟩ := run_of_failed hread hcollected
      exact .failed o e hread hcollected hdisk hending
    | ok found =>
      obtain ⟨s, cs⟩ := found
      cases hlist : o.list with
      | true =>
        obtain ⟨hdisk, hending⟩ := run_of_listed hread hlist hcollected
        exact .listed o s cs hread hlist hcollected hdisk hending
      | false =>
        obtain ⟨hdisk, hending⟩ := run_of_gathered hread hlist hcollected
        obtain ⟨docs, hgathered⟩ := Collect.gather_of_run (run_of_collect hcollected)
        by_cases hsome : docs = []
        · subst hsome
          obtain ⟨hdisk', hending'⟩ := publish_of_nothing (d := d) (collect d o).log hgathered
          exact .nothing o s cs hread hlist hcollected hgathered (hdisk.trans hdisk')
            (hending.trans hending')
        · obtain ⟨hdisk', hending'⟩ := publish_of_some (d := d) (collect d o).log hgathered hsome
          exact .published o s cs docs hread hlist hcollected hgathered hsome
            (hdisk.trans hdisk') (hending.trans hending')

/-- The run ends before documents are written: its arguments are not followed, it ends with 2 or
without a code, it lists comments, or it finds no document. -/
inductive EndsEarly (d : Disk) (arguments : List Text) : Prop where
  | stopped (stop : Options.Stop) (read : Options.read arguments = .error stop)
  | refused (ending : (run d arguments).ending = .exit 2)
  | broken (e : Error) (ending : (run d arguments).ending = .broken e)
  | listed (o : Options) (read : Options.read arguments = .ok o) (list : o.list = true)
  | nothing (o : Options) (s : Settings) (cs : List Comment)
    (read : Options.read arguments = .ok o) (collected : (collect d o).value = .ok (s, cs))
    (gathered : (Document.gather s.directive cs).value = .ok [])

/-- The run comes to write documents, with some settings. -/
structure Publishes (d : Disk) (arguments : List Text) (s : Settings)
    (docs : List (Document Comment)) : Prop where
  gathered : ∃ o cs, Options.read arguments = .ok o ∧ o.list = false
    ∧ (collect d o).value = .ok (s, cs) ∧ (Document.gather s.directive cs).value = .ok docs
  some : docs ≠ []

theorem Publishes.outcome {s : Settings} {docs : List (Document Comment)}
    (h : Publishes d arguments s docs) :
    (run d arguments).disk = (Publish.publish d (s.outputPath d.cwd) s.layout docs).disk
      ∧ (run d arguments).ending = .exit
        (if (Publish.publish d (s.outputPath d.cwd) s.layout docs).results.all (·.isOk)
          then 0 else 1) := by
  obtain ⟨⟨o, cs, hread, hlist, hcollected, hgathered⟩, hsome⟩ := h
  obtain ⟨hdisk, hending⟩ := run_of_gathered hread hlist hcollected
  obtain ⟨hdisk', hending'⟩ := publish_of_some (d := d) (collect d o).log hgathered hsome
  exact ⟨hdisk.trans hdisk', hending.trans hending'⟩

/-- A run that ends early leaves the disk as it is. -/
theorem EndsEarly.disk (h : EndsEarly d arguments) : (run d arguments).disk = d := by
  cases course d arguments with
  | stopped _ _ hdisk => exact hdisk
  | failed _ _ _ _ hdisk => exact hdisk
  | listed _ _ _ _ _ _ hdisk => exact hdisk
  | nothing _ _ _ _ _ _ _ hdisk => exact hdisk
  | published o s cs docs hread hlist hcollected hgathered hsome _ hending =>
    -- none of the reasons to end early is at hand
    exfalso
    cases h with
    | stopped stop hread' => rw [hread] at hread'; exact absurd hread' (by simp)
    | refused hending' =>
      rw [hending] at hending'
      split at hending' <;> exact absurd hending' (by simp)
    | broken e hending' => rw [hending] at hending'; exact absurd hending' (by simp)
    | listed o' hread' hlist' =>
      obtain rfl := Except.ok.inj (hread'.symm.trans hread)
      rw [hlist] at hlist'
      exact absurd hlist' (by simp)
    | nothing o' s' cs' hread' hcollected' hgathered' =>
      obtain rfl := Except.ok.inj (hread'.symm.trans hread)
      obtain ⟨rfl, rfl⟩ := Prod.mk.inj (Except.ok.inj (hcollected'.symm.trans hcollected))
      exact hsome (Except.ok.inj (hgathered.symm.trans hgathered'))

/-- There is no third way. -/
theorem endsEarly_or_publishes (d : Disk) (arguments : List Text) :
    EndsEarly d arguments ∨ ∃ s docs, Publishes d arguments s docs := by
  cases course d arguments with
  | stopped stop hread => exact Or.inl (.stopped stop hread)
  | failed o e _ _ _ hending =>
    cases htold : e.isTold with
    | true => exact Or.inl (.refused (by rw [hending, if_pos htold]))
    | false => exact Or.inl (.broken e (by rw [hending, if_neg (by simp [htold])]))
  | listed o s cs hread hlist => exact Or.inl (.listed o hread hlist)
  | nothing o s cs hread _ hcollected hgathered =>
    exact Or.inl (.nothing o s cs hread hcollected hgathered)
  | published o s cs docs hread hlist hcollected hgathered hsome =>
    exact Or.inr ⟨s, docs, ⟨o, cs, hread, hlist, hcollected, hgathered⟩, hsome⟩

/--
**Nothing is touched unless documents are written, and the code tells the outcome.**

A run ends early or writes documents. If it ends early, the disk is as it was. Gathering does not
fail on comments that were collected, whatever the settings are. If documents are written, each has
its result; the run ends with 1 if a result has an error and with 0 if none has; and whatever is
different afterwards is below the output path, but that the path itself and directories above it are
made where there was nothing.
-/
theorem run_touches_output_only (d : Disk) (hd : d.Sound) (arguments : List Text) :
    (EndsEarly d arguments → (run d arguments).disk = d)
      ∧ (∀ s cs, (Collect.run d s).value = .ok cs →
        ∃ docs, (Document.gather s.directive cs).value = .ok docs)
      ∧ (EndsEarly d arguments ∨ ∃ s docs, Publishes d arguments s docs)
      ∧ ∀ s docs, Publishes d arguments s docs →
        let output := s.outputPath d.cwd
        let results := (Publish.publish d output s.layout docs).results
        results.map (·.name) = docs.map (·.name)
          ∧ ((run d arguments).ending = .exit 1 ↔ ∃ r ∈ results, r.errors ≠ [])
          ∧ ((run d arguments).ending = .exit 0 ↔ ∀ r ∈ results, r.errors = [])
          ∧ Publish.StaysBelow (Path.components output) d (run d arguments).disk := by
  refine ⟨EndsEarly.disk, fun _ _ => Collect.gather_of_run, endsEarly_or_publishes d arguments,
    ?_⟩
  intro s docs hpublishes output results
  obtain ⟨hdisk, hending⟩ := hpublishes.outcome
  obtain ⟨⟨o, cs, -, -, -, hgathered⟩, -⟩ := hpublishes
  have hcwd : Path.isRooted d.cwd = true := rfl
  have ho : Path.IsPlain output :=
    Path.isPlain_absolute s.output (Path.isPlain_absolute s.base hcwd).rooted
  have hok : results.all (·.isOk) = true ↔ ∀ r ∈ results, r.errors = [] := by
    simp [Publish.Result.isOk]
  refine ⟨?_, ?_, ?_, hdisk ▸ Publish.staysBelow_publish s.layout hd ho docs⟩
  · exact Publish.names_publish s.layout hd ho hgathered
  · rw [hending]
    by_cases hall : results.all (·.isOk) = true
    · rw [if_pos hall]
      refine iff_of_false (by simp) fun ⟨r, hr, hne⟩ => hne (hok.mp hall r hr)
    · rw [if_neg hall]
      refine iff_of_true rfl ?_
      simpa using mt hok.mpr hall
  · rw [hending, ← hok]
    by_cases hall : results.all (·.isOk) = true
    · rw [if_pos hall]
      exact iff_of_true rfl hall
    · rw [if_neg hall]
      exact iff_of_false (by simp) hall

/-- One document is written, the other one has a name that no directory can have. -/
theorem run_touches_output_only_of_bad_name :
    let d : Disk := ⟨.dir [("a.js".toList,
      .file (Utf8.encode "/** @docs .. // S */ /** @docs D */".toList))], []⟩
    let arguments := ["--source=a.js".toList, "--ignore=".toList]
    d.Sound ∧ (run d arguments).disk.content ["docs_src".toList, "D".toList] = some none
      ∧ ∃ s docs, Publishes d arguments s docs
        ∧ (∃ r ∈ (Publish.publish d (s.outputPath d.cwd) s.layout docs).results, r.errors ≠ [])
        ∧ Publish.StaysBelow (Path.components (s.outputPath d.cwd)) d (run d arguments).disk := by
  intro d arguments
  have hname : Path.IsName "a.js".toList := by decide
  have hsound : d.Sound :=
    ⟨.dir (by simp) (by simpa using hname) (by simpa using .file _), by simp [d]⟩
  have hwritten : (run d arguments).disk.content ["docs_src".toList, "D".toList] = some none := by
    decide +kernel
  have hending : (run d arguments).ending = .exit 1 := by decide +kernel
  obtain ⟨hearly, -, hcases, hpublished⟩ := run_touches_output_only d hsound arguments
  refine ⟨hsound, hwritten, ?_⟩
  rcases hcases with h | ⟨s, docs, h⟩
  · -- then there would be no directory
    rw [hearly h] at hwritten
    exact absurd hwritten (by decide)
  · obtain ⟨-, hfailed, -, hbelow⟩ := hpublished s docs h
    exact ⟨s, docs, h, hfailed.mp hending, hbelow⟩

end Command
end DocPress
