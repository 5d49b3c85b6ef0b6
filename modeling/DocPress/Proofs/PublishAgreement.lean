import DocPress.Proofs.Confinement
import DocPress.Proofs.MakingDirectories

/-!
# What the steps of publishing depend on

A step that publishes a document looks at the way to the document's directory and at what is in it,
its `Scope`. On disks that agree there it does the same (`recreate_congr`, `writePages_congr`,
`writeManifest_congr`).

The way to the directory is shared with other documents, which may have made it before. That makes
no difference to recreating the directory, because it makes the way itself where it is missing: the
directory comes out as if the way had been made already, as far as it can be (`recreate_settle`),
and leaves the way as it then is (`content_recreate_way`).
-/

namespace DocPress.Publish

variable {d d' : Disk} {output name : Text}

/-! ## The way to a document -/

/-- The output directory and those above it. -/
def way (output : Text) : List Text := Path.upwards (Path.stem output)

theorem upwards_directory (ho : Path.IsPlain output) (hn : Path.IsName name) :
    Path.upwards (directory output name) = directory output name :: way output :=
  Path.upwards_append_name ho hn

theorem stem_directory (output : Text) (hn : Path.IsName name) :
    Path.stem (directory output name) = directory output name := by
  obtain ⟨r, a, hr⟩ := (List.eq_nil_or_concat name).resolve_left hn.ne_nil
  rw [List.concat_eq_append] at hr
  have ha : a ≠ '/' := by
    rintro rfl
    exact hn.no_slash (by simp [hr])
  have hroot := Path.isRooted_of_notMem hn.no_slash
  have hend : (directory output name).getLast? = some a := by
    unfold directory Path.append
    rw [if_neg (by simp [hroot]), hr]
    split
    · simp
    · rw [← List.cons_append, ← List.append_assoc, List.getLast?_concat]
  exact Path.stem_of_getLast? (by simp [hend, ha])

theorem upwards_pagesDirectory (ho : Path.IsPlain output) (hn : Path.IsName name) :
    Path.upwards (pagesDirectory output name)
      = pagesDirectory output name :: directory output name :: way output := by
  unfold pagesDirectory
  rw [Path.upwards_append_name (isPlain_directory ho hn) isName_docs, stem_directory output hn,
    upwards_directory ho hn]

theorem ladder_directory (ho : Path.IsPlain output) (hn : Path.IsName name) :
    Path.Ladder (directory output name :: way output) := by
  rw [← upwards_directory ho hn]
  exact Path.ladder_upwards (isPlain_directory ho hn)

theorem ladder_way (ho : Path.IsPlain output) : Path.Ladder (way output) :=
  (ladder_directory ho isName_docs).tail

theorem components_way (ho : Path.IsPlain output) {p : Text} (hp : p ∈ way output) :
    Path.components p <+: Path.components output := by
  obtain ⟨r, hne, hr⟩ := List.rel_of_pairwise_cons (ladder_directory ho isName_docs).further hp
  rw [components_directory output isName_docs, home] at hr
  rcases List.prefix_concat_iff.mp ⟨r, hr.symm⟩ with heq | hpre
  · rw [← heq] at hr
    exact absurd (List.append_cancel_left ((List.append_nil _).trans hr)).symm hne
  · exact hpre

/-- The disk with the way to the documents made, as far as it can be. -/
def settle (d : Disk) (output : Text) : Disk := (d.makeUpwards (way output)).1

theorem settle_settle (d : Disk) (ho : Path.IsPlain output) :
    settle (settle d output) output = settle d output :=
  congrArg Prod.fst (Disk.makeUpwards_again d (ladder_way ho))

theorem settle_adds (d : Disk) (ho : Path.IsPlain output) :
    Disk.Adds (· <+: Path.components output) (fun _ => False) d (settle d output) := by
  refine (Disk.makeUpwards_adds_above d (ladder_way ho)).mono (fun l hl => ?_) fun _ => id
  obtain ⟨q, hq, rfl⟩ := hl
  exact components_way ho hq

theorem settle_congr {S : Location → Prop} (ho : Path.IsPlain output)
    (hS : ∀ l, l <+: Path.components output → S l) (h : Disk.AgreeOn S d d') :
    Disk.AgreeOn S (settle d output) (settle d' output) :=
  (Disk.makeUpwards_congr (ladder_way ho).plain
    (fun _ hp l hl => hS l (hl.trans (components_way ho hp))) h).2

/-- Nothing is made in the directory of a document. -/
theorem content_settle (d : Disk) (ho : Path.IsPlain output) {l : Location}
    (hl : home output name <+: l) : (settle d output).content l = d.content l := by
  rcases (settle_adds d ho).content l with heq | ⟨hpre, -⟩ | ⟨hfalse, -⟩
  · exact heq
  · have hlen := (hl.trans hpre).length_le
    rw [home, List.length_append, List.length_singleton] at hlen
    omega
  · exact absurd hfalse id

/-- Nothing is made on a way that is there. -/
theorem settle_of_not_misses (ho : Path.IsPlain output) (h : d.misses (way output) = false) :
    settle d output = d := by
  have hladder := ladder_way ho
  unfold settle
  cases hw : way output with
  | nil => rfl
  | cons p above =>
    rw [hw] at h hladder
    exact Disk.makeUpwards_of_has hladder (by simpa [Disk.misses] using h)

theorem settle_of_has (ho : Path.IsPlain output) (hn : Path.IsName name)
    (h : d.has (directory output name) = true) : settle d output = d :=
  settle_of_not_misses ho (Disk.not_misses_of_has (ladder_directory ho hn) h)

/-- The way is made, if it has to be, before anything else. -/
theorem settle_eq_ite (d : Disk) (ho : Path.IsPlain output) :
    (if d.misses (way output) then d.makeUpwards (way output) else (d, none)).1
      = settle d output := by
  cases hmiss : d.misses (way output) with
  | true => rfl
  | false => exact (settle_of_not_misses ho hmiss).symm

/-! ## Recreating -/

/-- Where the directory of a document is missing, it is made after the way to it, and the directory
of its pages after it. -/
theorem makeDirs_pagesDirectory (ho : Path.IsPlain output) (hn : Path.IsName name)
    (h : d.has (directory output name) = false) :
    d.makeDirs (pagesDirectory output name)
      = Disk.andThen (d.makeUpwards (directory output name :: way output))
          (pagesDirectory output name) := by
  have hmiss : d.misses (directory output name :: way output) = true := by simp [Disk.misses, h]
  rw [Disk.makeDirs, upwards_pagesDirectory ho hn,
    Disk.makeUpwards_cons d (isPlain_pagesDirectory ho hn), hmiss, if_pos rfl]

/-- The directory of a document is recreated as if the way to it had been made before. -/
theorem recreate_settle (d : Disk) (ho : Path.IsPlain output) (hn : Path.IsName name) :
    recreate (settle d output) (directory output name) (pagesDirectory output name)
      = recreate d (directory output name) (pagesDirectory output name) := by
  have hladder := ladder_directory ho hn
  cases h : d.has (directory output name) with
  | true => rw [settle_of_has ho hn h]
  | false =>
    have hsettled : (settle d output).has (directory output name) = false :=
      (Disk.has_makeUpwards_above hladder).trans h
    rw [recreate, recreate, hsettled, h, makeDirs_pagesDirectory ho hn hsettled,
      makeDirs_pagesDirectory ho hn h, settle, Disk.makeUpwards_absorb d hladder]
    rfl

theorem andThen_adds {p : Text} (r : Disk × Option Disk.Error) (hp : Path.IsPlain p) :
    Disk.Adds (· = Path.components p) (fun _ => False) r.1 (Disk.andThen r p).1 := by
  unfold Disk.andThen
  split
  · exact Disk.Adds.refl _ _ _
  · exact Disk.ensureDir_adds hp

/-- Recreating the directory of a document leaves the way to it made, as far as it can be. -/
theorem content_recreate_way (hd : d.Sound) (ho : Path.IsPlain output) (hn : Path.IsName name)
    {l : Location} (hl : l <+: Path.components output) :
    (recreate d (directory output name) (pagesDirectory output name)).1.content l
      = (settle d output).content l := by
  have hdir := isPlain_directory ho hn
  have hhome := components_directory output hn
  have hshort : ¬ home output name <+: l := by
    intro hpre
    have hlen := (hpre.trans hl).length_le
    rw [home, List.length_append, List.length_singleton] at hlen
    omega
  cases h : d.has (directory output name) with
  | true =>
    rw [settle_of_has ho hn h, recreate, if_pos h]
    split
    · rfl
    · rename_i d₁ hremoved
      have hplace := (Disk.placeOf_of_isPlain d hdir).trans hhome
      obtain ⟨-, -, hthere, hcontent⟩ :=
        Disk.removeTree_ok hd (by rw [hplace]; simp [home]) hremoved
      rw [hplace] at hthere hcontent
      -- there is a directory on the way, so none is made
      have hway : d₁.content l = some none := by
        rw [hcontent, if_neg hshort]
        exact Disk.content_above_dir hthere (hl.trans (List.prefix_append _ _))
      have hkept : d₁.content l = d.content l := by rw [hcontent, if_neg hshort]
      rcases (Disk.makeDirs_adds d₁ (pagesDirectory output name)).content l with
        heq | ⟨-, hnone, -⟩ | ⟨hfalse, -⟩
      · exact heq.trans hkept
      · rw [hway] at hnone; exact absurd hnone (by simp)
      · exact absurd hfalse id
  | false =>
    rw [recreate, h, if_neg (by simp), makeDirs_pagesDirectory ho hn h,
      Disk.makeUpwards_cons d hdir]
    have hfirst := andThen_adds
      (if d.misses (way output) then d.makeUpwards (way output) else (d, none)) hdir
    have hsecond := andThen_adds (Disk.andThen
      (if d.misses (way output) then d.makeUpwards (way output) else (d, none))
        (directory output name)) (isPlain_pagesDirectory ho hn)
    rw [settle_eq_ite d ho] at hfirst
    rw [hhome] at hfirst
    rw [components_pagesDirectory output hn] at hsecond
    have hstays : ∀ {e e' : Disk} {k : Location}, home output name <+: k →
        Disk.Adds (· = k) (fun _ => False) e e' → e'.content l = e.content l := by
      intro e e' k hk hadds
      rcases hadds.content l with heq | ⟨rfl, -, -⟩ | ⟨hfalse, -⟩
      · exact heq
      · exact absurd hk hshort
      · exact absurd hfalse id
    exact (hstays (List.prefix_append _ _) hsecond).trans (hstays (List.prefix_refl _) hfirst)

/-- With the directory of its pages a document has its own directory. -/
theorem content_of_recreate {d₁ : Disk} {log : Log} (ho : Path.IsPlain output)
    (hn : Path.IsName name)
    (h : recreate d (directory output name) (pagesDirectory output name) = (d₁, none, log)) :
    Disk.Fits (directory output name) ∧ d₁.content (home output name) = some none
      ∧ d₁.content (home output name ++ ["docs".toList]) = some none := by
  have hpages := isPlain_pagesDirectory ho hn
  have hladder :
      Path.Ladder (pagesDirectory output name :: directory output name :: way output) := by
    rw [← upwards_pagesDirectory ho hn]
    exact Path.ladder_upwards hpages
  have hmade : ∀ e : Disk, (e.makeDirs (pagesDirectory output name)).1 = d₁ →
      (e.makeDirs (pagesDirectory output name)).2 = none →
      d₁.hasDir (pagesDirectory output name) = true := by
    rintro e rfl he
    rw [Disk.makeDirs, upwards_pagesDirectory ho hn] at he ⊢
    exact Disk.hasDir_of_makeUpwards hladder he
  have hdir : d₁.hasDir (pagesDirectory output name) = true := by
    rw [recreate] at h
    split at h
    · split at h
      · exact absurd h (by simp)
      · rename_i d₂ hremoved
        exact hmade d₂ (congrArg (·.1) h) (congrArg (·.2.1) h)
    · exact hmade d (congrArg (·.1) h) (congrArg (·.2.1) h)
  obtain ⟨hfits, hdocs⟩ := (Disk.hasDir_iff hpages).mp hdir
  rw [components_pagesDirectory output hn] at hdocs
  have hstart := List.rel_of_pairwise_cons hladder.start (List.mem_cons_self ..)
  have hne := (isPlain_directory ho hn).ne_nil
  refine ⟨hfits.of_start hne hstart ?_, ?_, hdocs⟩
  · rw [components_directory output hn, components_pagesDirectory output hn]
    exact List.prefix_append _ _
  · exact Disk.content_above_dir hdocs (List.prefix_append _ _)

/-! ## Disks that agree -/

/-- Where the publishing of a document looks: on the way to its directory, and in it. -/
def Scope (home l : Location) : Prop := l <+: home ∨ home <+: l

theorem scope_of_below {place k l : Location} (hk : place <+: k) (hl : l <+: k) : Scope place l :=
  List.prefix_or_prefix_of_prefix hl hk

theorem recreate_congr (hd : d.Sound) (hd' : d'.Sound) (ho : Path.IsPlain output)
    (hn : Path.IsName name) (h : Disk.AgreeOn (Scope (home output name)) d d') :
    let r := recreate d (directory output name) (pagesDirectory output name)
    let r' := recreate d' (directory output name) (pagesDirectory output name)
    r'.2 = r.2 ∧ Disk.AgreeOn (Scope (home output name)) r.1 r'.1 := by
  have hdir := isPlain_directory ho hn
  have hhome := components_directory output hn
  have hpages := isPlain_pagesDirectory ho hn
  have hbelow : home output name <+: Path.components (pagesDirectory output name) := by
    rw [components_pagesDirectory output hn]; exact List.prefix_append _ _
  have hSdir : ∀ l, l <+: Path.components (directory output name) → Scope (home output name) l :=
    fun l hl => Or.inl (hhome ▸ hl)
  have hSpages : ∀ l, l <+: Path.components (pagesDirectory output name) →
      Scope (home output name) l := fun l hl => scope_of_below hbelow hl
  intro r r'
  have hr : r = recreate d (directory output name) (pagesDirectory output name) := rfl
  have hr' : r' = recreate d' (directory output name) (pagesDirectory output name) := rfl
  rw [recreate] at hr hr'
  rw [Disk.has_congr hdir hSdir h] at hr'
  cases hhas : d.has (directory output name) with
  | false =>
    rw [hhas, if_neg (by simp)] at hr hr'
    obtain ⟨hfail, hagree⟩ := Disk.makeDirs_congr hpages hSpages h
    rw [hr, hr']
    exact ⟨by simp [hfail], hagree⟩
  | true =>
    rw [hhas, if_pos rfl] at hr hr'
    rcases Disk.removeTree_congr hdir hSdir hd hd' (by rw [hhome]; simp [home]) h with
      ⟨e, he, he'⟩ | ⟨d₁, d₁', h₁, h₁', hagree₁⟩
    · rw [hr, hr', he, he']
      exact ⟨rfl, h⟩
    · obtain ⟨hfail, hagree⟩ := Disk.makeDirs_congr hpages hSpages hagree₁
      rw [hr, hr', h₁, h₁']
      exact ⟨by simp [hfail], hagree⟩

section Writing

variable {S : Location → Prop} {path : Text}

theorem writeText_congr (text : Text) (hp : Path.IsPlain path)
    (hS : ∀ l, l <+: Path.components path → S l) (h : Disk.AgreeOn S d d') :
    (writeText d' path text).2 = (writeText d path text).2
      ∧ Disk.AgreeOn S (writeText d path text).1 (writeText d' path text).1 := by
  obtain ⟨hfail, hagree⟩ := Disk.makeDirs_congr hp.parent
    (fun l hl => hS l (hl.trans (Path.prefix_components_parent path))) h
  unfold writeText
  generalize d.makeDirs (Path.parent path) = r at hfail hagree
  generalize d'.makeDirs (Path.parent path) = r' at hfail hagree
  obtain ⟨d₁, failure⟩ := r
  obtain ⟨d₁', failure'⟩ := r'
  obtain rfl : failure' = failure := hfail
  cases failure' with
  | some e => exact ⟨rfl, hagree⟩
  | none =>
    dsimp only at hagree ⊢
    rcases Disk.write_congr hp hS (Utf8.encode text) hagree with
      ⟨e, he, he'⟩ | ⟨d₂, d₂', h₂, h₂', hagree₂⟩
    · rw [he, he']
      exact ⟨rfl, hagree⟩
    · rw [h₂, h₂']
      exact ⟨rfl, hagree₂⟩

theorem writeNoting_congr (r : Result) (text : Text) (hp : Path.IsPlain path)
    (hS : ∀ l, l <+: Path.components path → S l) (h : Disk.AgreeOn S d d') :
    (writeNoting d' r path text).2 = (writeNoting d r path text).2
      ∧ Disk.AgreeOn S (writeNoting d r path text).1 (writeNoting d' r path text).1 := by
  obtain ⟨hfail, hagree⟩ := writeText_congr text hp hS h
  unfold writeNoting
  generalize writeText d path text = w at hfail hagree
  generalize writeText d' path text = w' at hfail hagree
  obtain ⟨d₁, failure⟩ := w
  obtain ⟨d₁', failure'⟩ := w'
  obtain rfl : failure' = failure := hfail
  cases failure' with
  | none => exact ⟨rfl, hagree⟩
  | some e => exact ⟨rfl, hagree⟩

theorem writePages_congr {pages : List (Text × Text)} (r : Result)
    (hp : ∀ p ∈ pages, Path.IsPlain p.1 ∧ ∀ l, l <+: Path.components p.1 → S l)
    (h : Disk.AgreeOn S d d') :
    (writePages d' r pages).2 = (writePages d r pages).2
      ∧ Disk.AgreeOn S (writePages d r pages).1 (writePages d' r pages).1 := by
  induction pages generalizing d d' r with
  | nil => exact ⟨rfl, h⟩
  | cons page pages ih =>
    obtain ⟨hplain, hS⟩ := hp page (List.mem_cons_self ..)
    obtain ⟨hnoted, hagree⟩ := writeNoting_congr r page.2 hplain hS h
    obtain ⟨hrest, hagree'⟩ := ih (writeNoting d r page.1 page.2).2.1
      (fun p hp' => hp p (List.mem_cons_of_mem page hp')) hagree
    rw [← hnoted] at hrest hagree'
    have hcons : ∀ e : Disk, writePages e r (page :: pages)
        = ((writePages (writeNoting e r page.1 page.2).1 (writeNoting e r page.1 page.2).2.1 pages).1,
          (writePages (writeNoting e r page.1 page.2).1 (writeNoting e r page.1 page.2).2.1 pages).2.1,
          (writeNoting e r page.1 page.2).2.2 ++ (writePages (writeNoting e r page.1 page.2).1
            (writeNoting e r page.1 page.2).2.1 pages).2.2) := fun _ => rfl
    rw [hcons, hcons]
    rw [hnoted] at hrest hagree' ⊢
    exact ⟨by rw [hrest], hagree'⟩

theorem writeManifest_congr (job : Job)
    (hp : job.manifest ≠ none → Path.IsPlain (manifestPath output job.result.name)
      ∧ ∀ l, l <+: Path.components (manifestPath output job.result.name) → S l)
    (h : Disk.AgreeOn S d d') :
    (writeManifest d' output job).2 = (writeManifest d output job).2
      ∧ Disk.AgreeOn S (writeManifest d output job).1 (writeManifest d' output job).1 := by
  unfold writeManifest
  cases hm : job.manifest with
  | none => exact ⟨rfl, h⟩
  | some text =>
    obtain ⟨hplain, hS⟩ := hp (by rw [hm]; simp)
    obtain ⟨hnoted, hagree⟩ := writeNoting_congr job.result text hplain hS h
    exact ⟨by simp [hnoted], hagree⟩

end Writing

end DocPress.Publish
