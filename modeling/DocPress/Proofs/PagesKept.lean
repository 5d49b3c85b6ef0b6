import DocPress.Proofs.Confinement
import Mathlib.Tactic.SplitIfs

/-!
# Which pages are there afterwards

If publishing reports no error, every page of the plan was written. A page is then there unless
another one was written over it: pages of the same path are merged into one file, but two different
paths may lead to the same place once their dots are resolved, and then the page that comes last in
the plan stays and the other one is lost. So the pages are all there exactly if no two of them that
go to the same place differ.

The argument follows the writes. One write puts its text at its place and leaves all other files as
they are; a run of writes leaves at each place the last text that was written there. The manifest
comes last and goes to none of the pages' places.
-/

namespace DocPress

namespace Utf8

/-! ## Texts and their bytes -/

theorem toUInt8_eq_iff (m n : Nat) : m.toUInt8 = n.toUInt8 ↔ m % 256 = n % 256 := by
  rw [← UInt8.toNat_inj]
  simp [Nat.toUInt8]

theorem toNat_lt (c : Char) : c.toNat < 0x110000 := by
  rcases c.valid with h | ⟨-, h⟩
  · exact Nat.lt_trans h (by decide)
  · exact h

/-- The bytes of a character say where they end. -/
theorem encodeChar_append_inj {c d : Char} {r s : List UInt8}
    (h : encodeChar c ++ r = encodeChar d ++ s) : c = d ∧ r = s := by
  have hc := toNat_lt c
  have hd := toNat_lt d
  have key : c.toNat = d.toNat ∧ r = s := by
    unfold encodeChar at h
    generalize c.toNat = m at h hc ⊢
    generalize d.toNat = n at h hd ⊢
    dsimp only at h
    -- different numbers of bytes differ in the first of them
    split_ifs at h <;>
      simp only [List.cons_append, List.nil_append, List.cons.injEq, toUInt8_eq_iff] at h <;>
      try omega
    · exact ⟨by omega, h.2⟩
    · exact ⟨by omega, h.2.2⟩
    · exact ⟨by omega, h.2.2.2⟩
    · exact ⟨by omega, h.2.2.2.2⟩
  exact ⟨Char.toNat_inj.mp key.1, key.2⟩

theorem encodeChar_ne_nil (c : Char) : encodeChar c ≠ [] := by
  unfold encodeChar
  dsimp only
  split_ifs <;> simp

/-- Different texts have different bytes. -/
theorem encode_inj {t u : Text} (h : encode t = encode u) : t = u := by
  induction t generalizing u with
  | nil =>
    cases u with
    | nil => rfl
    | cons d u =>
      have hnil : encodeChar d = [] := (List.append_eq_nil_iff.mp (id h.symm)).1
      exact absurd hnil (encodeChar_ne_nil d)
  | cons c t ih =>
    cases u with
    | nil =>
      have hnil : encodeChar c = [] := (List.append_eq_nil_iff.mp h).1
      exact absurd hnil (encodeChar_ne_nil c)
    | cons d u =>
      obtain ⟨rfl, hrest⟩ := encodeChar_append_inj (r := encode t) (s := encode u) h
      rw [ih hrest]

end Utf8

namespace Publish

/-! ## One write -/

theorem writeText_adds (d : Disk) (path text : Text) :
    Disk.Adds (fun _ => True) (· = d.placeOf path) d (writeText d path text).1 := by
  have hmade : Disk.Adds (fun _ => True) (· = d.placeOf path) d (d.makeDirs (Path.parent path)).1 :=
    (Disk.makeDirs_adds d _).mono (fun _ _ => trivial) fun _ => False.elim
  rw [writeText]
  split
  · rename_i d₁ e h
    rw [h] at hmade; exact hmade
  · rename_i d₁ h
    rw [h] at hmade
    split
    · rename_i d₂ hwritten
      refine hmade.trans ((Disk.write_adds hwritten).mono (fun _ => False.elim) fun l hl => ?_)
      rw [hl, Disk.placeOf_eq_of_here_eq hmade.here]
    · exact hmade

theorem content_writeText {d d' : Disk} {path text : Text} (h : writeText d path text = (d', none)) :
    d'.content (d.placeOf path) = some (some (Utf8.encode text)) := by
  have hhere := (Disk.makeDirs_adds d (Path.parent path)).here
  rw [writeText] at h
  split at h
  · exact absurd h (by simp)
  · rename_i d₁ hmade
    rw [hmade] at hhere
    split at h
    · rename_i d₂ hwritten
      obtain rfl : d₂ = d' := (Prod.mk.inj h).1
      obtain ⟨hsets, -⟩ := Disk.write_sets hwritten
      rw [← Disk.placeOf_eq_of_here_eq hhere, hsets.content, if_pos rfl]
    · exact absurd h (by simp)

/-- A write that fails is noted; one that does not leaves its text. -/
theorem writeNoting_cases (d : Disk) (r : Result) (path text : Text) :
    (∃ e, (writeNoting d r path text).2.1.errors = r.errors ++ [e])
      ∨ ((writeNoting d r path text).2.1.errors = r.errors
        ∧ (writeNoting d r path text).1.content (d.placeOf path)
          = some (some (Utf8.encode text))) := by
  rw [writeNoting]
  split
  · rename_i d' h
    exact Or.inr ⟨rfl, content_writeText h⟩
  · exact Or.inl ⟨_, rfl⟩

/-- If nothing went wrong up to and with a write, its text is there. -/
theorem writeNoting_ok {d : Disk} {r : Result} {path text : Text}
    (h : (writeNoting d r path text).2.1.errors = []) :
    r.errors = [] ∧ (writeNoting d r path text).1.content (d.placeOf path)
      = some (some (Utf8.encode text)) := by
  rcases writeNoting_cases d r path text with ⟨e, he⟩ | ⟨he, hcontent⟩
  · rw [h] at he; exact absurd he (by simp)
  · exact ⟨he ▸ h, hcontent⟩

theorem writeNoting_adds (d : Disk) (r : Result) (path text : Text) :
    Disk.Adds (fun _ => True) (· = d.placeOf path) d (writeNoting d r path text).1 := by
  rw [disk_writeNoting]
  exact writeText_adds d path text

/-! ## A run of writes -/

theorem writePages_adds (d : Disk) (r : Result) (pages : List (Text × Text)) :
    Disk.Adds (fun _ => True) (fun l => ∃ p ∈ pages, l = d.placeOf p.1) d
      (writePages d r pages).1 := by
  induction pages generalizing d r with
  | nil => exact Disk.Adds.refl _ _ d
  | cons page pages ih =>
    have hstep := writeNoting_adds d r page.1 page.2
    rw [(writePages_cons d r page pages).1]
    refine (hstep.mono (fun _ => id) fun l hl => ⟨page, List.mem_cons_self .., hl⟩).trans
      ((ih _ _).mono (fun _ => id) fun l hl => ?_)
    obtain ⟨p, hp, rfl⟩ := hl
    exact ⟨p, List.mem_cons_of_mem page hp, Disk.placeOf_eq_of_here_eq hstep.here p.1⟩

/-- If nothing went wrong in a run of writes, nothing had gone wrong before. -/
theorem errors_of_writePages {d : Disk} {r : Result} {pages : List (Text × Text)}
    (h : (writePages d r pages).2.1.errors = []) : r.errors = [] := by
  induction pages generalizing d r with
  | nil => exact h
  | cons page pages ih =>
    rw [(writePages_cons d r page pages).2] at h
    exact (writeNoting_ok (ih h)).1

/-- **A run of writes leaves at each place what was written there last.** -/
theorem content_writePages {d : Disk} {r : Result} {before rest : List (Text × Text)}
    {page : Text × Text} (hok : (writePages d r (before ++ page :: rest)).2.1.errors = [])
    (hlast : ∀ q ∈ rest, d.placeOf q.1 ≠ d.placeOf page.1) :
    (writePages d r (before ++ page :: rest)).1.content (d.placeOf page.1)
      = some (some (Utf8.encode page.2)) := by
  induction before generalizing d r with
  | nil =>
    rw [List.nil_append, (writePages_cons d r page rest).2] at hok
    rw [List.nil_append, (writePages_cons d r page rest).1]
    -- the page is written first, and none of the others goes to its place
    obtain ⟨-, hwritten⟩ := writeNoting_ok (errors_of_writePages hok)
    have hhere := (writeNoting_adds d r page.1 page.2).here
    refine (writePages_adds _ _ rest).file hwritten ?_
    rintro ⟨q, hq, hl⟩
    exact hlast q hq (hl.trans (Disk.placeOf_eq_of_here_eq hhere q.1)).symm
  | cons p before ih =>
    rw [List.cons_append, (writePages_cons d r p _).2] at hok
    rw [List.cons_append, (writePages_cons d r p _).1]
    have hplace := Disk.placeOf_eq_of_here_eq (writeNoting_adds d r p.1 p.2).here
    have h := ih hok fun q hq => by rw [hplace, hplace]; exact hlast q hq
    rw [hplace] at h
    exact h

/-! ## From a plan to its writes -/

/-- If no page is left out, all are still there. -/
theorem values_locatePages {cwd dir : Text} {texts : List (Text × Text)}
    (h : errors (locatePages cwd dir texts) = []) :
    values (locatePages cwd dir texts) = texts.map (fun t => (pathIn dir t.1, t.2))
      ∧ ∀ t ∈ texts, Path.isInside cwd (pathIn dir t.1) dir = true := by
  induction texts with
  | nil => exact ⟨rfl, by simp⟩
  | cons t texts ih =>
    rw [locatePages_cons] at h ⊢
    by_cases hin : Path.isInside cwd (pathIn dir t.1) dir = true
    · rw [if_pos hin] at h ⊢
      obtain ⟨hvalues, hinside⟩ := ih h
      refine ⟨congrArg (_ :: ·) hvalues, fun u hu => ?_⟩
      rcases List.mem_cons.mp hu with rfl | hu
      · exact hin
      · exact hinside u hu
    · rw [if_neg hin] at h
      exact absurd h (by simp [errors])

theorem here_recreate (d : Disk) (path pages : Text) :
    (recreate d path pages).1.here = d.here := by
  rw [recreate]
  split
  · split
    · rfl
    · rename_i d₁ hremoved
      exact (Disk.makeDirs_adds d₁ pages).here.trans (Disk.here_removeTree hremoved)
  · exact (Disk.makeDirs_adds d pages).here

/-- A document that was prepared without an error has all pages of its plan still to be written. -/
theorem prepare_ok {d : Disk} {output : Text} {layout : Layout} {doc : Document Comment}
    (hok : (prepare d output layout.name doc).job.result.errors = []) :
    let p := prepare d output layout.name doc
    let texts := (Plan.ofDocument layout doc).render.texts
    p.disk.here = d.here
      ∧ p.job.pages = texts.map (fun t => (pathIn (pagesDirectory output doc.name) t.1, t.2))
      ∧ p.job.result.name = doc.name
      ∧ ∀ t ∈ texts, Path.isInside d.cwd (pathIn (pagesDirectory output doc.name) t.1)
          (pagesDirectory output doc.name) = true := by
  have hlayout : Layout.ofName? layout.name = some layout := by cases layout <;> decide
  have hhere := here_recreate d (directory output doc.name) (pagesDirectory output doc.name)
  have hgivenUp : ∀ (d : Disk) r e log, (giveUp d r e log).job.result.errors ≠ [] :=
    fun _ _ _ _ => by simp [giveUp]
  intro p texts
  have hp : p = prepare d output layout.name doc := rfl
  rw [← hp] at hok
  rw [prepare] at hp
  split at hp
  · rw [hp] at hok; exact absurd hok (hgivenUp _ _ _ _)
  · rw [hlayout] at hp
    dsimp only at hp
    split at hp
    · rw [hp] at hok; exact absurd hok (hgivenUp _ _ _ _)
    · rename_i d₁ log h
      rw [h] at hhere
      have hcwd : d₁.cwd = d.cwd := by rw [Disk.cwd, Disk.cwd, show d₁.here = d.here from hhere]
      rw [hp] at hok ⊢
      obtain ⟨hvalues, hinside⟩ := values_locatePages hok
      rw [hcwd] at hinside
      exact ⟨hhere, hvalues, rfl, hinside⟩

/-- The manifest does not go to the place of a page. -/
theorem placeOf_manifest_ne {d : Disk} (hd : ∀ c ∈ d.here, Path.IsName c) {output name path : Text}
    (h : Path.isInside d.cwd path (pagesDirectory output name) = true) :
    d.placeOf path ≠ d.placeOf (manifestPath output name) := by
  have hpre := Path.components_prefix_of_isInside h
  rw [Disk.components_absolute_cwd hd, Disk.components_absolute_cwd hd, pagesDirectory,
    Disk.placeOf_append d (Path.isRooted_of_notMem isName_docs.no_slash),
    Path.components_of_notMem isName_docs.ne_nil isName_docs.no_slash,
    Path.walk_of_isName _ (by simpa using isName_docs)] at hpre
  rw [manifestPath, Disk.placeOf_append d (Path.isRooted_of_notMem isName_manifest.no_slash),
    Path.components_of_notMem isName_manifest.ne_nil isName_manifest.no_slash,
    Path.walk_of_isName _ (by simpa using isName_manifest)]
  obtain ⟨r, hr⟩ := hpre
  -- below the same directory, one begins with `docs` and the other is the manifest
  intro he
  rw [he, List.append_assoc] at hr
  exact absurd (List.append_cancel_left hr) (by simp)

/-! ## A document whose result is fine -/

/-- The place of a page of a document. -/
def placeOfPage (d : Disk) (output name page : Text) : Location :=
  d.placeOf (pathIn (pagesDirectory output name) page)

/-- Where a page goes is decided by its path with the dots resolved. -/
theorem placeOfPage_eq (d : Disk) (output name page : Text) :
    placeOfPage d output name page
      = Path.walk (d.placeOf (pagesDirectory output name)) (Path.components page) := by
  rw [placeOfPage, pathIn, Disk.placeOf_normalize,
    Disk.placeOf_appendAll d _ fun c hc => Text.sep_notMem_of_mem_splitOn hc, Path.components]

/-- **A page that no later page of its plan goes over is there.** -/
theorem publish_keeps_last {d : Disk} (hd : d.Sound) {output : Text} {layout : Layout}
    {doc : Document Comment}
    (hok : ∀ r ∈ (publish d output layout.name [doc]).results, r.isOk = true)
    {before rest : List (Text × Text)} {page : Text × Text}
    (htexts : (Plan.ofDocument layout doc).render.texts = before ++ page :: rest)
    (hlast : ∀ q ∈ rest,
      placeOfPage d output doc.name q.1 ≠ placeOfPage d output doc.name page.1) :
    (publish d output layout.name [doc]).disk.content (placeOfPage d output doc.name page.1)
      = some (some (Utf8.encode page.2)) := by
  generalize hp : prepare d output layout.name doc = p
  obtain ⟨hdisk, hresults⟩ := publish_singleton hp
  rw [hresults] at hok
  have hok := List.isEmpty_iff.mp (hok _ (List.mem_singleton.mpr rfl))
  -- no stage had an error, or the result would still hold it
  have hpages : (writePages p.disk p.job.result p.job.pages).2.1.errors = [] := by
    cases hm : p.withPages.manifest with
    | none => rw [(writeManifest_none _ output hm).2] at hok; exact hok
    | some text => rw [(writeManifest_some _ output hm).2] at hok; exact (writeNoting_ok hok).1
  obtain ⟨hhere, hjob, hname, hinside⟩ := prepare_ok (hp ▸ errors_of_writePages hpages)
  rw [hp] at hhere hjob hname
  have hplace := Disk.placeOf_eq_of_here_eq hhere
  have hwritten : (writePages p.disk p.job.result p.job.pages).1.content
      (placeOfPage d output doc.name page.1) = some (some (Utf8.encode page.2)) := by
    rw [hjob, htexts, List.map_append, List.map_cons] at hpages ⊢
    rw [placeOfPage, ← hplace]
    refine content_writePages hpages fun q hq => ?_
    obtain ⟨u, hu, rfl⟩ := List.mem_map.mp hq
    rw [hplace, hplace]
    exact hlast u hu
  rw [hdisk]
  cases hm : p.withPages.manifest with
  | none => rw [(writeManifest_none _ output hm).1]; exact hwritten
  | some text =>
    rw [(writeManifest_some _ output hm).1]
    refine (writeNoting_adds _ _ _ text).file hwritten fun hl => ?_
    have hmem : page ∈ (Plan.ofDocument layout doc).render.texts := by rw [htexts]; simp
    have hthere := (writePages_adds p.disk p.job.result p.job.pages).here.trans hhere
    rw [Disk.placeOf_eq_of_here_eq hthere, Prepared.withPages, name_writePages, hname] at hl
    exact placeOf_manifest_ne hd.here (hinside page hmem) hl

theorem exists_last {α : Type} {P : α → Prop} {xs : List α} {x : α} (hx : x ∈ xs) (h : P x) :
    ∃ before y rest, xs = before ++ y :: rest ∧ P y ∧ ∀ z ∈ rest, ¬ P z := by
  induction xs generalizing x with
  | nil => exact absurd hx (by simp)
  | cons a xs ih =>
    by_cases hlater : ∃ z ∈ xs, P z
    · obtain ⟨z, hz, hPz⟩ := hlater
      obtain ⟨before, y, rest, rfl, hy, hrest⟩ := ih hz hPz
      exact ⟨a :: before, y, rest, rfl, hy, hrest⟩
    · have hnone : ∀ z ∈ xs, ¬ P z := fun z hz hPz => hlater ⟨z, hz, hPz⟩
      rcases List.mem_cons.mp hx with rfl | hx
      · exact ⟨[], x, xs, rfl, h, hnone⟩
      · exact absurd h (hnone x hx)

/--
**The pages of a document whose result is fine are all there, unless one was written over another.**

Every page of the plan is in its file as it was rendered if, and only if, no two pages of the plan
that go to the same place differ. Which pages go to the same place is a matter of their paths with
the dots resolved, which the plan does not look at.
-/
theorem publish_keeps_pages_iff (d : Disk) (hd : d.Sound) (output : Text) (layout : Layout)
    (doc : Document Comment)
    (hok : ∀ r ∈ (publish d output layout.name [doc]).results, r.isOk = true) :
    (∀ page ∈ (Plan.ofDocument layout doc).render.texts,
      (publish d output layout.name [doc]).disk.content (placeOfPage d output doc.name page.1)
        = some (some (Utf8.encode page.2)))
      ↔ ∀ p ∈ (Plan.ofDocument layout doc).render.texts,
        ∀ q ∈ (Plan.ofDocument layout doc).render.texts,
          placeOfPage d output doc.name p.1 = placeOfPage d output doc.name q.1 → p.2 = q.2 := by
  constructor
  · intro hkept p hp q hq hsame
    have hboth := hkept p hp
    rw [hsame, hkept q hq] at hboth
    exact (Utf8.encode_inj (Option.some.inj (Option.some.inj hboth))).symm
  · intro hagree page hpage
    obtain ⟨before, last, rest, htexts, hsame, hrest⟩ := exists_last
      (P := fun q => placeOfPage d output doc.name q.1 = placeOfPage d output doc.name page.1)
      hpage rfl
    have hlast := publish_keeps_last hd hok htexts fun q hq hq' => hrest q hq (hq'.trans hsame)
    have hmem : last ∈ (Plan.ofDocument layout doc).render.texts := by rw [htexts]; simp
    rw [← hsame, hlast, hagree last hmem page hpage hsame]

/-- Two sections go to different places, and both are kept. -/
theorem publish_keeps_pages_of_sections :
    let d : Disk := ⟨.dir [], []⟩
    let doc : Document Comment :=
      ⟨"D".toList, ⟨"D".toList, [("S".toList, []), ("T".toList, [])], []⟩⟩
    d.Sound ∧ (∀ r ∈ (publish d "out".toList Layout.sections.name [doc]).results, r.isOk = true)
      ∧ ∀ page ∈ (Plan.ofDocument .sections doc).render.texts,
        (publish d "out".toList Layout.sections.name [doc]).disk.content
          (placeOfPage d "out".toList doc.name page.1) = some (some (Utf8.encode page.2)) := by
  intro d doc
  have hsound : d.Sound := ⟨.dir (by simp) (by simp) (by simp), by simp [d]⟩
  have hok : ∀ r ∈ (publish d "out".toList Layout.sections.name [doc]).results, r.isOk = true := by
    decide +kernel
  exact ⟨hsound, hok,
    (publish_keeps_pages_iff d hsound "out".toList .sections doc hok).mpr (by decide +kernel)⟩

/-- A section of the document and one of a page that is named by a dot go to the same place, and the
first of them is lost without an error. -/
theorem publish_loses_page :
    let comment (line : Int) (directive text : String) : Comment :=
      { file := "a.js".toList, line,
        tags := [{ kind := "docs".toList, string := directive.toList },
          { kind := "desc".toList, string := text.toList }] }
    let cs := [comment 1 "D // S" "one - First.", comment 2 "D // . // S" "two - Second."]
    ∃ doc, (Document.gather "docs".toList cs).value = .ok [doc]
      ∧ let after := publish ⟨.dir [], []⟩ "out".toList "sections".toList [doc]
        (∀ r ∈ after.results, r.isOk = true)
        ∧ ∃ page ∈ (Plan.ofDocument .sections doc).render.texts,
          after.disk.content (placeOfPage ⟨.dir [], []⟩ "out".toList doc.name page.1)
            ≠ some (some (Utf8.encode page.2)) := by
  intro comment cs
  refine ⟨⟨"D".toList, ⟨"D".toList, [("S".toList, [comment 1 "D // S" "one - First."])],
    [⟨".".toList, [("S".toList, [comment 2 "D // . // S" "two - Second."])], []⟩]⟩⟩, rfl, ?_, ?_⟩
  · decide +kernel
  · decide +kernel

end Publish
end DocPress
