import DocPress.Proofs.Gathering
import DocPress.Proofs.Inline
import DocPress.Yaml.Value

/-!
# The navigation as a tree

The outline of a document is flat: a list of entries with their depths. `Link` is the tree that it
stands for, made of the pages of the document in one recursion over them, and the lines of the
navigation are the lines of that tree. A link is what a reader sees, the exact title and below it
the exact path or the links of its pages, and `Link.value` says so as a value.

A title above no links at all would read as a title without a value. There is none in a document
that was gathered: a page is made on the way to a section, so something is in it.
-/

namespace DocPress

/-- A link of the navigation: to a page file, or a title above other links. -/
inductive Link where
  | page (title path : Text)
  | group (title : Text) (links : List Link)

namespace Link

/-! ## The links of a document -/

/-- A link for each section. -/
def ofSections (ds : List Text) (blocks : List Block) : List Link :=
  blocks.map fun b => page b.1 (Outline.joinPath ds (FileName.page b.1))

mutual

/-- The link of a page: its own sections come first, then the pages inside it. In the layout by
pages its sections are one file, which is the link itself if there are no pages inside. -/
def ofPage (layout : Layout) (ds : List Text) : Page Comment → Link
  | ⟨title, sections, pages⟩ =>
    let inside := ds ++ [FileName.ofTitle title]
    let below := ofPages layout inside pages
    match layout with
    | .sections => group title (ofSections inside sections ++ below)
    | .pages =>
      if sections.isEmpty then group title below
      else if pages.isEmpty then page title (Outline.joinPath ds (FileName.page title))
      else group title (page title (Outline.joinPath inside FileName.index) :: below)

/-- The links of a list of pages. -/
def ofPages (layout : Layout) (ds : List Text) : List (Page Comment) → List Link
  | [] => []
  | p :: ps => ofPage layout ds p :: ofPages layout ds ps

end

/-- The links of a document: its own sections, then its pages. -/
def ofDocument (layout : Layout) (d : Document Comment) : List Link :=
  ofSections [] d.root.sections ++ ofPages layout [] d.root.pages

/-! ## What a link is as a value and in the navigation -/

mutual

/-- The link as a mapping of one entry, from its title to its path or to its links. -/
def value : Link → Yaml.Value
  | page title path => .dict [(.text title, .text path)]
  | group title links => .dict [(.text title, .list (values links))]

/-- The values of links. -/
def values : List Link → List Yaml.Value
  | [] => []
  | l :: ls => value l :: values ls

end

mutual

/-- The lines of a link. -/
def lines (depth : Nat) : Link → List Text
  | page title path => [Plan.navLine depth (Plan.quote title ++ ':' :: ' ' :: Plan.quote path)]
  | group title links =>
    Plan.navLine depth (Plan.quote title ++ [':']) :: linesOfAll (depth + 1) links

/-- The lines of links. -/
def linesOfAll (depth : Nat) : List Link → List Text
  | [] => []
  | l :: ls => lines depth l ++ linesOfAll depth ls

end

theorem linesOfAll_append (depth : Nat) (ls ms : List Link) :
    linesOfAll depth (ls ++ ms) = linesOfAll depth ls ++ linesOfAll depth ms := by
  induction ls with
  | nil => simp [linesOfAll]
  | cons l ls ih => rw [List.cons_append, linesOfAll, linesOfAll, ih, List.append_assoc]

theorem linesOfAll_ofSections (ds : List Text) (depth : Nat) (blocks : List Block) :
    linesOfAll depth (ofSections ds blocks)
      = (Outline.sectionLeaves ds depth blocks).map Plan.entryLine := by
  induction blocks with
  | nil => rfl
  | cons b blocks ih =>
    rw [ofSections, List.map_cons, ← ofSections, linesOfAll, ih]
    rfl

mutual

theorem lines_ofPage (layout : Layout) (ds : List Text) (depth : Nat) :
    ∀ p : Page Comment, lines depth (ofPage layout ds p)
      = (Outline.ofPage layout ds depth p).map Plan.entryLine
  | ⟨title, sections, pages⟩ => by
    have hbelow := linesOfAll_ofPages layout (ds ++ [FileName.ofTitle title]) (depth + 1) pages
    have hleaves := linesOfAll_ofSections (ds ++ [FileName.ofTitle title]) (depth + 1) sections
    cases layout with
    | sections =>
      rw [ofPage, Outline.ofPage, lines, linesOfAll_append, hleaves, hbelow, ← List.map_append]
      rfl
    | pages =>
      rw [ofPage, Outline.ofPage]
      by_cases hs : sections.isEmpty = true
      · rw [if_pos hs, if_pos hs, lines, hbelow]
        rfl
      · rw [if_neg hs, if_neg hs]
        by_cases hp : pages.isEmpty = true
        · rw [if_pos hp, if_pos hp, lines]
          rfl
        · rw [if_neg hp, if_neg hp, lines, linesOfAll, lines, hbelow]
          rfl

theorem linesOfAll_ofPages (layout : Layout) (ds : List Text) (depth : Nat) :
    ∀ ps : List (Page Comment), linesOfAll depth (ofPages layout ds ps)
      = (Outline.ofPages layout ds depth ps).map Plan.entryLine
  | [] => rfl
  | p :: ps => by
    rw [ofPages, linesOfAll, Outline.ofPages, List.map_append, lines_ofPage,
      linesOfAll_ofPages layout ds depth ps]

end

/-- The navigation of a document lists its links. -/
theorem navigation_ofDocument (layout : Layout) (d : Document Comment) :
    (Plan.ofDocument layout d).navigation = linesOfAll 0 (ofDocument layout d) := by
  have hnav : (Plan.ofDocument layout d).navigation
      = (Outline.ofDocument layout d).map Plan.entryLine := rfl
  rw [hnav, ofDocument, linesOfAll_append, linesOfAll_ofSections, linesOfAll_ofPages,
    Outline.ofDocument, List.map_append]

/-! ## Links that can be read back -/

/-- A name that can be the key of a line: none of its characters breaks the line, and the name in
quotes is no longer than a key may be. -/
structure IsKey (name : Text) : Prop where
  line : Yaml.IsLine name
  length : (Plan.quote name).length ≤ 1024

instance (name : Text) : Decidable (IsKey name) :=
  decidable_of_iff (Yaml.IsLine name ∧ (Plan.quote name).length ≤ 1024)
    ⟨fun h => ⟨h.1, h.2⟩, fun h => ⟨h.line, h.length⟩⟩

/-- The titles can be keys, the paths are lines, and there is something below each title. -/
inductive Readable : Link → Prop
  | page {title path : Text} : IsKey title → Yaml.IsLine path → Readable (page title path)
  | group {title : Text} {links : List Link} : IsKey title → links ≠ [] →
    (∀ l ∈ links, Readable l) → Readable (group title links)

end Link

/-! ## What is in a document -/

namespace Page

variable {α : Type}

mutual

/-- The names in a page: its own, those of its sections and those in the pages inside it. -/
def allNames : Page α → List Text
  | ⟨name, sections, pages⟩ => name :: (sections.map (·.1) ++ allNamesOf pages)

/-- The names in a list of pages. -/
def allNamesOf : List (Page α) → List Text
  | [] => []
  | p :: ps => allNames p ++ allNamesOf ps

end

/-- There is something in the page, and in every page inside it. -/
inductive Filled : Page α → Prop
  | mk {name : Text} {sections : List (Text × List α)} {pages : List (Page α)} :
    sections ≠ [] ∨ pages ≠ [] → (∀ p ∈ pages, Filled p) → Filled ⟨name, sections, pages⟩

theorem Filled.pages {p : Page α} (h : p.Filled) : ∀ q ∈ p.pages, q.Filled := by
  cases h with
  | mk _ hpages => exact hpages

theorem mem_updateNamed {name : Text} {f : Page α → Page α} {ps : List (Page α)} {q : Page α}
    (h : q ∈ updateNamed name f ps) :
    q ∈ ps ∨ ∃ p, (p ∈ ps ∨ p = empty name) ∧ q = f p := by
  induction ps with
  | nil => exact Or.inr ⟨empty name, Or.inr rfl, List.mem_singleton.mp h⟩
  | cons p ps ih =>
    rw [updateNamed] at h
    split at h
    · rcases List.mem_cons.mp h with rfl | h
      · exact Or.inr ⟨p, Or.inl (List.mem_cons_self ..), rfl⟩
      · exact Or.inl (List.mem_cons_of_mem p h)
    · rcases List.mem_cons.mp h with rfl | h
      · exact Or.inl (List.mem_cons_self ..)
      · rcases ih h with h | ⟨r, hr, rfl⟩
        · exact Or.inl (List.mem_cons_of_mem p h)
        · exact Or.inr ⟨r, hr.imp_left (List.mem_cons_of_mem p), rfl⟩

theorem updateNamed_ne_nil (name : Text) (f : Page α → Page α) (ps : List (Page α)) :
    updateNamed name f ps ≠ [] := by
  cases ps with
  | nil => simp [updateNamed]
  | cons p ps => rw [updateNamed]; split <;> simp

/-- An item fills the pages on its way. -/
theorem filled_addAt (path : List Text) (heading : Text) (x : α) {p : Page α}
    (h : ∀ q ∈ p.pages, q.Filled) : (p.addAt path heading x).Filled := by
  induction path generalizing p with
  | nil =>
    refine Filled.mk (Or.inl ?_) h
    cases p.sections with
    | nil => simp [addToSections]
    | cons s ss => rw [addToSections.eq_def]; dsimp only; split <;> simp
  | cons n path ih =>
    refine Filled.mk (Or.inr (updateNamed_ne_nil _ _ _)) fun q hq => ?_
    rcases mem_updateNamed hq with hq | ⟨r, hr, rfl⟩
    · exact h q hq
    · rcases hr with hr | rfl
      · exact ih (h r hr).pages
      · exact ih (by simp [empty])

end Page

namespace Document

variable {α : Type}

/-- The names in a document: its own, those of its sections and those in its pages. -/
def allNames (d : Document α) : List Text :=
  d.name :: (d.root.sections.map (·.1) ++ Page.allNamesOf d.root.pages)

theorem filled_insertInto {p : Placement} {x : α} {ds : List (Document α)}
    (h : ∀ d ∈ ds, d.root.Filled) : ∀ d ∈ insertInto p x ds, d.root.Filled := by
  induction ds with
  | nil =>
    intro d hd
    obtain rfl := List.mem_singleton.mp hd
    exact Page.filled_addAt _ _ _ (by simp [Page.empty])
  | cons e ds ih =>
    have he := h e (List.mem_cons_self ..)
    have hds := fun d hd => h d (List.mem_cons_of_mem e hd)
    intro d hd
    rw [insertInto] at hd
    split at hd
    · rcases List.mem_cons.mp hd with rfl | hd
      · exact Page.filled_addAt _ _ _ he.pages
      · exact hds d hd
    · rcases List.mem_cons.mp hd with rfl | hd
      · exact he
      · exact ih hds d hd

/-- There is something in every page of a document that was gathered. -/
theorem filled_gather {kind : Text} {cs : List Comment} {ds : List (Document Comment)}
    (h : (gather kind cs).value = .ok ds) : ∀ d ∈ ds, d.root.Filled := by
  have hfold : ∀ (es : List (Placement × Comment)) (ds : List (Document Comment)),
      (∀ d ∈ ds, d.root.Filled) →
      ∀ d ∈ es.foldl (fun ds e => insertInto e.1 e.2 ds) ds, d.root.Filled := by
    intro es
    induction es with
    | nil => exact fun _ hds => hds
    | cons e es ih => exact fun ds hds => ih _ (filled_insertInto hds)
  rw [gather, gatherFrom_value] at h
  split at h
  · exact absurd h (by simp)
  · exact Except.ok.inj h ▸ hfold _ [] (by simp)

end Document

namespace Link

theorem readable_ofSections {ds : List Text} {blocks : List Block} (hds : ∀ d ∈ ds, Yaml.IsLine d)
    (hnames : ∀ n ∈ blocks.map (·.1), IsKey n) : ∀ l ∈ ofSections ds blocks, Readable l := by
  intro l hl
  obtain ⟨b, hb, rfl⟩ := List.mem_map.mp hl
  have hkey := hnames b.1 (List.mem_map_of_mem hb)
  exact .page hkey (Outline.isLine_joinPath hds (FileName.isLine_page hkey.line))

mutual

theorem readable_ofPage (layout : Layout) {ds : List Text} (hds : ∀ d ∈ ds, Yaml.IsLine d) :
    ∀ p : Page Comment, p.Filled → (∀ n ∈ p.allNames, IsKey n) → Readable (ofPage layout ds p)
  | ⟨title, sections, pages⟩, hfilled, hnames => by
    rw [Page.allNames] at hnames
    have htitle := hnames title (List.mem_cons_self ..)
    have hin : ∀ d ∈ ds ++ [FileName.ofTitle title], Yaml.IsLine d := by
      intro d hd
      rcases List.mem_append.mp hd with hd | hd
      · exact hds d hd
      · exact List.mem_singleton.mp hd ▸ FileName.isLine_ofTitle htitle.line
    have hbelow := readable_ofPages layout hin pages hfilled.pages fun n hn =>
      hnames n (List.mem_cons_of_mem _ (List.mem_append_right _ hn))
    have hsections := readable_ofSections hin fun n hn =>
      hnames n (List.mem_cons_of_mem _ (List.mem_append_left _ hn))
    have hsome : sections ≠ [] ∨ pages ≠ [] := by
      cases hfilled with
      | mk hsome _ => exact hsome
    have hlinks : pages ≠ [] → ofPages layout (ds ++ [FileName.ofTitle title]) pages ≠ [] := by
      intro hne
      obtain ⟨p, ps, rfl⟩ := List.exists_cons_of_ne_nil hne
      simp [ofPages]
    cases layout with
    | sections =>
      rw [ofPage]
      -- the links below are those of what fills the page
      refine .group htitle (fun hnil => ?_) fun l hl => ?_
      · obtain ⟨hs, hp⟩ := List.append_eq_nil_iff.mp hnil
        exact hsome.elim (fun h => h (List.map_eq_nil_iff.mp hs)) fun h => hlinks h hp
      · exact (List.mem_append.mp hl).elim (hsections l) (hbelow l)
    | pages =>
      rw [ofPage]
      by_cases hs : sections.isEmpty = true
      · rw [if_pos hs]
        exact .group htitle (hlinks (hsome.resolve_left fun h => h (List.isEmpty_iff.mp hs))) hbelow
      · rw [if_neg hs]
        by_cases hp : pages.isEmpty = true
        · rw [if_pos hp]
          exact .page htitle (Outline.isLine_joinPath hds (FileName.isLine_page htitle.line))
        · rw [if_neg hp]
          refine .group htitle (by simp) fun l hl => ?_
          rcases List.mem_cons.mp hl with rfl | hl
          · exact .page htitle (Outline.isLine_joinPath hin (by decide))
          · exact hbelow l hl

theorem readable_ofPages (layout : Layout) {ds : List Text} (hds : ∀ d ∈ ds, Yaml.IsLine d) :
    ∀ ps : List (Page Comment), (∀ p ∈ ps, p.Filled) → (∀ n ∈ Page.allNamesOf ps, IsKey n) →
      ∀ l ∈ ofPages layout ds ps, Readable l
  | [], _, _ => by simp [ofPages]
  | p :: ps, hfilled, hnames => by
    rw [Page.allNamesOf] at hnames
    intro l hl
    rw [ofPages] at hl
    rcases List.mem_cons.mp hl with rfl | hl
    · exact readable_ofPage layout hds p (hfilled p (List.mem_cons_self ..)) fun n hn =>
        hnames n (List.mem_append_left _ hn)
    · exact readable_ofPages layout hds ps (fun q hq => hfilled q (List.mem_cons_of_mem p hq))
        (fun n hn => hnames n (List.mem_append_right _ hn)) l hl

end

/-- The links of a document that was gathered can be read back, if its names can be keys. -/
theorem readable_ofDocument (layout : Layout) {d : Document Comment} (hfilled : d.root.Filled)
    (hnames : ∀ n ∈ d.allNames, IsKey n) : ∀ l ∈ ofDocument layout d, Readable l := by
  rw [Document.allNames] at hnames
  intro l hl
  rcases List.mem_append.mp hl with hl | hl
  · exact readable_ofSections (by simp) (fun n hn =>
      hnames n (List.mem_cons_of_mem _ (List.mem_append_left _ hn))) l hl
  · exact readable_ofPages layout (by simp) d.root.pages hfilled.pages (fun n hn =>
      hnames n (List.mem_cons_of_mem _ (List.mem_append_right _ hn))) l hl

end Link
end DocPress
