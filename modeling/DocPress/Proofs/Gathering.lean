import DocPress.Proofs.PageUses
import Mathlib.Data.List.Basic

/-!
# Gathering is grouping

Gathering folds comments into documents one after the other, and each of them changes one section
of one page of one document. `Grouping` says what the documents are afterwards without any order of
steps: what is stored where, which documents, pages and sections there are, and in which order they
stand. It speaks of placed items only, and `placed` tells which comments are placed and where.

The argument goes through `Document.grouped`, the documents written down at once: a placed item is a
use of the root page of its document, so the step and the run of `PageUses` carry over.
-/

namespace DocPress

variable {α : Type}

namespace Placement

/-- Where a comment belongs: what its first directive says, unless a segment of it is empty. -/
def of? (kind : Text) (c : Comment) : Option Placement :=
  (c.firstTag? kind).bind fun t =>
    if [] ∈ segments t.string then none else ofSegments (segments t.string)

theorem splitSlashes_ne_nil (t : Text) : splitSlashes t ≠ [] := by
  induction t using splitSlashes.induct with
  | case1 => simp [splitSlashes]
  | case2 cs ih => simp [splitSlashes]
  | case3 c cs _ hnil ih => exact absurd hnil ih
  | case4 c cs hc w ws hw ih =>
    rw [splitSlashes, hw]
    · simp
    · exact hc

theorem segments_ne_nil (t : Text) : segments t ≠ [] := by
  simp [segments, splitSlashes_ne_nil]

theorem ofSegments_isSome {names : List Text} (h : names ≠ []) : (ofSegments names).isSome := by
  match names, h with
  | [_], _ => rfl
  | _ :: _ :: _, _ => rfl

/-- A comment with a directive is passed over exactly if a segment of the directive is empty. -/
theorem of?_eq_none_iff {kind : Text} {c : Comment} {t : Tag} (h : c.firstTag? kind = some t) :
    of? kind c = none ↔ [] ∈ segments t.string := by
  rw [of?, h, Option.bind_some]
  by_cases hmem : [] ∈ segments t.string
  · simp [hmem]
  · have hsome := ofSegments_isSome (segments_ne_nil t.string)
    rw [if_neg hmem]
    constructor
    · intro hnone; rw [hnone] at hsome; exact Bool.noConfusion hsome
    · intro hmem'; exact absurd hmem' hmem

/-- The segments of a comment's directive are those of its first tag of the kind. -/
theorem segmentsOf_value (c : Comment) (kind : Text) :
    (segmentsOf c kind).value = match c.firstTag? kind with
      | none => .error (.missing c kind)
      | some t => if [] ∈ segments t.string then .error (.emptySegment c kind t.string)
        else .ok (segments t.string) := by
  rw [Comment.firstTag?_eq_head?, segmentsOf]
  cases c.tagsOf kind with
  | nil => rfl
  | cons t ts =>
    have hall : (segments t.string).all (!·.isEmpty) = true ↔ [] ∉ segments t.string := by
      simp only [List.all_eq_true, Bool.not_eq_true', List.isEmpty_eq_false_iff]
      exact ⟨fun h hmem => h [] hmem rfl, fun h w hw he => h (he ▸ hw)⟩
    by_cases hmem : [] ∈ segments t.string
    · simp [hmem, mt hall.mp (not_not.mpr hmem)]
    · simp [hmem, hall.mpr hmem]

end Placement

namespace Document

/-! ## The grouping of placed items -/

/-- The comments that are placed, each behind its placement, in the order in which they come. -/
def placed (kind : Text) (cs : List Comment) : List (Placement × Comment) :=
  cs.filterMap fun c => (Placement.of? kind c).map (·, c)

/-- What was placed at one placement, in order. -/
def itemsAt (p : Placement) (es : List (Placement × α)) : List α :=
  es.filterMap fun e => if e.1 = p then some e.2 else none

/-- The headings under which something was placed on the page at the end of a path. -/
def headingsAt (document : Text) (path : List Text) (es : List (Placement × α)) : List Text :=
  es.filterMap fun e =>
    if e.1.document = document ∧ e.1.pages = path then some e.1.heading else none

/-- The names with which placements go on behind a path. -/
def namesAt (document : Text) (path : List Text) (es : List (Placement × α)) : List Text :=
  es.filterMap fun e =>
    if e.1.document = document then Page.stepAfter? path e.1.pages else none

/-- What the documents store at a placement. -/
def storedAt (p : Placement) (docs : List (Document α)) : List α :=
  ((docs.find? (·.name = p.document)).map fun d => d.root.stored p.pages p.heading).getD []

/-- What holds of the page `q` at the end of a path of a document. -/
structure PageGrouping (es : List (Placement × α)) (d : Document α) (path : List Text)
    (q : Page α) : Prop where
  /-- It is the page that a search along the path finds, so there is no other one there. -/
  found : d.root.find? path = some q
  /-- Its sections stand in the order in which their headings first come. -/
  headings : q.sections.map (·.1) = (headingsAt d.name path es).eraseDups
  headings_nodup : (q.sections.map (·.1)).Nodup
  /-- The pages inside it stand in the order in which their names first come. -/
  names : q.pages.map (·.name) = (namesAt d.name path es).eraseDups
  names_nodup : (q.pages.map (·.name)).Nodup
  /-- A section holds what was placed there, in order. -/
  sections : ∀ s ∈ q.sections, s.2 = itemsAt ⟨d.name, path, s.1⟩ es

/-- **The documents are the grouping of the placed items**: nothing but what was placed makes a
document, a page or a section, all of it is where it was placed, and everything stands in the order
of first arrival. -/
structure Grouping (es : List (Placement × α)) (docs : List (Document α)) : Prop where
  /-- Documents stand in the order in which they are first named. -/
  names : docs.map (·.name) = (es.map (·.1.document)).eraseDups
  names_nodup : (docs.map (·.name)).Nodup
  /-- Every page of every document, at whatever depth, is as its uses made it. -/
  page : ∀ d ∈ docs, ∀ path q, d.root.At path q → PageGrouping es d path q
  /-- There is a page at the end of a path exactly if something was placed there or further down. -/
  page_iff : ∀ name path, (∃ d ∈ docs, d.name = name ∧ ∃ q, d.root.At path q)
    ↔ ∃ e ∈ es, e.1.document = name ∧ path <+: e.1.pages
  /-- There is a section exactly if something was placed in it. -/
  section_iff : ∀ p : Placement,
    (∃ d ∈ docs, d.name = p.document ∧ ∃ q, d.root.At p.pages q ∧ p.heading ∈ q.sections.map (·.1))
      ↔ ∃ e ∈ es, e.1 = p
  /-- What is stored at a placement is what was placed there, in order. -/
  stored : ∀ p : Placement, storedAt p docs = itemsAt p es
  /-- All items together are what was placed, each as often as it was placed. -/
  items : (docs.flatMap (·.root.items)).Perm (es.map (·.2))

/-! ## The documents at once -/

/-- The uses that placed items make of the root page of a document. -/
def usesOf (document : Text) (es : List (Placement × α)) : List (Use α) :=
  es.filterMap fun e =>
    if e.1.document = document then some ⟨e.1.pages, some (e.1.heading, e.2)⟩ else none

/-- The documents that placed items make. -/
def grouped (es : List (Placement × α)) : List (Document α) :=
  (es.map (·.1.document)).eraseDups.map fun n => ⟨n, Page.grouped n (usesOf n es)⟩

theorem usesOf_append (n : Text) (es fs : List (Placement × α)) :
    usesOf n (es ++ fs) = usesOf n es ++ usesOf n fs := List.filterMap_append

/-- A document is named exactly if its root page is used. -/
theorem mem_documents_iff {n : Text} {es : List (Placement × α)} :
    n ∈ es.map (·.1.document) ↔ usesOf n es ≠ [] := by
  rw [usesOf, ne_eq, List.filterMap_eq_nil_iff, List.mem_map]
  constructor
  · rintro ⟨e, he, rfl⟩ hall
    have := hall e he
    simp at this
  · intro hall
    by_contra hno
    refine hall fun e he => ?_
    rw [if_neg fun h : e.1.document = n => hno ⟨e, he, h⟩]

/-- One more placed item: the step of gathering. -/
theorem insertInto_grouped (es : List (Placement × α)) (p : Placement) (x : α) :
    insertInto p x (grouped es) = grouped (es ++ [(p, x)]) := by
  have hmap := alterNamed_map Document.name
    (fun n => ⟨n, Page.grouped n (usesOf n es)⟩) (fun _ => rfl) (es.map (·.1.document))
    p.document (fun d => (d.getD ⟨p.document, Page.empty p.document⟩).insert p x)
  rw [insertInto_eq, grouped, hmap, grouped, List.map_append]
  refine List.map_congr_left fun n _ => ?_
  by_cases hn : n = p.document
  · subst hn
    -- a document that is not there yet is an empty one, as its page has not been used
    have hold : (if p.document ∈ es.map (·.1.document) then
          some (⟨p.document, Page.grouped p.document (usesOf p.document es)⟩ : Document α)
        else none).getD ⟨p.document, Page.empty p.document⟩
        = ⟨p.document, Page.grouped p.document (usesOf p.document es)⟩ := by
      by_cases hmem : p.document ∈ es.map (·.1.document)
      · rw [if_pos hmem]; rfl
      · have hnil : usesOf p.document es = [] := not_not.mp (mt mem_documents_iff.mpr hmem)
        rw [if_neg hmem, hnil, Page.grouped_nil]; rfl
    have huse := Page.use_grouped p.document (usesOf p.document es)
      ⟨p.pages, some (p.heading, x)⟩
    have huses : usesOf p.document [(p, x)] = [⟨p.pages, some (p.heading, x)⟩] := by
      simp [usesOf]
    rw [if_pos rfl, hold, usesOf_append, huses, ← huse]
    rfl
  · rw [if_neg hn, usesOf_append]
    simp [usesOf, Ne.symm hn]

/-- Placed items one after the other: the run of gathering. -/
theorem foldl_insertInto (es : List (Placement × α)) :
    es.foldl (fun docs e => insertInto e.1 e.2 docs) [] = grouped es := by
  induction es using List.reverseRecOn with
  | nil => rfl
  | append_singleton es e ih => rw [List.foldl_append, ih]; exact insertInto_grouped es e.1 e.2

/-- A placed item is among the items of the documents, which lose none of theirs. -/
theorem items_insertInto_perm (p : Placement) (x : α) (docs : List (Document α)) :
    ((insertInto p x docs).flatMap (·.root.items)).Perm (x :: docs.flatMap (·.root.items)) := by
  have hone : ∀ d : Document α, (d.insert p x).root.items.Perm (x :: d.root.items) := fun d =>
    Page.items_use_perm d.root ⟨p.pages, some (p.heading, x)⟩
  induction docs with
  | nil =>
    have hempty : (Page.empty p.document : Page α).items = [] := by rw [Page.items_eq]; rfl
    have := hone ⟨p.document, Page.empty p.document⟩
    rw [hempty] at this
    simpa [insertInto] using this
  | cons d docs ih =>
    by_cases hd : d.name = p.document
    · simp only [insertInto, if_pos hd, List.flatMap_cons]
      exact (hone d).append_right _
    · simp only [insertInto, if_neg hd, List.flatMap_cons]
      exact (ih.append_left _).trans List.perm_middle

/-! ## What the documents at once look like -/

theorem mem_usesOf_iff {n : Text} {es : List (Placement × α)} {u : Use α} :
    u ∈ usesOf n es
      ↔ ∃ e ∈ es, e.1.document = n ∧ u = ⟨e.1.pages, some (e.1.heading, e.2)⟩ := by
  rw [usesOf, List.mem_filterMap]
  constructor
  · rintro ⟨e, he, hu⟩
    by_cases hn : e.1.document = n
    · rw [if_pos hn, Option.some.injEq] at hu
      exact ⟨e, he, hn, hu.symm⟩
    · rw [if_neg hn] at hu
      exact absurd hu (by simp)
  · rintro ⟨e, he, hn, rfl⟩
    exact ⟨e, he, if_pos hn⟩

theorem headings_usesOf (n : Text) (path : List Text) (es : List (Placement × α)) :
    (Use.entries (Use.belowAll path (usesOf n es))).map Prod.fst = headingsAt n path es := by
  rw [Page.entries_belowAll, usesOf, List.filterMap_filterMap, List.map_filterMap, headingsAt]
  refine List.filterMap_congr fun e _ => ?_
  by_cases hn : e.1.document = n <;> by_cases hp : e.1.pages = path <;> simp [hn, hp]

theorem names_usesOf (n : Text) (path : List Text) (es : List (Placement × α)) :
    Use.names (Use.belowAll path (usesOf n es)) = namesAt n path es := by
  rw [Page.names_belowAll, usesOf, List.filterMap_filterMap, namesAt]
  refine List.filterMap_congr fun e _ => ?_
  by_cases hn : e.1.document = n <;> simp [hn]

theorem under_usesOf (p : Placement) (es : List (Placement × α)) :
    Page.under p.heading
        ((usesOf p.document es).filterMap fun u => if u.path = p.pages then u.entry else none)
      = itemsAt p es := by
  rw [Page.under, usesOf, List.filterMap_filterMap, List.filterMap_filterMap, itemsAt]
  refine List.filterMap_congr fun e _ => ?_
  obtain ⟨⟨document, pages, heading⟩, x⟩ := e
  obtain ⟨document', pages', heading'⟩ := p
  by_cases hn : document = document' <;> by_cases hp : pages = pages' <;> simp [hn, hp]

theorem mem_grouped_iff {es : List (Placement × α)} {d : Document α} :
    d ∈ grouped es ↔ d.name ∈ es.map (·.1.document)
      ∧ d = ⟨d.name, Page.grouped d.name (usesOf d.name es)⟩ := by
  rw [grouped, List.mem_map]
  constructor
  · rintro ⟨n, hn, rfl⟩
    exact ⟨List.mem_eraseDups.mp hn, rfl⟩
  · rintro ⟨hn, hd⟩
    exact ⟨d.name, List.mem_eraseDups.mpr hn, hd.symm⟩

theorem pageGrouping_grouped {es : List (Placement × α)} {n : Text} {path : List Text} {q : Page α}
    (hq : (Page.grouped n (usesOf n es)).At path q) :
    PageGrouping es ⟨n, Page.grouped n (usesOf n es)⟩ path q := by
  have hfound := Page.find?_grouped_eq_some_iff.mpr hq
  obtain ⟨-, rfl⟩ := Page.grouped_at_iff.mp hq
  have hheadings : (Page.grouped (path.getLastD n) (Use.belowAll path (usesOf n es))).sections.map
      (·.1) = (headingsAt n path es).eraseDups := by
    rw [Page.grouped_eq, Page.sectionsOf, ← headings_usesOf, List.map_map]
    exact List.map_id _
  have hnames : (Page.grouped (path.getLastD n) (Use.belowAll path (usesOf n es))).pages.map
      (·.name) = (namesAt n path es).eraseDups := by
    rw [Page.grouped_eq, ← names_usesOf, List.map_map]
    exact (List.map_congr_left fun m _ => Page.grouped_name m _).trans (List.map_id _)
  refine ⟨hfound, hheadings, hheadings ▸ nodup_eraseDups _, hnames, hnames ▸ nodup_eraseDups _, ?_⟩
  intro s hs
  rw [Page.grouped_eq] at hs
  obtain ⟨h, -, rfl⟩ := List.mem_map.mp hs
  rw [← under_usesOf ⟨n, path, h⟩, Page.entries_belowAll]

/-- There is a page in a grouped document exactly where something was placed or further up. -/
theorem exists_at_grouped_iff (es : List (Placement × α)) (n : Text) (path : List Text) :
    (∃ d ∈ grouped es, d.name = n ∧ ∃ q, d.root.At path q)
      ↔ ∃ e ∈ es, e.1.document = n ∧ path <+: e.1.pages := by
  constructor
  · rintro ⟨d, hd, rfl, q, hq⟩
    obtain ⟨hn, hd⟩ := mem_grouped_iff.mp hd
    rw [hd] at hq
    obtain ⟨hpath | hpath, -⟩ := Page.grouped_at_iff.mp hq
    · obtain ⟨e, he, hn⟩ := List.mem_map.mp hn
      exact ⟨e, he, hn, hpath ▸ List.nil_prefix⟩
    · -- a page below the root has a use, which some placed item made
      obtain ⟨u, hu⟩ := List.exists_mem_of_ne_nil _ hpath
      obtain ⟨e, he, hn, hue⟩ := mem_usesOf_iff.mp (Page.mem_belowAll_iff.mp hu)
      exact ⟨e, he, hn, u.path, congrArg Use.path hue⟩
  · rintro ⟨e, he, rfl, rest, hrest⟩
    have hmem : e.1.document ∈ es.map (·.1.document) := List.mem_map.mpr ⟨e, he, rfl⟩
    refine ⟨⟨e.1.document, Page.grouped e.1.document (usesOf e.1.document es)⟩,
      mem_grouped_iff.mpr ⟨hmem, rfl⟩, rfl, _, Page.grouped_at_iff.mpr ⟨Or.inr ?_, rfl⟩⟩
    refine List.ne_nil_of_mem (a := ⟨rest, some (e.1.heading, e.2)⟩) ?_
    rw [Page.mem_belowAll_iff, mem_usesOf_iff]
    exact ⟨e, he, rfl, by rw [hrest]⟩

theorem mem_headingsAt_iff {p : Placement} {es : List (Placement × α)} :
    p.heading ∈ headingsAt p.document p.pages es ↔ ∃ e ∈ es, e.1 = p := by
  obtain ⟨document, pages, heading⟩ := p
  rw [headingsAt, List.mem_filterMap]
  constructor
  · rintro ⟨e, he, hh⟩
    obtain ⟨⟨document', pages', heading'⟩, x⟩ := e
    simp only [Option.ite_none_right_eq_some, Option.some.injEq] at hh
    obtain ⟨⟨rfl, rfl⟩, rfl⟩ := hh
    exact ⟨_, he, rfl⟩
  · rintro ⟨e, he, hp⟩
    exact ⟨e, he, by simp [hp]⟩

/-- There is a section in a grouped document exactly where something was placed. -/
theorem exists_section_grouped_iff (es : List (Placement × α)) (p : Placement) :
    (∃ d ∈ grouped es, d.name = p.document
        ∧ ∃ q, d.root.At p.pages q ∧ p.heading ∈ q.sections.map (·.1))
      ↔ ∃ e ∈ es, e.1 = p := by
  have hheadings : ∀ d ∈ grouped es, d.name = p.document → ∀ q, d.root.At p.pages q →
      (p.heading ∈ q.sections.map (·.1) ↔ p.heading ∈ headingsAt p.document p.pages es) := by
    intro d hd hn q hq
    obtain ⟨-, hd⟩ := mem_grouped_iff.mp hd
    rw [hd, hn] at hq
    rw [(pageGrouping_grouped hq).headings]
    exact List.mem_eraseDups
  rw [← mem_headingsAt_iff]
  constructor
  · rintro ⟨d, hd, hn, q, hq, hmem⟩
    exact (hheadings d hd hn q hq).mp hmem
  · intro hmem
    -- something was placed in the section, so its page is there
    obtain ⟨e, he, rfl⟩ := mem_headingsAt_iff.mp hmem
    obtain ⟨d, hd, hn, q, hq⟩ := (exists_at_grouped_iff es e.1.document e.1.pages).mpr
      ⟨e, he, rfl, List.prefix_refl _⟩
    exact ⟨d, hd, hn, q, hq, (hheadings d hd hn q hq).mpr hmem⟩

theorem stored_grouped (es : List (Placement × α)) (p : Placement) :
    storedAt p (grouped es) = itemsAt p es := by
  have hfind := find?_map_eraseDups Document.name
    (fun n => ⟨n, Page.grouped n (usesOf n es)⟩) (fun _ => rfl) (es.map (·.1.document))
    p.document
  rw [storedAt, grouped, hfind]
  by_cases hmem : p.document ∈ es.map (·.1.document)
  · rw [if_pos hmem, Option.map_some, Option.getD_some, Page.stored_grouped, under_usesOf]
  · rw [if_neg hmem, Option.map_none, Option.getD_none, itemsAt, eq_comm,
      List.filterMap_eq_nil_iff]
    intro e he
    rw [if_neg fun hp : e.1 = p => hmem (List.mem_map.mpr ⟨e, he, congrArg Placement.document hp⟩)]

theorem items_grouped_perm (es : List (Placement × α)) :
    ((grouped es).flatMap (·.root.items)).Perm (es.map (·.2)) := by
  rw [← foldl_insertInto]
  induction es using List.reverseRecOn with
  | nil => exact List.Perm.refl _
  | append_singleton es e ih =>
    rw [List.foldl_append, List.map_append]
    exact (items_insertInto_perm e.1 e.2 _).trans
      ((ih.cons e.2).trans (List.perm_append_singleton e.2 _).symm)

/-- **The documents at once are the grouping of the placed items.** -/
theorem grouping_grouped (es : List (Placement × α)) : Grouping es (grouped es) where
  names := by
    rw [grouped, List.map_map]
    exact List.map_id _
  names_nodup := by
    rw [grouped, List.map_map]
    exact (List.map_id (es.map (·.1.document)).eraseDups).symm ▸ nodup_eraseDups _
  page := by
    intro d hd path q hq
    obtain ⟨-, hd⟩ := mem_grouped_iff.mp hd
    rw [hd] at hq ⊢
    exact pageGrouping_grouped hq
  page_iff := exists_at_grouped_iff es
  section_iff := exists_section_grouped_iff es
  stored := stored_grouped es
  items := items_grouped_perm es

/-! ## Gathering -/

/-- What comes of gathering: the first comment without a directive, or what the placed comments
make of the documents that were there. -/
theorem gatherFrom_value (kind : Text) (docs : List (Document Comment)) (n : Nat)
    (cs : List Comment) :
    (gatherFrom kind docs n cs).value = match cs.find? fun c => (c.firstTag? kind).isNone with
      | some c => .error (.missing c kind)
      | none => .ok ((placed kind cs).foldl (fun docs e => insertInto e.1 e.2 docs) docs) := by
  induction cs generalizing docs n with
  | nil => rfl
  | cons c cs ih =>
    have hvalue := Placement.segmentsOf_value c kind
    rw [gatherFrom, List.find?_cons]
    cases htag : c.firstTag? kind with
    | none => simp [htag] at hvalue ⊢; simp [hvalue]
    | some t =>
      have hplaced : placed kind (c :: cs)
          = ((Placement.of? kind c).map (·, c)).toList ++ placed kind cs := by
        unfold placed
        cases hp : Placement.of? kind c <;> simp [hp]
      rw [htag] at hvalue
      by_cases hmem : [] ∈ Placement.segments t.string
      · -- the comment is passed over
        have hnone := (Placement.of?_eq_none_iff htag).mpr hmem
        simp only [if_pos hmem] at hvalue
        simp [hvalue, hplaced, hnone, ih]
      · have hof : Placement.of? kind c = Placement.ofSegments (Placement.segments t.string) := by
          rw [Placement.of?, htag, Option.bind_some, if_neg hmem]
        obtain ⟨p, hp⟩ := Option.isSome_iff_exists.mp
          (Placement.ofSegments_isSome (Placement.segments_ne_nil t.string))
        simp only [if_neg hmem] at hvalue
        simp [hvalue, hplaced, hof, hp, ih]

theorem itemsAt_placed (kind : Text) (p : Placement) (cs : List Comment) :
    itemsAt p (placed kind cs) = cs.filter fun c => Placement.of? kind c = some p := by
  rw [itemsAt, placed, List.filterMap_filterMap, ← List.filterMap_eq_filter]
  refine List.filterMap_congr fun c _ => ?_
  cases hc : Placement.of? kind c <;> simp [hc, Option.guard]

theorem map_snd_placed (kind : Text) (cs : List Comment) :
    (placed kind cs).map (·.2) = cs.filter fun c => (Placement.of? kind c).isSome := by
  rw [placed, List.map_filterMap, ← List.filterMap_eq_filter]
  refine List.filterMap_congr fun c _ => ?_
  cases hc : Placement.of? kind c <;> simp [hc, Option.guard]

/-- **Gathering is grouping by placement.** It fails exactly if some comment has no directive, and
with no other error; otherwise the documents are the grouping of the comments that are placed. A
section holds the comments of its placement in order, and all sections together hold each comment
once that is not passed over, which are those whose directive has no empty segment. -/
theorem gather_is_grouping (kind : Text) (cs : List Comment) :
    ((∃ c, (gather kind cs).value = .error (.missing c kind)) ↔ ∃ c ∈ cs, c.firstTag? kind = none)
    ∧ ((∃ docs, (gather kind cs).value = .ok docs) ↔ ∀ c ∈ cs, c.firstTag? kind ≠ none)
    ∧ (∀ docs, (gather kind cs).value = .ok docs →
        Grouping (placed kind cs) docs
        ∧ (∀ p, storedAt p docs = cs.filter fun c => Placement.of? kind c = some p)
        ∧ (docs.flatMap (·.root.items)).Perm (cs.filter fun c => (Placement.of? kind c).isSome))
    ∧ (∀ c t, c.firstTag? kind = some t →
        (Placement.of? kind c = none ↔ [] ∈ Placement.segments t.string)) := by
  have hvalue : (gather kind cs).value = _ := gatherFrom_value kind [] 0 cs
  rw [foldl_insertInto] at hvalue
  cases hfind : cs.find? fun c => (c.firstTag? kind).isNone with
  | some b =>
    have hb : b.firstTag? kind = none := by simpa using List.find?_some hfind
    have hmem := List.mem_of_find?_eq_some hfind
    rw [hfind] at hvalue
    rw [hvalue]
    refine ⟨⟨fun _ => ⟨b, hmem, hb⟩, fun _ => ⟨b, rfl⟩⟩, ⟨?_, ?_⟩, ?_, ?_⟩
    · rintro ⟨docs, hok⟩; exact absurd hok (by simp)
    · intro hall; exact absurd hb (hall b hmem)
    · intro docs hok; exact absurd hok (by simp)
    · intro c t ht; exact Placement.of?_eq_none_iff ht
  | none =>
    have hall : ∀ c ∈ cs, c.firstTag? kind ≠ none := fun c hc hnone =>
      List.find?_eq_none.mp hfind c hc (by simp [hnone])
    rw [hfind] at hvalue
    rw [hvalue]
    refine ⟨⟨?_, ?_⟩, ⟨fun _ => hall, fun _ => ⟨_, rfl⟩⟩, ?_, ?_⟩
    · rintro ⟨c, herror⟩; exact absurd herror (by simp)
    · rintro ⟨c, hc, hnone⟩; exact absurd hnone (hall c hc)
    · intro docs hok
      obtain rfl := Except.ok.inj hok
      have hgrouping := grouping_grouped (placed kind cs)
      refine ⟨hgrouping, fun p => ?_, ?_⟩
      · rw [hgrouping.stored, itemsAt_placed]
      · rw [← map_snd_placed]; exact hgrouping.items
    · intro c t ht; exact Placement.of?_eq_none_iff ht

end Document
end DocPress
