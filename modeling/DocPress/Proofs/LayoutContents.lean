import DocPress.Plan.Basic
import DocPress.Proofs.PageUses
import Mathlib.Data.List.Perm.Basic

/-!
# What the layouts publish

The layouts differ in the files that they make, and leaves that name one path share a file. What
stands in the files is the same: each comment of the document once for each time it is stored, under
the title of its section.

The outline of a document already has this in the order of the document, whichever layout it
follows (`headed_outline`). Making files of the outline moves sections together but keeps each of
them (`headed_fileEntries`). Rendering goes from comment to comment, so its diagnostics are those of
the comments, and the diagnostics of one comment are its flaws (`diagnostics_comment`).
-/

namespace DocPress

/-! ## Headed comments -/

/-- What sections hold, each item with the title above it. -/
def headed {α : Type} (sections : List (Text × List α)) : List (Text × α) :=
  sections.flatMap fun s => s.2.map (s.1, ·)

namespace Page

variable {α : Type}

mutual

/-- All items of a page, each with the title of its section. -/
def headedItems : Page α → List (Text × α)
  | ⟨_, sections, pages⟩ => headed sections ++ headedItemsOfAll pages

/-- All items of a list of pages. -/
def headedItemsOfAll : List (Page α) → List (Text × α)
  | [] => []
  | p :: ps => headedItems p ++ headedItemsOfAll ps

end

theorem headedItems_eq (p : Page α) :
    p.headedItems = headed p.sections ++ headedItemsOfAll p.pages := by
  cases p; rw [headedItems]

theorem map_snd_headed (sections : List (Text × List α)) :
    (headed sections).map (·.2) = sections.flatMap (·.2) := by
  simp [headed, List.map_flatMap, Function.comp_def]

mutual

/-- Without the titles they are the items of the page. -/
theorem map_snd_headedItems : (p : Page α) → p.headedItems.map (·.2) = p.items
  | ⟨_, sections, pages⟩ => by
    rw [headedItems, items, List.map_append, map_snd_headed, map_snd_headedItemsOfAll pages]

theorem map_snd_headedItemsOfAll :
    (ps : List (Page α)) → (headedItemsOfAll ps).map (·.2) = itemsOfAll ps
  | [] => rfl
  | p :: ps => by
    rw [headedItemsOfAll, itemsOfAll, List.map_append, map_snd_headedItems p,
      map_snd_headedItemsOfAll ps]

end

end Page

/-! ## Outlines -/

/-- What an entry adds to its file. -/
def Entry.headed : Entry → List (Text × Comment)
  | .leaf _ _ _ blocks => DocPress.headed blocks
  | .branch _ _ => []

namespace Outline

theorem headed_sectionLeaves (directories : List Text) (depth : Nat) (blocks : List Block) :
    (sectionLeaves directories depth blocks).flatMap Entry.headed = headed blocks := by
  simp [sectionLeaves, List.flatMap_map, Entry.headed, headed]

mutual

/-- A page has what is stored in it among its entries, in either layout. -/
theorem headed_ofPage (layout : Layout) (directories : List Text) (depth : Nat) :
    (p : Page Comment) →
      (ofPage layout directories depth p).flatMap Entry.headed = p.headedItems
  | ⟨title, sections, pages⟩ => by
    have hbelow := headed_ofPages layout (directories ++ [FileName.ofTitle title]) (depth + 1) pages
    have hleaves := headed_sectionLeaves (directories ++ [FileName.ofTitle title]) (depth + 1)
      sections
    rw [Page.headedItems, ← hbelow]
    cases layout with
    | sections =>
      rw [ofPage, List.flatMap_cons, List.flatMap_append, hleaves]
      rfl
    | pages =>
      rw [ofPage]
      by_cases hsections : sections.isEmpty = true
      · -- no sections, no leaf
        obtain rfl := List.isEmpty_iff.mp hsections
        rfl
      · rw [if_neg hsections]
        by_cases hpages : pages.isEmpty = true
        · -- one leaf and nothing below it
          obtain rfl := List.isEmpty_iff.mp hpages
          simp [Entry.headed, ofPages]
        · rw [if_neg hpages, List.flatMap_cons, List.flatMap_cons]
          rfl

theorem headed_ofPages (layout : Layout) (directories : List Text) (depth : Nat) :
    (ps : List (Page Comment)) →
      (ofPages layout directories depth ps).flatMap Entry.headed = Page.headedItemsOfAll ps
  | [] => rfl
  | p :: ps => by
    rw [ofPages, Page.headedItemsOfAll, List.flatMap_append,
      headed_ofPage layout directories depth p, headed_ofPages layout directories depth ps]

end

/-- The outline of a document goes through what is stored in it, in order. -/
theorem headed_outline (layout : Layout) (doc : Document Comment) :
    (ofDocument layout doc).flatMap Entry.headed = doc.root.headedItems := by
  rw [ofDocument, List.flatMap_append, headed_sectionLeaves, headed_ofPages, Page.headedItems_eq]

end Outline

/-! ## Files -/

namespace Plan

/-- What stands in files, each comment with the title above it. -/
def headedIn (files : List PageFile) : List (Text × Comment) :=
  files.flatMap fun f => headed f.blocks

theorem headedIn_addBlocks (path : Text) (blocks : List Block) (files : List PageFile) :
    (headedIn (addBlocks path blocks files)).Perm (headedIn files ++ headed blocks) := by
  induction files with
  | nil => simp [headedIn, addBlocks]
  | cons f fs ih =>
    rw [addBlocks]
    split
    · -- the sections go behind those of this file, before those of the others
      have hboth : headed (f.blocks ++ blocks) = headed f.blocks ++ headed blocks :=
        List.flatMap_append
      simp only [headedIn, List.flatMap_cons, hboth, List.append_assoc]
      exact List.perm_append_comm.append_left _
    · simp only [headedIn, List.flatMap_cons, List.append_assoc] at ih ⊢
      exact ih.append_left _

/-- The files hold what was in them and what the entries add. -/
theorem headed_fileEntries (es : List Entry) (files : List PageFile) :
    (headedIn (fileEntries es files).1).Perm (headedIn files ++ es.flatMap Entry.headed) := by
  induction es generalizing files with
  | nil => simp [fileEntries]
  | cons e es ih =>
    cases e with
    | branch depth title => exact ih files
    | leaf depth title path blocks =>
      have hfirst := (headedIn_addBlocks path blocks files).append_right (es.flatMap Entry.headed)
      refine (ih (addBlocks path blocks files)).trans (hfirst.trans ?_)
      rw [List.append_assoc]
      rfl

/-- The files of a plan hold what is stored in the document. -/
theorem headedIn_ofDocument (layout : Layout) (doc : Document Comment) :
    (headedIn (ofDocument layout doc).files).Perm doc.root.headedItems := by
  have hfiles := headed_fileEntries (Outline.ofDocument layout doc) []
  rwa [Outline.headed_outline] at hfiles

end Plan

/-! ## Diagnostics -/

/-- Why something was not made out, if it was not. -/
def fault? {ε α : Type} : Except ε α → Option ε
  | .ok _ => none
  | .error e => some e

namespace Comment

/-- What is wrong with the heading of a comment: there is no tag for it, or the first one does not
have the form. -/
def headingFlaw? (c : Comment) : Option Malformed :=
  match c.firstTag? "desc".toList with
  | none => some ⟨"desc".toList, [], .missing⟩
  | some tag => fault? (TagParts.ofHeading tag.string)

/-- What is wrong with a tag that is a row of a table. -/
def rowFlaw? (tag : Tag) : Option Malformed :=
  if tag.kind = "param".toList ∨ tag.kind = "data".toList then
    fault? (TagParts.ofRow tag.kind tag.string)
  else none

/-- What is wrong with the tag that says what is returned. -/
def returnsFlaw? (c : Comment) : Option Malformed :=
  (Markdown.returnsTag? c).bind fun tag => fault? (TagParts.ofReturns tag.string)

/-- The flaws of a comment: at most one of its heading, one for each malformed row, and at most one
of what is returned. -/
def flaws (c : Comment) : List Malformed :=
  c.headingFlaw?.toList ++ c.tags.filterMap rowFlaw? ++ c.returnsFlaw?.toList

end Comment

namespace Markdown

variable (c : Comment)

theorem diagnostics_heading :
    (heading c).diagnostics = c.headingFlaw?.toList.map (Diagnostic.ofComment c) := by
  unfold heading Comment.headingFlaw? TagParts.headingKind
  cases c.firstTag? "desc".toList with
  | none => rfl
  | some tag =>
    dsimp only
    cases TagParts.ofHeading tag.string <;> rfl

theorem diagnostics_row (tag : Tag) : (row c tag).diagnostics
    = (fault? (TagParts.ofRow tag.kind tag.string)).toList.map (Diagnostic.ofComment c) := by
  unfold row
  cases TagParts.ofRow tag.kind tag.string <;> rfl

theorem diagnostics_table (kind title : Text) : (table c kind title).diagnostics
    = ((c.tagsOf kind).filterMap fun tag => fault? (TagParts.ofRow tag.kind tag.string)).map
      (Diagnostic.ofComment c) := by
  have hrows : (rows c (c.tagsOf kind)).diagnostics
      = ((c.tagsOf kind).filterMap fun tag => fault? (TagParts.ofRow tag.kind tag.string)).map
        (Diagnostic.ofComment c) := by
    simp only [rows, Rendered.diagnostics_append, Rendered.concat, List.flatMap_map,
      diagnostics_row, List.append_nil]
    rw [List.filterMap_eq_flatMap_toList, List.map_flatMap]
  unfold table
  cases htags : c.tagsOf kind with
  | nil => rfl
  | cons tag tags => rw [← htags, ← hrows, htags]; rfl

theorem diagnostics_returns :
    (returns c).diagnostics = c.returnsFlaw?.toList.map (Diagnostic.ofComment c) := by
  unfold returns Comment.returnsFlaw?
  cases returnsTag? c with
  | none => rfl
  | some tag =>
    dsimp only [Option.bind_some]
    cases TagParts.ofReturns tag.string <;> rfl

/-- The two tables flag the rows that the tags have in one order or another. -/
theorem rowFlaws_perm : ((c.tagsOf "param".toList ++ c.tagsOf "data".toList).filterMap
      fun tag => fault? (TagParts.ofRow tag.kind tag.string)).Perm
    (c.tags.filterMap Comment.rowFlaw?) := by
  have hkinds : c.tags.filterMap Comment.rowFlaw?
      = (c.tags.filter fun tag => tag.kind = "param".toList ∨ tag.kind = "data".toList).filterMap
        fun tag => fault? (TagParts.ofRow tag.kind tag.string) := by
    rw [List.filterMap_filter]
    simp only [decide_eq_true_eq]
    rfl
  rw [hkinds]
  refine List.Perm.filterMap _ ?_
  have hdistinct : "param".toList ≠ "data".toList := by decide
  unfold Comment.tagsOf
  generalize "param".toList = param at hdistinct ⊢
  generalize "data".toList = data at hdistinct ⊢
  induction c.tags with
  | nil => exact List.Perm.refl _
  | cons tag tags ih =>
    by_cases hparam : tag.kind = param
    · simpa [hparam, hdistinct] using ih
    · by_cases hdata : tag.kind = data
      · simpa [hdata, Ne.symm hdistinct] using List.perm_middle.trans (ih.cons tag)
      · simpa [hparam, hdata] using ih

/-- The diagnostics of a comment are its flaws. -/
theorem diagnostics_comment :
    (comment c).diagnostics.Perm (c.flaws.map (Diagnostic.ofComment c)) := by
  have htables := (rowFlaws_perm c).map (Diagnostic.ofComment c)
  rw [List.filterMap_append, List.map_append] at htables
  simp only [comment, Rendered.diagnostics_append, diagnostics_heading, diagnostics_table,
    diagnostics_returns, Comment.flaws, List.map_append]
  rw [List.append_assoc (List.map _ c.headingFlaw?.toList)]
  exact (htables.append_left _).append_right _

theorem diagnostics_ofSection (title : Text) (cs : List Comment) :
    (ofSection title cs).diagnostics = cs.flatMap fun c => (comment c).diagnostics := by
  simp [ofSection, Rendered.concat, List.flatMap_map]

end Markdown

namespace Plan

/-- Rendering goes through what stands in the files, comment by comment. -/
theorem diagnostics_render (p : Plan) : p.render.diagnostics
    = (headedIn p.files).flatMap fun x => (Markdown.comment x.2).diagnostics := by
  simp only [render, PageFile.render, Rendered.concat, List.flatMap_map,
    Markdown.diagnostics_ofSection, headedIn, headed, List.flatMap_assoc]

/-- The diagnostics of a plan are the flaws of the comments stored in the document. -/
theorem diagnostics_ofDocument (layout : Layout) (doc : Document Comment) :
    (ofDocument layout doc).render.diagnostics.Perm
      (doc.root.items.flatMap fun c => c.flaws.map (Diagnostic.ofComment c)) := by
  rw [diagnostics_render, ← Page.map_snd_headedItems, List.flatMap_map]
  exact (headedIn_ofDocument layout doc).flatMap fun x _ => Markdown.diagnostics_comment x.2

/--
**Both layouts publish the same documentation.**

Over all files of a plan, the comments with the titles they stand under are those of the document,
each as often as it is stored there, and so they are the same in both layouts. Rendering a plan
gives, for each time that a comment is stored, one diagnostic for each of its flaws and no others,
and so the diagnostics are the same in both layouts up to their order.
-/
theorem layouts_publish_alike (doc : Document Comment) :
    let plan (layout : Layout) := ofDocument layout doc
    (headedIn (plan .sections).files).Perm (headedIn (plan .pages).files)
      ∧ (∀ layout, (headedIn (plan layout).files).Perm doc.root.headedItems)
      ∧ (plan .sections).render.diagnostics.Perm (plan .pages).render.diagnostics
      ∧ ∀ layout, (plan layout).render.diagnostics.Perm
        (doc.root.items.flatMap fun c => c.flaws.map (Diagnostic.ofComment c)) := by
  intro plan
  have hheaded := fun layout => headedIn_ofDocument layout doc
  have hdiagnostics := fun layout => diagnostics_ofDocument layout doc
  exact ⟨(hheaded .sections).trans (hheaded .pages).symm, hheaded,
    (hdiagnostics .sections).trans (hdiagnostics .pages).symm, hdiagnostics⟩

end Plan
end DocPress
