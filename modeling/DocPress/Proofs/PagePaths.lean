import DocPress.Plan.Basic
import DocPress.Proofs.PathNames

/-!
# The paths of pages

The path of a page file is written with slashes between names that come from comments, and such a
name may be anything that has no blank, slash or backslash in it: a dot or two dots as well as an
ordinary name. What can be relied on is the last of them, which ends in `.md` and is therefore a
plain name wherever the others lead.
-/

namespace DocPress

namespace FileName

/-- Hyphens stand for all gaps. -/
theorem not_isGap_of_mem_hyphenate {t : Text} {c : Char} (h : c ∈ hyphenate t) :
    isGap c = false := by
  induction t with
  | nil => exact absurd h (by simp [hyphenate])
  | cons d t ih =>
    rw [hyphenate] at h
    split at h
    · split at h
      · exact ih h
      · rcases List.mem_cons.mp h with rfl | h
        · decide
        · exact ih h
    · rename_i hd
      rcases List.mem_cons.mp h with rfl | h
      · simpa using hd
      · exact ih h

theorem slash_notMem_hyphenate (t : Text) : '/' ∉ hyphenate t := fun h =>
  absurd (not_isGap_of_mem_hyphenate h) (by decide)

theorem slash_notMem_page (title : Text) : '/' ∉ page title := by
  rw [page, List.mem_append, not_or]
  exact ⟨slash_notMem_hyphenate _, by decide⟩

end FileName

/-- The last name of the path is that of a Markdown file. -/
def IsPagePath (path : Text) : Prop :=
  ∃ above stem, Text.splitOn '/' path = above ++ [stem ++ ".md".toList]

theorem isName_of_md (stem : Text) (h : '/' ∉ stem) : Path.IsName (stem ++ ".md".toList) := by
  have hlast : (stem ++ ".md".toList).getLast? = some 'd' := by
    rw [List.getLast?_append]; rfl
  refine ⟨by simp, ?_, fun he => ?_, fun he => ?_⟩
  · rw [List.mem_append, not_or]; exact ⟨h, by decide⟩
  · rw [he] at hlast; exact absurd hlast (by decide)
  · rw [he] at hlast; exact absurd hlast (by decide)

namespace Outline

theorem joinPath_concat (ds : List Text) (file : Text) :
    joinPath ds file = (ds.map (· ++ ['/'])).flatten ++ file := by
  induction ds with
  | nil => simp [joinPath, Text.join, List.intercalate]
  | cons d ds ih =>
    have hcons : ∃ e es, ds ++ [file] = e :: es := by
      cases ds with
      | nil => exact ⟨file, [], rfl⟩
      | cons e es => exact ⟨e, es ++ [file], rfl⟩
    obtain ⟨e, es, hes⟩ := hcons
    rw [joinPath, hes] at ih
    rw [joinPath, List.cons_append, hes, Text.join_cons_cons, ih]
    simp

theorem isPagePath_joinPath {file : Text} (ds : List Text) (hslash : '/' ∉ file)
    (hmd : ∃ stem, file = stem ++ ".md".toList) : IsPagePath (joinPath ds file) := by
  obtain ⟨stem, hstem⟩ := hmd
  refine ⟨((joinPath ds file |> Text.splitOn '/').dropLast), stem, ?_⟩
  rw [← hstem]
  rcases List.eq_nil_or_concat ds with rfl | ⟨ds, d, rfl⟩
  · have hfile : joinPath [] file = file := by simp [joinPath, Text.join, List.intercalate]
    rw [hfile, Text.splitOn_of_notMem hslash]
    rfl
  · have hpath : joinPath (ds ++ [d]) file = ((ds.map (· ++ ['/'])).flatten ++ d) ++ '/' :: file := by
      rw [joinPath_concat]; simp
    rw [List.concat_eq_append, hpath, Text.splitOn_append_sep, Text.splitOn_of_notMem hslash,
      List.dropLast_concat]

theorem isPagePath_page (ds : List Text) (title : Text) :
    IsPagePath (joinPath ds (FileName.page title)) :=
  isPagePath_joinPath ds (FileName.slash_notMem_page title) ⟨_, rfl⟩

theorem isPagePath_index (ds : List Text) : IsPagePath (joinPath ds FileName.index) :=
  isPagePath_joinPath ds (by decide) ⟨"index".toList, by decide⟩

/-- The leaves among entries lead to pages. -/
def LeadToPages (es : List Entry) : Prop :=
  ∀ depth title path blocks, .leaf depth title path blocks ∈ es → IsPagePath path

theorem leadToPages_sectionLeaves (ds : List Text) (depth : Nat) (blocks : List Block) :
    LeadToPages (sectionLeaves ds depth blocks) := by
  intro dep title path bs hmem
  obtain ⟨b, -, hb⟩ := List.mem_map.mp hmem
  cases hb
  exact isPagePath_page ds _

theorem leadToPages_append {es fs : List Entry} (hes : LeadToPages es) (hfs : LeadToPages fs) :
    LeadToPages (es ++ fs) := by
  intro depth title path blocks hmem
  rcases List.mem_append.mp hmem with h | h
  · exact hes _ _ _ _ h
  · exact hfs _ _ _ _ h

theorem leadToPages_branch {es : List Entry} (depth : Nat) (title : Text) (hes : LeadToPages es) :
    LeadToPages (.branch depth title :: es) := by
  intro dep t path blocks hmem
  rcases List.mem_cons.mp hmem with h | h
  · exact absurd h (by simp)
  · exact hes _ _ _ _ h

theorem leadToPages_leaf {path : Text} {es : List Entry} (depth : Nat) (title : Text)
    (blocks : List Block) (hpath : IsPagePath path) (hes : LeadToPages es) :
    LeadToPages (.leaf depth title path blocks :: es) := by
  intro dep t p bs hmem
  rcases List.mem_cons.mp hmem with h | h
  · cases h; exact hpath
  · exact hes _ _ _ _ h

mutual

theorem leadToPages_ofPage (layout : Layout) (ds : List Text) (depth : Nat) :
    ∀ p : Page Comment, LeadToPages (ofPage layout ds depth p)
  | ⟨title, sections, pages⟩ => by
    have hbelow := leadToPages_ofPages layout (ds ++ [FileName.ofTitle title]) (depth + 1) pages
    have hnil : LeadToPages [] := fun _ _ _ _ h => absurd h (by simp)
    cases layout with
    | sections =>
      rw [ofPage]
      exact leadToPages_branch _ _ (leadToPages_append (leadToPages_sectionLeaves _ _ _) hbelow)
    | pages =>
      rw [ofPage]
      split
      · exact leadToPages_branch _ _ hbelow
      · split
        · exact leadToPages_leaf _ _ _ (isPagePath_page ds title) hnil
        · exact leadToPages_branch _ _ (leadToPages_leaf _ _ _ (isPagePath_index _) hbelow)

theorem leadToPages_ofPages (layout : Layout) (ds : List Text) (depth : Nat) :
    ∀ ps : List (Page Comment), LeadToPages (ofPages layout ds depth ps)
  | [] => fun _ _ _ _ h => absurd h (by rw [ofPages]; simp)
  | p :: ps => by
    rw [ofPages]
    exact leadToPages_append (leadToPages_ofPage layout ds depth p)
      (leadToPages_ofPages layout ds depth ps)

end

theorem leadToPages_ofDocument (layout : Layout) (d : Document Comment) :
    LeadToPages (ofDocument layout d) :=
  leadToPages_append (leadToPages_sectionLeaves _ _ _) (leadToPages_ofPages _ _ _ _)

end Outline

namespace Plan

theorem path_mem_addBlocks {path : Text} {blocks : List Block} {fs : List PageFile} {f : PageFile}
    (h : f ∈ addBlocks path blocks fs) : f.path = path ∨ ∃ g ∈ fs, g.path = f.path := by
  induction fs with
  | nil =>
    obtain rfl := List.mem_singleton.mp h
    exact Or.inl rfl
  | cons g fs ih =>
    rw [addBlocks] at h
    split at h
    · rename_i hg
      rcases List.mem_cons.mp h with rfl | h
      · exact Or.inl hg
      · exact Or.inr ⟨f, List.mem_cons_of_mem g h, rfl⟩
    · rcases List.mem_cons.mp h with rfl | h
      · exact Or.inr ⟨f, List.mem_cons_self .., rfl⟩
      · rcases ih h with h | ⟨k, hk, hf⟩
        · exact Or.inl h
        · exact Or.inr ⟨k, List.mem_cons_of_mem g hk, hf⟩

/-- Files come from leaves. -/
theorem isPagePath_of_mem_fileEntries {es : List Entry} {fs : List PageFile}
    (hes : Outline.LeadToPages es) (hfs : ∀ f ∈ fs, IsPagePath f.path) :
    ∀ f ∈ (fileEntries es fs).1, IsPagePath f.path := by
  induction es generalizing fs with
  | nil => exact hfs
  | cons e es ih =>
    have hrest : Outline.LeadToPages es := fun _ _ _ _ h => hes _ _ _ _ (List.mem_cons_of_mem e h)
    cases e with
    | branch depth title => exact ih hrest hfs
    | leaf depth title path blocks =>
      refine ih hrest fun f hf => ?_
      rcases path_mem_addBlocks hf with h | ⟨g, hg, h⟩
      · exact h ▸ hes _ _ _ _ (List.mem_cons_self ..)
      · exact h ▸ hfs g hg

/-- **Every page of a document's plan is a Markdown file**, whatever directories its path goes
through. -/
theorem isPagePath_of_mem_texts {layout : Layout} {doc : Document Comment} {page : Text × Text}
    (h : page ∈ (ofDocument layout doc).render.texts) : IsPagePath page.1 := by
  rcases List.mem_cons.mp h with rfl | h
  · exact Outline.isPagePath_index []
  · obtain ⟨f, hf, rfl⟩ := List.mem_map.mp h
    exact isPagePath_of_mem_fileEntries (Outline.leadToPages_ofDocument layout doc) (by simp) f
      (List.mem_filter.mp hf).1

end Plan
end DocPress
