import DocPress.Plan.Basic
import DocPress.Proofs.Named
import DocPress.Proofs.PagePaths
import Mathlib.Data.List.Basic

/-!
# Where a plan puts sections

A plan is made in one walk through a document that keeps three accounts: the outline and with it the
lines of the navigation, the page files, and the paths that came up again. What comes of it can be
told page by page. `Page.nodes` lists the pages of a document in reading order, each with the names
that lead to it; `produced` says of one page, by the layout, which paths it sends which sections
to. All three accounts are read off the list of what is produced: the files stand in the order in
which their paths first come up and hold what was sent there, each later arrival is warned of, and
the navigation quotes the paths one after the other (`plan_follows_walk`).

The files are a list of named things, so the step is `alterNamed_map` once more: adding blocks to
files that are grouped is grouping with one production more.
-/

namespace DocPress

/-! ## The walk -/

namespace Page

variable {α : Type}

mutual

/-- A page and the pages inside it in reading order, each with the names that lead to it. -/
def nodes (path : List Text) : Page α → List (List Text × Page α)
  | ⟨name, sections, pages⟩ => (path, ⟨name, sections, pages⟩) :: nodesOfAll path pages

/-- The pages inside a page, to which `path` leads. -/
def nodesOfAll (path : List Text) : List (Page α) → List (List Text × Page α)
  | [] => []
  | p :: ps => nodes (path ++ [p.name]) p ++ nodesOfAll path ps

end

end Page

/-- The path of a file in the directories that are named after pages. -/
def filePath (path : List Text) (file : Text) : Text :=
  Text.join ['/'] (path.map FileName.ofTitle ++ [file])

/-- What the page that `path` leads to sends to which file. A section makes a file of its own in the
layout by sections, and at the top of a document in either layout. In the layout by pages all
sections of a page go together, if there are any: to the file named after the page, or if there are
pages inside it to the index of its directory. -/
def Page.produced (layout : Layout) (path : List Text) (p : Page Comment) :
    List (Text × List Block) :=
  if layout = .sections ∨ path = [] then
    p.sections.map fun s => (filePath path (FileName.ofTitle s.1 ++ ".md".toList), [s])
  else if p.sections.isEmpty then []
  else if p.pages.isEmpty then
    [(Text.join ['/'] (path.map FileName.ofTitle) ++ ".md".toList, p.sections)]
  else [(filePath path "index.md".toList, p.sections)]

/-- All that a document sends to files, in the order of the walk. -/
def Document.produced (layout : Layout) (d : Document Comment) : List (Text × List Block) :=
  (d.root.nodes []).flatMap fun n => n.2.produced layout n.1

/-! ## The outline has what the walk produces -/

/-- What an entry sends to its file. -/
def Entry.sent? : Entry → Option (Text × List Block)
  | .leaf _ _ path blocks => some (path, blocks)
  | .branch _ _ => none

namespace Outline

theorem sent_sectionLeaves (path : List Text) (depth : Nat) (blocks : List Block) :
    (sectionLeaves (path.map FileName.ofTitle) depth blocks).filterMap Entry.sent?
      = blocks.map fun s => (filePath path (FileName.ofTitle s.1 ++ ".md".toList), [s]) := by
  induction blocks with
  | nil => rfl
  | cons b blocks ih => exact congrArg (_ :: ·) ih

/-- The file named after a page stands beside its directory. -/
theorem joinPath_page (path : List Text) (title : Text) :
    joinPath (path.map FileName.ofTitle) (FileName.page title)
      = Text.join ['/'] ((path ++ [title]).map FileName.ofTitle) ++ ".md".toList := by
  have htitle := joinPath_concat (path.map FileName.ofTitle) (FileName.ofTitle title)
  rw [joinPath] at htitle
  rw [joinPath_concat, FileName.page, List.map_append, List.map_singleton, htitle,
    List.append_assoc]

mutual

theorem sent_ofPage (layout : Layout) (path : List Text) (depth : Nat) :
    (p : Page Comment) → (ofPage layout (path.map FileName.ofTitle) depth p).filterMap Entry.sent?
      = (p.nodes (path ++ [p.name])).flatMap fun n => n.2.produced layout n.1
  | ⟨title, sections, pages⟩ => by
    have hbelow := sent_ofPages layout (path ++ [title]) (depth + 1) pages
    have hinside : (path ++ [title]).map FileName.ofTitle
        = path.map FileName.ofTitle ++ [FileName.ofTitle title] := by simp
    rw [hinside] at hbelow
    rw [Page.nodes, List.flatMap_cons, ← hbelow]
    show _ = Page.produced layout (path ++ [title]) ⟨title, sections, pages⟩ ++ _
    cases layout with
    | sections =>
      have hleaves := sent_sectionLeaves (path ++ [title]) (depth + 1) sections
      rw [hinside] at hleaves
      rw [ofPage, List.filterMap_cons_none rfl, List.filterMap_append, hleaves, Page.produced,
        if_pos (Or.inl rfl)]
    | pages =>
      have hdeep : ¬ (Layout.pages = .sections ∨ path ++ [title] = []) := by simp
      rw [ofPage, Page.produced, if_neg hdeep]
      by_cases hsections : sections.isEmpty = true
      · rw [if_pos hsections, if_pos hsections, List.filterMap_cons_none rfl, List.nil_append]
      · rw [if_neg hsections, if_neg hsections]
        by_cases hpages : pages.isEmpty = true
        · -- there are no pages inside, so there is nothing below the page's own file
          obtain rfl := List.isEmpty_iff.mp hpages
          rw [if_pos hpages, if_pos hpages, joinPath_page]
          rfl
        · rw [if_neg hpages, if_neg hpages, filePath, hinside]
          rfl

theorem sent_ofPages (layout : Layout) (path : List Text) (depth : Nat) :
    (ps : List (Page Comment)) →
      (ofPages layout (path.map FileName.ofTitle) depth ps).filterMap Entry.sent?
        = (Page.nodesOfAll path ps).flatMap fun n => n.2.produced layout n.1
  | [] => rfl
  | p :: ps => by
    rw [ofPages, Page.nodesOfAll, List.filterMap_append, List.flatMap_append,
      sent_ofPage layout path depth p, sent_ofPages layout path depth ps]

end

/-- The leaves of a document's outline are what the walk produces. -/
theorem sent_ofDocument (layout : Layout) (d : Document Comment) :
    (ofDocument layout d).filterMap Entry.sent? = d.produced layout := by
  have hsections := sent_sectionLeaves [] 0 d.root.sections
  have hpages := sent_ofPages layout [] 0 d.root.pages
  rw [List.map_nil] at hsections hpages
  have hroot : d.root.nodes [] = ([], d.root) :: Page.nodesOfAll [] d.root.pages := by
    cases d.root
    rw [Page.nodes]
  rw [ofDocument, List.filterMap_append, hsections, hpages, Document.produced, hroot,
    List.flatMap_cons, Page.produced, if_pos (Or.inr rfl)]

end Outline

namespace Plan

/-! ## Files in the order of first arrival -/

/-- The files that productions make: in the order in which their paths first come up, each with all
that was sent to it. -/
def grouped (ps : List (Text × List Block)) : List PageFile :=
  (ps.map Prod.fst).eraseDups.map fun path =>
    ⟨path, (ps.filter (·.1 = path)).flatMap Prod.snd⟩

theorem map_path_grouped (ps : List (Text × List Block)) :
    (grouped ps).map PageFile.path = (ps.map Prod.fst).eraseDups := by
  rw [grouped, List.map_map]
  exact List.map_id _

theorem addBlocks_eq (path : Text) (blocks : List Block) (fs : List PageFile) :
    addBlocks path blocks fs = alterNamed PageFile.path path
      (fun f => ⟨path, f.elim [] PageFile.blocks ++ blocks⟩) fs := by
  induction fs with
  | nil => rfl
  | cons f fs ih =>
    rw [addBlocks, alterNamed, ih]
    split
    · rename_i hf
      rw [← hf]
      rfl
    · rfl

/-- **One more production.** -/
theorem addBlocks_grouped (ps : List (Text × List Block)) (path : Text) (blocks : List Block) :
    addBlocks path blocks (grouped ps) = grouped (ps ++ [(path, blocks)]) := by
  have hmap := alterNamed_map PageFile.path
    (fun p => ⟨p, (ps.filter (·.1 = p)).flatMap Prod.snd⟩) (fun _ => rfl) (ps.map Prod.fst) path
    (fun f => ⟨path, f.elim [] PageFile.blocks ++ blocks⟩)
  rw [addBlocks_eq, grouped, hmap, grouped, List.map_append]
  refine List.map_congr_left fun p _ => ?_
  by_cases hp : p = path
  · subst hp
    have hlast : [(p, blocks)].filter (fun x => decide (x.1 = p)) = [(p, blocks)] := by simp
    rw [if_pos rfl, List.filter_append, List.flatMap_append, hlast]
    by_cases hmem : p ∈ ps.map Prod.fst
    · simp [hmem]
    · -- a path that is new has got nothing yet
      have hnone : ps.filter (fun x => decide (x.1 = p)) = [] := by
        rw [List.filter_eq_nil_iff]
        intro x hx
        rw [decide_eq_true_eq]
        exact fun he => hmem (he ▸ List.mem_map_of_mem hx)
      rw [if_neg hmem, hnone]
      simp
  · have hlast : [(path, blocks)].filter (fun x => decide (x.1 = p)) = [] := by
      simp [Ne.symm hp]
    rw [if_neg hp, List.filter_append, hlast, List.append_nil]

/-! ## Paths that come up again -/

/-- The paths at whose place the same path has come up before. -/
def repeats (paths : List Text) : List Text :=
  (paths.zipIdx.filter fun x => (paths.take x.2).contains x.1).map Prod.fst

theorem repeats_concat (paths : List Text) (path : Text) :
    repeats (paths ++ [path]) = repeats paths ++ if path ∈ paths then [path] else [] := by
  have hearlier : paths.zipIdx.filter (fun x => ((paths ++ [path]).take x.2).contains x.1)
      = paths.zipIdx.filter (fun x => (paths.take x.2).contains x.1) := by
    refine List.filter_congr fun x hx => ?_
    have hlt : x.2 < paths.length := by
      have := List.snd_lt_add_of_mem_zipIdx hx
      omega
    rw [List.take_append_of_le_length (by omega)]
  have hlast : [(path, paths.length)].filter (fun x => ((paths ++ [path]).take x.2).contains x.1)
      = if path ∈ paths then [(path, paths.length)] else [] := by
    by_cases hmem : path ∈ paths <;> simp [hmem]
  rw [repeats, List.zipIdx_append, List.filter_append, hearlier, List.map_append]
  simp only [Nat.zero_add, List.zipIdx_singleton, hlast, repeats]
  split <;> rfl

theorem any_path_grouped (ps : List (Text × List Block)) (path : Text) :
    (grouped ps).any (fun f => f.path = path) = decide (path ∈ ps.map Prod.fst) := by
  have hpaths := congrArg (fun l => l.any (fun p => decide (p = path))) (map_path_grouped ps)
  rw [List.any_map] at hpaths
  refine hpaths.trans ?_
  rw [Bool.eq_iff_iff, List.any_eq_true, decide_eq_true_eq, ← List.mem_eraseDups]
  simp

/-- **A run of entries.** On top of files that productions have made, entries make the files of the
productions together, and what they repeat is what comes up again behind the others. -/
theorem fileEntries_grouped (es : List Entry) (ps : List (Text × List Block)) :
    (fileEntries es (grouped ps)).1 = grouped (ps ++ es.filterMap Entry.sent?)
      ∧ repeats (ps.map Prod.fst) ++ (fileEntries es (grouped ps)).2
        = repeats ((ps ++ es.filterMap Entry.sent?).map Prod.fst) := by
  induction es generalizing ps with
  | nil => simp [fileEntries]
  | cons e es ih =>
    cases e with
    | branch depth title => exact ih ps
    | leaf depth title path blocks =>
      obtain ⟨hfiles, hrepeats⟩ := ih (ps ++ [(path, blocks)])
      have hsent : ps ++ (Entry.leaf depth title path blocks :: es).filterMap Entry.sent?
          = ps ++ [(path, blocks)] ++ es.filterMap Entry.sent? := by
        simp [Entry.sent?]
      rw [List.map_append, List.map_singleton, repeats_concat, List.append_assoc] at hrepeats
      rw [hsent, fileEntries, addBlocks_grouped, any_path_grouped]
      refine ⟨hfiles, ?_⟩
      rw [← hrepeats]
      congr 1
      by_cases hmem : path ∈ ps.map Prod.fst
      · simp only [hmem, if_true, decide_true]
        rfl
      · simp only [hmem, if_false, decide_false]
        rfl

/-! ## The paths in the navigation -/

/-- The text up to a quote that closes it, where a quote that is written twice stands for one, and
what follows. -/
def quotedRest? : Text → Option (Text × Text)
  | [] => none
  | '\'' :: '\'' :: t => (quotedRest? t).map fun x => ('\'' :: x.1, x.2)
  | c :: t => if c = '\'' then some ([], t) else (quotedRest? t).map fun x => (c :: x.1, x.2)

/-- The text in the quotes that a text begins with, and what follows. -/
def quoted? : Text → Option (Text × Text)
  | '\'' :: t => quotedRest? t
  | _ => none

/-- The path that a line of the navigation quotes behind its title. -/
def linkedPath? (line : Text) : Option Text :=
  match line.dropWhile (· == ' ') with
  | '-' :: ' ' :: t =>
    match quoted? t with
    | some (_, ':' :: ' ' :: r) => (quoted? r).map Prod.fst
    | _ => none
  | _ => none

/-- What was put in quotes is read back, unless one more quote follows. -/
theorem quoted?_quote (t : Text) {r : Text} (hr : r.head? ≠ some '\'') :
    quoted? (quote t ++ r) = some (t, r) := by
  have hrest : ∀ t, quotedRest? (Text.replace '\'' ['\'', '\''] t ++ '\'' :: r) = some (t, r) := by
    intro t
    induction t with
    | nil =>
      rw [Text.replace, List.flatMap_nil, List.nil_append, quotedRest?, if_pos rfl]
      rintro q - rfl
      exact hr rfl
    | cons c t ih =>
      rw [Text.replace, List.flatMap_cons, ← Text.replace]
      by_cases hc : c = '\''
      · subst hc
        simp [quotedRest?, ih]
      · rw [if_neg hc, List.singleton_append, List.cons_append, quotedRest?, if_neg hc, ih]
        · rfl
        · rintro q rfl -
          exact hc rfl
  have htext : quote t ++ r = '\'' :: (Text.replace '\'' ['\'', '\''] t ++ '\'' :: r) := by
    simp [quote]
  rw [htext]
  exact hrest t

theorem dropWhile_navLine (depth : Nat) (t : Text) :
    (navLine depth t).dropWhile (· == ' ') = '-' :: ' ' :: t := by
  have hindent : ∀ c ∈ List.replicate (4 * depth) ' ', (c == ' ') = true := by
    intro c hc
    rw [List.eq_of_mem_replicate hc]
    rfl
  rw [navLine, List.dropWhile_append_of_pos hindent]
  rfl

/-- The line of a leaf quotes the leaf's path, and that of a branch quotes none. -/
theorem linkedPath?_entryLine (e : Entry) : linkedPath? (entryLine e) = e.sent?.map Prod.fst := by
  cases e with
  | branch depth title =>
    rw [entryLine, linkedPath?, dropWhile_navLine]
    simp [quoted?_quote title (r := [':']) (by decide), Entry.sent?]
  | leaf depth title path blocks =>
    have hpath := quoted?_quote path (r := []) (by decide)
    rw [List.append_nil] at hpath
    rw [entryLine, linkedPath?, dropWhile_navLine]
    simp [quoted?_quote title (r := ':' :: ' ' :: quote path) (by simp), hpath, Entry.sent?]

/-- The navigation quotes the paths that the outline leads to. -/
theorem linkedPaths_ofEntries (name : Text) (es : List Entry) :
    (ofEntries name es).navigation.filterMap linkedPath?
      = (es.filterMap Entry.sent?).map Prod.fst := by
  show (es.map entryLine).filterMap linkedPath? = _
  rw [List.filterMap_map, List.map_filterMap]
  exact List.filterMap_congr fun e _ => linkedPath?_entryLine e

/--
**A plan follows the walk.**

Files have the paths that the walk through the document produces, in the order in which they first
come up, and each holds all blocks that were sent to its path, in the order of the walk. There is
one warning for each time that a path comes up again. The paths that the navigation quotes are those
that are produced, one after the other, and so each leads to a file and there is a way to each file.
-/
theorem plan_follows_walk (layout : Layout) (doc : Document Comment) :
    let plan := ofDocument layout doc
    let paths := (doc.produced layout).map Prod.fst
    plan.files.map PageFile.path = paths.eraseDups
      ∧ (∀ f ∈ plan.files,
        f.blocks = ((doc.produced layout).filter (·.1 = f.path)).flatMap Prod.snd)
      ∧ plan.log = (repeats paths).map mergeWarning
      ∧ plan.navigation.filterMap linkedPath? = paths
      ∧ ∀ path, path ∈ plan.navigation.filterMap linkedPath? ↔ ∃ f ∈ plan.files, f.path = path := by
  intro plan paths
  obtain ⟨hfiles, hrepeats⟩ := fileEntries_grouped (Outline.ofDocument layout doc) []
  rw [List.nil_append, Outline.sent_ofDocument] at hfiles hrepeats
  have hgrouped : plan.files = grouped (doc.produced layout) := hfiles
  have hmerged : plan.merged = repeats paths := hrepeats
  have hlinks : plan.navigation.filterMap linkedPath? = paths := by
    have hentries := linkedPaths_ofEntries doc.name (Outline.ofDocument layout doc)
    rwa [Outline.sent_ofDocument] at hentries
  refine ⟨by rw [hgrouped, map_path_grouped], fun f hf => ?_, by rw [log, hmerged], hlinks,
    fun path => ?_⟩
  · rw [hgrouped] at hf
    obtain ⟨path, -, rfl⟩ := List.mem_map.mp hf
    rfl
  · rw [hlinks, ← List.mem_eraseDups, ← map_path_grouped, ← hgrouped, List.mem_map]

/-- A page named for the index shares a file with the sections of the page around it. -/
example : (Document.produced .pages ⟨"D".toList, ⟨"D".toList, [("Top".toList, [])],
      [⟨"My P".toList, [("S".toList, [])], [⟨"Index".toList, [("T".toList, [])], []⟩]⟩]⟩⟩).map
        Prod.fst
    = ["top.md".toList, "my-p/index.md".toList, "my-p/index.md".toList] := by
  decide

end Plan
end DocPress
