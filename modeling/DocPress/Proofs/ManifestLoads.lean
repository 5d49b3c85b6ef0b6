import DocPress.Proofs.Composing
import DocPress.Proofs.ManifestTokens
import DocPress.Yaml.Loading

/-!
# Manifests load back

A manifest is text that was put together line by line. Read as YAML it is a mapping whose pages
are the links of the document, nested as they are.

The tokens of the manifest are known, see `scan_manifest`. They are read as nodes by recursion over
the links, with fuel for as many tokens as a link has, and the nodes stand for the values of the
links by the same recursion.
-/

namespace DocPress

open Yaml (IsLine isAdmitted)

/-! ## Characters -/

theorem Yaml.all_isAdmitted_of_isLine {t : Text} (h : IsLine t) : t.all isAdmitted = true :=
  List.all_eq_true.mpr fun c hc => isAdmitted_of_isInline (h c hc)

namespace Link

mutual

theorem isAdmitted_body (depth : Nat) :
    ∀ l : Link, l.Readable → (body depth l).all isAdmitted = true
  | page title path, h => by
    cases h with
    | page htitle hpath =>
      rw [body, List.all_append, List.all_cons, List.all_cons,
        Yaml.all_isAdmitted_of_isLine (Plan.isLine_quote htitle.line),
        Yaml.all_isAdmitted_of_isLine (Plan.isLine_quote hpath)]
      rfl
  | group title links, h => by
    cases h with
    | group htitle _ hlinks =>
      rw [body, List.all_append, List.all_cons, isAdmitted_text (depth + 1) links hlinks,
        Yaml.all_isAdmitted_of_isLine (Plan.isLine_quote htitle.line)]
      rfl

theorem isAdmitted_text (depth : Nat) :
    ∀ ls : List Link, (∀ l ∈ ls, l.Readable) → (text depth ls).all isAdmitted = true
  | [], _ => rfl
  | l :: ls, h => by
    have hindent : (List.replicate (2 * (2 * depth)) ' ').all isAdmitted = true :=
      List.all_eq_true.mpr fun c hc => (List.eq_of_mem_replicate hc) ▸ by decide
    rw [text, List.all_cons, List.all_append, List.all_cons, List.all_cons, List.all_append,
      hindent,
      isAdmitted_body depth l (h l (List.mem_cons_self ..)),
      isAdmitted_text depth ls fun m hm => h m (List.mem_cons_of_mem l hm)]
    rfl

end

/-! ## Nodes -/

mutual

/-- The link as a node. -/
def node : Link → Yaml.Node
  | page title path => .mapping .map [(.scalar .str title, .scalar .str path)]
  | group title links => .mapping .map [(.scalar .str title, .sequence .seq (nodes links))]

/-- Links as nodes. -/
def nodes : List Link → List Yaml.Node
  | [] => []
  | l :: ls => node l :: nodes ls

end

end Link

namespace Yaml.Compose

open Link (tokens itemTokens)

theorem reads_nodeUnless_link {ends : List Token} {inBlock loose : Bool} {f : Nat} {l : Link}
    {n : Node} {ts r : List Token} (hends : ends.contains .blockMapping = false)
    (h : Reads (node inBlock loose f) (l.tokens ++ ts) n r) :
    Reads (nodeUnless ends inBlock loose (f + 1)) (l.tokens ++ ts) n r := by
  cases l with
  | page title path => exact reads_nodeUnless hends h
  | group title links => exact reads_nodeUnless hends h

mutual

/-- The tokens of a link are read as its node. -/
theorem reads_link (loose : Bool) :
    ∀ (l : Link) (f : Nat) (r : List Token), l.tokens.length ≤ f →
      Reads (node true loose f) (l.tokens ++ r) l.node r
  | .page title path, f, r, hf => by
    rw [Link.tokens] at hf ⊢
    obtain ⟨f, rfl⟩ : ∃ n, f = n + 4 := ⟨f - 4, by simp at hf; omega⟩
    exact reads_mapping (reads_blockEntries_scalar title false rfl (reads_scalar path false _)
      (reads_blockEntries_nil r))
  | .group title links, f, r, hf => by
    rw [Link.tokens] at hf ⊢
    obtain ⟨f, rfl⟩ : ∃ n, f = n + 5 := ⟨f - 5, by simp at hf; omega⟩
    have hlinks := reads_links links (f + 1) (.blockEnd :: r) (by simp at hf; omega)
    have hentries : Reads (blockEntries (f + 4))
        (.key :: .scalar title false :: .value :: .blockSequence ::
          (itemTokens links ++ .blockEnd :: .blockEnd :: r))
        [(.scalar .str title, .sequence .seq (Link.nodes links))] r :=
      reads_blockEntries_scalar title false rfl (reads_sequence hlinks)
        (reads_blockEntries_nil r)
    simpa [Link.node] using reads_mapping hentries

/-- The tokens of links in a sequence are read as their nodes. -/
theorem reads_links :
    ∀ (ls : List Link) (f : Nat) (r : List Token), (itemTokens ls).length < f →
      Reads (blockItems f) (itemTokens ls ++ .blockEnd :: r) (Link.nodes ls) r
  | [], f, r, hf => by
    obtain ⟨f, rfl⟩ : ∃ n, f = n + 1 := ⟨f - 1, by omega⟩
    exact reads_blockItems_nil r
  | l :: ls, f, r, hf => by
    rw [Link.itemTokens] at hf ⊢
    obtain ⟨f, rfl⟩ : ∃ n, f = n + 2 := ⟨f - 2, by simp at hf; omega⟩
    have hlink := reads_link false l f (itemTokens ls ++ .blockEnd :: r) (by simp at hf; omega)
    have hrest := reads_links ls (f + 1) r (by simp at hf; omega)
    have hread := reads_blockItems_cons (reads_nodeUnless_link rfl hlink) hrest
    simpa [Link.nodes] using hread

end

/-- The same where the sequence has no indentation of its own. -/
theorem reads_looseLinks :
    ∀ (ls : List Link) (f : Nat) (r : List Token), (itemTokens ls).length < f →
      Reads (looseItems f) (itemTokens ls ++ .blockEnd :: r) (Link.nodes ls) (.blockEnd :: r)
  | [], f, r, hf => by
    obtain ⟨f, rfl⟩ : ∃ n, f = n + 1 := ⟨f - 1, by omega⟩
    exact reads_looseItems_nil r
  | l :: ls, f, r, hf => by
    rw [Link.itemTokens] at hf ⊢
    obtain ⟨f, rfl⟩ : ∃ n, f = n + 2 := ⟨f - 2, by simp at hf; omega⟩
    have hlink := reads_link false l f (itemTokens ls ++ .blockEnd :: r) (by simp at hf; omega)
    have hrest := reads_looseLinks ls (f + 1) r (by simp at hf; omega)
    have hread := reads_looseItems_cons (reads_nodeUnless_link rfl hlink) hrest
    simpa [Link.nodes] using hread

end Yaml.Compose

namespace Link

/-- The node of a manifest. -/
def manifestNode (name : Text) (links : List Link) : Yaml.Node :=
  .mapping .map
    [(.scalar .str "site_name".toList, .scalar .str name),
      (.scalar .str "pages".toList,
        .sequence .seq (.mapping .map [(.scalar .str "Home".toList, .scalar .str FileName.index)]
          :: nodes links))]

end Link

namespace Yaml

theorem Compose.reads_manifest (name : Text) (links : List Link) {f : Nat}
    (hf : (Link.manifestTokens name links).length ≤ f) :
    Reads (node true false f) (Link.manifestTokens name links) (Link.manifestNode name links)
      [.streamEnd] := by
  rw [Link.manifestTokens] at hf ⊢
  obtain ⟨f, rfl⟩ : ∃ n, f = n + 12 := ⟨f - 12, by simp at hf; omega⟩
  -- the keys that are not in quotes are no numbers, dates or the like
  have hword : ∀ w : Text, Kind.ofPlain w = .str → scalarNode none w true = .scalar .str w :=
    fun w hw => congrArg (Node.scalar · w) hw
  have hsite := hword "site_name".toList (by decide)
  have hpages := hword "pages".toList (by decide)
  have hhome := hword "Home".toList (by decide)
  have hindex : Reads (node true false (f + 5))
      (.blockMapping :: .key :: .scalar "Home".toList true :: .value ::
        .scalar FileName.index false :: .blockEnd ::
          (Link.itemTokens links ++ [.blockEnd, .streamEnd]))
      (.mapping .map [(.scalar .str "Home".toList, .scalar .str FileName.index)])
      (Link.itemTokens links ++ [.blockEnd, .streamEnd]) := by
    rw [← hhome]
    exact reads_mapping (reads_blockEntries_scalar "Home".toList true rfl
      (reads_scalar FileName.index false _) (reads_blockEntries_nil _))
  have hlinks := reads_looseLinks links (f + 6) [.streamEnd] (by simp at hf; omega)
  have hitems := reads_looseItems_cons (reads_nodeUnless rfl hindex) hlinks
  have hentries := reads_blockEntries_scalar "site_name".toList true rfl (reads_scalar name false _)
    (reads_blockEntries_scalar "pages".toList true rfl (reads_loose hitems)
      (reads_blockEntries_nil [.streamEnd]))
  rw [hsite, hpages] at hentries
  rw [List.append_assoc]
  exact reads_mapping hentries

theorem ofTokens_manifest (name : Text) (links : List Link) :
    Node.ofTokens (Link.manifestTokens name links) none
      = .ok (some (Link.manifestNode name links)) := by
  obtain ⟨fuel, hfuel⟩ : ∃ fuel, 4 * (Link.manifestTokens name links).length + 8 = fuel + 1 :=
    ⟨_, rfl⟩
  have hnode := Compose.reads_manifest name links (f := fuel + 1) (by omega)
    { tokens := [], fault := none, handles := standardHandles }
  rw [Node.ofTokens, hfuel]
  show Except.map _ (Compose.node true false (fuel + 1)
    { tokens := Link.manifestTokens name links, fault := none, handles := standardHandles }
      >>= _) = _
  rw [hnode]
  rfl

end Yaml

/-! ## Values -/

namespace Yaml.Meaning

/-- An entry whose key is a text is an entry of its own. -/
theorem own_cons {level : Nat} (key : Text) {n : Node} {v : Value} {es : List (Node × Node)}
    {entries : List (Value × Value)} (h : ofNode level n = .ok v)
    (hes : own level es = .ok entries) :
    own level ((.scalar .str key, n) :: es) = .ok ((.text key, v) :: entries) := by
  rw [own, h, hes]
  rfl

/-- A mapping of one entry whose key is a text. -/
theorem ofNode_entry {level : Nat} {key : Text} {n : Node} {v : Value}
    (h : ofNode (level + 1) n = .ok v) :
    ofNode level (.mapping .map [(.scalar .str key, n)]) = .ok (.dict [(.text key, v)]) := by
  have hown : own (level + 1) [(.scalar .str key, n)] = .ok [(.text key, v)] := own_cons key h rfl
  rw [ofNode, hown]
  rfl

mutual

/-- The node of a link stands for its value. -/
theorem ofNode_link (level : Nat) : ∀ l : Link, ofNode level l.node = .ok l.value
  | .page title path => ofNode_entry rfl
  | .group title links => by
    rw [Link.node, Link.value]
    refine ofNode_entry ?_
    rw [ofNode, ofItems_links]
    rfl

theorem ofItems_links (level : Nat) :
    ∀ ls : List Link, ofItems level (Link.nodes ls) = .ok (Link.values ls)
  | [] => rfl
  | l :: ls => by
    rw [Link.nodes, Link.values, ofItems, ofNode_link level l, ofItems_links level ls]
    rfl

end

end Yaml.Meaning

namespace Link

/-- What a manifest says: the name of the site, and its pages with the index page first. -/
def manifestValue (name : Text) (links : List Link) : Yaml.Value :=
  .dict [(.text "site_name".toList, .text name),
    (.text "pages".toList,
      .list (.dict [(.text "Home".toList, .text FileName.index)] :: values links))]

end Link

theorem Yaml.ofNode_manifest (name : Text) (links : List Link) :
    Value.ofNode (Link.manifestNode name links) = .ok (Link.manifestValue name links) := by
  have hhome : Meaning.ofNode 2 (.mapping .map
        [(.scalar .str "Home".toList, .scalar .str FileName.index)])
      = .ok (.dict [(.text "Home".toList, .text FileName.index)]) := Meaning.ofNode_entry rfl
  have hpages : Meaning.ofNode 1 (.sequence .seq
        (.mapping .map [(.scalar .str "Home".toList, .scalar .str FileName.index)]
          :: Link.nodes links))
      = .ok (.list (.dict [(.text "Home".toList, .text FileName.index)] :: Link.values links)) := by
    rw [Meaning.ofNode, Meaning.ofItems, hhome, Meaning.ofItems_links]
    rfl
  have hname : Meaning.ofNode 1 (.scalar .str name) = .ok (.text name) := rfl
  have hnil : Meaning.own 1 [] = .ok [] := rfl
  have hown := Meaning.own_cons "site_name".toList hname
    (Meaning.own_cons "pages".toList hpages hnil)
  rw [Value.ofNode, Link.manifestNode, Meaning.ofNode, hown]
  rfl

/-! ## Manifests -/

/-- A manifest loads as what its links say. -/
theorem Plan.load_manifest {p : Plan} {links : List Link} (hname : IsLine p.name)
    (hnavigation : p.navigation = Link.linesOfAll 0 links) (hlinks : ∀ l ∈ links, l.Readable) :
    Yaml.load p.manifest = .ok (Link.manifestValue p.name links) := by
  have hadmitted : p.manifest.all isAdmitted = true := by
    have hquote := Yaml.all_isAdmitted_of_isLine (isLine_quote hname)
    have hhome : (quote FileName.index).all isAdmitted = true := by decide
    rw [manifest_eq, hnavigation, Link.flatMap_linesOfAll]
    simp only [List.all_append, List.all_cons, hquote, hhome,
      Link.isAdmitted_text 0 links hlinks]
    decide
  rw [Yaml.load, hadmitted, Yaml.scan_manifest hname hnavigation hlinks]
  show (Yaml.Node.ofTokens _ none >>= _) = _
  rw [Yaml.ofTokens_manifest]
  exact Yaml.ofNode_manifest p.name links

/--
**A manifest loads back as the structure of its document.**

In either layout, the manifest of a document that was gathered is a mapping from `site_name` to the
name of the document and from `pages` to the index page and the links of the document: its own
sections first, then its pages, each with its links below its title. Titles and paths come back as
they are, if the names in the document can be keys.
-/
theorem Document.manifest_loads_back {kind : Text} {cs : List Comment}
    {ds : List (Document Comment)} (hgather : (gather kind cs).value = .ok ds)
    {d : Document Comment} (hd : d ∈ ds) (hnames : ∀ n ∈ d.allNames, Link.IsKey n)
    (layout : Layout) :
    Yaml.load (Plan.ofDocument layout d).manifest
      = .ok (.dict [(.text "site_name".toList, .text d.name),
          (.text "pages".toList, .list (.dict [(.text "Home".toList, .text FileName.index)]
            :: Link.values (Link.ofDocument layout d)))]) :=
  Plan.load_manifest (hnames d.name (List.mem_cons_self ..)).line
    (Link.navigation_ofDocument layout d)
    (Link.readable_ofDocument layout (filled_gather hgather d hd) hnames)

/-- Quotes, colons, number signs and hyphens in names come back as they are. -/
theorem Document.manifest_loads_back_with_signs :
    let comment (directive : String) : Comment :=
      { file := "a.js".toList, line := 1,
        tags := [{ kind := "docs".toList, string := directive.toList }] }
    let cs := [comment "It's // - Users' Guide: #1 // Sec \"a\"", comment "It's // Start"]
    ∃ d, (gather "docs".toList cs).value = .ok [d] ∧ (∀ n ∈ d.allNames, Link.IsKey n)
      ∧ Yaml.load (Plan.ofDocument .sections d).manifest
        = .ok (.dict [(.text "site_name".toList, .text "It's".toList),
          (.text "pages".toList, .list
            [.dict [(.text "Home".toList, .text "index.md".toList)],
              .dict [(.text "Start".toList, .text "start.md".toList)],
              .dict [(.text "- Users' Guide: #1".toList, .list
                [.dict [(.text "Sec \"a\"".toList,
                  .text "--users'-guide:-#1/sec-\"a\".md".toList)]])]])]) := by
  intro comment cs
  have hgather : (gather "docs".toList cs).value = .ok [⟨"It's".toList, ⟨"It's".toList,
      [("Start".toList, [comment "It's // Start"])],
      [⟨"- Users' Guide: #1".toList,
        [("Sec \"a\"".toList, [comment "It's // - Users' Guide: #1 // Sec \"a\""])], []⟩]⟩⟩] := rfl
  exact ⟨_, hgather, by decide,
    manifest_loads_back hgather (List.mem_singleton_self _) (by decide) .sections⟩

end DocPress
