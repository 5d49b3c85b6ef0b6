import DocPress.Proofs.Links
import DocPress.Proofs.ScanningLines

/-!
# The tokens of a manifest

The lines of the navigation say by their indentation alone where links end, so how many ends the
scanner owes is not seen before the next line. `AtLine` states what holds between two lines: with
the ends that are owed down to some depth, the tokens are these.

Links are then scanned by recursion over their tree. The text of a link after its hyphen adds the
tokens of the link, whatever comes on the next line; below a title the first link opens the
sequence and every other one finds it open.
-/

namespace DocPress

namespace Link

/-! ## Links as text and as tokens -/

mutual

/-- What the navigation has for a link behind its hyphen. -/
def body (depth : Nat) : Link → Text
  | page title path => Plan.quote title ++ ':' :: ' ' :: Plan.quote path
  | group title links => Plan.quote title ++ ':' :: text (depth + 1) links

/-- The lines of links, each behind a line feed. -/
def text (depth : Nat) : List Link → Text
  | [] => []
  | l :: ls =>
    '\n' :: (List.replicate (2 * (2 * depth)) ' ' ++ '-' :: ' ' :: (body depth l ++ text depth ls))

end

mutual

/-- The tokens of a link behind its hyphen. -/
def tokens : Link → List Yaml.Token
  | page title path =>
    [.blockMapping, .key, .scalar title false, .value, .scalar path false, .blockEnd]
  | group title links =>
    [.blockMapping, .key, .scalar title false, .value, .blockSequence] ++ itemTokens links
      ++ [.blockEnd, .blockEnd]

/-- The tokens of links as items. -/
def itemTokens : List Link → List Yaml.Token
  | [] => []
  | l :: ls => .item :: (tokens l ++ itemTokens ls)

end

mutual

theorem flatMap_lines (depth : Nat) :
    ∀ l : Link, (lines depth l).flatMap ('\n' :: ·)
      = '\n' :: (List.replicate (2 * (2 * depth)) ' ' ++ '-' :: ' ' :: body depth l)
  | page title path => by
    rw [lines, body, Plan.navLine, ← Nat.mul_assoc, List.flatMap_singleton]
  | group title links => by
    rw [lines, body, List.flatMap_cons, flatMap_linesOfAll (depth + 1) links, Plan.navLine,
      ← Nat.mul_assoc]
    simp only [List.cons_append, List.append_assoc, List.nil_append]

theorem flatMap_linesOfAll (depth : Nat) :
    ∀ ls : List Link, (linesOfAll depth ls).flatMap ('\n' :: ·) = text depth ls
  | [] => rfl
  | l :: ls => by
    rw [linesOfAll, text, List.flatMap_append, flatMap_lines depth l,
      flatMap_linesOfAll depth ls]
    simp only [List.cons_append, List.append_assoc]

end

end Link

namespace Yaml.Scanner

/-! ## Between lines -/

/-- The scanner stands where a line ends. With the ends of all that is deeper than `2 * k` columns
its tokens are `ts`. -/
def AtLine (r : Text) (k : Nat) (ts : List Token) (s : Scanner) : Prop :=
  ∃ (i l col m : Nat) (mayKey : Bool) (tokens : List Token),
    s = outside ⟨r, i, l, col⟩ tokens (columnsTo m) mayKey none ∧ k ≤ m
      ∧ ts = tokens ++ List.replicate (m - k) .blockEnd

/-- The scanner gets to the end of a line. -/
def Gets (s : Scanner) (r : Text) (k : Nat) (ts : List Token) : Prop :=
  ∃ s', Reaches s s' ∧ AtLine r k ts s'

/-- One collection fewer is open if its end is counted. -/
theorem AtLine.close {r : Text} {k : Nat} {ts : List Token} {s : Scanner}
    (h : AtLine r (k + 1) ts s) : AtLine r k (ts ++ [.blockEnd]) s := by
  obtain ⟨i, l, col, m, mayKey, tokens, hs, hk, rfl⟩ := h
  refine ⟨i, l, col, m, mayKey, tokens, hs, by omega, ?_⟩
  have hsucc : m - k = m - (k + 1) + 1 := by omega
  rw [hsucc, List.replicate_succ', List.append_assoc]

theorem Reaches.gets {s s' : Scanner} {r : Text} {k : Nat} {ts : List Token}
    (h : Reaches s s') (h' : Gets s' r k ts) : Gets s r k ts := by
  obtain ⟨s'', hreach, hat⟩ := h'
  exact ⟨s'', h.trans hreach, hat⟩

/-! ## Links -/

section Links

variable {r : Text}

/-- A title behind a hyphen begins a mapping. -/
theorem reaches_title {title : Text} (htitle : Link.IsKey title) (hr : atGap r = true)
    (k i l : Nat) (ts : List Token) :
    Reaches (outside ⟨' ' :: (Plan.quote title ++ ':' :: r), i, l, 2 * k + 1⟩ ts (columnsTo k) true
        none)
      (outside ⟨r, i + 1 + (Plan.quote title).length + 1, l,
          2 * k + 1 + 1 + width (Plan.quote title) + 1⟩
        (ts ++ [.blockMapping, .key] ++ [.scalar title false] ++ [.value]) (columnsTo (k + 1))
        false none) :=
  reaches_quotedKey htitle.line htitle.length hr fun y hy =>
    Nat.lt_succ_of_le (le_of_head?_columnsTo (by omega) y hy)

theorem head?_text_append (depth : Nat) (ls : List Link) (h : r.head? = some '\n') :
    (Link.text depth ls ++ r).head? = some '\n' := by
  cases ls with
  | nil => exact h
  | cons l ls => rfl

/-- A hyphen begins an item of the sequence that is open at its depth. -/
theorem AtLine.reaches_item {k : Nat} {ts : List Token} {s : Scanner}
    (h : AtLine ('\n' :: (List.replicate (2 * k) ' ' ++ '-' :: ' ' :: r)) k ts s) :
    ∃ i l, Reaches s
      (outside ⟨' ' :: r, i, l, 2 * k + 1⟩ (ts ++ [.item]) (columnsTo k) true none) := by
  obtain ⟨i, l, col, m, mayKey, tokens, rfl, hk, rfl⟩ := h
  exact ⟨_, _, Scanner.reaches_item hk⟩

mutual

/-- A link adds its tokens. -/
theorem gets_body (depth : Nat) :
    ∀ link : Link, link.Readable → ∀ {r : Text}, r.head? = some '\n' →
      ∀ (i l : Nat) (ts : List Token),
        Gets (outside ⟨' ' :: (Link.body depth link ++ r), i, l, 2 * (2 * depth) + 1⟩ ts
            (columnsTo (2 * depth)) true none)
          r (2 * depth) (ts ++ link.tokens)
  | .page title path, hlink, r, hr, i, l, ts => by
    obtain ⟨htitle, hpath⟩ : Link.IsKey title ∧ IsLine path := by
      cases hlink with
      | page htitle hpath => exact ⟨htitle, hpath⟩
    have hbody : Link.body depth (.page title path) ++ r
        = Plan.quote title ++ ':' :: ' ' :: (Plan.quote path ++ r) := by
      simp [Link.body]
    have hquote : r.head? ≠ some '\'' := by
      rw [hr]
      decide
    rw [hbody]
    refine (reaches_title htitle rfl (2 * depth) i l ts).gets
      ⟨_, reaches_quotedValue hpath hquote (le_of_head?_columnsTo (by omega)), _, _, _,
        2 * depth + 1, _, _, rfl, by omega, ?_⟩
    rw [Nat.add_sub_cancel_left, Link.tokens]
    simp
  | .group title [], hlink, r, hr, i, l, ts => by
    cases hlink with
    | group _ hne _ => exact absurd rfl hne
  | .group title (link :: links), hlink, r, hr, i, l, ts => by
    obtain ⟨htitle, hlinks⟩ : Link.IsKey title ∧ ∀ l ∈ link :: links, l.Readable := by
      cases hlink with
      | group htitle _ hlinks => exact ⟨htitle, hlinks⟩
    -- the first link opens the sequence, so its item is not yet there for `gets_text`
    have hbody : Link.body depth (.group title (link :: links)) ++ r
        = Plan.quote title ++ ':' :: '\n' :: (List.replicate (2 * (2 * depth + 1 + 1)) ' ' ++
          '-' :: ' ' :: (Link.body (depth + 1) link ++ (Link.text (depth + 1) links ++ r))) := by
      simp [Link.body, Link.text, Nat.mul_add]
    rw [hbody]
    have htext := head?_text_append (depth + 1) links hr
    obtain ⟨s, hreach, hat⟩ := gets_body (depth + 1) link
      (hlinks link (List.mem_cons_self ..)) htext _ _ _
    obtain ⟨s', hreach', hat'⟩ := gets_text (depth + 1) links
      (fun l hl => hlinks l (List.mem_cons_of_mem link hl)) hr hat
    refine ((reaches_title htitle rfl (2 * depth) i l ts).trans
      ((reaches_firstItem (2 * depth + 1)).trans (hreach.trans hreach'))).gets ⟨_, .refl _, ?_⟩
    -- the sequence ends, and then the mapping around it
    have hclosed := hat'.close.close
    rw [Link.tokens, Link.itemTokens]
    simpa using hclosed

/-- Links below a title whose sequence is open add their tokens. -/
theorem gets_text (depth : Nat) :
    ∀ links : List Link, (∀ l ∈ links, l.Readable) → ∀ {r : Text}, r.head? = some '\n' →
      ∀ {s : Scanner} {ts : List Token}, AtLine (Link.text depth links ++ r) (2 * depth) ts s →
        Gets s r (2 * depth) (ts ++ Link.itemTokens links)
  | [], _, r, _, s, ts, hs => by
    rw [Link.itemTokens, List.append_nil]
    exact ⟨s, .refl s, hs⟩
  | link :: links, hlinks, r, hr, s, ts, hs => by
    have htext := head?_text_append depth links hr
    rw [Link.text, List.cons_append, List.append_assoc, List.cons_append, List.cons_append,
      List.append_assoc] at hs
    -- the hyphen pays the ends that are owed, and the link leaves new ones
    obtain ⟨i, l, hitem⟩ := hs.reaches_item
    obtain ⟨s₁, hreach, hat⟩ := gets_body depth link (hlinks link (List.mem_cons_self ..)) htext
      i l (ts ++ [.item])
    have hrest := gets_text depth links (fun l hl => hlinks l (List.mem_cons_of_mem link hl)) hr hat
    rw [Link.itemTokens]
    simpa using hitem.gets (hreach.gets hrest)

end

end Links

end Yaml.Scanner

/-! ## The whole manifest -/

theorem Plan.manifest_eq (p : Plan) :
    p.manifest = "site_name".toList ++ ':' :: ' ' :: (quote p.name ++
      '\n' :: ("pages".toList ++ ':' :: '\n' :: (List.replicate (2 * 0) ' ' ++
        '-' :: ' ' :: ("Home".toList ++ ':' :: ' ' :: (quote FileName.index ++
          (p.navigation.flatMap ('\n' :: ·) ++ ['\n'])))))) := by
  have hhome : navLine 0 "Home: 'index.md'".toList
      = '-' :: ' ' :: ("Home".toList ++ ':' :: ' ' :: quote FileName.index) := by decide
  rw [manifest, Text.join_cons, hhome]
  simp [List.flatMap_cons]

/-- The tokens of a manifest. -/
def Link.manifestTokens (name : Text) (links : List Link) : List Yaml.Token :=
  [.blockMapping, .key, .scalar "site_name".toList true, .value, .scalar name false,
    .key, .scalar "pages".toList true, .value,
    .item, .blockMapping, .key, .scalar "Home".toList true, .value, .scalar FileName.index false,
    .blockEnd] ++ itemTokens links ++ [.blockEnd, .streamEnd]

namespace Yaml

namespace Scanner

/-- The lines that all manifests have. -/
theorem gets_heading {name r : Text} (hname : IsLine name) (hr : r.head? = some '\n') :
    Gets
      { cursor := { rest := "site_name".toList ++ ':' :: ' ' :: (Plan.quote name ++
          '\n' :: ("pages".toList ++ ':' :: '\n' :: (List.replicate (2 * 0) ' ' ++
            '-' :: ' ' :: ("Home".toList ++ ':' :: ' ' :: (Plan.quote FileName.index ++ r))))) } }
      r 0
      [.blockMapping, .key, .scalar "site_name".toList true, .value, .scalar name false,
        .key, .scalar "pages".toList true, .value,
        .item, .blockMapping, .key, .scalar "Home".toList true, .value,
        .scalar FileName.index false, .blockEnd] := by
  have hquote : r.head? ≠ some '\'' := by
    rw [hr]
    decide
  refine (reaches_firstWord ⟨by decide, rfl, by decide⟩ rfl).gets ?_
  refine (reaches_quotedValue hname (by simp) (by simp [columnsTo])).gets ?_
  -- the second key finds the mapping open, and the items stand in its column
  refine (reaches_lineWord ⟨by decide, rfl, by decide⟩ rfl _ _).gets ?_
  refine (reaches_item (Nat.le_refl 0)).gets ?_
  refine (reaches_itemWord ⟨by decide, rfl, by decide⟩ rfl 0).gets ?_
  refine (reaches_quotedValue (by decide) hquote (by simp [columnsTo])).gets ?_
  exact ⟨_, .refl _, _, _, _, 1, _, _, rfl, Nat.zero_le 1, rfl⟩

/-- At the end of the text the mapping ends that all is in. -/
theorem run_end {s : Scanner} {ts : List Token} (h : AtLine ['\n'] 0 ts s) (count fuel : Nat) :
    run count (fuel + 2) s = (ts ++ [.blockEnd, .streamEnd], none) := by
  obtain ⟨i, l, col, m, mayKey, tokens, rfl, -, rfl⟩ := h
  have hfetch : (outside ⟨['\n'], i, l, col⟩ tokens (columnsTo m) mayKey none).fetch
      = .ok { outside ⟨[], i + 1, l + 1, 0⟩
          (tokens ++ List.replicate (m - 0) .blockEnd ++ [.blockEnd] ++ [.streamEnd]) [] false none
        with finished := true } := by
    have hpass : (⟨['\n'], i, l, col⟩ : Cursor).advance 1 = ⟨[], i + 1, l + 1, 2 * 0⟩ :=
      advance_indent 0 [] i l col
    have hlayout : layout false ['\n'] = (1, true) := rfl
    rw [fetch_outside rfl hlayout, hpass, unwind_columnsTo (Nat.zero_le m)]
    rfl
  rw [run, hfetch, List.append_assoc]
  rfl

end Scanner

/-- **The tokens of a manifest.** Names in quotes come back as they were, and the indentation of
the navigation as the nesting of its links. -/
theorem scan_manifest {p : Plan} {links : List Link} (hname : IsLine p.name)
    (hnavigation : p.navigation = Link.linesOfAll 0 links) (hlinks : ∀ l ∈ links, l.Readable) :
    scan p.manifest = (Link.manifestTokens p.name links, none) := by
  have hend := Scanner.head?_text_append 0 links (r := ['\n']) rfl
  obtain ⟨s, hreach, hat⟩ := Scanner.gets_heading hname hend
  obtain ⟨s', hreach', hat'⟩ := Scanner.gets_text 0 links hlinks rfl hat
  obtain ⟨n, hn, hrun⟩ := hreach.trans hreach'
  have htext : p.manifest = _ := p.manifest_eq
  rw [hnavigation, Link.flatMap_linesOfAll] at htext
  rw [← htext] at hn hrun
  have hn : n + s'.cursor.rest.length ≤ p.manifest.length := hn
  -- no round was without a character, so fuel is left for the end
  obtain ⟨fuel, hfuel⟩ : ∃ fuel, p.manifest.length + 2 = n + (fuel + 2) :=
    ⟨p.manifest.length - n, by omega⟩
  obtain ⟨count, hcount⟩ := hrun 0 (fuel + 2)
  rw [scan, hfuel, hcount, Scanner.run_end hat']
  simp [Link.manifestTokens]

end Yaml
end DocPress
