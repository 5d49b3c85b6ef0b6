import DocPress.Proofs.Resolving

/-!
# Being inside a directory

Whether a path lies in a directory is found out from texts: what the components of both have in
common is written down from the root again and compared with the directory. Read as lists of names
this says that the way to the directory is the beginning of the way to the path, dots resolved
(`isInside_iff`), and it does not matter how the two are spelled.

There is one exception. What is written down again begins with one slash, but a directory that
begins with exactly two of them keeps both when its dots are resolved. The comparison then fails for
every path (`IsDoublyRooted`), also for those that were built by going down from the directory.
-/

namespace DocPress.Path

/-! ## Common components -/

theorem commonComponents_eq_left_iff {as bs : List Text} :
    commonComponents as bs = as ↔ as <+: bs := by
  induction as generalizing bs with
  | nil => simp [commonComponents]
  | cons a as ih =>
    cases bs with
    | nil => simp [commonComponents]
    | cons b bs =>
      rw [commonComponents, List.cons_prefix_cons]
      split
      · rename_i hab
        rw [List.cons.injEq, ih]
        simp [hab]
      · rename_i hab
        simp [hab]

/-- Names determine their text and are determined by it. -/
theorem join_inj {as bs : List Text} (has : ∀ c ∈ as, c ≠ [] ∧ '/' ∉ c)
    (hbs : ∀ c ∈ bs, c ≠ [] ∧ '/' ∉ c) : Text.join ['/'] as = Text.join ['/'] bs ↔ as = bs := by
  refine ⟨fun h => ?_, fun h => h ▸ rfl⟩
  rw [← components_join has, ← components_join hbs, h]

/-! ## Two slashes -/

/-- The path begins with two slashes and not with three. -/
def IsDoublyRooted (p : Text) : Prop := ∃ r, p = '/' :: '/' :: r ∧ isRooted r = false

theorem lead_eq_two_iff {p : Text} (h : isRooted p = true) :
    lead p = ['/', '/'] ↔ IsDoublyRooted p := by
  constructor
  · intro hlead
    rcases rooted_cases h with ⟨r, rfl, hr⟩ | ⟨r, rfl, hr⟩ | ⟨r, rfl⟩
    · have hone : lead (['/'] ++ r) = ['/'] := lead_one hr
      rw [hone] at hlead
      exact absurd hlead (by simp)
    · exact ⟨r, rfl, hr⟩
    · have hthree : lead (['/', '/', '/'] ++ r) = ['/'] := rfl
      rw [hthree] at hlead
      exact absurd hlead (by simp)
  · rintro ⟨r, rfl, hr⟩
    exact lead_two hr

/-! ## The comparison of texts, told of names -/

/-- The names on the way from the root to the path. -/
def way (p : Text) : List Text := walk [] (components p)

theorem mem_way {p c : Text} (h : c ∈ way p) : c ≠ [] ∧ '/' ∉ c := by
  have hname := isName_of_mem_walk (fun c hc => mem_components (p := p) hc) c h
  exact ⟨hname.ne_nil, hname.no_slash⟩

theorem components_absolute_rooted {cwd p : Text} (h : isRooted p = true) :
    components (absolute cwd p) = way p := by
  rw [absolute, append_of_isRooted h, components_normalize h]
  rfl

theorem absolute_rooted {cwd p : Text} (h : isRooted p = true) :
    absolute cwd p = lead p ++ Text.join ['/'] (way p) := by
  rw [absolute, append_of_isRooted h, normalize_of_isRooted h]
  rfl

/-- **Being inside is beginning with the way to the directory**, if the directory does not begin
with exactly two slashes. -/
theorem isInside_iff_way {cwd p d : Text} (hp : isRooted p = true) (hd : isRooted d = true) :
    isInside cwd p d = true ↔ ¬ IsDoublyRooted d ∧ way d <+: way p := by
  have hcommon : ∀ c ∈ commonComponents (way d) (way p), c ≠ [] ∧ '/' ∉ c := fun c hc =>
    mem_way ((prefix_commonComponents (way d) (way p)).subset hc)
  rw [isInside, decide_eq_true_iff, components_absolute_rooted hp, components_absolute_rooted hd,
    absolute_rooted hd, ← lead_eq_two_iff hd]
  rcases lead_of_isRooted hd with hl | hl
  · -- behind the one slash stand the names on both sides
    rw [hl, List.singleton_append, List.cons.injEq,
      join_inj hcommon fun c hc => mem_way hc, commonComponents_eq_left_iff]
    simp
  · -- behind the first slash stands a name, or nothing, but no second slash
    rw [hl]
    refine iff_of_false (fun h => ?_) fun h => h.1 rfl
    have hjoin := isRooted_join hcommon
    rw [(List.cons.inj h).2] at hjoin
    exact absurd hjoin (by simp [isRooted, Text.startsWith_iff])

/-! ## Going down from a directory -/

/-- Walking the components from a place `depth` levels down never comes above level zero. -/
def StaysWithin : (depth : Nat) → List Text → Prop
  | _, [] => True
  | depth, c :: cs =>
    if c = [] ∨ c = dot then StaysWithin depth cs
    else if c = dotDot then 0 < depth ∧ StaysWithin (depth - 1) cs
    else StaysWithin (depth + 1) cs

/-- Who stays within a place is below it in the end. -/
theorem prefix_walk_of_staysWithin (place below : List Text) {cs : List Text}
    (h : StaysWithin below.length cs) :
    place <+: walk (place ++ below) (cs.filter (!·.isEmpty)) := by
  induction cs generalizing below with
  | nil => exact List.prefix_append place below
  | cons c cs ih =>
    rw [StaysWithin] at h
    by_cases hnil : c = []
    · rw [if_pos (Or.inl hnil)] at h
      rw [hnil, List.filter_cons_of_neg (by simp)]
      exact ih below h
    · rw [List.filter_cons_of_pos (by simpa using hnil), walk_cons]
      by_cases hdot : c = dot
      · rw [if_pos (Or.inr hdot)] at h
        rw [if_pos hdot]
        exact ih below h
      · rw [if_neg (not_or.mpr ⟨hnil, hdot⟩)] at h
        rw [if_neg hdot]
        by_cases hup : c = dotDot
        · rw [if_pos hup] at h ⊢
          obtain ⟨hdepth, h⟩ := h
          -- the last step down is taken back
          rw [List.dropLast_append_of_ne_nil (List.length_pos_iff.mp hdepth)]
          refine ih _ ?_
          rw [List.length_dropLast]
          exact h
        · rw [if_neg hup] at h ⊢
          rw [List.append_assoc]
          refine ih _ ?_
          rw [List.length_append, List.length_singleton]
          exact h

theorem way_appendAll {d : Text} {cs : List Text} (hcs : ∀ c ∈ cs, '/' ∉ c) :
    way (appendAll d cs) = walk (way d) (cs.filter (!·.isEmpty)) := by
  rw [way, components_appendAll hcs, walk_append]
  rfl

theorem prefix_way_appendAll {d : Text} {cs : List Text} (hcs : ∀ c ∈ cs, '/' ∉ c)
    (hstays : StaysWithin 0 cs) : way d <+: way (appendAll d cs) := by
  have hwalk := prefix_walk_of_staysWithin (way d) [] hstays
  rw [List.append_nil] at hwalk
  rw [way_appendAll hcs]
  exact hwalk

theorem way_append_name {c : Text} (d : Text) (hc : IsName c) :
    way (append d c) = way d ++ [c] := by
  rw [way, components_append_name d hc, walk_append,
    walk_of_isName _ fun b hb => List.mem_singleton.mp hb ▸ hc]
  rfl

/--
**A path is inside a directory exactly if the way to the directory begins the way to the path**, and
the directory does not begin with exactly two slashes.

Hence what is built from a directory by going down is inside of it, whatever its spelling, with the
same exception; and what lies in the one of two neighbours is outside of the other, also where their
names begin alike.
-/
theorem isInside_iff {cwd p d : Text} (hp : isRooted p = true) (hd : isRooted d = true) :
    (isInside cwd p d = true ↔ ¬ IsDoublyRooted d ∧ way d <+: way p)
      ∧ (∀ cs, (∀ c ∈ cs, '/' ∉ c) → StaysWithin 0 cs →
          (isInside cwd (appendAll d cs) d = true ↔ ¬ IsDoublyRooted d))
      ∧ ∀ a b cs, IsName a → IsName b → a ≠ b → (∀ c ∈ cs, '/' ∉ c) → StaysWithin 0 cs →
          isInside cwd (appendAll (append d b) cs) (append d a) = false := by
  refine ⟨isInside_iff_way hp hd, fun cs hcs hstays => ?_, ?_⟩
  · rw [isInside_iff_way (isRooted_appendAll cs hd) hd]
    simp [prefix_way_appendAll hcs hstays]
  · intro a b cs ha hb hne hcs hstays
    rw [Bool.eq_false_iff, ne_eq,
      isInside_iff_way (isRooted_appendAll cs (isRooted_append hd)) (isRooted_append hd)]
    rintro ⟨-, hpre⟩
    -- both neighbours stand on the way to the path, at the same place of it
    have hother := prefix_way_appendAll (d := append d b) hcs hstays
    rw [way_append_name d ha] at hpre
    rw [way_append_name d hb] at hother
    have hsame : way d ++ [a] = way d ++ [b] :=
      (List.prefix_of_prefix_length_le hpre hother (by simp)).eq_of_length (by simp)
    exact hne (List.cons.inj (List.append_cancel_left hsame)).1

/-- A page and the directory it belongs to, with dots and slashes in the way. -/
theorem isInside_iff_of_dots :
    isRooted "/out/x/..//API/docs/a.md".toList = true ∧ isRooted "///out/./API/docs/".toList = true
      ∧ (isInside "/".toList "/out/x/..//API/docs/a.md".toList "///out/./API/docs/".toList = true
        ↔ ¬ IsDoublyRooted "///out/./API/docs/".toList
          ∧ way "///out/./API/docs/".toList <+: way "/out/x/..//API/docs/a.md".toList) :=
  ⟨by decide, by decide, (isInside_iff (by decide) (by decide)).1⟩

/-- Nothing is inside a directory that begins with two slashes: here not even a file in it. -/
theorem not_isInside_doubly_rooted :
    isInside "/".toList "//out/a.md".toList "//out".toList = false
      ∧ way "//out".toList <+: way "//out/a.md".toList := by
  decide

end DocPress.Path
