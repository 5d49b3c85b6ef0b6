import DocPress.Proofs.MakingDirectories

/-!
# Paths seen from a directory

A path is turned into a normalised one more than once on its way: as an argument from the working
directory, and as a path in the settings from the directory of the settings. Doing so again changes
nothing (`absolute_absolute`), and it does not matter whether a path is seen from the directory in
which the program runs or from the normal form of that directory (`absolute_of_here`). A file in a
directory in normal form leads back to that directory (`parent_append_name`).
-/

namespace DocPress.Path

/-! ## The slashes at the start -/

theorem lead_one {r : Text} (h : isRooted r = false) : lead ('/' :: r) = ['/'] := by
  cases r with
  | nil => rfl
  | cons c r =>
    have hc : c ≠ '/' := by
      rintro rfl
      rw [isRooted_iff.mpr ⟨r, rfl⟩] at h
      exact absurd h (by simp)
    simp [lead, hc]

theorem lead_two {r : Text} (h : isRooted r = false) : lead ('/' :: '/' :: r) = ['/', '/'] := by
  cases r with
  | nil => rfl
  | cons c r =>
    have hc : c ≠ '/' := by
      rintro rfl
      rw [isRooted_iff.mpr ⟨r, rfl⟩] at h
      exact absurd h (by simp)
    simp [lead, hc]

/-- A rooted path begins with one slash, with two, or with at least three. -/
theorem rooted_cases {p : Text} (h : isRooted p = true) :
    (∃ r, p = ['/'] ++ r ∧ isRooted r = false) ∨ (∃ r, p = ['/', '/'] ++ r ∧ isRooted r = false)
      ∨ ∃ r, p = ['/', '/', '/'] ++ r := by
  obtain ⟨r, rfl⟩ := isRooted_iff.mp h
  cases hr : isRooted r with
  | false => exact Or.inl ⟨r, rfl, hr⟩
  | true =>
    obtain ⟨s, rfl⟩ := isRooted_iff.mp hr
    cases hs : isRooted s with
    | false => exact Or.inr (Or.inl ⟨s, rfl, hs⟩)
    | true =>
      obtain ⟨t, rfl⟩ := isRooted_iff.mp hs
      exact Or.inr (Or.inr ⟨t, rfl⟩)

theorem lead_normalize {p : Text} (h : isRooted p = true) : lead (normalize p) = lead p := by
  have hnames := isName_of_mem_walk fun c hc => mem_components (p := p) hc
  have hjoin := isRooted_join fun c hc => ⟨(hnames c hc).ne_nil, (hnames c hc).no_slash⟩
  rw [normalize_of_isRooted h]
  rcases lead_of_isRooted h with hl | hl
  · rw [hl]
    exact lead_one hjoin
  · rw [hl]
    exact lead_two hjoin

/-- What is appended does not add to the slashes at the start. -/
theorem lead_append {p q : Text} (hp : isRooted p = true) (hq : isRooted q = false) :
    lead (append p q) = lead p := by
  -- whatever is put behind the path, what follows the slashes at its start does not begin with one
  obtain ⟨x, hx, hrest⟩ : ∃ x, append p q = p ++ x
      ∧ ∀ s r, p = s ++ '/' :: r → isRooted r = false → isRooted (r ++ x) = false := by
    have hlonger : ∀ r x : Text, r ≠ [] → isRooted r = false → isRooted (r ++ x) = false :=
      fun r x hne hr => (isRooted_append_of_ne_nil x hne).trans hr
    rw [append, if_neg (by simp [hq])]
    split
    · refine ⟨q, rfl, fun s r _ hr => ?_⟩
      by_cases hne : r = []
      · subst hne; exact hq
      · exact hlonger r q hne hr
    · rename_i hend
      refine ⟨'/' :: q, rfl, fun s r hs hr => hlonger r _ ?_ hr⟩
      rintro rfl
      exact hend (by simp [hs])
  rw [hx]
  rcases rooted_cases hp with ⟨r, rfl, hr⟩ | ⟨r, rfl, hr⟩ | ⟨r, rfl⟩
  · exact (lead_one (hrest [] r rfl hr)).trans (lead_one hr).symm
  · exact (lead_two (hrest ['/'] r rfl hr)).trans (lead_two hr).symm
  · rfl

/-! ## Normalising again -/

/-- Paths from the root are alike in normal form if they begin alike and lead to one place. -/
theorem normalize_congr {p q : Text} (hp : isRooted p = true) (hq : isRooted q = true)
    (hlead : lead p = lead q) (hwalk : walk [] (components p) = walk [] (components q)) :
    normalize p = normalize q := by
  rw [normalize_of_isRooted hp, normalize_of_isRooted hq, hlead, hwalk]

theorem walk_components_normalize {p : Text} (h : isRooted p = true) :
    walk [] (components (normalize p)) = walk [] (components p) := by
  have hnames := isName_of_mem_walk fun c hc => mem_components (p := p) hc
  rw [components_normalize h, walk_of_isName _ hnames, List.nil_append]

theorem normalize_normalize {p : Text} (h : isRooted p = true) :
    normalize (normalize p) = normalize p :=
  normalize_congr (isRooted_normalize h) h (lead_normalize h) (walk_components_normalize h)

/-- A path is seen alike from a directory and from its normal form. -/
theorem absolute_normalize {p : Text} (q : Text) (hp : isRooted p = true) :
    absolute (normalize p) q = absolute p q := by
  have hnormal := isRooted_normalize hp
  cases hq : isRooted q with
  | true => rw [absolute, absolute, append_of_isRooted hq, append_of_isRooted hq]
  | false =>
    refine normalize_congr (isRooted_append hnormal) (isRooted_append hp) ?_ ?_
    · rw [lead_append hnormal hq, lead_append hp hq, lead_normalize hp]
    · rw [components_append hq, components_append hq, walk_append, walk_append,
        walk_components_normalize hp]

theorem absolute_dot {p : Text} (hp : isRooted p = true) : absolute p dot = normalize p := by
  have hdot : isRooted dot = false := by decide
  have hstay : ∀ place, walk place (components dot) = place := fun place => by
    rw [show components dot = [dot] from rfl, walk_cons, if_pos rfl, walk_nil]
  refine normalize_congr (isRooted_append hp) hp (lead_append hp hdot) ?_
  rw [components_append hdot, walk_append, hstay]

/-- A path that is seen from a directory already looks the same from any other. -/
theorem absolute_absolute {cwd : Text} (other p : Text) (h : isRooted cwd = true) :
    absolute other (absolute cwd p) = absolute cwd p := by
  have hrooted : isRooted (append cwd p) = true := isRooted_append h
  rw [absolute, absolute, append_of_isRooted (isRooted_normalize hrooted),
    normalize_normalize hrooted]

/-- Seen from the directory that a dot leads to. -/
theorem absolute_of_here {cwd : Text} (p : Text) (h : isRooted cwd = true) :
    absolute (absolute cwd dot) p = absolute cwd p := by
  rw [absolute_dot h, absolute_normalize p h]

/-! ## Directories of files -/

/-- A normalised path does not end in a slash, unless it is slashes alone. -/
theorem stem_normalize {p : Text} (h : isRooted p = true) : stem (normalize p) = normalize p := by
  have hnames := isName_of_mem_walk fun c hc => mem_components (p := p) hc
  have htext := normalize_of_isRooted h
  rcases List.eq_nil_or_concat (walk [] (components p)) with hnil | ⟨init, last, hlast⟩
  · -- there are no names, and the slashes stay
    rw [hnil, show Text.join ['/'] [] = [] from rfl, List.append_nil] at htext
    rw [htext, stem]
    rcases lead_of_isRooted h with hl | hl <;> rw [hl] <;> rfl
  · -- the last name ends the text, and there is no slash in a name
    have hname : IsName last := hnames last (by simp [hlast])
    have hend : ∃ r, normalize p = r ++ last := by
      obtain ⟨r, hr⟩ := Text.suffix_join ['/'] init last
      rw [hlast, List.concat_eq_append, ← hr, ← List.append_assoc] at htext
      exact ⟨_, htext⟩
    obtain ⟨r, hr⟩ := hend
    refine stem_of_getLast? fun hslash => hname.no_slash ?_
    obtain ⟨init, c, hc⟩ := (List.eq_nil_or_concat last).resolve_left hname.ne_nil
    rw [hr, hc, List.concat_eq_append, ← List.append_assoc, List.getLast?_concat] at hslash
    obtain rfl := Option.some.inj hslash
    simp [hc]

/-- A file in a normalised directory leads back to it. -/
theorem parent_append_name {cwd c : Text} (p : Text) (h : isRooted cwd = true) (hc : IsName c) :
    parent (append (absolute cwd p) c) = absolute cwd p := by
  have hsplit := congrArg Prod.fst (split_append_name (absolute cwd p) hc)
  exact hsplit.trans (stem_normalize (isRooted_append h))

end DocPress.Path
