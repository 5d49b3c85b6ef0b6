import DocPress.Proofs.DiskOperations

/-!
# What operations look at

An operation on a plain path looks at the places on the way to it and at nothing else. So two disks
that agree there cannot be told apart by it: it fails on both with the same error, or succeeds on
both and leaves them as much alike as they were.

`AgreeOn S` says that two disks agree at the places `S`. Each operation that publishing uses has its
lemma here, and from these follow the statements about two runs: what a document comes to does not
depend on what the disk holds elsewhere.

Whether something lies at a plain path can be told from the contents at its place alone
(`has_iff`), as nothing lies below a place that is no directory.
-/

namespace DocPress.Disk

/-! ## Following plain paths -/

/-- One more name, told by contents. -/
theorem follow_cons {d : Disk} {place : Location} {c : Text} (cs : List Text)
    (hc : Path.IsName c) : follow d.root place (c :: cs) = match d.content place with
      | none => .error .notFound
      | some (some _) => .error .notADirectory
      | some none =>
        if (Utf8.encode c).length > maxName then .error .nameTooLong
        else if d.content (place ++ [c]) = none then .error .notFound
        else follow d.root (place ++ [c]) cs := by
  rw [follow, content, content]
  cases hx : d.root.at? place with
  | none => rfl
  | some x =>
    cases x with
    | file bytes => rfl
    | dir es =>
      have hlook : d.root.at? (place ++ [c]) = Node.lookup? c es := by
        rw [Node.at?_append, hx, Option.bind_some, Node.at?_singleton]
      rw [hlook]
      simp only [if_neg hc.ne_dot, if_neg hc.ne_dotDot, Option.map_some, Node.face]
      cases Node.lookup? c es with
      | none => rfl
      | some y => rfl

/-- A dot at the end asks for a directory. -/
theorem follow_dot (d : Disk) (place : Location) :
    follow d.root place [Path.dot] = match d.content place with
      | none => .error .notFound
      | some (some _) => .error .notADirectory
      | some none => .ok place := by
  unfold follow content
  cases hx : d.root.at? place with
  | none => rfl
  | some x => cases x <;> rfl

theorem follow_append (root : Node) (place : Location) (as bs : List Text) :
    follow root place (as ++ bs)
      = (follow root place as).bind fun l => follow root l bs := by
  induction as generalizing place with
  | nil => rfl
  | cons a as ih =>
    rw [List.cons_append, follow, follow]
    split
    · split
      · exact ih place
      · split
        · exact ih _
        · split
          · rfl
          · split
            · exact ih _
            · rfl
    · rfl
    · rfl

/-- Names lead to a place exactly if none of them is too long and something is there. -/
theorem follow_eq_ok_iff {d : Disk} {place l : Location} {cs : List Text}
    (hcs : ∀ c ∈ cs, Path.IsName c) : follow d.root place cs = .ok l
      ↔ l = place ++ cs ∧ (∀ c ∈ cs, (Utf8.encode c).length ≤ maxName)
        ∧ (cs ≠ [] → d.content (place ++ cs) ≠ none) := by
  induction cs generalizing place with
  | nil => simp [follow, eq_comm]
  | cons c cs ih =>
    have hc := hcs c (List.mem_cons_self ..)
    have htail : place ++ c :: cs = (place ++ [c]) ++ cs := by simp
    rw [follow_cons cs hc]
    -- if anything lies further down, the place is a directory
    have hdir : d.content (place ++ c :: cs) ≠ none → d.content place = some none := by
      intro hne
      by_contra hno
      exact hne (content_below_eq_none (by simp) hno)
    have hnext : d.content (place ++ c :: cs) ≠ none → d.content (place ++ [c]) ≠ none := by
      intro hne hnone
      rw [htail] at hne
      by_cases hnil : cs = []
      · subst hnil; exact hne (by simpa using hnone)
      · exact hne (content_below_eq_none hnil (by rw [hnone]; simp))
    constructor
    · intro h
      split at h
      · exact absurd h (by simp)
      · exact absurd h (by simp)
      · split at h
        · exact absurd h (by simp)
        · rename_i hshort
          split at h
          · exact absurd h (by simp)
          · rename_i hthere
            obtain ⟨hl, hall, hlast⟩ := (ih fun a ha => hcs a (List.mem_cons_of_mem c ha)).mp h
            refine ⟨by rw [hl, htail], fun a ha => ?_, fun _ => ?_⟩
            · rcases List.mem_cons.mp ha with rfl | ha
              · omega
              · exact hall a ha
            · rw [htail]
              by_cases hnil : cs = []
              · subst hnil; simpa using hthere
              · exact hlast hnil
    · rintro ⟨rfl, hall, hlast⟩
      have hne := hlast (by simp)
      have hshort := hall c (List.mem_cons_self ..)
      rw [hdir hne]
      simp only
      rw [if_neg (by omega), if_neg (hnext hne)]
      refine (ih fun a ha => hcs a (List.mem_cons_of_mem c ha)).mpr ⟨htail, ?_, fun _ => ?_⟩
      · exact fun a ha => hall a (List.mem_cons_of_mem c ha)
      · rw [← htail]; exact hne

/-- A path that is not refused and of which no name is too long. -/
structure Fits (path : Text) : Prop where
  accepted : refusal? path = none
  short : ∀ c ∈ Path.components path, (Utf8.encode c).length ≤ maxName

/-- A plain path can be followed exactly if it fits and leads to something, which has to be a
directory if the path ends in a slash. -/
theorem locate_eq_ok_iff {d : Disk} {path : Text} {l : Location} (hp : Path.IsPlain path) :
    d.locate path = .ok l ↔ l = Path.components path ∧ Fits path
      ∧ (Path.components path ≠ [] → d.content l ≠ none)
      ∧ (path.getLast? = some '/' → d.content l = some none) := by
  have horigin : d.origin path = [] := by rw [origin, if_pos hp.rooted]
  have hfollow : ∀ k, follow d.root [] (Path.components path) = .ok k ↔ _ := fun k =>
    follow_eq_ok_iff hp.names
  have hsteps : follow d.root [] (steps path) = .ok l ↔ l = Path.components path
      ∧ (∀ c ∈ Path.components path, (Utf8.encode c).length ≤ maxName)
      ∧ (Path.components path ≠ [] → d.content l ≠ none)
      ∧ (path.getLast? = some '/' → d.content l = some none) := by
    unfold steps
    by_cases hslash : path.getLast? = some '/'
    · rw [if_pos hslash, follow_append]
      constructor
      · intro h
        cases hfol : follow d.root [] (Path.components path) with
        | error cause => rw [hfol] at h; exact absurd h (by simp [Except.bind])
        | ok m =>
          obtain ⟨rfl, hshort, hthere⟩ := (hfollow m).mp hfol
          rw [hfol] at h
          simp only [Except.bind, follow_dot, List.nil_append] at h
          split at h
          · exact absurd h (by simp)
          · exact absurd h (by simp)
          · rename_i hdir
            obtain rfl := Except.ok.inj h
            exact ⟨rfl, hshort, hthere, fun _ => hdir⟩
      · rintro ⟨rfl, hshort, hthere, hdir⟩
        rw [(hfollow _).mpr ⟨rfl, hshort, hthere⟩]
        simp only [Except.bind, follow_dot, List.nil_append, hdir hslash]
    · rw [if_neg hslash, hfollow]
      constructor
      · rintro ⟨rfl, hshort, hthere⟩
        exact ⟨rfl, hshort, hthere, fun he => absurd he hslash⟩
      · rintro ⟨rfl, hshort, hthere, -⟩
        exact ⟨rfl, hshort, hthere⟩
  have hlocate : d.locate path = .ok l
      ↔ refusal? path = none ∧ follow d.root [] (steps path) = .ok l := by
    rw [locate, horigin]
    cases refusal? path with
    | some e => simp
    | none => cases follow d.root [] (steps path) <;> simp
  rw [hlocate, hsteps]
  constructor
  · rintro ⟨hr, rfl, hshort, hthere⟩
    exact ⟨rfl, ⟨hr, hshort⟩, hthere⟩
  · rintro ⟨rfl, hfits, hthere⟩
    exact ⟨hfits.accepted, rfl, hfits.short, hthere⟩

/-- Something lies at a plain path exactly if it fits and the contents at its place say so. -/
theorem has_iff {d : Disk} {path : Text} (hp : Path.IsPlain path) : d.has path = true
    ↔ Fits path ∧ d.content (Path.components path) ≠ none
      ∧ (path.getLast? = some '/' → d.content (Path.components path) = some none) := by
  have hsome : ∀ l, (d.root.at? l).isSome = true ↔ d.content l ≠ none := by
    intro l; rw [content]; cases d.root.at? l <;> simp
  unfold has node?
  constructor
  · intro h
    split at h
    · rename_i l hl
      obtain ⟨rfl, hfits, -, hdir⟩ := (locate_eq_ok_iff hp).mp hl
      exact ⟨hfits, (hsome _).mp h, hdir⟩
    · exact absurd h (by simp)
  · rintro ⟨hfits, hthere, hdir⟩
    rw [(locate_eq_ok_iff hp).mpr ⟨rfl, hfits, fun _ => hthere, hdir⟩]
    exact (hsome _).mpr hthere

/-- A directory lies at a plain path exactly if it fits and the contents at its place say so. -/
theorem hasDir_iff {d : Disk} {path : Text} (hp : Path.IsPlain path) : d.hasDir path = true
    ↔ Fits path ∧ d.content (Path.components path) = some none := by
  have hdir : ∀ l, (d.root.at? l).any Node.isDir = true ↔ d.content l = some none := by
    intro l
    rw [content]
    cases d.root.at? l with
    | none => simp
    | some x => cases x <;> simp [Node.isDir, Node.face]
  unfold hasDir node?
  constructor
  · intro h
    split at h
    · rename_i l hl
      obtain ⟨rfl, hfits, -⟩ := (locate_eq_ok_iff hp).mp hl
      exact ⟨hfits, (hdir _).mp h⟩
    · exact absurd h (by simp)
  · rintro ⟨hfits, hthere⟩
    rw [(locate_eq_ok_iff hp).mpr ⟨rfl, hfits, fun _ => by rw [hthere]; simp, fun _ => hthere⟩]
    exact (hdir _).mpr hthere

theorem has_of_hasDir {d : Disk} {path : Text} (hp : Path.IsPlain path)
    (h : d.hasDir path = true) : d.has path = true := by
  obtain ⟨hfits, hdir⟩ := (hasDir_iff hp).mp h
  exact (has_iff hp).mpr ⟨hfits, by rw [hdir]; simp, fun _ => hdir⟩

/-! ## Agreement -/

/-- The two disks are seen from the same directory and hold the same at the places `S`. -/
structure AgreeOn (S : Location → Prop) (d d' : Disk) : Prop where
  here : d'.here = d.here
  content : ∀ l, S l → d'.content l = d.content l

variable {S : Location → Prop} {d d' d'' : Disk} {path : Text}

theorem AgreeOn.refl (S : Location → Prop) (d : Disk) : AgreeOn S d d := ⟨rfl, fun _ _ => rfl⟩

theorem AgreeOn.trans (h : AgreeOn S d d') (h' : AgreeOn S d' d'') : AgreeOn S d d'' :=
  ⟨h'.here.trans h.here, fun l hl => (h'.content l hl).trans (h.content l hl)⟩

theorem AgreeOn.mono {T : Location → Prop} (h : AgreeOn S d d') (hT : ∀ l, T l → S l) :
    AgreeOn T d d' := ⟨h.here, fun l hl => h.content l (hT l hl)⟩

/-- The same update on both sides. -/
theorem AgreeOn.sets {l : Location} {c : Option (List UInt8)} {e e' : Disk} (h : AgreeOn S d d')
    (hs : d.Sets l c e) (hs' : d'.Sets l c e') : AgreeOn S e e' := by
  refine ⟨(hs'.here.trans h.here).trans hs.here.symm, fun k hk => ?_⟩
  rw [hs.content, hs'.content]
  split
  · rfl
  · exact h.content k hk

/-- Two disks on which an operation fails with the same error, or succeeds and keeps the
agreement. -/
def Alike (S : Location → Prop) (r r' : Except Error Disk) : Prop :=
  (∃ e, r = .error e ∧ r' = .error e) ∨ ∃ d d', r = .ok d ∧ r' = .ok d' ∧ AgreeOn S d d'

/-! ## Looking -/

theorem follow_congr {place : Location} {cs : List Text} (hcs : ∀ c ∈ cs, Path.IsName c)
    (h : ∀ l, l <+: place ++ cs → d'.content l = d.content l) :
    follow d'.root place cs = follow d.root place cs := by
  induction cs generalizing place with
  | nil => rfl
  | cons c cs ih =>
    have hc := hcs c (List.mem_cons_self ..)
    have htail : place ++ c :: cs = (place ++ [c]) ++ cs := by simp
    rw [htail] at h
    have hplace := h place (by simp)
    have hnext := h (place ++ [c]) (List.prefix_append _ _)
    rw [follow_cons cs hc, follow_cons cs hc, hplace, hnext,
      ih (fun a ha => hcs a (List.mem_cons_of_mem c ha)) h]

variable (hp : Path.IsPlain path) (hS : ∀ l, l <+: Path.components path → S l)
include hp hS

theorem locate_congr (h : AgreeOn S d d') : d'.locate path = d.locate path := by
  have horigin : ∀ e : Disk, e.origin path = [] := fun e => by rw [origin, if_pos hp.rooted]
  have hfollow : follow d'.root [] (Path.components path)
      = follow d.root [] (Path.components path) :=
    follow_congr hp.names fun l hl => h.content l (hS l hl)
  have hsteps : follow d'.root [] (steps path) = follow d.root [] (steps path) := by
    unfold steps
    split
    · rw [follow_append, follow_append, hfollow]
      cases hfol : follow d.root [] (Path.components path) with
      | error cause => rfl
      | ok m =>
        obtain ⟨rfl, -⟩ := (follow_eq_ok_iff hp.names).mp hfol
        simp only [Except.bind, follow_dot, List.nil_append,
          h.content _ (hS _ (List.prefix_refl _))]
    · exact hfollow
  unfold locate
  rw [horigin, horigin, hsteps]

theorem has_congr (h : AgreeOn S d d') : d'.has path = d.has path := by
  rw [Bool.eq_iff_iff, has_iff hp, has_iff hp, h.content _ (hS _ (List.prefix_refl _))]

theorem hasDir_congr (h : AgreeOn S d d') : d'.hasDir path = d.hasDir path := by
  rw [Bool.eq_iff_iff, hasDir_iff hp, hasDir_iff hp, h.content _ (hS _ (List.prefix_refl _))]

theorem target_congr (h : AgreeOn S d d') : d'.target path = d.target path := by
  have horigin : ∀ e : Disk, e.origin path = [] := fun e => by rw [origin, if_pos hp.rooted]
  have hnames : ∀ c ∈ (Path.components path).dropLast, Path.IsName c := fun c hc =>
    hp.names c (List.dropLast_subset _ hc)
  have hfollow : follow d'.root [] (Path.components path).dropLast
      = follow d.root [] (Path.components path).dropLast :=
    follow_congr hnames fun l hl => h.content l (hS l (hl.trans (List.dropLast_prefix _)))
  unfold target
  rw [horigin, horigin]
  dsimp only
  rw [hfollow]
  cases hr : refusal? path with
  | some e => rfl
  | none =>
    cases hfol : follow d.root [] (Path.components path).dropLast with
    | error cause => rfl
    | ok place =>
      obtain ⟨rfl, -⟩ := (follow_eq_ok_iff hnames).mp hfol
      have hplace := h.content _ (hS _ (List.dropLast_prefix _))
      simp only [List.nil_append]
      -- whether the directory is one is a matter of contents
      by_cases hdir : d.content (Path.components path).dropLast = some none
      · obtain ⟨es, hes⟩ := content_eq_dir_iff.mp hdir
        obtain ⟨es', hes'⟩ := content_eq_dir_iff.mp (hplace.trans hdir)
        rw [hes, hes']
        cases (Path.components path).getLast? <;> rfl
      · have hfail : ∀ e : Disk, e.content (Path.components path).dropLast ≠ some none →
            ∀ es, e.root.at? (Path.components path).dropLast ≠ some (.dir es) :=
          fun e he es hes => he (content_eq_dir_iff.mpr ⟨es, hes⟩)
        have hd := hfail d hdir
        have hd' := hfail d' (by rw [hplace]; exact hdir)
        split
        · rename_i es hes _; exact absurd hes (hd' es)
        · rename_i es name hes _; exact absurd hes (hd' es)
        · split
          · rename_i es hes _; exact absurd hes (hd es)
          · rename_i es name hes _; exact absurd hes (hd es)
          · rfl

/-! ## Changing -/

omit hp hS in
/-- Making a directory where there is a place for it depends on what is at that place. -/
theorem makeDir_of_target {place : Location} {name : Text}
    (ht : d.target path = .ok (place, some name)) :
    d.makeDir path = if d.content (place ++ [name]) = none
      then .ok (d.put (place ++ [name]) (some (.dir [])))
      else .error (.failed .alreadyExists path) := by
  rw [makeDir, ht, content]
  cases hx : d.root.at? (place ++ [name]) with
  | none => simp only [hx, Option.map_none, if_true]
  | some x => simp [hx]

omit hp hS in
/-- Writing a file where there is a place for it depends on what is at that place. -/
theorem write_of_target {place : Location} {name : Text} (bytes : List UInt8)
    (ht : d.target path = .ok (place, some name)) :
    d.write path bytes = if d.content (place ++ [name]) = some none
      then .error (.failed .isADirectory path)
      else .ok (d.put (place ++ [name]) (some (.file bytes))) := by
  rw [write, ht, content]
  cases hx : d.root.at? (place ++ [name]) with
  | none => simp [hx]
  | some x => cases x <;> simp [hx, Node.face]

omit hp hS in
/-- Taking away what was located depends on what it is. -/
theorem removeTree_of_locate {l : Location} (hl : d.locate path = .ok l) :
    d.removeTree path = match d.content l with
      | none => .error (.failed .notFound path)
      | some (some _) => .error (.failed .notADirectory path)
      | some none => .ok (d.put l none) := by
  rw [removeTree, hl, content]
  cases hx : d.root.at? l with
  | none => simp [hx]
  | some x => cases x <;> simp [hx, Node.face]

/-- The place of the path's last name is one of those agreed on. -/
theorem content_target {place : Location} {name : Text} (h : AgreeOn S d d')
    (ht : d.target path = .ok (place, some name)) :
    d'.content (place ++ [name]) = d.content (place ++ [name]) := by
  obtain ⟨hplace, -, -⟩ := target_ok ht
  rw [← hplace, placeOf_of_isPlain d hp]
  exact h.content _ (hS _ (List.prefix_refl _))

omit hS in
/-- The same update at the place of the path on both sides. -/
theorem AgreeOn.sets_placeOf {c : Option (List UInt8)} {e e' : Disk} (h : AgreeOn S d d')
    (hs : d.Sets (d.placeOf path) c e) (hs' : d'.Sets (d'.placeOf path) c e') :
    AgreeOn S e e' := by
  rw [placeOf_of_isPlain _ hp] at hs hs'
  exact h.sets hs hs'

theorem makeDir_congr (h : AgreeOn S d d') : Alike S (d.makeDir path) (d'.makeDir path) := by
  have htarget := target_congr hp hS h
  cases ht : d.target path with
  | error e => exact Or.inl ⟨e, by rw [makeDir, ht], by rw [makeDir, htarget, ht]⟩
  | ok t =>
    obtain ⟨place, name⟩ := t
    cases name with
    | none => exact Or.inl ⟨_, by rw [makeDir, ht], by rw [makeDir, htarget, ht]⟩
    | some name =>
      have hmade := makeDir_of_target ht
      have hmade' := makeDir_of_target (htarget.trans ht)
      rw [content_target hp hS h ht] at hmade'
      by_cases hnone : d.content (place ++ [name]) = none
      · rw [if_pos hnone] at hmade hmade'
        exact Or.inr ⟨_, _, hmade, hmade',
          h.sets_placeOf hp (makeDir_sets hmade).1 (makeDir_sets hmade').1⟩
      · rw [if_neg hnone] at hmade hmade'
        exact Or.inl ⟨_, hmade, hmade'⟩

theorem write_congr (bytes : List UInt8) (h : AgreeOn S d d') :
    Alike S (d.write path bytes) (d'.write path bytes) := by
  have htarget := target_congr hp hS h
  cases ht : d.target path with
  | error e => exact Or.inl ⟨e, by rw [write, ht], by rw [write, htarget, ht]⟩
  | ok t =>
    obtain ⟨place, name⟩ := t
    cases name with
    | none => exact Or.inl ⟨_, by rw [write, ht], by rw [write, htarget, ht]⟩
    | some name =>
      have hw := write_of_target bytes ht
      have hw' := write_of_target bytes (htarget.trans ht)
      rw [content_target hp hS h ht] at hw'
      by_cases hdir : d.content (place ++ [name]) = some none
      · rw [if_pos hdir] at hw hw'
        exact Or.inl ⟨_, hw, hw'⟩
      · rw [if_neg hdir] at hw hw'
        exact Or.inr ⟨_, _, hw, hw',
          h.sets_placeOf hp (write_sets hw).1 (write_sets hw').1⟩

theorem removeTree_congr (hd : d.Sound) (hd' : d'.Sound) (hne : Path.components path ≠ [])
    (h : AgreeOn S d d') : Alike S (d.removeTree path) (d'.removeTree path) := by
  have hlocate := locate_congr hp hS h
  have hplace : ∀ e : Disk, e.placeOf path = Path.components path := fun e =>
    placeOf_of_isPlain e hp
  cases hl : d.locate path with
  | error e => exact Or.inl ⟨e, by rw [removeTree, hl], by rw [removeTree, hlocate, hl]⟩
  | ok l =>
    obtain rfl := ((locate_eq_ok_iff hp).mp hl).1
    have hsame := h.content _ (hS _ (List.prefix_refl _))
    have hr := removeTree_of_locate hl
    have hr' := removeTree_of_locate (hlocate.trans hl)
    rw [hsame] at hr'
    cases hc : d.content (Path.components path) with
    | none => rw [hc] at hr hr'; exact Or.inl ⟨_, hr, hr'⟩
    | some c =>
      rw [hc] at hr hr'
      cases c with
      | some bytes => exact Or.inl ⟨_, hr, hr'⟩
      | none =>
        obtain ⟨hhere, -, -, hcontent⟩ := removeTree_ok hd (by rw [hplace]; exact hne) hr
        obtain ⟨hhere', -, -, hcontent'⟩ := removeTree_ok hd' (by rw [hplace]; exact hne) hr'
        refine Or.inr ⟨_, _, hr, hr', (hhere'.trans h.here).trans hhere.symm, fun k hk => ?_⟩
        rw [hcontent, hcontent', hplace, hplace]
        split
        · rfl
        · exact h.content k hk

end DocPress.Disk
