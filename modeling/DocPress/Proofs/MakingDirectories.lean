import DocPress.Proofs.DiskAgreement

/-!
# Making the directories of a path

Making the directories of a path goes up to the first one that is there and then down again. It
succeeds exactly if the directory of the path is there afterwards, and what it does not find it
makes, so a second time there is nothing left to do (`makeUpwards_again`). For the same reason it
does not matter whether the directories above a path were made before, in vain or not: the
directories of the path come out the same (`makeUpwards_absorb`).

The paths that are gone up through form a `Ladder`: each of them is the start of those before it, as
a text and as a list of names.
-/

namespace DocPress

namespace Utf8

theorem encode_append (t u : Text) : encode (t ++ u) = encode t ++ encode u := List.flatMap_append

end Utf8

namespace Path

/-! ## Ladders -/

/-- Plain paths that go up: each leads to a place further up than those before it, and is the start
of their text. -/
structure Ladder (ps : List Text) : Prop where
  plain : ∀ p ∈ ps, IsPlain p
  start : ps.Pairwise fun p q => q <+: p
  further : ps.Pairwise fun p q => ∃ r, r ≠ [] ∧ components p = components q ++ r

theorem Ladder.tail {p : Text} {above : List Text} (h : Ladder (p :: above)) : Ladder above :=
  ⟨fun q hq => h.plain q (List.mem_cons_of_mem p hq), h.start.tail, h.further.tail⟩

theorem Ladder.isPlain {p : Text} {above : List Text} (h : Ladder (p :: above)) : IsPlain p :=
  h.plain p (List.mem_cons_self ..)

theorem IsPlain.ne_nil {p : Text} (h : IsPlain p) : p ≠ [] := by
  rintro rfl
  exact absurd h.rooted (by decide)

theorem prefix_parent (p : Text) : parent p <+: p := by
  obtain ⟨slashes, -, hp, -⟩ := split_eq p
  rw [List.append_assoc] at hp
  exact ⟨_, hp.symm⟩

theorem length_parent_lt {p : Text} (h : base p ≠ []) : (parent p).length < p.length := by
  obtain ⟨slashes, -, hp, -⟩ := split_eq p
  have hlen := congrArg List.length hp
  have hbase : 0 < (split p).2.length := List.length_pos_iff.mpr h
  simp only [List.length_append] at hlen
  unfold parent
  omega

/-- A path with something behind its last slash leads one name further than its parent. -/
theorem components_eq_parent_concat {p : Text} (h : base p ≠ []) :
    components p = components (parent p) ++ [base p] := by
  have hsplit := components_split p
  have hbase : components (base p) = [base p] := components_of_notMem h (slash_notMem_base p)
  rw [hsplit]
  exact congrArg _ hbase

/-- The step up from a path: there is none, or it leads to a path whose last name is left out. -/
theorem upwardsFrom_succ (p : Text) (fuel : Nat) :
    upwardsFrom p (fuel + 1) = [p] ∨ ∃ q c, q ≠ [] ∧ q <+: p ∧ q.length < p.length
      ∧ components p = components q ++ [c] ∧ ∀ n, upwardsFrom p (n + 1) = p :: upwardsFrom q n := by
  have hstep : ∀ n, upwardsFrom p (n + 1) = if ((if (base p).isEmpty then parent (parent p)
        else parent p).isEmpty || (if (base p).isEmpty then base (parent p) else base p).isEmpty)
      then [p] else p :: upwardsFrom (if (base p).isEmpty then parent (parent p) else parent p) n :=
    fun _ => rfl
  by_cases hb : base p = []
  · -- the slashes at the end are left out first
    have hsame : components p = components (parent p) := by
      have hsplit := components_split p
      rw [show (split p).2 = [] from hb, components_nil, List.append_nil] at hsplit
      exact hsplit
    simp only [hb, List.isEmpty_nil, if_true] at hstep
    by_cases hstop : parent (parent p) = [] ∨ base (parent p) = []
    · left
      rw [hstep, if_pos (by simpa using hstop)]
    · obtain ⟨hne, hbase⟩ := not_or.mp hstop
      have hpre := (prefix_parent (parent p)).trans (prefix_parent p)
      refine Or.inr ⟨parent (parent p), base (parent p), hne, hpre, ?_, ?_, fun n => ?_⟩
      · exact Nat.lt_of_lt_of_le (length_parent_lt hbase) (prefix_parent p).length_le
      · rw [hsame, components_eq_parent_concat hbase]
      · rw [hstep, if_neg (by simp [hne, hbase])]
  · have hb' : (base p).isEmpty = false := by simp [hb]
    simp only [hb', Bool.false_eq_true, if_false, Bool.or_false] at hstep
    by_cases hne : parent p = []
    · left
      rw [hstep, if_pos (by simp [hne])]
    · refine Or.inr ⟨parent p, base p, hne, prefix_parent p, length_parent_lt hb,
        components_eq_parent_concat hb, fun n => ?_⟩
      rw [hstep, if_neg (by simp [hne])]

theorem upwardsFrom_ne_nil (p : Text) (fuel : Nat) : upwardsFrom p fuel ≠ [] := by
  cases fuel with
  | zero => simp [upwardsFrom]
  | succ n =>
    rcases upwardsFrom_succ p n with hone | ⟨q, c, -, -, -, -, hstep⟩
    · simp [hone]
    · simp [hstep]

/-- The paths above a path do not depend on the fuel, if there is enough of it. -/
theorem upwardsFrom_eq_upwards {p : Text} {fuel : Nat} (h : p.length ≤ fuel) :
    upwardsFrom p fuel = upwards p := by
  have key : ∀ (n m : Nat) (p : Text), p.length ≤ n → p.length ≤ m →
      upwardsFrom p n = upwardsFrom p m := by
    intro n
    induction n with
    | zero =>
      intro m p hn _
      obtain rfl : p = [] := List.length_eq_zero_iff.mp (by omega)
      cases m <;> rfl
    | succ n ih =>
      intro m p hn hm
      cases m with
      | zero =>
        obtain rfl : p = [] := List.length_eq_zero_iff.mp (by omega)
        rfl
      | succ m =>
        rcases upwardsFrom_succ p n with hone | ⟨q, c, -, -, hlen, -, hstep⟩
        · rcases upwardsFrom_succ p m with hone' | ⟨q, c, -, -, -, -, hstep⟩
          · rw [hone, hone']
          · rw [hstep] at hone
            exact absurd (List.cons.inj hone).2 (upwardsFrom_ne_nil q n)
        · rw [hstep, hstep, ih m q (by omega) (by omega)]
  exact key _ _ p h (Nat.le_refl _)

theorem ladder_upwardsFrom {p : Text} (hp : IsPlain p) (fuel : Nat) :
    Ladder (upwardsFrom p fuel) := by
  induction fuel generalizing p with
  | zero => exact ⟨by simpa [upwardsFrom] using hp, by simp [upwardsFrom], by simp [upwardsFrom]⟩
  | succ fuel ih =>
    rcases upwardsFrom_succ p fuel with hone | ⟨q, c, hq, hpre, -, hcomp, hstep⟩
    · rw [hone]
      exact ⟨by simpa using hp, by simp, by simp⟩
    · obtain ⟨r, rfl⟩ := hpre
      have hplain : IsPlain q := by
        refine ⟨(isRooted_append_of_ne_nil r hq).symm.trans hp.rooted, fun a ha => ?_⟩
        exact hp.names a (by rw [hcomp]; exact List.mem_append_left _ ha)
      have hq := ih hplain
      -- whatever is above `q` is above the path as well
      have hall : ∀ k ∈ upwardsFrom q fuel, k <+: q ∧ components k <+: components q := by
        intro k hk
        refine ⟨?_, (mem_upwardsFrom hk).1⟩
        cases fuel with
        | zero =>
          obtain rfl := List.mem_singleton.mp hk
          exact List.prefix_refl _
        | succ n =>
          rcases upwardsFrom_succ q n with hone | ⟨m, -, -, -, -, -, hstep⟩
          · rw [hone] at hk
            obtain rfl := List.mem_singleton.mp hk
            exact List.prefix_refl _
          · rw [hstep] at hk hq
            rcases List.mem_cons.mp hk with rfl | hk
            · exact List.prefix_refl _
            · exact List.rel_of_pairwise_cons hq.start hk
      rw [hstep]
      refine ⟨fun k hk => ?_, List.pairwise_cons.mpr ⟨fun k hk => ?_, hq.start⟩,
        List.pairwise_cons.mpr ⟨fun k hk => ?_, hq.further⟩⟩
      · rcases List.mem_cons.mp hk with rfl | hk
        · exact hp
        · exact hq.plain k hk
      · exact (hall k hk).1.trans (List.prefix_append _ _)
      · obtain ⟨r, hr⟩ := (hall k hk).2
        exact ⟨r ++ [c], by simp, by rw [hcomp, ← hr, List.append_assoc]⟩

theorem ladder_upwards {p : Text} (hp : IsPlain p) : Ladder (upwards p) :=
  ladder_upwardsFrom hp _

/-! ## Above a name -/

/-- The path without the slashes at its end, unless it is nothing else. -/
def stem (p : Text) : Text := if p.all (· = '/') then p else Text.trimEnd (· = '/') p

theorem stem_of_getLast? {p : Text} (h : p.getLast? ≠ some '/') : stem p = p := by
  unfold stem
  split
  · rfl
  · rcases List.eq_nil_or_concat p with rfl | ⟨r, a, rfl⟩
    · rfl
    · have ha : a ≠ '/' := by simpa using h
      simp [Text.trimEnd, ha]

/-- What is above a name in a directory does not depend on the name. -/
theorem split_append_name (p : Text) {c : Text} (hc : IsName c) :
    split (append p c) = (stem p, c) := by
  have hno : ∀ a ∈ c.reverse, decide (a ≠ '/') = true := by
    intro a ha
    rw [decide_eq_true_eq]
    rintro rfl
    exact hc.no_slash (List.mem_reverse.mp ha)
  -- the name is cut off at the slash before it
  have hcut : ∀ q : Text, (q = [] ∨ q.getLast? = some '/') →
      split (q ++ c) = (if q.all (· = '/') then q else Text.trimEnd (· = '/') q, c) := by
    intro q hq
    have hstop : q.reverse.takeWhile (· ≠ '/') = []
        ∧ q.reverse.dropWhile (· ≠ '/') = q.reverse := by
      rcases hq with rfl | hlast
      · exact ⟨rfl, rfl⟩
      · obtain ⟨r, rfl⟩ := List.getLast?_eq_some_iff.mp hlast
        simp
    rw [split_eq_ite, List.reverse_append, List.takeWhile_append_of_pos hno,
      List.dropWhile_append_of_pos hno, hstop.1, hstop.2, List.append_nil, List.reverse_reverse,
      List.reverse_reverse, List.all_reverse]
    unfold Text.trimEnd
    split <;> rfl
  unfold append
  rw [if_neg (by simp [isRooted_of_notMem hc.no_slash])]
  by_cases hp : (p.isEmpty || p.getLast? = some '/') = true
  · rw [if_pos hp, hcut p (by simpa using hp)]
    rfl
  · obtain ⟨hne, hlast⟩ : p ≠ [] ∧ p.getLast? ≠ some '/' := by simpa using hp
    have hall : ¬ (p ++ ['/']).all (· = '/') = true := by
      obtain ⟨r, a, rfl⟩ := (List.eq_nil_or_concat p).resolve_left hne
      have ha : a ≠ '/' := by simpa using hlast
      simp [ha]
    have htrim : Text.trimEnd (· = '/') (p ++ ['/']) = p := by
      obtain ⟨r, a, rfl⟩ := (List.eq_nil_or_concat p).resolve_left hne
      have ha : a ≠ '/' := by simpa using hlast
      simp [Text.trimEnd, ha]
    have hcat : p ++ '/' :: c = (p ++ ['/']) ++ c := by simp
    rw [if_neg hp, hcat, hcut _ (Or.inr (by simp)), if_neg hall, htrim, stem_of_getLast? hlast]

/-- The paths above a name: the directory it is in, and those above that. -/
theorem upwards_append_name {p c : Text} (hp : IsPlain p) (hc : IsName c) :
    upwards (append p c) = append p c :: upwards (stem p) := by
  have hsplit := split_append_name p hc
  have hbase : base (append p c) = c := congrArg Prod.snd hsplit
  have hparent : parent (append p c) = stem p := congrArg Prod.fst hsplit
  have hlen := length_parent_lt (p := append p c) (by rw [hbase]; exact hc.ne_nil)
  have hne := parent_ne_nil (isRooted_append (q := c) hp.rooted)
  obtain ⟨n, hn⟩ : ∃ n, (append p c).length = n + 1 := ⟨(append p c).length - 1, by omega⟩
  rw [hparent] at hlen hne
  have hstep : upwardsFrom (append p c) (n + 1) = append p c :: upwardsFrom (stem p) n := by
    conv_lhs => unfold upwardsFrom
    simp [hsplit, hc.ne_nil, hne]
  rw [upwards, hn, hstep, upwardsFrom_eq_upwards (by omega)]

end Path

namespace Disk

variable {d d' : Disk} {p : Text} {above : List Text}

/-! ## One directory -/

/-- Makes a directory, unless it is there. -/
def ensureDir (d : Disk) (p : Text) : Disk × Option Error :=
  match d.makeDir p with
  | .ok d' => (d', none)
  | .error e => if d.hasDir p then (d, none) else (d, some e)

/-- What a run of directories comes to once those further up are made: nothing more, if that
failed. -/
def andThen (r : Disk × Option Error) (p : Text) : Disk × Option Error :=
  match r.2 with
  | some e => (r.1, some e)
  | none => ensureDir r.1 p

/-- The first of some paths is missing. -/
def misses (d : Disk) (ps : List Text) : Bool := ps.head?.any (!d.has ·)

/-- Directories are made from the top down, beginning where one is missing. -/
theorem makeUpwards_cons (d : Disk) (hp : Path.IsPlain p) : d.makeUpwards (p :: above)
    = andThen (if d.misses above then d.makeUpwards above else (d, none)) p := by
  have hbase : Path.base p ≠ Path.dot := by
    intro he
    have hcomp := Path.components_eq_parent_concat (p := p) (by rw [he]; decide)
    have hmem : Path.base p ∈ Path.components p := by rw [hcomp]; simp
    exact (hp.names _ hmem).ne_dot he
  have hdot : ∀ b : Bool, (b && decide (Path.base p = Path.dot)) = false := by simp [hbase]
  rw [makeUpwards]
  unfold andThen ensureDir misses
  generalize above.head?.any (!d.has ·) = missing
  generalize (if missing then d.makeUpwards above else (d, none)) = r
  obtain ⟨d₁, failure⟩ := r
  cases failure with
  | some e => rfl
  | none =>
    have hstays := hdot missing
    cases missing with
    | false => rfl
    | true =>
      dsimp only at hstays ⊢
      rw [hstays]
      rfl

theorem fits_of_target {place : Location} {name : Text} (hp : Path.IsPlain p)
    (h : d.target p = .ok (place, some name)) : Fits p := by
  have hplace := (target_ok h).1
  rw [placeOf_of_isPlain d hp] at hplace
  unfold target at h
  cases hr : refusal? p with
  | some e => rw [hr] at h; exact absurd h (by simp)
  | none =>
    refine ⟨hr, ?_⟩
    have horigin : d.origin p = [] := by rw [origin, if_pos hp.rooted]
    rw [hr, horigin, hplace] at h
    simp only [List.dropLast_concat, List.getLast?_concat] at h
    have hnames : ∀ c ∈ place, Path.IsName c := fun c hc =>
      hp.names c (by rw [hplace]; exact List.mem_append_left _ hc)
    cases hfol : follow d.root [] place with
    | error cause => rw [hfol] at h; exact absurd h (by simp)
    | ok l =>
      obtain ⟨-, hshort, -⟩ := (follow_eq_ok_iff hnames).mp hfol
      rw [hfol] at h
      simp only at h
      split at h
      · exact absurd h (by simp)
      · rename_i es c hes hc
        obtain rfl := Option.some.inj hc
        split at h
        · exact absurd h (by simp)
        · split at h
          · exact absurd h (by simp)
          · rename_i hlen
            rw [hplace]
            intro c hc
            rcases List.mem_append.mp hc with hc | hc
            · exact hshort c hc
            · obtain rfl := List.mem_singleton.mp hc
              omega
      · exact absurd h (by simp)

theorem hasDir_of_makeDir (hp : Path.IsPlain p) (h : d.makeDir p = .ok d') :
    d'.hasDir p = true := by
  obtain ⟨hsets, -⟩ := makeDir_sets h
  rw [placeOf_of_isPlain d hp] at hsets
  refine (hasDir_iff hp).mpr ⟨?_, by rw [hsets.content, if_pos rfl]⟩
  cases ht : d.target p with
  | error e => rw [makeDir, ht] at h; exact absurd h (by simp)
  | ok t =>
    obtain ⟨place, name⟩ := t
    cases name with
    | none => rw [makeDir, ht] at h; exact absurd h (by simp)
    | some name => exact fits_of_target hp ht

/-- Nothing is made where something is. -/
theorem ensureDir_of_has (hp : Path.IsPlain p) (h : d.has p = true) :
    ensureDir d p = (d, (ensureDir d p).2) := by
  unfold ensureDir
  cases hm : d.makeDir p with
  | error e => dsimp only; split <;> rfl
  | ok d' =>
    obtain ⟨-, hnone⟩ := makeDir_sets hm
    rw [placeOf_of_isPlain d hp] at hnone
    exact absurd hnone ((has_iff hp).mp h).2.1

theorem ensureDir_of_hasDir (hp : Path.IsPlain p) (h : d.hasDir p = true) :
    ensureDir d p = (d, none) := by
  rw [ensureDir_of_has hp (has_of_hasDir hp h)]
  unfold ensureDir
  cases hm : d.makeDir p with
  | error e => simp [h]
  | ok d' => rfl

theorem hasDir_of_ensureDir (hp : Path.IsPlain p) (h : (ensureDir d p).2 = none) :
    (ensureDir d p).1.hasDir p = true := by
  unfold ensureDir at h ⊢
  cases hm : d.makeDir p with
  | ok d' => exact hasDir_of_makeDir hp hm
  | error e =>
    rw [hm] at h
    by_cases hdir : d.hasDir p = true
    · simp [hdir]
    · exact absurd h (by simp [hdir])

/-- A directory that could not be made leaves the disk as it was. -/
theorem ensureDir_of_failed {e : Error} (h : (ensureDir d p).2 = some e) :
    (ensureDir d p).1 = d := by
  unfold ensureDir at h ⊢
  cases hm : d.makeDir p with
  | ok d' => rw [hm] at h; exact absurd h (by simp)
  | error e => dsimp only; split <;> rfl

theorem ensureDir_again (hp : Path.IsPlain p) :
    ensureDir (ensureDir d p).1 p = ensureDir d p := by
  cases h : (ensureDir d p).2 with
  | some e =>
    have hsame := ensureDir_of_failed h
    rw [hsame]
  | none =>
    rw [ensureDir_of_hasDir hp (hasDir_of_ensureDir hp h)]
    exact Prod.ext rfl h.symm

theorem ensureDir_adds (hp : Path.IsPlain p) :
    Adds (· = Path.components p) (fun _ => False) d (ensureDir d p).1 := by
  unfold ensureDir
  cases hm : d.makeDir p with
  | error e => dsimp only; split <;> exact Adds.refl _ _ d
  | ok d' =>
    obtain ⟨hsets, hnone⟩ := makeDir_sets hm
    rw [placeOf_of_isPlain d hp] at hsets hnone
    refine ⟨hsets.here, hsets.sound, fun l => ?_⟩
    rw [hsets.content]
    by_cases hl : l = Path.components p
    · exact Or.inr (Or.inl ⟨hl, hl ▸ hnone, if_pos hl⟩)
    · exact Or.inl (if_neg hl)

/-! ## What stays -/

/-- What is there is there after directories were added. -/
theorem Adds.has {dirs : Location → Prop} (h : Adds dirs (fun _ => False) d d')
    (hp : Path.IsPlain p) (hthere : d.has p = true) : d'.has p = true := by
  obtain ⟨hfits, hne, hdir⟩ := (has_iff hp).mp hthere
  rcases h.content (Path.components p) with hl | ⟨-, hnone, -⟩ | ⟨hfalse, -⟩
  · exact (has_iff hp).mpr ⟨hfits, by rw [hl]; exact hne, by rw [hl]; exact hdir⟩
  · exact absurd hnone hne
  · exact absurd hfalse id

/-- What was missing is still missing if directories were added elsewhere. -/
theorem Adds.has_iff_of_not {dirs : Location → Prop} (h : Adds dirs (fun _ => False) d d')
    (hp : Path.IsPlain p) (hno : ¬ dirs (Path.components p)) : d'.has p = d.has p := by
  have hsame : d'.content (Path.components p) = d.content (Path.components p) := by
    rcases h.content (Path.components p) with hl | ⟨hyes, -⟩ | ⟨hfalse, -⟩
    · exact hl
    · exact absurd hyes hno
    · exact absurd hfalse id
  rw [Bool.eq_iff_iff, has_iff hp, has_iff hp, hsame]

theorem makeUpwards_adds_above {ps : List Text} (d : Disk) (hps : Path.Ladder ps) :
    Adds (fun l => ∃ q ∈ ps, l = Path.components q) (fun _ => False) d (d.makeUpwards ps).1 := by
  refine (makeUpwards_adds d ps).mono (fun l hl => ?_) fun _ => id
  obtain ⟨q, hq, rfl⟩ := hl
  exact ⟨q, hq, placeOf_of_isPlain d (hps.plain q hq)⟩

/-- Making directories further up does not make a path that is missing. -/
theorem has_makeUpwards_above (hps : Path.Ladder (p :: above)) :
    (d.makeUpwards above).1.has p = d.has p := by
  refine (makeUpwards_adds_above d hps.tail).has_iff_of_not hps.isPlain ?_
  rintro ⟨q, hq, he⟩
  obtain ⟨r, hne, hr⟩ := List.rel_of_pairwise_cons hps.further hq
  rw [he] at hr
  exact hne (List.append_cancel_left ((List.append_nil _).trans hr)).symm

/-- What is refused of a path is refused of what begins with it. -/
theorem Fits.of_start {a : Text} (h : Fits p) (ha : a ≠ []) (hstart : a <+: p)
    (hcomp : Path.components a <+: Path.components p) : Fits a := by
  obtain ⟨r, rfl⟩ := hstart
  refine ⟨?_, fun c hc => h.short c (hcomp.subset hc)⟩
  have haccepted := h.accepted
  unfold refusal? at haccepted ⊢
  split at haccepted
  · exact absurd haccepted (by simp)
  · rename_i hnull
    split at haccepted
    · exact absurd haccepted (by simp)
    · split at haccepted
      · exact absurd haccepted (by simp)
      · rename_i hlong
        have hno : ¬ a.contains (Char.ofNat 0) = true := fun hmem => hnull (by simp_all)
        rw [Utf8.encode_append, List.length_append] at hlong
        rw [if_neg hno, if_neg (by simp [ha]), if_neg (by omega)]

/-- Above what is there, all is there. -/
theorem not_misses_of_has (hps : Path.Ladder (p :: above)) (h : d.has p = true) :
    d.misses above = false := by
  cases above with
  | nil => rfl
  | cons a above =>
    have ha := hps.tail.isPlain
    obtain ⟨hfits, hthere, -⟩ := (has_iff hps.isPlain).mp h
    obtain ⟨r, hne, hr⟩ := List.rel_of_pairwise_cons hps.further (List.mem_cons_self ..)
    have hstart := List.rel_of_pairwise_cons hps.start (List.mem_cons_self ..)
    have hfitsA : Fits a := hfits.of_start ha.ne_nil hstart ⟨r, hr.symm⟩
    -- something lies below, so it is a directory
    have hdir : d.content (Path.components a) = some none := by
      by_contra hno
      rw [hr] at hthere
      exact hthere (content_below_eq_none hne hno)
    have hhas := has_of_hasDir ha ((hasDir_iff ha).mpr ⟨hfitsA, hdir⟩)
    simp [misses, hhas]

theorem Adds.misses {dirs : Location → Prop} {ps : List Text}
    (h : Adds dirs (fun _ => False) d d') (hps : Path.Ladder ps) (hthere : d.misses ps = false) :
    d'.misses ps = false := by
  cases ps with
  | nil => rfl
  | cons p above =>
    have hhas : d.has p = true := by simpa [Disk.misses] using hthere
    simp [Disk.misses, h.has hps.isPlain hhas]

/-! ## A second time -/

/-- There is nothing to make above what is there. -/
theorem makeUpwards_of_has (hps : Path.Ladder (p :: above)) (h : d.has p = true) :
    (d.makeUpwards (p :: above)).1 = d := by
  rw [makeUpwards_cons d hps.isPlain, not_misses_of_has hps h]
  exact congrArg Prod.fst (ensureDir_of_has hps.isPlain h)

theorem hasDir_of_makeUpwards (hps : Path.Ladder (p :: above))
    (h : (d.makeUpwards (p :: above)).2 = none) :
    (d.makeUpwards (p :: above)).1.hasDir p = true := by
  rw [makeUpwards_cons d hps.isPlain] at h ⊢
  generalize (if d.misses above then d.makeUpwards above else (d, none)) = r at h ⊢
  obtain ⟨d₁, failure⟩ := r
  cases failure with
  | some e => exact absurd h (by simp [andThen])
  | none => exact hasDir_of_ensureDir hps.isPlain h

/-- A path that was missing and could not be made is missing. -/
theorem has_of_makeUpwards_failed {e : Error} (hps : Path.Ladder (p :: above))
    (h : (d.makeUpwards (p :: above)).2 = some e) (hmissing : d.has p = false) :
    (d.makeUpwards (p :: above)).1.has p = false := by
  have habove := (has_makeUpwards_above (d := d) hps).trans hmissing
  rw [makeUpwards_cons d hps.isPlain] at h ⊢
  have hfirst : (if d.misses above then d.makeUpwards above else (d, none)).1.has p = false := by
    split
    · exact habove
    · exact hmissing
  generalize (if d.misses above then d.makeUpwards above else (d, none)) = r at h hfirst ⊢
  obtain ⟨d₁, failure⟩ := r
  cases failure with
  | some e => exact hfirst
  | none =>
    have hsame : (ensureDir d₁ p).1 = d₁ := ensureDir_of_failed h
    have hthere : (andThen (d₁, none) p).1 = d₁ := hsame
    rw [hthere]
    exact hfirst

/-- If the paths were missing, and are not any more, they could be made. -/
theorem makeUpwards_ok_of_not_misses {ps : List Text} (hps : Path.Ladder ps)
    (hmissing : d.misses ps = true) (hthere : (d.makeUpwards ps).1.misses ps = false) :
    (d.makeUpwards ps).2 = none := by
  cases ps with
  | nil => rfl
  | cons p above =>
    cases h : (d.makeUpwards (p :: above)).2 with
    | none => rfl
    | some e =>
      have hno := has_of_makeUpwards_failed hps h (by simpa [Disk.misses] using hmissing)
      have hyes : (d.makeUpwards (p :: above)).1.has p = true := by
        simpa [Disk.misses] using hthere
      rw [hno] at hyes
      exact absurd hyes (by simp)

theorem not_misses_of_makeUpwards {ps : List Text} (hps : Path.Ladder ps)
    (h : (d.makeUpwards ps).2 = none) : (d.makeUpwards ps).1.misses ps = false := by
  cases ps with
  | nil => rfl
  | cons p above =>
    have hdir := has_of_hasDir hps.isPlain (hasDir_of_makeUpwards hps h)
    simp [Disk.misses, hdir]

/-- Directories that were made, or could not be made, come out the same when it is tried again. -/
theorem makeUpwards_again {ps : List Text} (d : Disk) (hps : Path.Ladder ps) :
    (d.makeUpwards ps).1.makeUpwards ps = d.makeUpwards ps := by
  induction ps with
  | nil => rfl
  | cons p above ih =>
    have hp := hps.isPlain
    have habove := ih hps.tail
    rw [makeUpwards_cons _ hp, makeUpwards_cons d hp]
    -- once the directories above are there, only the last one is left
    have hlast : ∀ e : Disk, e.misses above = false →
        andThen (if (ensureDir e p).1.misses above then (ensureDir e p).1.makeUpwards above
          else ((ensureDir e p).1, none)) p = ensureDir e p := by
      intro e he
      rw [(ensureDir_adds hp).misses hps.tail he]
      exact ensureDir_again hp
    cases hmiss : d.misses above with
    | false => exact hlast d hmiss
    | true =>
      simp only [if_true]
      cases hr : (d.makeUpwards above).2 with
      | none =>
        have hthen : andThen (d.makeUpwards above) p = ensureDir (d.makeUpwards above).1 p := by
          rw [andThen, hr]
        rw [hthen]
        exact hlast _ (not_misses_of_makeUpwards hps.tail hr)
      | some e =>
        have hthen : andThen (d.makeUpwards above) p = d.makeUpwards above := by
          rw [andThen, hr]
          exact Prod.ext rfl hr.symm
        have hstill : (d.makeUpwards above).1.misses above = true := by
          by_contra hno
          rw [makeUpwards_ok_of_not_misses hps.tail hmiss (by simpa using hno)] at hr
          exact absurd hr (by simp)
        rw [hthen, hstill, if_pos rfl, habove, hthen]

/-- Whether the directories above were made before, in vain or not, is all the same. -/
theorem makeUpwards_absorb (d : Disk) (hps : Path.Ladder (p :: above)) :
    (d.makeUpwards above).1.makeUpwards (p :: above) = d.makeUpwards (p :: above) := by
  have hp := hps.isPlain
  cases hmiss : d.misses above with
  | false =>
    have hsame : (d.makeUpwards above).1 = d := by
      cases above with
      | nil => rfl
      | cons a above => exact makeUpwards_of_has hps.tail (by simpa [Disk.misses] using hmiss)
    rw [hsame]
  | true =>
    rw [makeUpwards_cons _ hp, makeUpwards_cons d hp, hmiss, if_pos rfl]
    congr 1
    cases hstill : (d.makeUpwards above).1.misses above with
    | true => rw [if_pos rfl, makeUpwards_again d hps.tail]
    | false =>
      have hok := makeUpwards_ok_of_not_misses hps.tail hmiss hstill
      exact Prod.ext rfl hok.symm

/-! ## Disks that agree -/

variable {S : Location → Prop}

theorem ensureDir_congr (hp : Path.IsPlain p) (hS : ∀ l, l <+: Path.components p → S l)
    (h : AgreeOn S d d') : (ensureDir d' p).2 = (ensureDir d p).2
      ∧ AgreeOn S (ensureDir d p).1 (ensureDir d' p).1 := by
  have hdir := hasDir_congr hp hS h
  unfold ensureDir
  rcases makeDir_congr hp hS h with ⟨e, he, he'⟩ | ⟨d₁, d₁', h₁, h₁', hagree⟩
  · rw [he, he', hdir]
    dsimp only
    split
    · exact ⟨rfl, h⟩
    · exact ⟨rfl, h⟩
  · rw [h₁, h₁']
    exact ⟨rfl, hagree⟩

theorem makeUpwards_congr {ps : List Text} (hps : ∀ p ∈ ps, Path.IsPlain p)
    (hS : ∀ p ∈ ps, ∀ l, l <+: Path.components p → S l) (h : AgreeOn S d d') :
    (d'.makeUpwards ps).2 = (d.makeUpwards ps).2
      ∧ AgreeOn S (d.makeUpwards ps).1 (d'.makeUpwards ps).1 := by
  induction ps with
  | nil => exact ⟨rfl, h⟩
  | cons p above ih =>
    have hp := hps p (List.mem_cons_self ..)
    have hSp := hS p (List.mem_cons_self ..)
    have hmiss : d'.misses above = d.misses above := by
      cases above with
      | nil => rfl
      | cons a above =>
        have hmem : a ∈ p :: a :: above := by simp
        simp [misses, has_congr (hps a hmem) (hS a hmem) h]
    obtain ⟨hfail, hagree⟩ := ih (fun q hq => hps q (List.mem_cons_of_mem p hq))
      fun q hq => hS q (List.mem_cons_of_mem p hq)
    rw [makeUpwards_cons d hp, makeUpwards_cons d' hp, hmiss]
    cases d.misses above with
    | false => exact ensureDir_congr hp hSp h
    | true =>
      simp only [if_true, andThen, hfail]
      cases (d.makeUpwards above).2 with
      | some e => exact ⟨rfl, hagree⟩
      | none => exact ensureDir_congr hp hSp hagree

theorem makeDirs_congr {path : Text} (hpath : Path.IsPlain path)
    (hS : ∀ l, l <+: Path.components path → S l) (h : AgreeOn S d d') :
    (d'.makeDirs path).2 = (d.makeDirs path).2
      ∧ AgreeOn S (d.makeDirs path).1 (d'.makeDirs path).1 :=
  makeUpwards_congr (Path.ladder_upwards hpath).plain
    (fun _ hq l hl => hS l (hl.trans (Path.mem_upwards hq).1)) h

end Disk
end DocPress
