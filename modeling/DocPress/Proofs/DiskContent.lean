import DocPress.Disk.Basic
import DocPress.Proofs.PathNames

/-!
# What lies where

`Disk.content` tells what lies at each place of a disk: nothing, a directory, or a file and its
bytes. Seen so, a disk is a function of places, and an operation that succeeds changes it at one
place: making a directory and writing a file give that place its new content, and taking a tree
away empties it and all places below.

The place that a path means is read off the path alone by `Disk.placeOf`. Following a path through
the directories that are there can fail, but it never leads anywhere else.

Trees of directories and files have more states than a disk can have. `Node.Sound` says that in each
directory the names are distinct and plain; every operation keeps it.
-/

namespace DocPress

namespace Node

/-- What a node shows without being entered: the bytes of a file, or none for a directory. -/
def face : Node → Option (List UInt8)
  | file bytes => some bytes
  | dir _ => none

/-- The names in every directory are distinct, and names that an entry can have. -/
inductive Sound : Node → Prop where
  | file (bytes : List UInt8) : Sound (file bytes)
  | dir {es : List (Text × Node)} :
      (es.map (·.1)).Nodup → (∀ e ∈ es, Path.IsName e.1) → (∀ e ∈ es, Sound e.2) → Sound (dir es)

/-! ## Places of a tree -/

theorem at?_append (l r : Location) (x : Node) : at? (l ++ r) x = (at? l x).bind (at? r) := by
  induction l generalizing x with
  | nil => rfl
  | cons n l ih =>
    cases x with
    | file bytes => rfl
    | dir es =>
      rw [List.cons_append, at?, at?]
      cases lookup? n es with
      | none => rfl
      | some y => exact ih y

theorem at?_singleton (n : Text) (es : List (Text × Node)) : at? [n] (dir es) = lookup? n es := by
  rw [at?]; cases lookup? n es <;> rfl

/-- Above something that is there lie directories. -/
theorem isDir_above {l r : Location} {x y : Node} (hr : r ≠ []) (h : at? (l ++ r) x = some y) :
    ∃ es, at? l x = some (dir es) := by
  rw [at?_append] at h
  cases hl : at? l x with
  | none => rw [hl] at h; exact absurd h (by simp)
  | some z =>
    cases z with
    | dir es => exact ⟨es, rfl⟩
    | file bytes =>
      rw [hl] at h
      cases r with
      | nil => exact absurd rfl hr
      | cons n r => exact absurd h (by simp [at?])

theorem mem_of_lookup?_eq_some {n : Text} {es : List (Text × Node)} {x : Node}
    (h : lookup? n es = some x) : (n, x) ∈ es := by
  induction es with
  | nil => exact absurd h (by simp [lookup?])
  | cons e es ih =>
    obtain ⟨k, y⟩ := e
    by_cases hk : k = n
    · rw [lookup?, if_pos hk] at h
      rw [← Option.some.inj h, hk]
      exact List.mem_cons_self ..
    · rw [lookup?, if_neg hk] at h
      exact List.mem_cons_of_mem _ (ih h)

/-- In a sound tree, plain names lead to whatever is there. -/
theorem Sound.isName_of_mem {l : Location} {x y : Node} (hx : Sound x) (h : at? l x = some y) :
    ∀ c ∈ l, Path.IsName c := by
  induction l generalizing x with
  | nil => simp
  | cons n l ih =>
    cases hx with
    | file bytes => exact absurd h (by simp [at?])
    | @dir es _ hnames hsub =>
      rw [at?] at h
      cases hlook : lookup? n es with
      | none => rw [hlook] at h; exact absurd h (by simp)
      | some z =>
        rw [hlook] at h
        have hmem := mem_of_lookup?_eq_some hlook
        intro c hc
        rcases List.mem_cons.mp hc with rfl | hc
        · exact hnames _ hmem
        · exact ih (hsub _ hmem) h c hc

/-! ## Changing an entry -/

theorem lookup?_alterEntry_ne {f : Option Node → Option Node} {n m : Text} (h : m ≠ n)
    (es : List (Text × Node)) : lookup? m (alterEntry f n es) = lookup? m es := by
  induction es with
  | nil =>
    rw [alterEntry]
    cases f none with
    | none => rfl
    | some x => simp [lookup?, Ne.symm h]
  | cons e es ih =>
    obtain ⟨k, x⟩ := e
    by_cases hk : k = n
    · subst hk
      simp only [alterEntry, if_true]
      cases f (some x) <;> simp [lookup?, Ne.symm h]
    · simp [alterEntry, hk, lookup?, ih]

theorem lookup?_alterEntry_some {f : Option Node → Option Node} {n : Text}
    {es : List (Text × Node)} {x : Node} (h : f (lookup? n es) = some x) :
    lookup? n (alterEntry f n es) = some x := by
  induction es with
  | nil =>
    rw [lookup?] at h
    simp [alterEntry, h, lookup?]
  | cons e es ih =>
    obtain ⟨k, y⟩ := e
    by_cases hk : k = n
    · subst hk
      rw [lookup?, if_pos rfl] at h
      simp [alterEntry, h, lookup?]
    · rw [lookup?, if_neg hk] at h
      simp [alterEntry, hk, lookup?, ih h]

theorem lookup?_eq_none_of_notMem {n : Text} {es : List (Text × Node)} (h : n ∉ es.map (·.1)) :
    lookup? n es = none := by
  induction es with
  | nil => rfl
  | cons e es ih =>
    obtain ⟨hn, hes⟩ := not_or.mp (mt List.mem_cons.mpr h)
    rw [lookup?, if_neg (Ne.symm hn), ih hes]

theorem lookup?_alterEntry_none {f : Option Node → Option Node} {n : Text}
    {es : List (Text × Node)} (hd : (es.map (·.1)).Nodup) (h : f (lookup? n es) = none) :
    lookup? n (alterEntry f n es) = none := by
  induction es with
  | nil =>
    rw [lookup?] at h
    simp [alterEntry, h, lookup?]
  | cons e es ih =>
    obtain ⟨k, y⟩ := e
    obtain ⟨hk, hd⟩ := List.nodup_cons.mp hd
    by_cases hkn : k = n
    · subst hkn
      rw [lookup?, if_pos rfl] at h
      simpa [alterEntry, h] using lookup?_eq_none_of_notMem hk
    · rw [lookup?, if_neg hkn] at h
      simp [alterEntry, hkn, lookup?, ih hd h]

/-- Whatever is done to an entry, the others stay, and so do their names. -/
theorem mem_alterEntry {f : Option Node → Option Node} {n : Text} {es : List (Text × Node)}
    {e : Text × Node} (h : e ∈ alterEntry f n es) :
    e ∈ es ∨ e.1 = n ∧ ∃ o, f o = some e.2 ∧ ∀ y, o = some y → (n, y) ∈ es := by
  induction es with
  | nil =>
    rw [alterEntry] at h
    cases hf : f none with
    | none => rw [hf] at h; exact absurd h (by simp)
    | some x =>
      rw [hf] at h
      obtain rfl := List.mem_singleton.mp h
      exact Or.inr ⟨rfl, none, hf, by simp⟩
  | cons e' es ih =>
    obtain ⟨k, y⟩ := e'
    by_cases hk : k = n
    · subst hk
      -- the first entry is the one that changes, so what is behind it stays
      simp only [alterEntry, if_true] at h
      cases hf : f (some y) with
      | none => rw [hf] at h; exact Or.inl (List.mem_cons_of_mem _ h)
      | some x =>
        rw [hf] at h
        rcases List.mem_cons.mp h with rfl | h
        · refine Or.inr ⟨rfl, some y, hf, fun z hz => ?_⟩
          rw [Option.some.inj hz]
          exact List.mem_cons_self ..
        · exact Or.inl (List.mem_cons_of_mem _ h)
    · rw [alterEntry, if_neg hk] at h
      rcases List.mem_cons.mp h with rfl | h
      · exact Or.inl (List.mem_cons_self ..)
      · rcases ih h with h | ⟨hn, o, hf, hy⟩
        · exact Or.inl (List.mem_cons_of_mem _ h)
        · exact Or.inr ⟨hn, o, hf, fun z hz => List.mem_cons_of_mem _ (hy z hz)⟩

theorem nodup_alterEntry {f : Option Node → Option Node} {n : Text} {es : List (Text × Node)}
    (hd : (es.map (·.1)).Nodup) : ((alterEntry f n es).map (·.1)).Nodup := by
  induction es with
  | nil => rw [alterEntry]; cases f none <;> simp
  | cons e es ih =>
    obtain ⟨k, y⟩ := e
    obtain ⟨hk, hd⟩ := List.nodup_cons.mp hd
    by_cases hkn : k = n
    · subst hkn
      simp only [alterEntry, if_true]
      cases f (some y) with
      | none => exact hd
      | some x => exact List.nodup_cons.mpr ⟨hk, hd⟩
    · rw [alterEntry, if_neg hkn, List.map_cons]
      refine List.nodup_cons.mpr ⟨fun hmem => ?_, ih hd⟩
      obtain ⟨e, he, hek⟩ := List.mem_map.mp hmem
      rcases mem_alterEntry he with he | ⟨hn, -⟩
      · exact hk (List.mem_map.mpr ⟨e, he, hek⟩)
      · exact hkn (hek.symm.trans hn)

/-- An entry that is not there and is not to be made leaves the directory as it is. -/
theorem alterEntry_of_lookup?_eq_none {f : Option Node → Option Node} {n : Text}
    {es : List (Text × Node)} (h : lookup? n es = none) (hf : f none = none) :
    alterEntry f n es = es := by
  induction es with
  | nil => simp [alterEntry, hf]
  | cons e es ih =>
    obtain ⟨k, y⟩ := e
    by_cases hk : k = n
    · rw [lookup?, if_pos hk] at h; exact absurd h (by simp)
    · rw [lookup?, if_neg hk] at h
      rw [alterEntry, if_neg hk, ih h]

/-! ## Changing a place -/

theorem alter_cons {f : Option Node → Option Node} {n : Text} {place : Location}
    (h : place ≠ []) (es : List (Text × Node)) :
    alter f (n :: place) (dir es) = dir (alterEntry (fun x => x.map (alter f place)) n es) := by
  cases place with
  | nil => exact absurd rfl h
  | cons m place => rfl

/-- A change at a place shows nowhere but there and below. -/
theorem face_alter_of_not_below (f : Option Node → Option Node) {place l : Location} (x : Node)
    (h : ¬ place <+: l) : (at? l (alter f place x)).map face = (at? l x).map face := by
  induction place generalizing l x with
  | nil => exact absurd List.nil_prefix h
  | cons n place ih =>
    cases x with
    | file bytes => rfl
    | dir es =>
      cases l with
      | nil => cases place <;> rfl
      | cons m l =>
        by_cases hm : m = n
        · subst hm
          -- both go into the same entry, where the change is not above `l` either
          have hl : ¬ place <+: l := fun hp => h (List.cons_prefix_cons.mpr ⟨rfl, hp⟩)
          have hne : place ≠ [] := fun he => hl (he ▸ List.nil_prefix)
          rw [alter_cons hne, at?, at?]
          cases hlook : lookup? m es with
          | none => rw [alterEntry_of_lookup?_eq_none hlook rfl, hlook]
          | some y =>
            have hsome : lookup? m (alterEntry (fun x => x.map (alter f place)) m es)
                = some (alter f place y) := lookup?_alterEntry_some (by rw [hlook]; rfl)
            rw [hsome]
            exact ih y hl
        · -- another entry is looked up than the one that changes
          have hlook : ∀ g, lookup? m (alterEntry g n es) = lookup? m es := fun g =>
            lookup?_alterEntry_ne hm es
          cases place with
          | nil => simp only [alter, at?, hlook]
          | cons k place => simp only [alter, at?, hlook]

/-- What is put into a directory is there. -/
theorem at?_alter_some {l : Location} {n : Text} {x y : Node} {es : List (Text × Node)}
    (h : at? l x = some (dir es)) :
    at? (l ++ [n]) (alter (fun _ => some y) (l ++ [n]) x) = some y := by
  induction l generalizing x with
  | nil =>
    obtain rfl := Option.some.inj h
    have hlook : lookup? n (alterEntry (fun _ => some y) n es) = some y :=
      lookup?_alterEntry_some rfl
    rw [List.nil_append, alter, at?_singleton, hlook]
  | cons m l ih =>
    cases x with
    | file bytes => exact absurd h (by simp [at?])
    | dir fs =>
      rw [at?] at h
      cases hlook : lookup? m fs with
      | none => rw [hlook] at h; exact absurd h (by simp)
      | some z =>
        rw [hlook] at h
        have hsome : lookup? m
            (alterEntry (fun x => x.map (alter (fun _ => some y) (l ++ [n]))) m fs)
            = some (alter (fun _ => some y) (l ++ [n]) z) :=
          lookup?_alterEntry_some (by rw [hlook]; rfl)
        rw [List.cons_append, alter_cons (by simp), at?, hsome]
        exact ih h

/-- What is taken away is gone. -/
theorem at?_alter_none {l : Location} {x : Node} (hx : Sound x) (hl : l ≠ []) :
    at? l (alter (fun _ => none) l x) = none := by
  induction l generalizing x with
  | nil => exact absurd rfl hl
  | cons m l ih =>
    cases hx with
    | file bytes => rfl
    | @dir es hd _ hsub =>
      cases l with
      | nil =>
        rw [alter, at?_singleton]
        exact lookup?_alterEntry_none hd rfl
      | cons k l =>
        rw [alter_cons (by simp), at?]
        cases hlook : lookup? m es with
        | none => rw [alterEntry_of_lookup?_eq_none hlook rfl, hlook]; rfl
        | some y =>
          have hmem : (m, y) ∈ es := mem_of_lookup?_eq_some hlook
          have hsome : lookup? m
              (alterEntry (fun x => x.map (alter (fun _ => none) (k :: l))) m es)
              = some (alter (fun _ => none) (k :: l) y) :=
            lookup?_alterEntry_some (by rw [hlook]; rfl)
          rw [hsome]
          exact ih (hsub _ hmem) (by simp)

/-- A sound tree stays sound if what is put in is sound and its name is plain. -/
theorem sound_alter {f : Option Node → Option Node} {place : Location} {x : Node} (hx : Sound x)
    (hp : ∀ c ∈ place, Path.IsName c)
    (hf : ∀ o z, (∀ y, o = some y → Sound y) → f o = some z → Sound z) :
    Sound (alter f place x) := by
  induction place generalizing x with
  | nil =>
    rw [alter]
    cases hz : f (some x) with
    | none => exact hx
    | some z => exact hf _ z (fun y hy => Option.some.inj hy ▸ hx) hz
  | cons n place ih =>
    cases hx with
    | file bytes => exact Sound.file bytes
    | @dir es hd hnames hsub =>
      have hn := hp n (List.mem_cons_self ..)
      -- the entry that changes is sound afterwards, whichever of the two changes it is
      have key : ∀ g : Option Node → Option Node,
          (∀ o z, (∀ y, o = some y → Sound y) → g o = some z → Sound z) →
          Sound (dir (alterEntry g n es)) := by
        intro g hg
        refine Sound.dir (nodup_alterEntry hd) (fun e he => ?_) (fun e he => ?_)
        · rcases mem_alterEntry he with he | ⟨he, -⟩
          · exact hnames e he
          · exact he ▸ hn
        · rcases mem_alterEntry he with he | ⟨-, o, ho, hy⟩
          · exact hsub e he
          · exact hg o e.2 (fun y h => hsub _ (hy y h)) ho
      cases place with
      | nil => exact key f hf
      | cons m place =>
        refine key _ fun o z ho hz => ?_
        obtain ⟨y, hy, rfl⟩ := Option.map_eq_some_iff.mp hz
        exact ih (ho y hy) fun c hc => hp c (List.mem_cons_of_mem n hc)

end Node
end DocPress
