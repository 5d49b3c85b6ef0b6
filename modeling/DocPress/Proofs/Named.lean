import DocPress.Document
import Mathlib.Data.List.Induction

/-!
# Lists of named things

Sections of a page, pages of a page and documents are kept in the same way: a thing is found by
its name, and made at the end of the list when its name comes for the first time. `alterNamed` is
that one operation, and the three operations of the library are instances of it.

What such a list looks like is settled here once. If names have come in some order, the list stands
in the order of their first arrival, which is what `List.eraseDups` leaves of them, and using one
more name changes the thing of that name and nothing else.
-/

namespace DocPress

variable {α β : Type}

/-- Changes the first thing of a name. If there is none, one more comes at the end. -/
def alterNamed (key : β → Text) (n : Text) (f : Option β → β) : List β → List β
  | [] => [f none]
  | b :: bs => if key b = n then f (some b) :: bs else b :: alterNamed key n f bs

/-! ## The three instances -/

theorem addToSections_eq (h : Text) (x : α) (ss : List (Text × List α)) :
    Page.addToSections h x ss
      = alterNamed Prod.fst h (fun s => (h, (s.elim [] Prod.snd) ++ [x])) ss := by
  induction ss with
  | nil => rfl
  | cons s ss ih =>
    obtain ⟨h', xs⟩ := s
    by_cases hh : h' = h
    · simp [Page.addToSections, alterNamed, hh]
    · simp [Page.addToSections, alterNamed, hh, ih]

theorem updateNamed_eq (n : Text) (f : Page α → Page α) (ps : List (Page α)) :
    Page.updateNamed n f ps
      = alterNamed Page.name n (fun q => f (q.getD (Page.empty n))) ps := by
  induction ps with
  | nil => rfl
  | cons p ps ih =>
    by_cases hp : p.name = n
    · simp [Page.updateNamed, alterNamed, hp]
    · simp [Page.updateNamed, alterNamed, hp, ih]

theorem insertInto_eq (p : Placement) (x : α) (ds : List (Document α)) :
    Document.insertInto p x ds
      = alterNamed Document.name p.document
          (fun d => (d.getD ⟨p.document, Page.empty p.document⟩).insert p x) ds := by
  induction ds with
  | nil => rfl
  | cons d ds ih =>
    by_cases hd : d.name = p.document
    · simp [Document.insertInto, alterNamed, hd]
    · simp [Document.insertInto, alterNamed, hd, ih]

/-! ## Names in the order of their first arrival -/

/-- A name that has come before changes nothing; a new one goes to the end. -/
theorem eraseDups_concat (ns : List Text) (n : Text) :
    (ns ++ [n]).eraseDups = if n ∈ ns then ns.eraseDups else ns.eraseDups ++ [n] := by
  rw [List.eraseDups_append, List.cons_removeAll]
  by_cases hn : n ∈ ns
  · simp [hn]
  · simp [hn, List.eraseDups_cons]

theorem nodup_eraseDups (ns : List Text) : ns.eraseDups.Nodup := by
  induction ns using List.reverseRecOn with
  | nil => simp
  | append_singleton ns n ih =>
    rw [eraseDups_concat]
    split
    · exact ih
    · rename_i hn
      refine List.nodup_append.mpr ⟨ih, by simp, ?_⟩
      intro a ha b hb he
      rw [List.mem_singleton] at hb
      rw [List.mem_eraseDups] at ha
      exact hn (hb ▸ he ▸ ha)

/-! ## Using one more name -/

variable {key : β → Text} {g : Text → β}

theorem alterNamed_map_of_notMem (hg : ∀ m, key (g m) = m) {n : Text} {f : Option β → β}
    {ns : List Text} (hn : n ∉ ns) : alterNamed key n f (ns.map g) = ns.map g ++ [f none] := by
  induction ns with
  | nil => rfl
  | cons m ns ih =>
    obtain ⟨hm, hns⟩ := not_or.mp (mt List.mem_cons.mpr hn)
    simp [alterNamed, hg, Ne.symm hm, ih hns]

theorem alterNamed_map_of_mem (hg : ∀ m, key (g m) = m) {n : Text} {f : Option β → β}
    {ns : List Text} (hn : n ∈ ns) (hd : ns.Nodup) :
    alterNamed key n f (ns.map g) = ns.map fun m => if m = n then f (some (g n)) else g m := by
  induction ns with
  | nil => exact absurd hn (by simp)
  | cons m ns ih =>
    obtain ⟨hm, hd⟩ := List.nodup_cons.mp hd
    by_cases hmn : m = n
    · subst hmn
      have hrest : ns.map (fun k => if k = m then f (some (g m)) else g k) = ns.map g := by
        refine List.map_congr_left fun k hk => ?_
        rw [if_neg fun he : k = m => hm (he ▸ hk)]
      simp only [List.map_cons, alterNamed, hg, if_true, hrest]
    · have hn : n ∈ ns := (List.mem_cons.mp hn).resolve_left (Ne.symm hmn)
      simp [alterNamed, hg, hmn, ih hn hd]

/-- **Using one more name.** The list has a thing for every name that came, in the order of first
arrival; the one of the name that is used changes, or comes to be if the name is new. -/
theorem alterNamed_map (key : β → Text) (g : Text → β) (hg : ∀ m, key (g m) = m)
    (ns : List Text) (n : Text) (f : Option β → β) :
    alterNamed key n f (ns.eraseDups.map g)
      = (ns ++ [n]).eraseDups.map fun m =>
          if m = n then f (if n ∈ ns then some (g n) else none) else g m := by
  rw [eraseDups_concat]
  by_cases hn : n ∈ ns
  · rw [alterNamed_map_of_mem hg (List.mem_eraseDups.mpr hn) (nodup_eraseDups ns)]
    simp [hn]
  · have hn' : n ∉ ns.eraseDups := mt List.mem_eraseDups.mp hn
    rw [alterNamed_map_of_notMem hg hn']
    have hold : (ns.eraseDups.map fun m =>
        if m = n then f (if n ∈ ns then some (g n) else none) else g m) = ns.eraseDups.map g := by
      refine List.map_congr_left fun k hk => ?_
      rw [if_neg fun he : k = n => hn' (he ▸ hk)]
    simp only [if_neg hn] at hold
    simp [hold, hn]

/-- Looking up a name finds the thing of that name, if the name has come. -/
theorem find?_map_eraseDups (key : β → Text) (g : Text → β) (hg : ∀ m, key (g m) = m)
    (ns : List Text) (n : Text) :
    (ns.eraseDups.map g).find? (fun b => key b = n) = if n ∈ ns then some (g n) else none := by
  have hpred : (fun b => decide (key b = n)) ∘ g = fun m => decide (m = n) := by
    funext m; simp [hg]
  rw [List.find?_map, hpred]
  by_cases hn : n ∈ ns
  · have hmem : n ∈ ns.eraseDups := List.mem_eraseDups.mpr hn
    rw [if_pos hn]
    cases hf : ns.eraseDups.find? (fun m => decide (m = n)) with
    | none => exact absurd (List.find?_eq_none.mp hf n hmem) (by simp)
    | some m =>
      have hm : m = n := by simpa using List.find?_some hf
      rw [hm]; rfl
  · have hf : ns.eraseDups.find? (fun m => decide (m = n)) = none := by
      rw [List.find?_eq_none]
      intro m hm
      simp only [decide_eq_true_eq]
      exact fun he => hn (he ▸ List.mem_eraseDups.mp hm)
    rw [hf, if_neg hn]; rfl

end DocPress
