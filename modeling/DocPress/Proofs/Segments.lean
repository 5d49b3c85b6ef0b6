import DocPress.Proofs.Gathering
import DocPress.Proofs.Trimming

/-!
# Segments of a directive

A directive is split at double slashes and the pieces are stripped. `IsSegment` says what a segment
is then: it has no blanks at its ends and no double slash in it. Single slashes it may have, at its
ends as well, and it may be empty.

Any list of segments can be written as a directive, with a double slash between blanks to set them
apart, and is read back as it was (`segments_retract`). The blanks matter: they keep a slash at the
end of a segment from those that follow it. Since every directive is split into segments, writing
them down again gives a directive that says the same.
-/

namespace DocPress.Placement

open Text

/-- A text that can be a segment of a directive. -/
def IsSegment (s : Text) : Prop := strip s = s ∧ ¬ ['/', '/'] <:+: s

instance (s : Text) : Decidable (IsSegment s) :=
  inferInstanceAs (Decidable (strip s = s ∧ ¬ ['/', '/'] <:+: s))

/-- The directive with the given segments. -/
def writeSegments (ss : List Text) : Text := join " // ".toList ss

/-! ## Splitting -/

/-- A character that does not open a double slash belongs to the first piece. -/
theorem splitSlashes_cons {c : Char} {t w : Text} {ws : List Text}
    (h : ¬ ['/', '/'] <+: c :: t) (hsplit : splitSlashes t = w :: ws) :
    splitSlashes (c :: t) = (c :: w) :: ws := by
  rw [splitSlashes, hsplit]
  rintro r rfl rfl
  exact h ⟨r, rfl⟩

theorem not_prefix_of_ne {c : Char} (hc : c ≠ '/') (t : Text) : ¬ ['/', '/'] <+: c :: t := by
  rintro ⟨r, hr⟩
  exact hc (List.cons.inj hr).1.symm

/-- A text without slashes goes to the first piece. -/
theorem splitSlashes_append_left {b : Text} (hb : '/' ∉ b) {t w : Text} {ws : List Text}
    (hsplit : splitSlashes t = w :: ws) : splitSlashes (b ++ t) = (b ++ w) :: ws := by
  induction b with
  | nil => exact hsplit
  | cons c b ih =>
    obtain ⟨hc, hb⟩ := not_or.mp (mt List.mem_cons.mpr hb)
    exact splitSlashes_cons (not_prefix_of_ne (Ne.symm hc) _) (ih hb)

/-- A text without slashes goes to the last piece. -/
theorem splitSlashes_append_right {b : Text} (hb : '/' ∉ b) (t : Text) :
    ∃ init last, splitSlashes t = init ++ [last] ∧ splitSlashes (t ++ b) = init ++ [last ++ b] := by
  induction t using splitSlashes.induct with
  | case1 =>
    have hsplit := splitSlashes_append_left hb (t := []) rfl
    exact ⟨[], [], rfl, by simpa using hsplit⟩
  | case2 cs ih =>
    obtain ⟨init, last, ht, hb⟩ := ih
    refine ⟨[] :: init, last, ?_, ?_⟩
    · rw [splitSlashes, ht]
      rfl
    · rw [List.cons_append, List.cons_append, splitSlashes, hb]
      rfl
  | case3 c cs hpair hnil ih => exact absurd hnil (splitSlashes_ne_nil cs)
  | case4 c cs hpair w ws hcons ih =>
    obtain ⟨init, last, ht, htb⟩ := ih
    have hstart : ¬ ['/', '/'] <+: c :: cs := by
      intro hslashes
      obtain ⟨hc, r, hr⟩ := List.cons_prefix_cons.mp hslashes
      exact hpair r hc.symm hr.symm
    have hstartb : ¬ ['/', '/'] <+: c :: (cs ++ b) := by
      intro hslashes
      obtain ⟨hc, r, hr⟩ := List.cons_prefix_cons.mp hslashes
      cases cs with
      | nil => exact hb (by rw [List.nil_append] at hr; simp [← hr])
      | cons d cs => exact hpair cs hc.symm (by rw [← (List.cons.inj hr).1])
    cases init with
    | nil => exact ⟨[], c :: last, splitSlashes_cons hstart ht, splitSlashes_cons hstartb htb⟩
    | cons u us =>
      exact ⟨(c :: u) :: us, last, splitSlashes_cons hstart ht, splitSlashes_cons hstartb htb⟩

/-- The first piece is how the text begins. -/
theorem prefix_of_splitSlashes {t w : Text} {ws : List Text} (h : splitSlashes t = w :: ws) :
    w <+: t := by
  induction t using splitSlashes.induct generalizing w ws with
  | case1 =>
    obtain ⟨rfl, -⟩ := List.cons.inj h
    exact List.nil_prefix
  | case2 cs ih =>
    rw [splitSlashes] at h
    obtain ⟨rfl, -⟩ := List.cons.inj h
    exact List.nil_prefix
  | case3 c cs hpair hnil ih => exact absurd hnil (splitSlashes_ne_nil cs)
  | case4 c cs hpair v vs hcons ih =>
    rw [splitSlashes, hcons] at h
    · obtain ⟨rfl, -⟩ := List.cons.inj h
      exact List.cons_prefix_cons.mpr ⟨rfl, ih hcons⟩
    · exact hpair

/-- No piece has a double slash in it. -/
theorem not_infix_of_mem_splitSlashes {t w : Text} (h : w ∈ splitSlashes t) :
    ¬ ['/', '/'] <:+: w := by
  induction t using splitSlashes.induct generalizing w with
  | case1 =>
    obtain rfl := List.mem_singleton.mp h
    simp
  | case2 cs ih =>
    rw [splitSlashes] at h
    rcases List.mem_cons.mp h with rfl | h
    · simp
    · exact ih h
  | case3 c cs hpair hnil ih => exact absurd hnil (splitSlashes_ne_nil cs)
  | case4 c cs hpair v vs hcons ih =>
    rw [hcons] at ih
    rw [splitSlashes, hcons] at h
    · rcases List.mem_cons.mp h with rfl | h
      · intro hin
        rcases List.infix_cons_iff.mp hin with hstart | hin
        · -- the text itself would go on with a second slash
          obtain ⟨hc, hv⟩ := List.cons_prefix_cons.mp hstart
          obtain ⟨r, hr⟩ := hv.trans (prefix_of_splitSlashes hcons)
          exact hpair r hc.symm hr.symm
        · exact ih (List.mem_cons_self ..) hin
      · exact ih (List.mem_cons_of_mem v h)
    · exact hpair

/-- A text without a double slash is one piece. -/
theorem splitSlashes_of_not_infix {s : Text} (h : ¬ ['/', '/'] <:+: s) : splitSlashes s = [s] := by
  induction s with
  | nil => rfl
  | cons c s ih =>
    obtain ⟨hstart, hrest⟩ := not_or.mp (mt List.infix_cons_iff.mpr h)
    exact splitSlashes_cons hstart (ih hrest)

/-- A text without a double slash is a piece up to the double slash that follows behind a blank. -/
theorem splitSlashes_spaced {s : Text} (h : ¬ ['/', '/'] <:+: s) (t : Text) :
    splitSlashes (s ++ ' ' :: '/' :: '/' :: t) = (s ++ [' ']) :: splitSlashes t := by
  induction s with
  | nil => exact splitSlashes_cons (not_prefix_of_ne (by decide) _) rfl
  | cons c s ih =>
    obtain ⟨hstart, hrest⟩ := not_or.mp (mt List.infix_cons_iff.mpr h)
    refine splitSlashes_cons (fun hpair => hstart ?_) (ih hrest)
    -- a slash at the end has the blank behind it
    cases s with
    | nil => exact absurd hpair (by simp [List.cons_prefix_cons])
    | cons d s =>
      obtain ⟨rfl, hsecond⟩ := List.cons_prefix_cons.mp hpair
      obtain ⟨rfl, -⟩ := List.cons_prefix_cons.mp hsecond
      exact ⟨s, rfl⟩

/-! ## Stripping the pieces -/

theorem slash_notMem_of_blanks {b : Text} (hb : ∀ c ∈ b, isBlank c = true) : '/' ∉ b :=
  fun hmem => absurd (hb '/' hmem) (by decide)

/-- Blanks before a directive are stripped from its first segment. -/
theorem map_strip_splitSlashes_left {b : Text} (hb : ∀ c ∈ b, isBlank c = true) (t : Text) :
    (splitSlashes (b ++ t)).map strip = (splitSlashes t).map strip := by
  obtain ⟨w, ws, hsplit⟩ := List.exists_cons_of_ne_nil (splitSlashes_ne_nil t)
  rw [splitSlashes_append_left (slash_notMem_of_blanks hb) hsplit, hsplit, List.map_cons,
    List.map_cons, strip, trim_append_left hb]
  rfl

/-- Blanks behind a directive are stripped from its last segment. -/
theorem map_strip_splitSlashes_right {b : Text} (hb : ∀ c ∈ b, isBlank c = true) (t : Text) :
    (splitSlashes (t ++ b)).map strip = (splitSlashes t).map strip := by
  obtain ⟨init, last, hsplit, happend⟩ := splitSlashes_append_right (slash_notMem_of_blanks hb) t
  rw [happend, hsplit, List.map_append, List.map_append, List.map_singleton, List.map_singleton,
    strip, trim_append_right last hb]
  rfl

/-- Stripping the directive first changes nothing. -/
theorem segments_eq (t : Text) : segments t = (splitSlashes t).map strip := by
  have hstart : ∀ c ∈ t.takeWhile isBlank, isBlank c = true := fun c hc => List.mem_takeWhile_imp hc
  have hend : ∀ c ∈ (t.dropWhile isBlank).rtakeWhile isBlank, isBlank c = true :=
    fun c hc => List.mem_rtakeWhile_imp hc
  have hrest : strip t ++ (t.dropWhile isBlank).rtakeWhile isBlank = t.dropWhile isBlank :=
    List.rdropWhile_append_rtakeWhile
  calc segments t = (splitSlashes (strip t)).map strip := rfl
    _ = (splitSlashes (t.dropWhile isBlank)).map strip := by
      rw [← hrest, map_strip_splitSlashes_right hend]
    _ = (splitSlashes t).map strip := by
      rw [← map_strip_splitSlashes_left hstart, List.takeWhile_append_dropWhile]

theorem isSegment_of_mem_segments {t s : Text} (h : s ∈ segments t) : IsSegment s := by
  obtain ⟨w, hw, rfl⟩ := List.mem_map.mp h
  exact ⟨trim_trim isBlank w, fun hin =>
    not_infix_of_mem_splitSlashes hw (hin.trans (infix_trim isBlank w))⟩

/-- Written segments are read back, one after the other. -/
theorem map_strip_splitSlashes_join {ss : List Text} (hne : ss ≠ []) (h : ∀ s ∈ ss, IsSegment s) :
    (splitSlashes (writeSegments ss)).map strip = ss := by
  induction ss with
  | nil => exact absurd rfl hne
  | cons s ss ih =>
    obtain ⟨⟨hstrip, hslashes⟩, hrest⟩ := List.forall_mem_cons.mp h
    cases ss with
    | nil =>
      have htext : writeSegments [s] = s := by simp [writeSegments, join]
      rw [htext, splitSlashes_of_not_infix hslashes, List.map_singleton, hstrip]
    | cons u us =>
      have htext : writeSegments (s :: u :: us)
          = s ++ ' ' :: '/' :: '/' :: ([' '] ++ writeSegments (u :: us)) := by
        rw [writeSegments, join_cons_cons, List.append_assoc]
        rfl
      have hfirst : strip (s ++ [' ']) = s := by
        rw [strip, trim_append_right s isBlank_of_mem_space]
        exact hstrip
      rw [htext, splitSlashes_spaced hslashes, List.map_cons, hfirst,
        map_strip_splitSlashes_left isBlank_of_mem_space, ih (List.cons_ne_nil u us) hrest]

/--
**Splitting a directive and writing its segments belong together.**

Every directive has segments, and each of them is one; and any segments, if there are any, are those
of the directive that is written with them.
-/
theorem segments_retract :
    (∀ directive, segments directive ≠ [] ∧ ∀ s ∈ segments directive, IsSegment s)
      ∧ ∀ ss, ss ≠ [] → (∀ s ∈ ss, IsSegment s) → segments (writeSegments ss) = ss := by
  constructor
  · exact fun t => ⟨segments_ne_nil t, fun s hs => isSegment_of_mem_segments hs⟩
  · intro ss hne h
    rw [segments_eq]
    exact map_strip_splitSlashes_join hne h

theorem segments_retract_of_slashes :
    (∀ s ∈ [[], "a/".toList, "/".toList, "/b c".toList, []], IsSegment s)
      ∧ segments " // a/ // / // /b c // ".toList
        = [[], "a/".toList, "/".toList, "/b c".toList, []] := by
  have hsegments : ∀ s ∈ [[], "a/".toList, "/".toList, "/b c".toList, []], IsSegment s := by
    decide
  exact ⟨hsegments, segments_retract.2 _ (by decide) hsegments⟩

end DocPress.Placement
