import DocPress.Proofs.Undecorating
import DocPress.Script.Extract

/-!
# Lines of the source

The line of a comment is a count that the lexer keeps while it goes through the prepared script.
Here the lexer is followed with the text before each comment in place of the count (`found`), and
that text is led back to the source: preparing turns each line terminator into one line feed, so a
place in the prepared script comes from one place in the source, and the terminators before either
are as many, apart from those that the source begins with.

These are dropped before the lexer starts to count, and nobody adds them again. So the line that a
comment is given is the line on which it opens, less the number of terminators at the start of the
source (`docComments_eq`), and the lines are right exactly if there are none of them
(`docComments_lines_iff`).
-/

namespace DocPress

namespace Text

/-! ## Line terminators -/

/-- The number of line terminators in a text: line feeds and carriage returns, where a return and a
feed after it are one. -/
def terminators : Text → Nat
  | [] => 0
  | '\r' :: '\n' :: cs => terminators cs + 1
  | c :: cs => if c = '\r' ∨ c = '\n' then terminators cs + 1 else terminators cs

/-- The part of a text that the first characters come from when its terminators are unified. -/
def takeUnified : Nat → Text → Text
  | 0, _ => []
  | _ + 1, [] => []
  | n + 1, '\r' :: '\n' :: cs => '\r' :: '\n' :: takeUnified n cs
  | n + 1, c :: cs => c :: takeUnified n cs

theorem unifyBreaks_cons {c : Char} {cs : Text} (h : ∀ r, c = '\r' → cs = '\n' :: r → False) :
    unifyBreaks (c :: cs) = (if c = '\r' then '\n' else c) :: unifyBreaks cs := by
  rw [unifyBreaks]
  intro r hc hcs
  exact h r hc hcs

/-- Unified, a text has a line feed for each of its terminators. -/
theorem terminators_eq_count (t : Text) : terminators t = (unifyBreaks t).count '\n' := by
  induction t using terminators.induct with
  | case1 => rfl
  | case2 cs ih => rw [terminators, unifyBreaks, List.count_cons_self, ih]
  | case3 c cs hpair hc ih =>
    rw [terminators, if_pos hc, unifyBreaks_cons hpair, ih]
    · rcases hc with rfl | rfl
      · rw [if_pos rfl, List.count_cons_self]
      · rw [if_neg (by decide), List.count_cons_self]
    · exact hpair
  | case4 c cs hpair hc ih =>
    obtain ⟨hreturn, hfeed⟩ := not_or.mp hc
    rw [terminators, if_neg hc, unifyBreaks_cons hpair, if_neg hreturn, List.count_cons_of_ne hfeed,
      ih]
    exact hpair

/-- A text is cut where its unified form is cut. -/
theorem exists_takeUnified (n : Nat) (t : Text) : ∃ r, t = takeUnified n t ++ r
    ∧ unifyBreaks (takeUnified n t) = (unifyBreaks t).take n
    ∧ unifyBreaks r = (unifyBreaks t).drop n := by
  induction n, t using takeUnified.induct with
  | case1 t => exact ⟨t, rfl, rfl, rfl⟩
  | case2 n => exact ⟨[], rfl, rfl, rfl⟩
  | case3 n cs ih =>
    obtain ⟨r, hcs, htake, hdrop⟩ := ih
    refine ⟨r, ?_, ?_, ?_⟩
    · rw [takeUnified, List.cons_append, List.cons_append, ← hcs]
    · rw [takeUnified, unifyBreaks, unifyBreaks, List.take_succ_cons, htake]
    · rw [unifyBreaks, List.drop_succ_cons, hdrop]
  | case4 n c cs hpair ih =>
    obtain ⟨r, hcs, htake, hdrop⟩ := ih
    -- what is taken of the rest does not begin with a line feed unless the rest does
    have hpair' : ∀ q, c = '\r' → takeUnified n cs = '\n' :: q → False := by
      intro q hc hq
      rw [hq, List.cons_append] at hcs
      exact hpair (q ++ r) hc hcs
    refine ⟨r, ?_, ?_, ?_⟩
    · rw [takeUnified, List.cons_append, ← hcs]
      exact hpair
    · rw [takeUnified, unifyBreaks_cons hpair', unifyBreaks_cons hpair, List.take_succ_cons, htake]
      exact hpair
    · rw [unifyBreaks_cons hpair, List.drop_succ_cons, hdrop]

/-- What is no line feed in the unified text is there in the text. -/
theorem of_unifyBreaks_cons {t u : Text} {c : Char} (hc : c ≠ '\n') (h : unifyBreaks t = c :: u) :
    ∃ r, t = c :: r ∧ unifyBreaks r = u := by
  induction t using unifyBreaks.induct with
  | case1 => exact absurd h (by simp [unifyBreaks])
  | case2 cs _ =>
    rw [unifyBreaks] at h
    exact absurd (List.cons.inj h).1.symm hc
  | case3 d cs hpair _ =>
    rw [unifyBreaks_cons hpair] at h
    obtain ⟨hd, hcs⟩ := List.cons.inj h
    split at hd
    · exact absurd hd.symm hc
    · exact ⟨cs, by rw [hd], hcs⟩

/-- The line feeds that a unified text begins with come from the terminators at the start. -/
theorem takeWhile_unifyBreaks (t : Text) : (unifyBreaks t).takeWhile (· == '\n')
    = unifyBreaks (t.takeWhile fun c => c == '\r' || c == '\n') := by
  induction t using unifyBreaks.induct with
  | case1 => rfl
  | case2 cs ih => simpa [unifyBreaks] using ih
  | case3 c cs hpair ih =>
    rw [unifyBreaks_cons hpair, List.takeWhile_cons, List.takeWhile_cons]
    by_cases hc : c = '\r' ∨ c = '\n'
    · have hpair' : ∀ q, c = '\r' → cs.takeWhile (fun c => c == '\r' || c == '\n') = '\n' :: q →
          False := by
        intro q hreturn hq
        cases cs with
        | nil => exact absurd hq (by simp)
        | cons d ds =>
          rw [List.takeWhile_cons] at hq
          split at hq
          · exact hpair ds hreturn (by rw [(List.cons.inj hq).1])
          · exact absurd hq (by simp)
      have hfeed : (if c = '\r' then '\n' else c) = '\n' := by
        rcases hc with rfl | rfl <;> rfl
      have hclass : (c == '\r' || c == '\n') = true := by simpa using hc
      rw [hfeed, hclass, if_pos rfl, if_pos (beq_self_eq_true '\n'), unifyBreaks_cons hpair', hfeed,
        ih]
    · obtain ⟨hreturn, hfeed⟩ := not_or.mp hc
      simp [hreturn, hfeed, unifyBreaks]

end Text

theorem Comment.line_read (t file : Text) (line : Int) : (read t file line).line = line := rfl

namespace Script

open Text

/-! ## Places in the source -/

/-- The byte order mark, if the source has one. -/
def mark : Text → Text
  | c :: _ => if c.toNat = 0xFEFF then [c] else []
  | [] => []

/-- The line terminators that the source begins with, behind a byte order mark. -/
def leading (source : Text) : Text :=
  (dropMark source).takeWhile fun c => c == '\r' || c == '\n'

/-- The part of the source before the place that the character at a place of the prepared script
comes from. -/
def sourceBefore (source : Text) (place : Nat) : Text :=
  mark source ++ takeUnified (terminators (leading source) + place) (dropMark source)

theorem mark_append (source : Text) : mark source ++ dropMark source = source := by
  cases source with
  | nil => rfl
  | cons c cs =>
    rw [mark, dropMark]
    split <;> rfl

theorem terminators_mark_append (source t : Text) :
    terminators (mark source ++ t) = terminators t := by
  cases source with
  | nil => rfl
  | cons c cs =>
    rw [mark]
    split
    · rename_i hc
      have hreturn : c ≠ '\r' := by
        rintro rfl
        exact absurd hc (by decide)
      have hfeed : c ≠ '\n' := by
        rintro rfl
        exact absurd hc (by decide)
      rw [List.singleton_append, terminators, if_neg (by simp [hreturn, hfeed])]
      intro r he
      exact absurd he hreturn
    · rfl

/-- The source, its terminators unified: those at the start, what the lexer reads, those at the
end. -/
theorem unifyBreaks_dropMark (source : Text) : ∃ core tail,
    unifyBreaks (dropMark source) = unifyBreaks (leading source) ++ core ++ tail
      ∧ prepare source = core ++ ['\n'] := by
  have hstart := List.takeWhile_append_dropWhile (p := (· == '\n'))
    (l := unifyBreaks (dropMark source))
  have hend := List.takeWhile_append_dropWhile (p := (· == '\n'))
    (l := ((unifyBreaks (dropMark source)).dropWhile (· == '\n')).reverse)
  rw [← List.reverse_inj, List.reverse_append, List.reverse_reverse] at hend
  refine ⟨trim (· == '\n') (unifyBreaks (dropMark source)),
    (((unifyBreaks (dropMark source)).dropWhile (· == '\n')).reverse.takeWhile (· == '\n')).reverse,
    ?_, rfl⟩
  rw [leading, ← takeWhile_unifyBreaks, List.append_assoc, trim, trimEnd, trimStart, hend, hstart]

/-- The source begins with as many terminators as line feeds are dropped. -/
theorem length_unifyBreaks_leading (source : Text) :
    (unifyBreaks (leading source)).length = terminators (leading source) := by
  rw [terminators_eq_count, leading, ← takeWhile_unifyBreaks, eq_comm, List.count_eq_length]
  intro c hc
  have hfeed := List.all_eq_true.mp List.all_takeWhile c hc
  rw [beq_iff_eq] at hfeed
  exact hfeed.symm

/-- **A place in the prepared script comes from a place in the source**, where the same text stands
and before which there are as many terminators, and those at the start besides. -/
theorem source_of_prepare {source before token rest : Text}
    (h : prepare source = before ++ (token ++ rest)) (hend : token.getLast? = some '/') :
    ∃ after, source = sourceBefore source before.length ++ after ∧ token <+: unifyBreaks after
      ∧ terminators (sourceBefore source before.length)
        = terminators (leading source) + before.count '\n' := by
  obtain ⟨core, tail, hunified, hprepare⟩ := unifyBreaks_dropMark source
  -- the line feed at the end is not part of the token
  obtain ⟨rest', rfl⟩ : ∃ rest', rest = rest' ++ ['\n'] := by
    rw [hprepare] at h
    have hlast := congrArg List.getLast? h
    rw [List.getLast?_concat, List.getLast?_append, List.getLast?_append] at hlast
    rcases List.eq_nil_or_concat rest with rfl | ⟨rest', c, hrest⟩
    · simp [hend] at hlast
    · rw [List.concat_eq_append] at hrest
      rw [hrest, List.getLast?_concat] at hlast
      obtain rfl := Option.some.inj hlast
      exact ⟨rest', hrest⟩
  have hcore : core = before ++ (token ++ rest') := by
    rw [hprepare, ← List.append_assoc, ← List.append_assoc] at h
    rw [List.append_cancel_right h, List.append_assoc]
  obtain ⟨after, hafter, htake, hdrop⟩ := exists_takeUnified
    (terminators (leading source) + before.length) (dropMark source)
  have hlen : terminators (leading source) + before.length
      = (unifyBreaks (leading source) ++ before).length := by
    rw [List.length_append, length_unifyBreaks_leading]
  have hcut : unifyBreaks (dropMark source)
      = unifyBreaks (leading source) ++ before ++ (token ++ (rest' ++ tail)) := by
    rw [hunified, hcore]
    simp
  rw [hcut, hlen, List.take_left] at htake
  rw [hcut, hlen, List.drop_left] at hdrop
  refine ⟨after, ?_, ?_, ?_⟩
  · rw [sourceBefore, List.append_assoc, hlen, ← hlen, ← hafter, mark_append]
  · rw [hdrop]
    exact List.prefix_append _ _
  · rw [sourceBefore, terminators_mark_append, terminators_eq_count, hlen, htake, List.count_append,
      ← terminators_eq_count]

/-! ## What a comment is to the lexer -/

theorem exists_of_through {close t : Text} {n : Nat} (h : through close t = some n) :
    ∃ w r, t = w ++ close ++ r ∧ n = (w ++ close).length := by
  induction t generalizing n with
  | nil => exact absurd h (by simp [through])
  | cons c t ih =>
    rw [through] at h
    split at h
    · rename_i hstart
      obtain ⟨r, hr⟩ := startsWith_iff.mp hstart
      obtain rfl := Option.some.inj h
      exact ⟨[], r, hr, rfl⟩
    · obtain ⟨m, hm, rfl⟩ := Option.map_eq_some_iff.mp h
      obtain ⟨w, r, rfl, rfl⟩ := ih hm
      exact ⟨c :: w, r, rfl, rfl⟩

/-- A block comment stands at the start of the text, from slash-star to star-slash. -/
theorem exists_of_blockComment {t : Text} (h : blockComment t ≠ 0) :
    ∃ w r, t = '/' :: '*' :: w ++ ['*', '/'] ++ r
      ∧ blockComment t = ('/' :: '*' :: w ++ ['*', '/']).length := by
  unfold blockComment at h ⊢
  split at h
  · rename_i t'
    cases hclose : through ['*', '/'] t' with
    | none => exact absurd (by rw [hclose]; rfl) h
    | some n =>
      obtain ⟨w, r, rfl, rfl⟩ := exists_of_through hclose
      exact ⟨w, r, rfl, rfl⟩
  · exact absurd rfl h

variable {d : Dialect} {s : State} {before : Option Char} {t : Text} {step : Step}

theorem blockComment_of_trivia (h : trivia? s t = some step) (hc : step.isComment = true) :
    blockComment t = step.length ∧ step.length ≠ 0 := by
  unfold trivia? at h
  split at h
  · obtain rfl := Option.some.inj h
    exact absurd hc (by simp)
  · split at h
    · obtain rfl := Option.some.inj h
      exact absurd hc (by simp)
    · split at h
      · rename_i n hn
        obtain rfl := Option.some.inj h
        exact ⟨hn, Nat.succ_ne_zero n⟩
      · exact absurd h (by simp)

theorem blockComment_of_operand {frames : List Frame} (h : operandStep? frames t = some step)
    (hc : step.isComment = true) : blockComment t = step.length ∧ step.length ≠ 0 := by
  rw [operandStep?, Option.or_eq_some_iff] at h
  rcases h with h | ⟨-, h⟩
  · exact blockComment_of_trivia h hc
  · -- a regular expression, closed or not, is no comment
    exfalso
    split at h
    · obtain rfl := Option.some.inj h
      exact absurd hc (by simp)
    · split at h
      · obtain rfl := Option.some.inj h
        exact absurd hc (by simp)
      · exact absurd h (by simp)

theorem blockComment_of_code {frames : List Frame}
    (hc : (codeStep d frames before t).isComment = true) :
    blockComment t = (codeStep d frames before t).length
      ∧ (codeStep d frames before t).length ≠ 0 := by
  unfold codeStep at hc ⊢
  dsimp only at hc ⊢
  split
  · rename_i step htrivia
    rw [htrivia] at hc
    exact blockComment_of_trivia htrivia hc
  · rename_i htrivia
    rw [htrivia] at hc
    dsimp only at hc
    split at hc
    · exact absurd hc (by simp)
    · exact absurd hc (by simp)

theorem isComment_templateStep (outer : List Frame) (t : Text) :
    (templateStep outer t).isComment = false := by
  unfold templateStep
  dsimp only
  split <;> rfl

/-- **The lexer takes a comment only where a block comment stands**, and takes all of it. -/
theorem blockComment_of_stepAt (hc : (stepAt d s before t).isComment = true) :
    blockComment t = (stepAt d s before t).length ∧ (stepAt d s before t).length ≠ 0 := by
  generalize hstep : stepAt d s before t = step at hc ⊢
  unfold stepAt at hstep
  split at hstep
  · subst hstep
    exact absurd hc (by simp)
  · subst hstep
    rw [isComment_templateStep] at hc
    exact absurd hc (by simp)
  · dsimp only at hstep
    split at hstep
    · rename_i hoperand
      subst hstep
      split at hoperand
      · exact blockComment_of_operand hoperand hc
      · exact absurd hoperand (by simp)
    · split at hstep
      · subst hstep
        exact absurd hc (by simp)
      · split at hstep
        · subst hstep
          exact absurd hc (by simp)
        · subst hstep
          exact blockComment_of_code hc

/-! ## Comments with the text before them -/

/-- The block comments that the lexer finds, each with all the text before it, of which `seen` has
been read. The first `skip` characters belong to the lexeme read last. -/
def foundFrom (d : Dialect) (s : State) (before : Option Char) (seen : Text) (skip : Nat) :
    Text → List (Text × Text)
  | [] => []
  | c :: cs =>
    match skip with
    | k + 1 => foundFrom d s (some c) (seen ++ [c]) k cs
    | 0 =>
      let step := stepAt d s before (c :: cs)
      let rest := foundFrom d step.next (some c) (seen ++ [c]) (step.length - 1) cs
      if step.isComment then (seen, (c :: cs).take step.length) :: rest else rest

/-- The block comments of a prepared script, each with the text before it. -/
def found (d : Dialect) (t : Text) : List (Text × Text) := foundFrom d {} none [] 0 t

/-- The lexer's count is that of the line feeds in the text before. -/
theorem commentsFrom_eq (d : Dialect) (s : State) (before : Option Char) (line : Nat) (seen : Text)
    (skip : Nat) (t : Text) : commentsFrom d s before (line + seen.count '\n') skip t
      = (foundFrom d s before seen skip t).map fun x => (line + x.1.count '\n', x.2) := by
  induction t generalizing s before seen skip with
  | nil => rfl
  | cons c cs ih =>
    have hline : (if c = '\n' then line + seen.count '\n' + 1 else line + seen.count '\n')
        = line + (seen ++ [c]).count '\n' := by
      rw [List.count_append, List.count_singleton]
      by_cases hc : c = '\n'
      · simp [hc]
        omega
      · simp [hc]
    cases skip with
    | succ k =>
      rw [commentsFrom, foundFrom, hline, ih]
    | zero =>
      rw [commentsFrom, foundFrom, hline, ih]
      split <;> rfl

/-- A comment is found where it stands. -/
theorem mem_foundFrom (d : Dialect) (s : State) (before : Option Char) (seen : Text) (skip : Nat)
    (t : Text) {x : Text × Text} (hx : x ∈ foundFrom d s before seen skip t) :
    x.2.getLast? = some '/' ∧ ∃ rest, seen ++ t = x.1 ++ (x.2 ++ rest) := by
  induction t generalizing s before seen skip with
  | nil => exact absurd hx (by simp [foundFrom])
  | cons c cs ih =>
    have hseen : seen ++ c :: cs = (seen ++ [c]) ++ cs := by simp
    cases skip with
    | succ k =>
      rw [hseen]
      exact ih _ _ _ _ hx
    | zero =>
      rw [foundFrom] at hx
      split at hx
      · rename_i hcomment
        rcases List.mem_cons.mp hx with rfl | hx
        · obtain ⟨hlen, hne⟩ := blockComment_of_stepAt hcomment
          obtain ⟨w, r, htext, hblock⟩ := exists_of_blockComment (hlen ▸ hne)
          rw [← hlen, hblock, htext, List.take_left]
          exact ⟨List.getLast?_append.trans rfl, r, by simp⟩
        · rw [hseen]
          exact ih _ _ _ _ hx
      · rw [hseen]
        exact ih _ _ _ _ hx

/-- A comment of the prepared script comes from a place in the source. -/
theorem source_of_found {d : Dialect} {source : Text} {x : Text × Text}
    (h : x ∈ found d (prepare source)) :
    ∃ after, source = sourceBefore source x.1.length ++ after ∧ x.2 <+: unifyBreaks after
      ∧ terminators (sourceBefore source x.1.length)
        = terminators (leading source) + x.1.count '\n' := by
  obtain ⟨hend, rest, hplace⟩ := mem_foundFrom _ _ _ _ _ _ h
  rw [List.nil_append] at hplace
  exact source_of_prepare hplace hend

/-- Where a doc comment opens: the source before it, and the comment as the lexer reads it. -/
structure Opening where
  before : Text
  token : Text
deriving Repr, DecidableEq

/-- The doc comments of a source, where they open. -/
def openings (d : Dialect) (source : Text) : List Opening :=
  ((found d (prepare source)).filter fun x => Body.isDoc x.2).map fun x =>
    ⟨sourceBefore source x.1.length, x.2⟩

/-- What begins like a doc comment once its terminators are unified begins like one before. -/
theorem prefix_of_isDoc {token after : Text} (hdoc : Body.isDoc token = true)
    (h : token <+: unifyBreaks after) : ['/', '*', '*'] <+: after := by
  obtain ⟨hstart, -⟩ := Bool.and_eq_true_iff.mp hdoc
  obtain ⟨r, rfl⟩ := startsWith_iff.mp hstart
  obtain ⟨q, hq⟩ := h
  obtain ⟨u, rfl, hu⟩ := of_unifyBreaks_cons (by decide) hq.symm
  obtain ⟨v, rfl, hv⟩ := of_unifyBreaks_cons (by decide) hu
  obtain ⟨w, rfl, -⟩ := of_unifyBreaks_cons (by decide) hv
  exact ⟨w, rfl⟩

/-- Each doc comment with its place in the source and the line that it is given. -/
theorem docComments_eq (d : Dialect) (source file : Text) :
    docComments d source file = (openings d source).map fun o =>
      Comment.read (Body.ofToken o.token) file
        (1 + terminators o.before - terminators (leading source)) := by
  have hcomments : comments d (prepare source)
      = (found d (prepare source)).map fun x => (1 + x.1.count '\n', x.2) := by
    have hfrom := commentsFrom_eq d {} none 1 [] 0 (prepare source)
    rwa [List.count_nil, Nat.add_zero] at hfrom
  rw [docComments, hcomments, List.filter_map, List.map_map, openings, List.map_map]
  refine List.map_congr_left fun x hx => ?_
  obtain ⟨-, -, -, hcount⟩ := source_of_found (List.mem_filter.mp hx).1
  have hline : ((1 + x.1.count '\n' : Nat) : Int)
      = 1 + terminators (sourceBefore source x.1.length) - terminators (leading source) := by
    rw [hcount]
    omega
  simp only [Function.comp]
  rw [hline]

/--
**The line of a doc comment in the source.**

Each doc comment is read from a place in the source where slash-star-star stands. Its line is one
and the number of line terminators before that place, less the number of terminators that the source
begins with. So the lines are those of the source exactly if there is no doc comment, or the source
does not begin with a line terminator.
-/
theorem docComments_lines_iff (d : Dialect) (source file : Text) :
    let lead := terminators (leading source)
    docComments d source file = (openings d source).map (fun o =>
        Comment.read (Body.ofToken o.token) file (1 + terminators o.before - lead))
      ∧ (∀ o ∈ openings d source, ∃ after, source = o.before ++ after
        ∧ ['/', '*', '*'] <+: after ∧ o.token <+: unifyBreaks after)
      ∧ ((docComments d source file).map (·.line)
          = (openings d source).map (fun o => (1 + terminators o.before : Int))
        ↔ openings d source = [] ∨ lead = 0) := by
  intro lead
  have hcomments := docComments_eq d source file
  refine ⟨hcomments, fun o ho => ?_, ?_⟩
  · obtain ⟨x, hx, rfl⟩ := List.mem_map.mp ho
    obtain ⟨hfound, hdoc⟩ := List.mem_filter.mp hx
    obtain ⟨after, hsource, htoken, -⟩ := source_of_found hfound
    exact ⟨after, hsource, prefix_of_isDoc hdoc htoken, htoken⟩
  · have hlines : (docComments d source file).map (·.line)
        = (openings d source).map fun o => (1 + terminators o.before - lead : Int) := by
      rw [hcomments, List.map_map]
      exact List.map_congr_left fun o _ => Comment.line_read _ file _
    rw [hlines]
    constructor
    · intro hsame
      rcases List.eq_nil_or_concat (openings d source) with hnil | ⟨os, o, hos⟩
      · exact Or.inl hnil
      · have hline := List.map_inj_left.mp hsame o (by simp [hos])
        right
        omega
    · rintro (hnil | hzero)
      · rw [hnil]
        rfl
      · refine List.map_congr_left fun o _ => ?_
        rw [hzero]
        omega

/-- A comment on the second line of a source whose first line is empty is given the first line. -/
theorem docComments_line_behind_empty :
    (openings .javascript "\n/** A. */".toList).map (fun o => (o.before, 1 + terminators o.before))
        = [("\n".toList, 2)]
      ∧ (docComments .javascript "\n/** A. */".toList "a.js".toList).map (·.line) = [1] := by
  decide

end Script
end DocPress
