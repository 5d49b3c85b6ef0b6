import DocPress.Proofs.Undecorating
import DocPress.Script.Extract
import Mathlib.Data.List.Chain

/-!
# Scripts of blocks

A script that consists of doc comment blocks, set apart by line feeds, has exactly these doc
comments, each with the body that its block holds and the line on which the block opens
(`docComments_script`).

The lexer never leaves the state in which an operand is due: a block is a comment whatever stands
before it on the line, as nothing does, and line feeds are blanks. A block closes where it is meant
to, because a star at the end of the gutter or of a line is never followed by a slash.
-/

namespace DocPress

namespace Script

/-! ## Where a block closes -/

/-- A star and a slash do not follow each other. -/
def NotClosing (a b : Char) : Prop := a = '*' → b ≠ '/'

theorem isChain_of_not_infix {t : Text} (h : ¬ ['*', '/'] <:+: t) : t.IsChain NotClosing := by
  induction t with
  | nil => exact .nil
  | cons a t ih =>
    have hrest := ih fun hin => h (hin.trans (List.suffix_cons a t).isInfix)
    cases t with
    | nil => exact .singleton a
    | cons b t =>
      refine .cons_cons ?_ hrest
      rintro rfl rfl
      exact h ⟨[], t, rfl⟩

theorem through_close {w : Text} (h : w.IsChain NotClosing) (r : Text) :
    through ['*', '/'] (w ++ '*' :: '/' :: r) = some (w.length + 2) := by
  induction w with
  | nil => rfl
  | cons a w ih =>
    have hrest := ih h.tail
    -- a star here is not followed by the slash, be it in the text or behind it
    have hno : Text.startsWith ['*', '/'] (a :: (w ++ '*' :: '/' :: r)) = false := by
      rw [Bool.eq_false_iff]
      intro hstart
      obtain ⟨q, hq⟩ := Text.startsWith_iff.mp hstart
      obtain ⟨rfl, htail⟩ := List.cons.inj hq
      cases w with
      | nil => exact absurd htail (by simp)
      | cons b w =>
        obtain rfl := (List.cons.inj htail).1
        exact (List.isChain_cons_cons.mp h).1 rfl rfl
    rw [List.cons_append, through, hno, hrest]
    rfl

/-- What stands between the first slash-star and the last star-slash of a block. -/
def inside (ls : List Text) : Text :=
  "*\n".toList ++ (ls.flatMap (fun l => Body.gutter l ++ ['\n']) ++ [' '])

theorem block_eq (ls : List Text) (r : Text) :
    Body.block ls ++ r = '/' :: '*' :: (inside ls ++ '*' :: '/' :: r) := by
  simp [Body.block, inside]

theorem isChain_inside {ls : List Text} (h : ∀ l ∈ ls, l.IsChain NotClosing) :
    (inside ls).IsChain NotClosing := by
  have hfree : ∀ {a : Char} {t : Text}, a ≠ '*' → t.IsChain NotClosing →
      (a :: t).IsChain NotClosing := fun ha ht =>
    List.isChain_cons.mpr ⟨fun _ _ he => absurd he ha, ht⟩
  -- a line stands between the blank of its gutter and its line feed, and neither makes a pair
  have hlines : (ls.flatMap (fun l => Body.gutter l ++ ['\n']) ++ [' ']).IsChain NotClosing := by
    induction ls with
    | nil => exact .singleton ' '
    | cons l ls ih =>
      have hrest := hfree (a := '\n') (by decide) (ih fun m hm => h m (List.mem_cons_of_mem l hm))
      have hline : (l ++ '\n' :: (ls.flatMap (fun l => Body.gutter l ++ ['\n']) ++ [' '])).IsChain
          NotClosing := by
        refine List.isChain_append.mpr ⟨h l (List.mem_cons_self ..), hrest, ?_⟩
        intro _ _ b hb _
        obtain rfl := Option.some.inj hb
        decide
      have htext : (l :: ls).flatMap (fun l => Body.gutter l ++ ['\n']) ++ [' ']
          = ' ' :: '*' :: ' ' :: (l ++ '\n' :: (ls.flatMap (fun l => Body.gutter l ++ ['\n'])
            ++ [' '])) := by simp [Body.gutter]
      rw [htext]
      refine hfree (by decide) (List.isChain_cons_cons.mpr ⟨fun _ => by decide, ?_⟩)
      exact hfree (by decide) hline
  exact List.isChain_cons_cons.mpr ⟨fun _ => by decide, hfree (by decide) hlines⟩

/-- A block is a comment, whatever follows it. -/
theorem blockComment_block {ls : List Text} (h : ∀ l ∈ ls, l.IsChain NotClosing) (r : Text) :
    blockComment (Body.block ls ++ r) = (Body.block ls).length := by
  have hlen := congrArg List.length (block_eq ls [])
  rw [block_eq, blockComment, through_close (isChain_inside h)]
  simp at hlen ⊢
  omega

/-! ## Steps of the lexer -/

theorem many_isBlank_slash (t : Text) : many isBlank ('/' :: t) = 0 := by
  have hslash : isBlank '/' = false := by decide
  simp [many, hslash]

/-- A block is taken at once. -/
theorem trivia_block {ls : List Text} (h : ∀ l ∈ ls, l.IsChain NotClosing) (s : State) (r : Text) :
    trivia? s (Body.block ls ++ r)
      = some { length := (Body.block ls).length, next := s, isComment := true } := by
  have hcomment := blockComment_block h r
  have hpos : (Body.block ls).length = (Body.block ls).length - 1 + 1 := by
    have hlen := congrArg List.length (block_eq ls [])
    simp at hlen
    omega
  rw [trivia?, hcomment, hpos, block_eq, many_isBlank_slash]
  rfl

/-- Line feeds before something that is not blank are taken at once. -/
theorem trivia_feeds {n : Nat} (hn : 0 < n) (s : State) {r : Text}
    (hr : ∀ c, r.head? = some c → isBlank c = false) :
    trivia? s (List.replicate n '\n' ++ r) = some { length := n, next := s } := by
  have hfeed : isBlank '\n' = true := by decide
  have hmany : many isBlank (List.replicate n '\n' ++ r) = n := by
    -- the rest does not begin with a blank, so nothing of it is taken along
    have hnone : r.takeWhile isBlank = [] := by
      cases r with
      | nil => rfl
      | cons c r => rw [List.takeWhile_cons, hr c rfl]; rfl
    rw [many, List.takeWhile_append_of_pos (by simp [hfeed]), hnone, List.append_nil,
      List.length_replicate]
  obtain ⟨m, rfl⟩ : ∃ m, n = m + 1 := ⟨n - 1, by omega⟩
  rw [trivia?, hmany]

/-- The state in which the lexer stands between blocks. -/
def between : State := ⟨[], .operand⟩

theorem stepAt_between (d : Dialect) (before : Option Char) {t : Text} {step : Step}
    (h : trivia? between t = some step) : stepAt d between before t = step := by
  have hoperand : operandStep? [] t = some step := by
    rw [operandStep?, show trivia? ⟨[], .operand⟩ t = some step from h]
    rfl
  unfold stepAt between
  simp [hoperand]

/-- At the start of a script an operand is due if the script begins with a slash or a blank. -/
theorem stepAt_start (d : Dialect) {t : Text} {step : Step} (hopens : opensLine t = true)
    (h : trivia? between t = some step) : stepAt d {} none t = step := by
  have hoperand : operandStep? [] t = some step := by
    rw [operandStep?, show trivia? ⟨[], .operand⟩ t = some step from h]
    rfl
  unfold stepAt
  simp [hoperand, hopens, startsLine]

/-- The characters of a lexeme are passed over, and the line feeds among them are counted. -/
theorem commentsFrom_skip (d : Dialect) (s : State) (before : Option Char) (line : Nat)
    (w t : Text) : commentsFrom d s before line w.length (w ++ t)
      = commentsFrom d s (w.getLast?.or before) (line + w.count '\n') 0 t := by
  induction w generalizing before line with
  | nil => rfl
  | cons c w ih =>
    -- what the rest has before it is the last character, or the one that is passed over first
    have hlast : (c :: w).getLast?.or before = w.getLast?.or (some c) := by
      rw [List.getLast?_cons]
      cases w.getLast? <;> rfl
    rw [hlast, List.cons_append, List.length_cons, commentsFrom]
    by_cases hc : c = '\n'
    · subst hc
      simp only [if_true]
      rw [ih, List.count_cons_self]
      congr 1
      omega
    · simp only [hc, if_false]
      rw [ih, List.count_cons_of_ne hc]

/-- One lexeme and then the rest. -/
theorem commentsFrom_step {d : Dialect} {s : State} {before : Option Char} (line : Nat) {w t : Text}
    {step : Step} (hw : w ≠ []) (h : stepAt d s before (w ++ t) = step)
    (hlen : step.length = w.length) :
    commentsFrom d s before line 0 (w ++ t)
      = (if step.isComment then [(line, w)] else [])
        ++ commentsFrom d step.next w.getLast? (line + w.count '\n') 0 t := by
  obtain ⟨c, w, rfl⟩ := List.exists_cons_of_ne_nil hw
  have hrest : commentsFrom d step.next (some c) (if c = '\n' then line + 1 else line)
      (step.length - 1) (w ++ t)
      = commentsFrom d step.next (c :: w).getLast? (line + (c :: w).count '\n') 0 t := by
    have hskip := commentsFrom_skip d step.next none line (c :: w) t
    rw [Option.or_none, List.cons_append, List.length_cons, commentsFrom] at hskip
    rw [hlen, List.length_cons, Nat.add_sub_cancel]
    exact hskip
  rw [List.cons_append, commentsFrom]
  simp only [List.cons_append] at h
  rw [h, hrest, hlen, ← List.cons_append, List.take_left]
  split <;> rfl

/-! ## Scripts of blocks -/

/-- A block holds a body: an empty one without a line or with an empty line, or one in normal form
with each of its lines, where no star-slash would close the block. -/
inductive Holds : (body block : Text) → Prop where
  | empty : Holds [] (Body.block [])
  | emptyLine : Holds [] (Body.block [[]])
  | lines {body : Text} (normal : Body.IsNormal (Text.splitOn '\n' body))
      (isOpen : ¬ ['*', '/'] <:+: body) : Holds body (Body.block (Text.splitOn '\n' body))

/-- A block in a script, with the number of line feeds before it and the body that it holds. -/
structure Piece where
  feeds : Nat
  body : Text
  block : Text

/-- Blocks with line feeds before them. -/
def script (pieces : List Piece) : Text :=
  pieces.flatMap fun p => List.replicate p.feeds '\n' ++ p.block

theorem Holds.eq_block {body block : Text} (h : Holds body block) :
    ∃ ls, block = Body.block ls ∧ (∀ l ∈ ls, l.IsChain NotClosing)
      ∧ (∀ l ∈ ls, '\r' ∉ l) ∧ Body.ofToken block = body := by
  cases h with
  | empty => exact ⟨[], rfl, by simp, by simp, Body.ofToken_block_empty.1⟩
  | emptyLine => exact ⟨[[]], rfl, by simp, by simp, Body.ofToken_block_empty.2⟩
  | lines normal isOpen =>
    refine ⟨_, rfl, fun l hl => ?_, fun l hl hmem => ?_, ?_⟩
    · exact isChain_of_not_infix fun hin => isOpen (hin.trans (Text.infix_of_mem_splitOn hl))
    · exact absurd (normal.noBreak l hl '\r' hmem) (by decide)
    · rw [Body.ofToken_block normal, Text.join_splitOn]

/-- The blocks of a script, each with the line on which it opens. -/
def opened (line : Nat) : List Piece → List (Nat × Text)
  | [] => []
  | p :: ps => (line + p.feeds, p.block) :: opened (line + p.feeds + p.block.count '\n') ps

theorem length_opened (line : Nat) (pieces : List Piece) :
    (opened line pieces).length = pieces.length := by
  induction pieces generalizing line with
  | nil => rfl
  | cons p ps ih => rw [opened, List.length_cons, ih, List.length_cons]

/-- A block opens on the line that the line feeds before it lead to. -/
theorem getElem?_opened (line : Nat) (before : List Piece) (p : Piece) (after : List Piece) :
    (opened line (before ++ p :: after))[before.length]?
      = some (line + (script before ++ List.replicate p.feeds '\n').count '\n', p.block) := by
  induction before generalizing line with
  | nil => simp [opened, script]
  | cons q before ih =>
    rw [List.cons_append, opened, List.length_cons, List.getElem?_cons_succ, ih]
    congr 2
    simp [script, List.count_append]
    omega

theorem head?_block (ls : List Text) : (Body.block ls).head? = some '/' := rfl

/-- One block after line feeds, and then the rest. -/
theorem commentsFrom_piece (d : Dialect) (before : Option Char) (line : Nat) {p : Piece}
    (hholds : Holds p.body p.block) (hfeeds : 0 < p.feeds) (t : Text) :
    ∃ before', commentsFrom d between before line 0 (List.replicate p.feeds '\n' ++ (p.block ++ t))
      = (line + p.feeds, p.block)
        :: commentsFrom d between before' (line + p.feeds + p.block.count '\n') 0 t := by
  obtain ⟨ls, hblock, hchain, -, -⟩ := hholds.eq_block
  have hhead : ∀ c, (p.block ++ t).head? = some c → isBlank c = false := by
    intro c hc
    rw [hblock, List.head?_append, head?_block] at hc
    obtain rfl := Option.some.inj hc
    decide
  have hne : List.replicate p.feeds '\n' ≠ [] := by simp; omega
  -- two lexemes, and the lexer is between blocks before and after each of them
  have hfirst := commentsFrom_step line hne
    (stepAt_between d before (trivia_feeds hfeeds between hhead)) (by simp)
  have hcomment := trivia_block hchain between t
  rw [← hblock] at hcomment
  have hneBlock : p.block ≠ [] := by
    intro hnil
    rw [hnil] at hblock
    exact absurd hblock (by simp [Body.block])
  have hsecond := fun b => commentsFrom_step (line + p.feeds) hneBlock
    (stepAt_between d b hcomment) rfl
  refine ⟨p.block.getLast?, ?_⟩
  rw [hfirst, List.count_replicate_self, hsecond]
  rfl

/-- Blocks one after the other, up to the line feed that ends the script. -/
theorem commentsFrom_script (d : Dialect) (before : Option Char) (line : Nat) {pieces : List Piece}
    (hholds : ∀ p ∈ pieces, Holds p.body p.block) (hfeeds : ∀ p ∈ pieces, 0 < p.feeds) :
    commentsFrom d between before line 0 (script pieces ++ ['\n']) = opened line pieces := by
  induction pieces generalizing before line with
  | nil =>
    have hend := commentsFrom_step line (w := ['\n']) (t := []) (by simp)
      (stepAt_between d before (trivia_feeds (n := 1) (by omega) between (r := []) (by simp))) rfl
    exact hend
  | cons p ps ih =>
    have htext : script (p :: ps) ++ ['\n']
        = List.replicate p.feeds '\n' ++ (p.block ++ (script ps ++ ['\n'])) := by simp [script]
    obtain ⟨before', hfirst⟩ := commentsFrom_piece d before line
      (hholds p (List.mem_cons_self ..)) (hfeeds p (List.mem_cons_self ..)) (script ps ++ ['\n'])
    rw [htext, hfirst, ih before' _ (fun q hq => hholds q (List.mem_cons_of_mem p hq))
      fun q hq => hfeeds q (List.mem_cons_of_mem p hq)]
    rfl

/-- A script in which a block comes first. -/
theorem comments_script (d : Dialect) {pieces : List Piece}
    (hholds : ∀ p ∈ pieces, Holds p.body p.block)
    (hfirst : ∀ p, pieces.head? = some p → p.feeds = 0) (hfeeds : ∀ p ∈ pieces.tail, 0 < p.feeds) :
    comments d (script pieces ++ ['\n']) = opened 1 pieces := by
  cases pieces with
  | nil =>
    have hstep := stepAt_start d (t := ['\n']) (by decide)
      (trivia_feeds (n := 1) (by omega) between (r := []) (by simp))
    exact commentsFrom_step 1 (w := ['\n']) (t := []) (by simp) hstep rfl
  | cons p ps =>
    have hp := hholds p (List.mem_cons_self ..)
    obtain ⟨ls, hblock, hchain, -, -⟩ := hp.eq_block
    have hzero : p.feeds = 0 := hfirst p rfl
    have htext : script (p :: ps) ++ ['\n'] = p.block ++ (script ps ++ ['\n']) := by
      simp [script, hzero]
    -- only here the lexer is at its start, where it tells by the slash that an operand is due
    have hopens : opensLine (p.block ++ (script ps ++ ['\n'])) = true := by
      rw [opensLine, List.head?_append, hblock, head?_block]
      rfl
    have hcomment := trivia_block hchain between (script ps ++ ['\n'])
    rw [← hblock] at hcomment
    have hne : p.block ≠ [] := by
      intro hnil
      rw [hnil] at hblock
      exact absurd hblock (by simp [Body.block])
    have hstep := commentsFrom_step 1 hne (stepAt_start d hopens hcomment) rfl
    have hrest := commentsFrom_script d p.block.getLast? (1 + p.block.count '\n')
      (fun q hq => hholds q (List.mem_cons_of_mem p hq)) hfeeds
    rw [htext, comments, hstep, opened, hzero]
    exact congrArg ((1, p.block) :: ·) hrest

/-! ## Preparing a script -/

theorem unifyBreaks_of_notMem {t : Text} (h : '\r' ∉ t) : Text.unifyBreaks t = t := by
  induction t with
  | nil => rfl
  | cons c t ih =>
    obtain ⟨hc, ht⟩ := not_or.mp (mt List.mem_cons.mpr h)
    rw [Text.unifyBreaks, if_neg (Ne.symm hc), ih ht]
    rintro r rfl -
    exact hc rfl

/-- A text that begins and ends with a slash and has no carriage return only gets a line feed. -/
theorem prepare_of_slashes {t : Text} (h : '\r' ∉ t) (hfirst : t.head? = some '/')
    (hlast : t.getLast? = some '/') : prepare t = t ++ ['\n'] := by
  obtain ⟨r, rfl⟩ := List.head?_eq_some_iff.mp hfirst
  have hmark : dropMark ('/' :: r) = '/' :: r := rfl
  have hstart : Text.trimStart (· == '\n') ('/' :: r) = '/' :: r := rfl
  obtain ⟨q, hq⟩ := List.getLast?_eq_some_iff.mp hlast
  have hend : Text.trimEnd (· == '\n') ('/' :: r) = '/' :: r := by
    rw [hq]
    exact Text.trimEnd_concat q (by decide)
  rw [prepare, hmark, unifyBreaks_of_notMem h, Text.trim, hstart, hend]

theorem isDoc_block (ls : List Text) : Body.isDoc (Body.block ls) = true := rfl

theorem getLast?_block (ls : List Text) : (Body.block ls).getLast? = some '/' := by
  have htext : Body.block ls
      = ("/**\n".toList ++ ls.flatMap (fun l => Body.gutter l ++ ['\n']) ++ [' ', '*'])
        ++ ['/'] := by
    simp [Body.block]
  rw [htext, List.getLast?_append, List.getLast?_singleton]
  rfl

theorem notMem_block {ls : List Text} {c : Char} (hls : ∀ l ∈ ls, c ∉ l)
    (hc : c ∉ ['/', '*', ' ', '\n']) : c ∉ Body.block ls := by
  have hopening : "/**\n".toList ⊆ ['/', '*', ' ', '\n'] := by decide
  have hgutter : [' ', '*', ' '] ⊆ ['/', '*', ' ', '\n'] := by decide
  have hfeed : ['\n'] ⊆ ['/', '*', ' ', '\n'] := by decide
  have hclosing : " */".toList ⊆ ['/', '*', ' ', '\n'] := by decide
  have hlines : c ∉ ls.flatMap (fun l => Body.gutter l ++ ['\n']) := by
    intro hmem
    obtain ⟨l, hl, hmem⟩ := List.mem_flatMap.mp hmem
    have htext : Body.gutter l ++ ['\n'] = [' ', '*', ' '] ++ (l ++ ['\n']) := rfl
    rw [htext, List.mem_append, List.mem_append] at hmem
    rcases hmem with hmem | hmem | hmem
    · exact hc (hgutter hmem)
    · exact hls l hl hmem
    · exact hc (hfeed hmem)
  rw [Body.block, List.mem_append, List.mem_append]
  rintro ((hmem | hmem) | hmem)
  · exact hc (hopening hmem)
  · exact hlines hmem
  · exact hc (hclosing hmem)

theorem prepare_script {pieces : List Piece} (hholds : ∀ p ∈ pieces, Holds p.body p.block)
    (hfirst : ∀ p, pieces.head? = some p → p.feeds = 0) :
    prepare (script pieces) = script pieces ++ ['\n'] := by
  have hreturn : '\r' ∉ script pieces := by
    intro hmem
    obtain ⟨p, hp, hmem⟩ := List.mem_flatMap.mp hmem
    obtain ⟨ls, hblock, -, hno, -⟩ := (hholds p hp).eq_block
    rcases List.mem_append.mp hmem with hmem | hmem
    · exact absurd (List.eq_of_mem_replicate hmem) (by decide)
    · exact notMem_block hno (by decide) (hblock ▸ hmem)
  rcases List.eq_nil_or_concat pieces with rfl | ⟨init, last, hlast⟩
  · rfl
  -- the first block begins the script and the last one ends it, so there is nothing to trim
  have hends : (script pieces).getLast? = some '/' := by
    obtain ⟨ls, hblock, -, -, -⟩ := (hholds last (by simp [hlast])).eq_block
    have htext : script pieces
        = script init ++ List.replicate last.feeds '\n' ++ Body.block ls := by
      simp [hlast, script, hblock]
    rw [htext, List.getLast?_append, getLast?_block]
    rfl
  refine prepare_of_slashes hreturn ?_ hends
  cases pieces with
  | nil => exact absurd hends (by simp [script])
  | cons p ps =>
    obtain ⟨ls, hblock, -, -, -⟩ := (hholds p (List.mem_cons_self ..)).eq_block
    have htext : script (p :: ps) = Body.block ls ++ script ps := by
      simp [script, hblock, hfirst p rfl]
    rw [htext, List.head?_append, head?_block]
    rfl

theorem block_of_mem_opened {line : Nat} {pieces : List Piece} {e : Nat × Text}
    (h : e ∈ opened line pieces) : ∃ p ∈ pieces, e.2 = p.block := by
  induction pieces generalizing line with
  | nil => exact absurd h (by simp [opened])
  | cons p ps ih =>
    rcases List.mem_cons.mp h with rfl | h
    · exact ⟨p, List.mem_cons_self .., rfl⟩
    · obtain ⟨q, hq, he⟩ := ih h
      exact ⟨q, List.mem_cons_of_mem p hq, he⟩

/--
**A script of blocks has exactly their bodies as its doc comments.**

In either dialect, where blocks hold bodies and are set apart by line feeds, there are as many doc
comments as blocks, and each is its block's body, read as on the line on which the block opens.
-/
theorem docComments_script (d : Dialect) (file : Text) (pieces : List Piece)
    (hholds : ∀ p ∈ pieces, Holds p.body p.block)
    (hfirst : ∀ p, pieces.head? = some p → p.feeds = 0)
    (hfeeds : ∀ p ∈ pieces.tail, 0 < p.feeds) :
    (docComments d (script pieces) file).length = pieces.length
      ∧ ∀ before p after, pieces = before ++ p :: after →
        (docComments d (script pieces) file)[before.length]? = some (Comment.read p.body file
          (1 + (script before ++ List.replicate p.feeds '\n').count '\n' : Nat)) := by
  -- each comment that is found is a block, so none is left out
  have hdoc : ∀ e ∈ opened 1 pieces, Body.isDoc e.2 = true := by
    intro e he
    obtain ⟨p, hp, hblock⟩ := block_of_mem_opened he
    obtain ⟨ls, hls, -, -, -⟩ := (hholds p hp).eq_block
    rw [hblock, hls]
    exact isDoc_block ls
  have hcomments : docComments d (script pieces) file
      = (opened 1 pieces).map fun e => Comment.read (Body.ofToken e.2) file e.1 := by
    rw [docComments, prepare_script hholds hfirst, comments_script d hholds hfirst hfeeds,
      List.filter_eq_self.mpr hdoc]
  rw [hcomments]
  refine ⟨by rw [List.length_map, length_opened], ?_⟩
  rintro before p after rfl
  obtain ⟨-, -, -, -, hbody⟩ := (hholds p (by simp)).eq_block
  rw [List.getElem?_map, getElem?_opened, Option.map_some, hbody]

theorem docComments_script_of_two :
    Body.IsNormal (Text.splitOn '\n' "* a\n\n   b\n/ c".toList)
      ∧ (docComments .typescript "/**\n */\n\n/**\n * * a\n * \n *    b\n * / c\n */".toList
        "a.ts".toList).length = 2
      ∧ (docComments .typescript "/**\n */\n\n/**\n * * a\n * \n *    b\n * / c\n */".toList
        "a.ts".toList)[1]? = some (Comment.read "* a\n\n   b\n/ c".toList "a.ts".toList 4) := by
  have hnormal : Body.IsNormal (Text.splitOn '\n' "* a\n\n   b\n/ c".toList) := by
    have hnoBreak : ((Text.splitOn '\n' "* a\n\n   b\n/ c".toList).all fun l =>
        l.all fun c => isLineBreak c = false) = true := by decide
    refine ⟨by simpa only [List.all_eq_true, decide_eq_true_eq] using hnoBreak,
      ⟨"* a".toList, by decide⟩, ⟨"/ c".toList, by decide⟩, by decide, ?_⟩
    rintro c hc -
    refine ⟨"/ c".toList, by decide, by decide, fun hhead => ?_⟩
    obtain rfl := Option.some.inj hhead
    exact absurd hc (by decide)
  have hlines : Holds "* a\n\n   b\n/ c".toList
      (Body.block (Text.splitOn '\n' "* a\n\n   b\n/ c".toList)) :=
    .lines hnormal (by simp [List.infix_cons_iff, List.cons_prefix_cons])
  have hscript : script [⟨0, [], Body.block []⟩, ⟨2, "* a\n\n   b\n/ c".toList,
      Body.block (Text.splitOn '\n' "* a\n\n   b\n/ c".toList)⟩]
      = "/**\n */\n\n/**\n * * a\n * \n *    b\n * / c\n */".toList := by decide
  have hboth := docComments_script .typescript "a.ts".toList
    [⟨0, [], Body.block []⟩, ⟨2, "* a\n\n   b\n/ c".toList,
      Body.block (Text.splitOn '\n' "* a\n\n   b\n/ c".toList)⟩]
    (List.forall_mem_cons.mpr ⟨.empty, List.forall_mem_singleton.mpr hlines⟩)
    (by rintro p hp; obtain rfl := Option.some.inj hp; rfl)
    (by rintro p hp; obtain rfl := List.mem_singleton.mp hp; decide)
  rw [hscript] at hboth
  have hsecond := hboth.2 [⟨0, [], Body.block []⟩] _ [] rfl
  have hline : 1 + (script [⟨0, [], Body.block []⟩] ++ List.replicate 2 '\n').count '\n' = 4 := by
    decide
  rw [hline] at hsecond
  exact ⟨hnormal, hboth.1, hsecond⟩

end Script

end DocPress
