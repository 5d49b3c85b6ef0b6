import DocPress.Yaml.Composition

/-!
# Reading nodes

What the composer does on the tokens of block collections that have no tags, anchors or aliases.
`Reads` says that a step takes tokens off the front and does nothing else, so the steps chain by
the tokens that one leaves to the next. Each kind of node has one rule, which asks for one unit of
fuel more than the steps inside it.
-/

namespace DocPress.Yaml.Compose

/-- From some tokens the step reads this and leaves the others. -/
def Reads {α : Type} (step : Compose α) (ts : List Token) (a : α) (r : List Token) : Prop :=
  ∀ s : Composer, step { s with tokens := ts } = .ok (a, { s with tokens := r })

section Steps

variable {α β : Type} {ts us r : List Token}

theorem reads_pure (a : α) (ts : List Token) : Reads (pure a) ts a ts := fun _ => rfl

theorem Reads.bind {step : Compose α} {next : α → Compose β} {a : α} {b : β}
    (h : Reads step ts a us) (hnext : Reads (next a) us b r) : Reads (step >>= next) ts b r := by
  intro s
  show (step { s with tokens := ts } >>= fun x => next x.1 x.2) = _
  rw [h s]
  exact hnext s

theorem reads_peek (t : Token) (ts : List Token) : Reads peek (t :: ts) t (t :: ts) := fun _ => rfl

theorem reads_skip (t : Token) (ts : List Token) : Reads skip (t :: ts) () ts := fun _ => rfl

theorem reads_accept (t : Token) (ts : List Token) : Reads (accept t) (t :: ts) true ts := by
  refine (reads_peek t ts).bind ?_
  rw [if_pos rfl]
  exact (reads_skip t ts).bind (reads_pure true ts)

theorem reads_accept_of_ne {t u : Token} (h : t ≠ u) (ts : List Token) :
    Reads (accept u) (t :: ts) false (t :: ts) := by
  refine (reads_peek t ts).bind ?_
  rw [if_neg h]
  exact reads_pure false (t :: ts)

theorem reads_expect (t : Token) (ts : List Token) : Reads (expect t) (t :: ts) () ts :=
  (reads_accept t ts).bind (reads_pure () ts)

theorem reads_sees (us : List Token) (t : Token) (ts : List Token) :
    Reads (sees us) (t :: ts) (us.contains t) (t :: ts) :=
  (reads_peek t ts).bind (reads_pure _ _)

end Steps

/-! ## Nodes -/

section Nodes

variable {f : Nat} {inBlock loose : Bool} {ts us ws r : List Token}

theorem reads_scalar (text : Text) (isPlain : Bool) (r : List Token) :
    Reads (node inBlock loose (f + 1)) (.scalar text isPlain :: r) (scalarNode none text isPlain)
      r := by
  intro s
  rw [node]
  rfl

theorem reads_properties {t : Token} (ts : List Token) (hanchor : ∀ name, t ≠ .anchor name)
    (htag : ∀ name rest, t ≠ .tag name rest) :
    Reads properties (t :: ts) (none, none) (t :: ts) := by
  intro s
  cases t with
  | anchor name => exact absurd rfl (hanchor name)
  | tag name rest => exact absurd rfl (htag name rest)
  | _ => rfl

/-- A node that has no name is not referred to. -/
theorem reads_nameless {isMapping : Bool} {read : Compose Node} {n : Node}
    (h : Reads read ts n r) :
    Reads
      (do
        checkName none
        bind none (.loop isMapping)
        let n ← read
        bind none n
        return n)
      ts n r := by
  have hcheck : Reads (checkName none) ts () ts := fun _ => rfl
  exact hcheck.bind ((reads_pure () ts).bind (h.bind ((reads_pure () r).bind (reads_pure n r))))

theorem reads_mapping {entries : List (Node × Node)} (h : Reads (blockEntries f) ts entries r) :
    Reads (node true loose (f + 1)) (.blockMapping :: ts) (.mapping .map entries) r := by
  rw [node]
  refine (reads_peek .blockMapping ts).bind ?_
  refine (reads_properties ts (by simp) (by simp)).bind ?_
  refine (reads_peek .blockMapping ts).bind ?_
  exact reads_nameless ((reads_skip _ ts).bind (h.bind (reads_pure _ r)))

theorem reads_sequence {items : List Node} (h : Reads (blockItems f) ts items r) :
    Reads (node true loose (f + 1)) (.blockSequence :: ts) (.sequence .seq items) r := by
  rw [node]
  refine (reads_peek .blockSequence ts).bind ?_
  refine (reads_properties ts (by simp) (by simp)).bind ?_
  refine (reads_peek .blockSequence ts).bind ?_
  exact reads_nameless ((reads_skip _ ts).bind (h.bind (reads_pure _ r)))

/-- A sequence without an indentation of its own begins with an item. -/
theorem reads_loose {items : List Node} (h : Reads (looseItems f) (.item :: ts) items r) :
    Reads (node inBlock true (f + 1)) (.item :: ts) (.sequence .seq items) r := by
  rw [node]
  refine (reads_peek .item ts).bind ?_
  refine (reads_properties ts (by simp) (by simp)).bind ?_
  refine (reads_peek .item ts).bind ?_
  exact reads_nameless (h.bind (reads_pure _ r))

/-- There is a node if none of the tokens that mean its absence is next. -/
theorem reads_nodeUnless {ends : List Token} {t : Token} {n : Node}
    (ht : ends.contains t = false) (h : Reads (node inBlock loose f) (t :: ts) n r) :
    Reads (nodeUnless ends inBlock loose (f + 1)) (t :: ts) n r := by
  rw [nodeUnless]
  refine (reads_sees ends t ts).bind ?_
  rw [ht]
  exact h

/-! ## Collections -/

theorem reads_blockItems_nil (r : List Token) :
    Reads (blockItems (f + 1)) (.blockEnd :: r) [] r := by
  rw [blockItems]
  refine (reads_accept_of_ne (by decide) r).bind ?_
  exact (reads_expect .blockEnd r).bind (reads_pure [] r)

theorem reads_blockItems_cons {n : Node} {ns : List Node}
    (h : Reads (nodeUnless [.item, .blockEnd] true false f) ts n us)
    (hrest : Reads (blockItems f) us ns r) :
    Reads (blockItems (f + 1)) (.item :: ts) (n :: ns) r := by
  rw [blockItems]
  refine (reads_accept .item ts).bind ?_
  exact h.bind (hrest.bind (reads_pure (n :: ns) r))

theorem reads_looseItems_nil (r : List Token) :
    Reads (looseItems (f + 1)) (.blockEnd :: r) [] (.blockEnd :: r) := by
  rw [looseItems]
  exact (reads_accept_of_ne (by decide) r).bind (reads_pure [] _)

theorem reads_looseItems_cons {n : Node} {ns : List Node}
    (h : Reads (nodeUnless [.item, .key, .value, .blockEnd] true false f) ts n us)
    (hrest : Reads (looseItems f) us ns r) :
    Reads (looseItems (f + 1)) (.item :: ts) (n :: ns) r := by
  rw [looseItems]
  refine (reads_accept .item ts).bind ?_
  exact h.bind (hrest.bind (reads_pure (n :: ns) r))

theorem reads_blockEntries_nil (r : List Token) :
    Reads (blockEntries (f + 1)) (.blockEnd :: r) [] r := by
  rw [blockEntries]
  refine (reads_accept_of_ne (by decide) r).bind ?_
  exact (reads_expect .blockEnd r).bind (reads_pure [] r)

theorem reads_blockEntries_cons {k v : Node} {es : List (Node × Node)}
    (hkey : Reads (nodeUnless [.key, .value, .blockEnd] true true f) ts k (.value :: us))
    (hvalue : Reads (nodeUnless [.key, .value, .blockEnd] true true f) us v ws)
    (hrest : Reads (blockEntries f) ws es r) :
    Reads (blockEntries (f + 1)) (.key :: ts) ((k, v) :: es) r := by
  rw [blockEntries]
  refine (reads_accept .key ts).bind ?_
  refine hkey.bind ?_
  refine (reads_accept .value us).bind ?_
  exact hvalue.bind (hrest.bind (reads_pure ((k, v) :: es) r))

/-- An entry whose key is a scalar. -/
theorem reads_blockEntries_scalar (text : Text) (isPlain : Bool) {v : Node}
    {es : List (Node × Node)} {t : Token}
    (ht : [Token.key, .value, .blockEnd].contains t = false)
    (hvalue : Reads (node true true (f + 1)) (t :: us) v ws)
    (hrest : Reads (blockEntries (f + 2)) ws es r) :
    Reads (blockEntries (f + 3)) (.key :: .scalar text isPlain :: .value :: t :: us)
      ((scalarNode none text isPlain, v) :: es) r :=
  reads_blockEntries_cons (reads_nodeUnless rfl (reads_scalar text isPlain _))
    (reads_nodeUnless ht hvalue) hrest

end Nodes

end DocPress.Yaml.Compose
