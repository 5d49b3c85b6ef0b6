import DocPress.Proofs.PagesKept
import DocPress.Proofs.PublishAgreement

/-!
# The result accounts for the disk

Of what is to be written for a document, each page and the manifest ends up in the result once: as a
path that was written, or as an error. The files below the document's directory are then those of
the paths that were written, each with the text that was written to it last, and nothing that was
there before is left.

Recreating the directory leaves nothing of it (`recreate_cleared`), so what follows depends on the
rest of the disk alone. The rest of the argument is about a run of writes: `fates` says what each of
them meets, and what a disk holds after the run is told by the writes that met no error
(`content_writePages_fates`).
-/

namespace DocPress.Publish

variable {d d' : Disk} {output : Text}

/-! ## Accounts -/

/-- A place is as it was, or a directory was made there that `Way` tells of. -/
def KeptBut (Way : Location → Prop) (l : Location) (d d' : Disk) : Prop :=
  d'.content l = d.content l ∨ (d.content l = none ∧ d'.content l = some none ∧ Way l)

theorem KeptBut.trans {Way : Location → Prop} {l : Location} {d d' d'' : Disk}
    (h : KeptBut Way l d d') (h' : KeptBut Way l d' d'') : KeptBut Way l d d'' := by
  rcases h' with heq | ⟨hnone, hdir, hway⟩
  · rcases h with heq' | ⟨hnone, hdir, hway⟩
    · exact Or.inl (heq.trans heq')
    · exact Or.inr ⟨hnone, heq.trans hdir, hway⟩
  · rcases h with heq' | ⟨-, hdir', -⟩
    · exact Or.inr ⟨heq'.symm.trans hnone, hdir, hway⟩
    · rw [hnone] at hdir'; exact absurd hdir' (by simp)

theorem KeptBut.mono {Way Way' : Location → Prop} {l : Location} (h : KeptBut Way l d d')
    (hway : Way l → Way' l) : KeptBut Way' l d d' :=
  h.imp_right fun ⟨hnone, hdir, hl⟩ => ⟨hnone, hdir, hway hl⟩

/-- The entries, each as it was located: the manifest is never left out. -/
def located (cwd output : Text) (layout : Layout) (doc : Document Comment) :
    List (Except Error (Text × Text)) :=
  let plan := Plan.ofDocument layout doc
  locatePages cwd (pagesDirectory output doc.name) plan.render.texts
    ++ [.ok (manifestPath output doc.name, plan.manifest)]

end DocPress.Publish
