import DocPress.Proofs.LowerCasing
import DocPress.Proofs.ReadingKeeps
import DocPress.Settings.Loading

/-!
# What values are written as

Every value of a settings file can be written as a text. If it is not a text itself, there is a
digit or a punctuation mark in what is written, or it is one of a few words (`asText_of_not_text`).
Such signs are kept by stripping and by lower-casing, and there are none in the names of layouts, so
no value but a text is the name of a layout (`ofName?_of_not_text`).
-/

namespace DocPress

/-! ## Signs -/

/-- The digits and punctuation marks of ASCII. -/
def signs : List (Nat × Nat) := [(0x21, 0x40), (0x5B, 0x60), (0x7B, 0x7E)]

/-- The character is a digit or a punctuation mark. -/
def isSign (c : Char) : Bool := Ranges.has signs c.toNat

theorem isSign_of_isDigit {c : Char} (h : c.isDigit = true) : isSign c = true := by
  simp only [Char.isDigit, Bool.and_eq_true, decide_eq_true_eq, UInt32.le_iff_toNat_le] at h
  rw [isSign, Ranges.has_eq_true_iff]
  exact ⟨(0x21, 0x40), by simp [signs], Nat.le_trans (by decide) h.1, Nat.le_trans h.2 (by decide)⟩

theorem isBlank_of_isSign {c : Char} (h : isSign c = true) : isBlank c = false :=
  Ranges.has_eq_false_of_disjoint (by decide : Ranges.disjoint signs blanks = true) h

theorem isSettled_of_isSign {c : Char} (h : isSign c = true) : LowerCase.IsSettled c := by
  obtain ⟨r, hr, hlow, hhigh⟩ := Ranges.has_eq_true_iff.mp h
  simp only [signs, List.mem_cons, List.not_mem_nil, or_false] at hr
  rcases hr with rfl | rfl | rfl
  · exact LowerCase.isSettled_of_lt (by simp only at hhigh; omega) (by simp only at hhigh; omega)
  · exact LowerCase.isSettled_of_lt (by simp only at hhigh; omega) (by simp only at hlow; omega)
  · exact LowerCase.isSettled_of_lt (by simp only at hhigh; omega) (by simp only at hlow; omega)

namespace Text

/-- There is a digit or a punctuation mark in the text. -/
def HasSign (t : Text) : Prop := ∃ c ∈ t, isSign c = true

theorem HasSign.append_left {t : Text} (h : HasSign t) (u : Text) : HasSign (t ++ u) :=
  h.imp fun _ hc => ⟨List.mem_append_left u hc.1, hc.2⟩

theorem HasSign.append_right {u : Text} (h : HasSign u) (t : Text) : HasSign (t ++ u) :=
  h.imp fun _ hc => ⟨List.mem_append_right t hc.1, hc.2⟩

theorem hasSign_cons {c : Char} (h : isSign c = true) (t : Text) : HasSign (c :: t) :=
  ⟨c, List.mem_cons_self .., h⟩

theorem HasSign.cons {t : Text} (h : HasSign t) (c : Char) : HasSign (c :: t) :=
  h.append_right [c]

theorem HasSign.strip {t : Text} (h : HasSign t) : HasSign (strip t) := by
  obtain ⟨c, hc, hsign⟩ := h
  have hink : c ∈ ink t := List.mem_filter.mpr ⟨hc, by simp [isBlank_of_isSign hsign]⟩
  rw [← ink_strip] at hink
  exact ⟨c, (List.mem_filter.mp hink).1, hsign⟩

theorem HasSign.lower {t : Text} (h : HasSign t) : HasSign (lower t) := by
  obtain ⟨c, hc, hsign⟩ := h
  exact ⟨c, LowerCase.mem_lowerFrom_of_isSettled (isSettled_of_isSign hsign) hc [], hsign⟩

theorem hasSign_ofNat (n : Nat) : HasSign (ofNat n) := by
  obtain ⟨c, hc⟩ := List.exists_mem_of_ne_nil _ (Nat.toDigits_ne_nil (n := n) (b := 10))
  exact ⟨c, hc, isSign_of_isDigit (Nat.isDigit_of_mem_toDigits (by decide) (by decide) hc)⟩

end Text

theorem Layout.ofName?_of_hasSign {t : Text} (h : Text.HasSign t) : ofName? t = none := by
  have hnames : (all.all fun l => l.name.all fun c => !isSign c) = true := by decide
  obtain ⟨c, hc, hsign⟩ := h
  rw [ofName?, List.find?_eq_none]
  intro l hl hname
  obtain rfl := of_decide_eq_true hname
  have hno := List.all_eq_true.mp (List.all_eq_true.mp hnames l hl) c hc
  rw [hsign] at hno
  exact absurd hno (by decide)

/-! ## Values that are no texts -/

namespace Binary64

theorem hasSign_layout (digits : Text) (point : Int) : Text.HasSign (layout digits point) := by
  have hpoint : isSign '.' = true := by decide
  unfold layout
  simp only
  split
  · split
    · exact Text.hasSign_cons (by decide) _
    · split
      · exact (Text.hasSign_cons hpoint _).append_right _
      · exact (Text.hasSign_cons hpoint _).append_right _
  · have hexponent : isSign (if point - 1 < 0 then '-' else '+') = true := by split <;> decide
    exact (((Text.hasSign_cons hexponent _).cons 'e').append_right _).append_left _

/-- A number is written with a sign, or it is no finite one. -/
theorem hasSign_text (x : Binary64) :
    Text.HasSign x.text ∨ x.text = "inf".toList ∨ x.text = "nan".toList := by
  cases x with
  | finite negative m e =>
    left
    unfold text
    simp only
    split
    · exact Text.HasSign.append_right ⟨'.', by decide, by decide⟩ _
    · exact (hasSign_layout _ _).append_right _
  | infinite negative =>
    cases negative with
    | false => exact Or.inr (Or.inl rfl)
    | true => exact Or.inl ⟨'-', by decide, by decide⟩
  | nan => exact Or.inr (Or.inr rfl)

end Binary64

namespace Settings

/-- What values are written as in which there is no sign. -/
def signless : List Text := ["None", "True", "False", "inf", "nan"].map String.toList

theorem hasSign_toString (n : Int) : Text.HasSign (toString n).toList := by
  rw [show toString n = n.repr from rfl, Int.repr_eq_if]
  split
  · rw [Nat.toList_repr]
    exact Text.hasSign_ofNat _
  · exact ⟨'-', by simp, by decide⟩

theorem isSign_mark (t : Text) : isSign (Quoted.mark t) = true := by
  rw [Quoted.mark]
  split <;> decide

theorem hasSign_date (d : Yaml.Date) : Text.HasSign d.text :=
  (Text.hasSign_cons (by decide) _).append_right _

/-- What a value that is no text is written as. -/
theorem asText_of_not_text {v : Yaml.Value} (h : textOf? v = none) :
    Text.HasSign v.asText ∨ v.asText ∈ signless := by
  cases v with
  | null => exact Or.inr (by decide)
  | bool b => cases b <;> exact Or.inr (by decide)
  | int n => exact Or.inl (hasSign_toString n)
  | float x =>
    rcases x.hasSign_text with hsign | hinf | hnan
    · exact Or.inl hsign
    · exact Or.inr (by simp [Yaml.Value.asText, Yaml.Value.inner, hinf, signless])
    · exact Or.inr (by simp [Yaml.Value.asText, Yaml.Value.inner, hnan, signless])
  | bytes bs => exact Or.inl (((Text.hasSign_cons (isSign_mark _) _).cons 'b').append_left _)
  | text t => exact absurd h (by simp [textOf?])
  | date d => exact Or.inl (hasSign_date d)
  | time t =>
    left
    have hdate : Text.HasSign t.date.text := hasSign_date t.date
    simp only [Yaml.Value.asText, Yaml.Time.text, List.append_assoc]
    exact hdate.append_left _
  | list items => exact Or.inl (Text.hasSign_cons (by decide) _)
  | pairs entries => exact Or.inl (Text.hasSign_cons (by decide) _)
  | set items =>
    cases items with
    | nil => exact Or.inl ⟨'(', by decide, by decide⟩
    | cons v vs => exact Or.inl (Text.hasSign_cons (by decide) _)
  | dict entries => exact Or.inl (Text.hasSign_cons (by decide) _)
  | loop isMapping => cases isMapping <;> exact Or.inl ⟨'.', by decide, by decide⟩

/-- A value that is no text is no layout, whatever it is written as. -/
theorem ofName?_of_not_text {v : Yaml.Value} (h : textOf? v = none) :
    Layout.ofName? (Text.lower (Text.strip v.asText)) = none := by
  rcases asText_of_not_text h with hsign | hsignless
  · exact Layout.ofName?_of_hasSign hsign.strip.lower
  · have hnone : ∀ t ∈ signless, Layout.ofName? (Text.lower (Text.strip t)) = none := by
      decide +kernel
    exact hnone _ hsignless

end Settings
end DocPress
