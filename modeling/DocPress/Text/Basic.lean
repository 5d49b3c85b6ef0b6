/-!
# Text

Source files, comments, page names and Markdown are all read and written character by
character, so a text is the list of its characters. Functions on texts are then recursions on
lists, and what they do is a matter of `takeWhile`, `dropWhile` and `++`.

The operations here know nothing of classes of characters: whoever trims or splits says by what.
-/

namespace DocPress

/-- A text is the list of its characters. -/
abbrev Text := List Char

namespace Text

/-- The text as a string, for messages. -/
def str (t : Text) : String := String.ofList t

/-- Drops the leading characters of a class. -/
def trimStart (p : Char → Bool) (t : Text) : Text := t.dropWhile p

/-- Drops the trailing characters of a class. -/
def trimEnd (p : Char → Bool) (t : Text) : Text := (t.reverse.dropWhile p).reverse

/-- Drops the characters of a class at both ends. -/
def trim (p : Char → Bool) (t : Text) : Text := trimEnd p (trimStart p t)

/-- The pieces between the separators; there is one more of them than there are separators. -/
def splitOn (sep : Char) : Text → List Text
  | [] => [[]]
  | c :: cs =>
    if c = sep then [] :: splitOn sep cs
    else match splitOn sep cs with
      | [] => [[c]]
      | w :: ws => (c :: w) :: ws

/-- The pieces, with the separator between neighbours. -/
def join (sep : Text) (ts : List Text) : Text := sep.intercalate ts

/-- What follows `p` in a text that begins with it. -/
def after? : (p t : Text) → Option Text
  | [], t => some t
  | _ :: _, [] => none
  | x :: p, c :: t => if x = c then after? p t else none

/-- The text begins with `p`. -/
def startsWith (p t : Text) : Bool := (after? p t).isSome

/-- The text ends with `s`. -/
def endsWith (s t : Text) : Bool := startsWith s.reverse t.reverse

/-- Every occurrence of a character replaced by a text. -/
def replace (c : Char) (new : Text) (t : Text) : Text :=
  t.flatMap fun x => if x = c then new else [x]

/-- Where two texts agree from the start. -/
def commonStart : Text → Text → Text
  | a :: s, b :: t => if a = b then a :: commonStart s t else []
  | _, _ => []

/-- The order of texts by the code points of their characters. -/
def le : Text → Text → Bool
  | [], _ => true
  | _ :: _, [] => false
  | a :: s, b :: t => a.toNat < b.toNat || a = b && le s t

/-- The texts in ascending order of their code points. -/
def sort (ts : List Text) : List Text := ts.mergeSort le

/-- The decimal numeral of a number. -/
def ofNat (n : Nat) : Text := Nat.toDigits 10 n

theorem after?_eq_some_iff {p t r : Text} : after? p t = some r ↔ t = p ++ r := by
  induction p generalizing t with
  | nil => simp [after?, eq_comm]
  | cons x p ih =>
    cases t with
    | nil => simp [after?]
    | cons c t =>
      by_cases h : x = c
      · subst h; simp [after?, ih]
      · simp [after?, h, Ne.symm h]

theorem startsWith_iff {p t : Text} : startsWith p t = true ↔ ∃ r, t = p ++ r := by
  simp [startsWith, Option.isSome_iff_exists, after?_eq_some_iff]

theorem splitOn_ne_nil (sep : Char) (t : Text) : splitOn sep t ≠ [] := by
  induction t with
  | nil => simp [splitOn]
  | cons c t ih =>
    unfold splitOn
    split
    · simp
    · split <;> simp

end Text
end DocPress
