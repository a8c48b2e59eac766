-- Texts in parts: what stands between separators, and whether one text
-- is a part of another.

namespace Verdict.Text

/-! ## Separators -/

/-- The parts of a text between the separators. A text without a separator is its only part. -/
def split (separator : Char) : List Char → List (List Char)
  | [] => [[]]
  | c :: cs =>
    match split separator cs with
    | [] => [[c]]
    | part :: parts => if c = separator then [] :: part :: parts else (c :: part) :: parts

theorem split_ne_nil (separator : Char) (cs : List Char) : split separator cs ≠ [] := by
  cases cs with
  | nil => simp [split]
  | cons c cs =>
    rw [split]
    split
    · simp
    · split <;> simp

/-- The parts of a text that is put together from two parts. -/
theorem split_append (separator : Char) (as bs : List Char) :
    split separator (as ++ separator :: bs) = split separator as ++ split separator bs := by
  induction as with
  | nil =>
    cases h : split separator bs with
    | nil => exact absurd h (split_ne_nil separator bs)
    | cons part parts => simp [split, h]
  | cons a as ih =>
    rw [List.cons_append, split, ih]
    conv => rhs; rw [split]
    cases h : split separator as with
    | nil => exact absurd h (split_ne_nil separator as)
    | cons part parts => simp only [List.cons_append]; split <;> rfl

/-! ## Parts -/

/-- A text occurs somewhere in another. -/
def isPart (part : List Char) : List Char → Bool
  | [] => part.isEmpty
  | c :: cs => part.isPrefixOf (c :: cs) || isPart part cs

/-! ## Order -/

/-- The order of two texts by their code points. -/
def order : List Char → List Char → Ordering
  | [], [] => .eq
  | [], _ :: _ => .lt
  | _ :: _, [] => .gt
  | a :: as, b :: bs => (compare a.toNat b.toNat).then (order as bs)

end Verdict.Text
