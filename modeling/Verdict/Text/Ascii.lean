-- Letters and digits of ASCII. Names are compared without regard to
-- the case of ASCII letters only.
import Verdict.Text.Blank

namespace Verdict.Text

def isAsciiUpper (c : Char) : Bool := decide ('A' ≤ c) && decide (c ≤ 'Z')

def isAsciiLower (c : Char) : Bool := decide ('a' ≤ c) && decide (c ≤ 'z')

def isAsciiLetter (c : Char) : Bool := isAsciiUpper c || isAsciiLower c

/-- The small letter of an ASCII capital; every other character as it is. -/
def asciiLower (c : Char) : Char :=
  if isAsciiUpper c then Char.ofNat (c.toNat + 32) else c

/-- The place of an ASCII letter in the alphabet, from 0. -/
def letterIndex? (c : Char) : Option Nat :=
  if isAsciiLetter c then some ((asciiLower c).toNat - 97) else none

theorem letterIndex?_of_isDigit {c : Char} (h : c.isDigit = true) : letterIndex? c = none := by
  simp only [Char.isDigit, ge_iff_le, Bool.and_eq_true, decide_eq_true_eq] at h
  have hhigh : c.toNat ≤ 57 := h.2
  have hletter : isAsciiLetter c = false := by
    simp only [isAsciiLetter, isAsciiUpper, isAsciiLower, Bool.or_eq_false_iff,
      Bool.and_eq_false_iff, decide_eq_false_iff_not]
    refine ⟨Or.inl fun hle => ?_, Or.inl fun hle => ?_⟩
    · have hlow : 65 ≤ c.toNat := hle
      omega
    · have hlow : 97 ≤ c.toNat := hle
      omega
  simp [letterIndex?, hletter]

/-- The small letter at a place of the alphabet. -/
def smallLetter (i : Nat) : Char := Char.ofNat (97 + i)

/-- The capital letter at a place of the alphabet. -/
def capitalLetter (i : Nat) : Char := Char.ofNat (65 + i)

def asciiLowered (cs : List Char) : List Char := cs.map asciiLower

/-- The value of a hexadecimal digit. -/
def hexValue? (c : Char) : Option Nat :=
  if c.isDigit then some (c.toNat - 48)
  else if 'a' ≤ c ∧ c ≤ 'f' then some (c.toNat - 87)
  else if 'A' ≤ c ∧ c ≤ 'F' then some (c.toNat - 55)
  else none

/-- The number that hexadecimal digits stand for. -/
def hexNumber? (digits : List Char) : Option Nat :=
  (digits.mapM hexValue?).map fun values => values.foldl (fun n d => 16 * n + d) 0

/-- The character with a hexadecimal number. -/
def hexChar? (digits : List Char) : Option Char :=
  (hexNumber? digits).bind fun n => if n.isValidChar then some (Char.ofNat n) else none

/-- The form in which a name is looked up: no blanks at the ends, ASCII letters small. -/
def nameForm (text : String) : String := String.ofList (asciiLowered (trim text.toList))

/-- The same name, up to blanks at the ends and the case of ASCII letters. -/
def sameName (a b : String) : Bool := nameForm a == nameForm b

end Verdict.Text
