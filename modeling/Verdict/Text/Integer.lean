-- Integers in decimal: how they are written, and what is read.
import Verdict.Text.Blank

namespace Verdict.Text

/-! ## Writing -/

/-- The decimal digits of a number, no leading zero. -/
def natDigits (n : Nat) : List Char := Nat.toDigits 10 n

def natText (n : Nat) : String := String.ofList (natDigits n)

/-- A minus sign stands before a negative number; nothing before the others. -/
def intDigits : Int → List Char
  | .ofNat n => natDigits n
  | .negSucc n => '-' :: natDigits (n + 1)

def intText (n : Int) : String := String.ofList (intDigits n)

/-- The digits with zeros before them, up to a width. -/
def padded (width n : Nat) : List Char :=
  List.replicate (width - (natDigits n).length) '0' ++ natDigits n

/-! ## Reading -/

/-- The number that a text of ASCII digits stands for. There must be a digit. -/
def readDigits? (cs : List Char) : Option Nat :=
  if cs ≠ [] ∧ cs.all Char.isDigit = true then some (Nat.ofDigitChars 10 cs 0) else none

/-- The largest number that can be an id or an index. -/
def maxIndex : Nat := 18446744073709551615

/-- Reads an index: digits after an optional plus sign, at most `maxIndex`. -/
def readIndex? (cs : List Char) : Option Nat := do
  let n ← readDigits? (match cs with | '+' :: rest => rest | _ => cs)
  if n ≤ maxIndex then some n else none

def minInt64 : Int := -9223372036854775808

def maxInt64 : Int := 9223372036854775807

/-- The range of the whole numbers in values and durations. -/
def inInt64 (n : Int) : Bool := decide (minInt64 ≤ n) && decide (n ≤ maxInt64)

/-- Reads a whole number: digits after an optional sign, within 64 bits. -/
def readInt? (cs : List Char) : Option Int := do
  let n : Int ← match cs with
    | '-' :: rest => (readDigits? rest).map fun n => -(n : Int)
    | '+' :: rest => (readDigits? rest).map Int.ofNat
    | _ => (readDigits? cs).map Int.ofNat
  if inInt64 n then some n else none

/-! ## What is written is read back -/

theorem natDigits_ne_nil (n : Nat) : natDigits n ≠ [] := Nat.toDigits_ne_nil

theorem isDigit_of_mem_natDigits {n : Nat} {c : Char} (h : c ∈ natDigits n) :
    c.isDigit = true :=
  Nat.isDigit_of_mem_toDigits (by decide) (by decide) h

theorem isBlank_of_isDigit {c : Char} (h : c.isDigit = true) : isBlank c = false := by
  simp only [Char.isDigit, ge_iff_le, Bool.and_eq_true, decide_eq_true_eq] at h
  have hlow : 48 ≤ c.toNat := h.1
  have hhigh : c.toNat ≤ 57 := h.2
  simp only [isBlank, Ranges.contains, blankRanges, List.any_cons, List.any_nil, Bool.or_false,
    Bool.or_eq_false_iff, Bool.and_eq_false_iff, decide_eq_false_iff_not]
  omega

theorem trim_natDigits (n : Nat) : trim (natDigits n) = natDigits n :=
  trim_of_no_blank fun _ hc => isBlank_of_isDigit (isDigit_of_mem_natDigits hc)

theorem readDigits?_natDigits (n : Nat) : readDigits? (natDigits n) = some n := by
  have h : (natDigits n).all Char.isDigit = true :=
    List.all_eq_true.2 fun _ hc => isDigit_of_mem_natDigits hc
  rw [readDigits?, if_pos ⟨natDigits_ne_nil n, h⟩, natDigits, Nat.ofDigitChars_ten_toDigits]

theorem readIndex?_natDigits {n : Nat} (h : n ≤ maxIndex) : readIndex? (natDigits n) = some n := by
  -- The first digit is no plus sign, so all of the text is read.
  have hsign : (match natDigits n with | '+' :: rest => rest | _ => natDigits n) = natDigits n := by
    split
    · rename_i rest heq
      have hplus : ('+').isDigit = true := isDigit_of_mem_natDigits (n := n) (by simp [heq])
      exact absurd hplus (by decide)
    · rfl
  unfold readIndex?
  rw [hsign, readDigits?_natDigits]
  simp [h]

theorem readIndex?_le {cs : List Char} {n : Nat} (h : readIndex? cs = some n) : n ≤ maxIndex := by
  simp only [readIndex?, Option.bind_eq_bind, Option.bind_eq_some_iff] at h
  obtain ⟨m, -, hm⟩ := h
  split at hm
  · cases hm
    assumption
  · cases hm

end Verdict.Text
