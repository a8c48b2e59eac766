-- White space: the characters with the Unicode property White_Space,
-- and the removal of them from the ends of a text.
import Verdict.Text.Ranges

namespace Verdict.Text

/-- The 25 characters with the property White_Space. -/
def blankRanges : Ranges :=
  [(0x9, 0xD), (0x20, 0x20), (0x85, 0x85), (0xA0, 0xA0), (0x1680, 0x1680), (0x2000, 0x200A),
   (0x2028, 0x2029), (0x202F, 0x202F), (0x205F, 0x205F), (0x3000, 0x3000)]

def isBlank (c : Char) : Bool := blankRanges.contains c

/-! ## Trimming -/

/-- The text without the blanks at its start. -/
def trimStart (cs : List Char) : List Char := cs.dropWhile isBlank

/-- The text without the blanks at its end. -/
def trimEnd (cs : List Char) : List Char := (cs.reverse.dropWhile isBlank).reverse

def trim (cs : List Char) : List Char := trimEnd (trimStart cs)

/-- A text of blanks only, the empty text included. -/
def isBlankText (text : String) : Bool := text.toList.all isBlank

def trimmed (text : String) : String := String.ofList (trim text.toList)

@[simp] theorem trimStart_nil : trimStart [] = [] := rfl

theorem trimStart_cons_of_blank {c : Char} {cs : List Char} (h : isBlank c = true) :
    trimStart (c :: cs) = trimStart cs := by simp [trimStart, h]

theorem trimStart_cons_of_not_blank {c : Char} {cs : List Char} (h : isBlank c = false) :
    trimStart (c :: cs) = c :: cs := by simp [trimStart, h]

/-- From a text without blanks nothing is taken away. -/
theorem trim_of_no_blank {cs : List Char} (h : ∀ c ∈ cs, isBlank c = false) : trim cs = cs := by
  have hstart : ∀ ds : List Char, (∀ c ∈ ds, isBlank c = false) → ds.dropWhile isBlank = ds := by
    intro ds hds
    rcases ds with _ | ⟨d, ds⟩
    · rfl
    · simp [hds d List.mem_cons_self]
  unfold trim trimEnd trimStart
  rw [hstart cs h, hstart cs.reverse fun c hc => h c (List.mem_reverse.mp hc),
    List.reverse_reverse]

@[simp] theorem trimmed_toList (text : String) : (trimmed text).toList = trim text.toList := by
  simp [trimmed]

end Verdict.Text
