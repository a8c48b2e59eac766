-- Strings in a file of settings: between quotation marks with escapes,
-- or between apostrophes as they are; on one line, or over several.
import Verdict.Text.Ascii

namespace Verdict.Settings.Toml

/-! ## Blanks and lines -/

def isBlank (c : Char) : Bool := c == ' ' || c == '\t'

/-- A control character, other than the tab. It stands nowhere but at the end of a line. -/
def isControl (c : Char) : Bool := (c.toNat < 0x20 && c != '\t') || c.toNat == 0x7F

/-- What follows the end of the line, if the line ends here. A return may stand before the line
feed. -/
def afterLineEnd? : List Char → Option (List Char)
  | '\n' :: rest => some rest
  | '\r' :: '\n' :: rest => some rest
  | _ => none

/-- The text without the blanks and the ends of lines at its start. -/
def skipSpace : List Char → List Char
  | [] => []
  | '\r' :: '\n' :: rest => skipSpace rest
  | c :: rest => if isBlank c || c == '\n' then skipSpace rest else c :: rest

theorem length_of_afterLineEnd? {cs after : List Char} (h : afterLineEnd? cs = some after) :
    after.length < cs.length := by
  unfold afterLineEnd? at h
  split at h <;> cases h <;> simp only [List.length_cons] <;> omega

theorem length_skipSpace_le (cs : List Char) : (skipSpace cs).length ≤ cs.length := by
  fun_induction skipSpace cs <;> simp_all only [List.length_cons, List.length_nil] <;> omega

/-! ## Escapes -/

/-- The character that a letter after a backslash stands for. -/
def escapedLetter? : Char → Option Char
  | 'b' => some '\x08'
  | 't' => some '\t'
  | 'n' => some '\n'
  | 'f' => some '\x0c'
  | 'r' => some '\r'
  | 'e' => some '\x1b'
  | '"' => some '"'
  | '\\' => some '\\'
  | _ => none

/-- The character with a hexadecimal number of so many digits, and what follows it. -/
def numbered? (width : Nat) (cs : List Char) : Option (Char × List Char) :=
  if width ≤ cs.length then (Text.hexChar? (cs.take width)).map fun c => (c, cs.drop width)
  else none

/-- The character that is written after a backslash, and what follows it. -/
def escape? : List Char → Option (Char × List Char)
  | [] => none
  | c :: rest =>
    if c = 'x' then numbered? 2 rest
    else if c = 'u' then numbered? 4 rest
    else if c = 'U' then numbered? 8 rest
    else (escapedLetter? c).map fun x => (x, rest)

theorem length_of_numbered? {width : Nat} {cs after : List Char} {c : Char}
    (h : numbered? width cs = some (c, after)) : after.length ≤ cs.length := by
  simp only [numbered?] at h
  split at h
  · obtain ⟨_, _, h⟩ := Option.map_eq_some_iff.1 h
    cases h
    simp
  · cases h

theorem length_of_escape? {cs after : List Char} {c : Char}
    (h : escape? cs = some (c, after)) : after.length < cs.length := by
  cases cs with
  | nil => cases h
  | cons d rest =>
    have key : after.length ≤ rest.length := by
      simp only [escape?] at h
      repeat' split at h
      · exact length_of_numbered? h
      · exact length_of_numbered? h
      · exact length_of_numbered? h
      · obtain ⟨_, _, h⟩ := Option.map_eq_some_iff.1 h
        cases h
        exact Nat.le_refl _
    exact Nat.lt_succ_of_le key

/-! ## Strings -/

/-- How a string is written: the mark at its ends, and whether it may go over several lines. Then
the mark stands three times at each end. -/
structure Quotation where
  mark : Char
  overLines : Bool

namespace Quotation

def hasEscapes (q : Quotation) : Bool := q.mark == '"'

/-- The end of the string, if it is here: the marks that still belong to the text, at most two,
and what follows the end. -/
def close? (q : Quotation) (cs : List Char) : Option (List Char × List Char) :=
  let marks := (cs.takeWhile (· == q.mark)).length
  if q.overLines then
    if marks < 3 then none
    else some (List.replicate (min (marks - 3) 2) q.mark, cs.drop (min marks 5))
  else if marks = 0 then none
  else some ([], cs.drop 1)

/-- A character stands in the string as it is, before the given rest. -/
def admits (q : Quotation) (c : Char) (rest : List Char) : Bool :=
  !isControl c || (q.overLines && (afterLineEnd? (c :: rest)).isSome)

/-- The characters of the string up to its end, and what follows the end. A backslash at the end
of a line takes all space after it away. -/
def body? (q : Quotation) (cs : List Char) : Option (List Char × List Char) :=
  match q.close? cs with
  | some ended => some ended
  | none =>
    match cs with
    | [] => none
    | c :: rest =>
      if c = '\\' ∧ q.hasEscapes then
        if q.overLines ∧ (afterLineEnd? (rest.dropWhile isBlank)).isSome then
          have := length_skipSpace_le rest
          q.body? (skipSpace rest)
        else match h : escape? rest with
          | none => none
          | some (x, after) =>
            have := length_of_escape? h
            (q.body? after).map fun (text, after) => (x :: text, after)
      else if q.admits c rest then
        (q.body? rest).map fun (text, after) => (c :: text, after)
      else none
termination_by cs.length
decreasing_by all_goals simp_wf <;> omega

theorem length_of_close? {q : Quotation} {cs text after : List Char}
    (h : q.close? cs = some (text, after)) : after.length ≤ cs.length := by
  have key : ∀ n, (cs.drop n).length ≤ cs.length := fun n => by simp
  simp only [close?] at h
  repeat' split at h
  all_goals cases h
  all_goals exact key _

theorem length_of_body? {q : Quotation} {cs text after : List Char}
    (h : q.body? cs = some (text, after)) : after.length ≤ cs.length := by
  fun_induction body? q cs generalizing text after with
  | case1 cs ended hc => cases h; exact length_of_close? hc
  | case2 => cases h
  | case3 c rest _ _ _ _ ih =>
    exact Nat.le_trans (ih h) (Nat.le_succ_of_le (length_skipSpace_le rest))
  | case4 => cases h
  | case5 c rest _ _ x middle he hl _ ih =>
    obtain ⟨⟨_, _⟩, hb, h⟩ := Option.map_eq_some_iff.1 h
    cases h
    exact Nat.le_trans (ih hb) (Nat.le_succ_of_le (Nat.le_of_lt (length_of_escape? he)))
  | case6 c rest _ _ _ ih =>
    obtain ⟨⟨_, _⟩, hb, h⟩ := Option.map_eq_some_iff.1 h
    cases h
    exact Nat.le_succ_of_le (ih hb)
  | case7 => cases h

end Quotation

end Verdict.Settings.Toml
