-- The ids of conditions as definitions write them: a number, or a text
-- that holds a letter or a number.
import Verdict.Fault
import Verdict.Json.Document
import Verdict.Text.Quoted

namespace Verdict

inductive ConditionId where
  | index (n : Nat)
  | label (text : String)
deriving DecidableEq, Repr

namespace ConditionId

/-! ## The number -/

/-- The number of a text: a single letter gives its place in the alphabet, and all else is read
as a number. -/
def labelNumber? (cs : List Char) : Option Nat :=
  match cs with
  | [c] => (Text.letterIndex? c).or (Text.readIndex? cs)
  | _ => Text.readIndex? cs

/-- The number that is written, however large. Blanks around a text are left out. -/
def written : ConditionId → Except Fault Nat
  | index n => .ok n
  | label text =>
    match labelNumber? (Text.trim text.toList) with
    | some n => .ok n
    | none => .error (.notAnId (Text.trimmed text))

/-- The id of the condition. -/
def number (id : ConditionId) : Except Fault Nat :=
  match id.written with
  | .ok n => if n ≤ maxConditionId then .ok n else .error (.idTooLarge n)
  | .error fault => .error fault

theorem number_of_written {id : ConditionId} {n : Nat} (h : id.written = .ok n) :
    id.number = if n ≤ maxConditionId then .ok n else .error (.idTooLarge n) := by
  unfold number
  rw [h]

/-- A digit is no letter, so a number that is written in decimal is read as a number. -/
theorem labelNumber?_natDigits {n : Nat} (h : n ≤ Text.maxIndex) :
    labelNumber? (Text.natDigits n) = some n := by
  unfold labelNumber?
  split
  · rename_i c hc
    have hdigit : c.isDigit = true := Text.isDigit_of_mem_natDigits (n := n) (by simp [hc])
    rw [Text.letterIndex?_of_isDigit hdigit, Option.none_or, Text.readIndex?_natDigits h]
  · exact Text.readIndex?_natDigits h

theorem written_natText {n : Nat} (h : n ≤ Text.maxIndex) :
    (label (Text.natText n)).written = .ok n := by
  unfold written Text.natText
  simp only [String.toList_ofList, Text.trim_natDigits, labelNumber?_natDigits h]

theorem number_le {id : ConditionId} {n : Nat} (h : id.number = .ok n) : n ≤ maxConditionId := by
  unfold number at h
  split at h
  · split at h
    · injection h; omega
    · contradiction
  · contradiction

/-! ## Texts -/

/-- The id as reports show it. -/
def text : ConditionId → String
  | index n => "Index(" ++ Text.natText n ++ ")"
  | label text => "Alias(" ++ Text.quoted text ++ ")"

def json : ConditionId → Json
  | index n => .int n
  | label text => .str text

/-- An id in JSON: a whole number from 0, or a text. -/
def ofJson? : Json → Option ConditionId
  | .int n => if 0 ≤ n ∧ n ≤ Text.maxIndex then some (index n.toNat) else none
  | .str s => some (label s)
  | _ => none

def ofDocument? (depth : Nat) (d : Json.Document) : Option ConditionId :=
  (d.value? depth).bind ofJson?

end ConditionId

end Verdict
