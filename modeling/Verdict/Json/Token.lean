-- The tokens of a JSON text.
import Verdict.Json.Number
import Verdict.Text.Ascii

namespace Verdict.Json

/-- A string as it is written. Nothing stands for one that is well-formed text but no sequence
of characters: half of a surrogate pair in it has lost its other half. -/
abbrev StringText := Option String

inductive Token where
  | leftBracket | rightBracket | leftBrace | rightBrace | comma | colon
  | null
  | bool (b : Bool)
  | number (n : NumberText)
  | string (s : StringText)

/-! ## Strings -/

/-- A part of a string: a character, or a 16-bit unit given by its number. -/
inductive Part where
  | char (c : Char)
  | unit (n : Nat)

def unit? (a b c d : Char) : Option Nat := do
  let a ← Text.hexValue? a
  let b ← Text.hexValue? b
  let c ← Text.hexValue? c
  let d ← Text.hexValue? d
  some (((a * 16 + b) * 16 + c) * 16 + d)

/-- The character that a letter after a backslash stands for. -/
def escape? : Char → Option Char
  | '"' => some '"'
  | '\\' => some '\\'
  | '/' => some '/'
  | 'b' => some '\x08'
  | 'f' => some '\x0c'
  | 'n' => some '\n'
  | 'r' => some '\r'
  | 't' => some '\t'
  | _ => none

/-- The parts of a string up to its closing quote, and what stands after the quote. -/
def readString? : List Char → Option (List Part × List Char)
  | [] => none
  | c :: rest =>
    if c = '"' then some ([], rest)
    else if c = '\\' then
      match rest with
      | 'u' :: a :: b :: c :: d :: rest =>
        match unit? a b c d, readString? rest with
        | some n, some (parts, after) => some (.unit n :: parts, after)
        | _, _ => none
      | e :: rest =>
        match escape? e, readString? rest with
        | some c, some (parts, after) => some (.char c :: parts, after)
        | _, _ => none
      | [] => none
    else if c.toNat < 0x20 then none
    else match readString? rest with
      | some (parts, after) => some (.char c :: parts, after)
      | none => none

/-- The characters of the parts, two halves of a surrogate pair joined to one. -/
def joinParts : List Part → Option (List Char)
  | [] => some []
  | .char c :: rest => (joinParts rest).map (c :: ·)
  | .unit high :: .unit low :: rest =>
    if 0xD800 ≤ high ∧ high < 0xDC00 then
      if 0xDC00 ≤ low ∧ low < 0xE000 then
        (joinParts rest).map
          (Char.ofNat (0x10000 + (high - 0xD800) * 0x400 + (low - 0xDC00)) :: ·)
      else none
    else if 0xDC00 ≤ high ∧ high < 0xE000 then none
    else (joinParts (.unit low :: rest)).map (Char.ofNat high :: ·)
  | .unit n :: rest =>
    if 0xD800 ≤ n ∧ n < 0xE000 then none else (joinParts rest).map (Char.ofNat n :: ·)

theorem length_of_readString? {cs after : List Char} {parts : List Part}
    (h : readString? cs = some (parts, after)) : after.length < cs.length := by
  fun_induction readString? cs generalizing parts after <;> cases h <;>
    simp only [List.length_cons] <;> grind

/-! ## All tokens -/

def isSpace (c : Char) : Bool := c == ' ' || c == '\t' || c == '\n' || c == '\r'

def punctuation? : Char → Option Token
  | '[' => some .leftBracket
  | ']' => some .rightBracket
  | '\x7b' => some .leftBrace
  | '\x7d' => some .rightBrace
  | ',' => some .comma
  | ':' => some .colon
  | _ => none

/-- The characters of numbers and of the three names. -/
def isWordPart (c : Char) : Bool := c.isAlphanum || c == '-' || c == '+' || c == '.'

def word? (cs : List Char) : Option Token :=
  if cs = ['n', 'u', 'l', 'l'] then some .null
  else if cs = ['t', 'r', 'u', 'e'] then some (.bool true)
  else if cs = ['f', 'a', 'l', 's', 'e'] then some (.bool false)
  else (NumberText.ofChars? cs).map .number

/-- The tokens of a text. -/
def tokens? : List Char → Option (List Token)
  | [] => some []
  | c :: rest =>
    if isSpace c then tokens? rest
    else match punctuation? c with
      | some t => (tokens? rest).map (t :: ·)
      | none =>
        if c = '"' then
          match h : readString? rest with
          | none => none
          | some (parts, after) =>
            have : after.length < rest.length := length_of_readString? h
            (tokens? after).map (.string ((joinParts parts).map String.ofList) :: ·)
        else
          have := (List.dropWhile_suffix isWordPart (l := rest)).length_le
          match word? (c :: rest.takeWhile isWordPart), tokens? (rest.dropWhile isWordPart) with
          | some t, some ts => some (t :: ts)
          | _, _ => none
termination_by cs => cs.length
decreasing_by all_goals simp_wf <;> omega

end Verdict.Json
