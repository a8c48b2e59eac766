-- The tokens of a file of settings. The points in a path belong to its
-- words.
import Verdict.Settings.Toml.DateTime
import Verdict.Settings.Toml.Quoted

namespace Verdict.Settings.Toml

inductive Token where
  | lineEnd
  /-- Blanks, or a comment. -/
  | blank
  | leftBracket | rightBracket | leftBrace | rightBrace | comma | equals
  /-- A string on one line. -/
  | string (s : String)
  /-- A string over several lines. -/
  | lines (s : String)
  /-- A text in no quotes, with the points in it. -/
  | word (cs : List Char)
deriving DecidableEq, Repr

/-! ## One token -/

def punctuation? : Char → Option Token
  | '[' => some .leftBracket
  | ']' => some .rightBracket
  | '\x7b' => some .leftBrace
  | '\x7d' => some .rightBrace
  | ',' => some .comma
  | '=' => some .equals
  | _ => none

def isMark (c : Char) : Bool := c == '"' || c == '\x27'

def isWordChar (c : Char) : Bool :=
  !isControl c && !isBlank c && c != '#' && !isMark c && punctuation? c == none

/-- The string after the mark that it begins with. A string over several lines begins with three
marks, and a line that ends right behind them is no part of it. -/
def string? (mark : Char) (cs : List Char) : Option (Token × List Char) :=
  if [mark, mark].isPrefixOf cs then
    let inner := (afterLineEnd? (cs.drop 2)).getD (cs.drop 2)
    (Quotation.body? ⟨mark, true⟩ inner).map fun (text, after) =>
      (.lines (String.ofList text), after)
  else
    (Quotation.body? ⟨mark, false⟩ cs).map fun (text, after) =>
      (.string (String.ofList text), after)

/-- The text is a date and nothing else. -/
def isDateText (cs : List Char) : Bool := (date? cs).any fun (_, rest) => rest.isEmpty

/-- The word at the start of a text, and what follows it. To a date belongs the time that follows
it after one blank. -/
def splitWord (cs : List Char) : List Char × List Char :=
  let word := cs.takeWhile isWordChar
  match cs.dropWhile isWordChar with
  | ' ' :: d :: rest =>
    if isDateText word && d.isDigit then
      (word ++ ' ' :: (d :: rest).takeWhile isWordChar, (d :: rest).dropWhile isWordChar)
    else (word, ' ' :: d :: rest)
  | after => (word, after)

/-- The first token of a text, and what follows it. -/
def token? : List Char → Option (Token × List Char)
  | [] => none
  | c :: rest =>
    match afterLineEnd? (c :: rest) with
    | some after => some (.lineEnd, after)
    | none =>
      if isBlank c then some (.blank, rest.dropWhile isBlank)
      else if c = '#' then some (.blank, rest.dropWhile fun c => !isControl c)
      else match punctuation? c with
        | some t => some (t, rest)
        | none =>
          if isMark c then string? c rest
          else if isWordChar c then
            some (.word (splitWord (c :: rest)).1, (splitWord (c :: rest)).2)
          else none

theorem length_of_string? {mark : Char} {cs after : List Char} {t : Token}
    (h : string? mark cs = some (t, after)) : after.length ≤ cs.length := by
  simp only [string?] at h
  split at h <;> obtain ⟨⟨_, _⟩, hb, h⟩ := Option.map_eq_some_iff.1 h <;> cases h
  · have h1 := Quotation.length_of_body? hb
    have h2 : ((afterLineEnd? (cs.drop 2)).getD (cs.drop 2)).length ≤ cs.length := by
      cases he : afterLineEnd? (cs.drop 2) with
      | none => simp
      | some inner =>
        have := length_of_afterLineEnd? he
        simp only [List.length_drop] at this
        simp only [Option.getD_some]
        omega
    exact Nat.le_trans h1 h2
  · exact Quotation.length_of_body? hb

theorem length_splitWord_le (cs : List Char) :
    (splitWord cs).2.length ≤ (cs.dropWhile isWordChar).length := by
  simp only [splitWord]
  split
  · rename_i d rest hd
    rw [hd]
    split
    · have := (List.dropWhile_suffix isWordChar (l := d :: rest)).length_le
      simp only [List.length_cons] at this ⊢
      omega
    · exact Nat.le_refl _
  · exact Nat.le_refl _

theorem length_of_token? {cs after : List Char} {t : Token} (h : token? cs = some (t, after)) :
    after.length < cs.length := by
  cases cs with
  | nil => cases h
  | cons c rest =>
    simp only [token?] at h
    split at h
    · rename_i he
      cases h
      exact length_of_afterLineEnd? he
    have key : after.length ≤ rest.length := by
      repeat' split at h
      · cases h; exact (List.dropWhile_suffix _).length_le
      · cases h; exact (List.dropWhile_suffix _).length_le
      · cases h; exact Nat.le_refl _
      · exact length_of_string? h
      · rename_i hc
        cases h
        refine Nat.le_trans (length_splitWord_le _) ?_
        rw [List.dropWhile_cons_of_pos hc]
        exact (List.dropWhile_suffix _).length_le
      · cases h
    exact Nat.lt_succ_of_le key

/-! ## All tokens -/

/-- The tokens of a text. -/
def tokens? (cs : List Char) : Option (List Token) :=
  if cs = [] then some []
  else match h : token? cs with
    | none => none
    | some (t, after) =>
      have := length_of_token? h
      (tokens? after).map (t :: ·)
termination_by cs.length

end Verdict.Settings.Toml
