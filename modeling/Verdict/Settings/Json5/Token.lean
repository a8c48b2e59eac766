-- The tokens of a file of settings in JSON for people: with comments,
-- names without quotes, and more ways to write strings and numbers.
import Verdict.Json.Token
import Verdict.Text.Word

namespace Verdict.Settings.Json5

inductive Token where
  | leftBracket | rightBracket | leftBrace | rightBrace | comma | colon
  | string (s : String)
  /-- A number or a name, as it is written. -/
  | word (cs : List Char)
deriving DecidableEq, Repr

/-! ## Space -/

def isLineEnd (c : Char) : Bool := c == '\n' || c == '\r' || c == '\u2028' || c == '\u2029'

/-- White space, and the mark of the order of bytes. The next line of ISO 8859 is none. -/
def isSpace (c : Char) : Bool := (Text.isBlank c && c != '\u0085') || c == '\ufeff'

/-- What follows the end of a comment over several lines. -/
def afterComment? : List Char → Option (List Char)
  | '*' :: '/' :: rest => some rest
  | _ :: rest => afterComment? rest
  | [] => none

theorem length_of_afterComment? {cs after : List Char} (h : afterComment? cs = some after) :
    after.length < cs.length := by
  fun_induction afterComment? cs with
  | case1 => cases h; simp only [List.length_cons]; omega
  | case2 _ _ _ ih => exact Nat.lt_succ_of_lt (ih h)
  | case3 => cases h

/-! ## Strings -/

/-- The character that a letter after a backslash stands for. All but a few stand for themselves,
and a digit for none. -/
def escaped? : Char → Option Char
  | 'b' => some '\x08'
  | 'f' => some '\x0c'
  | 'n' => some '\n'
  | 'r' => some '\r'
  | 't' => some '\t'
  | 'v' => some '\x0b'
  | 'x' | 'u' => none
  | c => if c.isDigit then none else some c

/-- The parts of a string up to its mark, and what follows the mark. A backslash at the end of a
line joins the next line to it. -/
def readString? (mark : Char) : List Char → Option (List Json.Part × List Char)
  | [] => none
  | '\\' :: 'u' :: a :: b :: c :: d :: rest =>
    match Json.unit? a b c d, readString? mark rest with
    | some n, some (parts, after) => some (.unit n :: parts, after)
    | _, _ => none
  | '\\' :: 'x' :: a :: b :: rest =>
    match Text.hexChar? [a, b], readString? mark rest with
    | some c, some (parts, after) => some (.char c :: parts, after)
    | _, _ => none
  | '\\' :: '0' :: rest =>
    if rest.head?.any Char.isDigit then none
    else match readString? mark rest with
      | some (parts, after) => some (.char '\x00' :: parts, after)
      | none => none
  | '\\' :: '\r' :: '\n' :: rest => readString? mark rest
  | '\\' :: e :: rest =>
    if isLineEnd e then readString? mark rest
    else match escaped? e, readString? mark rest with
      | some c, some (parts, after) => some (.char c :: parts, after)
      | _, _ => none
  | c :: rest =>
    if c = mark then some ([], rest)
    else if c = '\\' ∨ c = '\n' ∨ c = '\r' then none
    else match readString? mark rest with
      | some (parts, after) => some (.char c :: parts, after)
      | none => none

theorem length_of_readString? {mark : Char} {cs after : List Char} {parts : List Json.Part}
    (h : readString? mark cs = some (parts, after)) : after.length < cs.length := by
  fun_induction readString? mark cs generalizing parts after <;>
    (try simp only [List.length_cons]) <;> grind

/-- The string after its first mark, and what follows its last one. -/
def string? (mark : Char) (cs : List Char) : Option (String × List Char) :=
  match readString? mark cs with
  | some (parts, after) => (Json.joinParts parts).map fun cs => (String.ofList cs, after)
  | none => none

theorem length_of_string? {mark : Char} {cs after : List Char} {s : String}
    (h : string? mark cs = some (s, after)) : after.length < cs.length := by
  simp only [string?] at h
  split at h
  · rename_i hr
    obtain ⟨_, _, h⟩ := Option.map_eq_some_iff.1 h
    cases h
    exact length_of_readString? hr
  · cases h

/-! ## Words -/

def isNameStart (c : Char) : Bool :=
  c == '$' || (Text.isWordChar c && !c.isDigit)

def isNameChar (c : Char) : Bool :=
  c == '$' || Text.isWordChar c || c == '\u200c' || c == '\u200d'

def isWordChar (c : Char) : Bool :=
  isNameChar c || c == '+' || c == '-' || c == '.' || c == '\\'

/-- The parts of a name after its first one. A character may be given by its number. -/
def nameParts? : List Char → Option (List Json.Part)
  | [] => some []
  | '\\' :: 'u' :: a :: b :: c :: d :: rest =>
    match Json.unit? a b c d, nameParts? rest with
    | some n, some parts => some (.unit n :: parts)
    | _, _ => none
  | c :: rest => if isNameChar c then (nameParts? rest).map (.char c :: ·) else none

/-- The name that a word is. -/
def name? (cs : List Char) : Option String := do
  let startsWell : Bool := match cs with
    | [] => false
    | c :: _ => isNameStart c || c == '\\'
  let name ← Json.joinParts (← nameParts? cs)
  if startsWell then some (String.ofList name) else none

/-! ## All tokens -/

def punctuation? : Char → Option Token
  | '[' => some .leftBracket
  | ']' => some .rightBracket
  | '\x7b' => some .leftBrace
  | '\x7d' => some .rightBrace
  | ',' => some .comma
  | ':' => some .colon
  | _ => none

/-- The first token of a text that does not begin with space, and what follows it. -/
def token? : List Char → Option (Token × List Char)
  | [] => none
  | c :: rest =>
    match punctuation? c with
    | some t => some (t, rest)
    | none =>
      if c = '"' ∨ c = '\x27' then (string? c rest).map fun (s, after) => (.string s, after)
      else if isWordChar c then
        some (.word (c :: rest.takeWhile isWordChar), rest.dropWhile isWordChar)
      else none

theorem length_of_token? {cs after : List Char} {t : Token} (h : token? cs = some (t, after)) :
    after.length < cs.length := by
  cases cs with
  | nil => cases h
  | cons c rest =>
    have key : after.length ≤ rest.length := by
      simp only [token?] at h
      repeat' split at h
      · cases h; exact Nat.le_refl _
      · obtain ⟨⟨_, _⟩, hs, h⟩ := Option.map_eq_some_iff.1 h
        cases h
        exact Nat.le_of_lt (length_of_string? hs)
      · cases h; exact (List.dropWhile_suffix _).length_le
      · cases h
    exact Nat.lt_succ_of_le key

/-- The tokens of a text. -/
def tokens? (cs : List Char) : Option (List Token) :=
  match cs with
  | [] => some []
  | c :: rest =>
    if isSpace c then tokens? rest
    else if c = '/' then
      match rest with
      | '/' :: line =>
        have := (List.dropWhile_suffix (fun c => !isLineEnd c) (l := line)).length_le
        tokens? (line.dropWhile fun c => !isLineEnd c)
      | '*' :: lines =>
        match h : afterComment? lines with
        | none => none
        | some after =>
          have := length_of_afterComment? h
          tokens? after
      | _ => none
    else match h : token? (c :: rest) with
      | none => none
      | some (t, after) =>
        have := length_of_token? h
        (tokens? after).map (t :: ·)
termination_by cs.length
decreasing_by all_goals simp_all only [List.length_cons] <;> omega

end Verdict.Settings.Json5
