-- The tokens of a file of settings in object notation: names, single
-- values, and the brackets around groups of them.
import Verdict.Settings.Ron.Number
import Verdict.Text.Word

namespace Verdict.Settings.Ron

inductive Token where
  | leftParen | rightParen | leftBracket | rightBracket | leftBrace | rightBrace | comma | colon
  /-- Two brackets with nothing between them. -/
  | unit
  | name (s : String)
  | number (cs : List Char)
  | text (s : String)
deriving DecidableEq, Repr

/-! ## Space -/

/-- White space, and the two marks of the direction of writing. -/
def isSpace (c : Char) : Bool :=
  c == ' ' || ('\t' ≤ c && c ≤ '\r') || c == '\u0085' || c == '\u200e' || c == '\u200f' ||
    c == '\u2028' || c == '\u2029'

/-- What follows the end of a comment over several lines, in which so many others are open. -/
def afterComment? : Nat → List Char → Option (List Char)
  | 0, '*' :: '/' :: rest => some rest
  | depth + 1, '*' :: '/' :: rest => afterComment? depth rest
  | depth, '/' :: '*' :: rest => afterComment? (depth + 1) rest
  | depth, _ :: rest => afterComment? depth rest
  | _, [] => none

theorem length_of_afterComment? {depth : Nat} {cs after : List Char}
    (h : afterComment? depth cs = some after) : after.length < cs.length := by
  fun_induction afterComment? depth cs <;> grind

/-- What follows the space and the comments ahead. -/
def skipSpace? (cs : List Char) : Option (List Char) :=
  match cs with
  | [] => some []
  | '/' :: '/' :: rest =>
    have := (List.dropWhile_suffix (· != '\n') (l := rest)).length_le
    skipSpace? (rest.dropWhile (· != '\n'))
  | '/' :: '*' :: rest =>
    match h : afterComment? 0 rest with
    | none => none
    | some after =>
      have := length_of_afterComment? h
      skipSpace? after
  | c :: rest => if isSpace c then skipSpace? rest else some (c :: rest)
termination_by cs.length
decreasing_by all_goals (simp_all only [List.length_cons]; omega)

/-! ## Texts -/

/-- The character that a letter after a backslash stands for. -/
def escaped? : Char → Option Char
  | '\x27' => some '\x27'
  | '"' => some '"'
  | '\\' => some '\\'
  | 'n' => some '\n'
  | 'r' => some '\r'
  | 't' => some '\t'
  | '0' => some '\x00'
  | _ => none

/-- The character with a number in braces, of at most six digits, and what follows it. -/
def numbered? (cs : List Char) : Option (Char × List Char) :=
  let digits := cs.takeWhile (· != '\x7d')
  match cs.dropWhile (· != '\x7d') with
  | _ :: rest =>
    if digits ≠ [] ∧ digits.length ≤ 6 then (Text.hexChar? digits).map fun c => (c, rest) else none
  | [] => none

/-- The character that is written after a backslash, and what follows it. -/
def escape? : List Char → Option (Char × List Char)
  | 'x' :: a :: b :: rest => (Text.hexChar? [a, b]).map fun c => (c, rest)
  | 'u' :: '\x7b' :: rest => numbered? rest
  | c :: rest => (escaped? c).map fun x => (x, rest)
  | [] => none

/-- The text up to its quote, and what follows the quote. -/
def text? : Nat → List Char → Option (List Char × List Char)
  | 0, _ => none
  | _, [] => none
  | fuel + 1, c :: rest =>
    if c = '"' then some ([], rest)
    else if c = '\\' then
      match escape? rest with
      | none => none
      | some (x, after) => (text? fuel after).map fun (text, after) => (x :: text, after)
    else (text? fuel rest).map fun (text, after) => (c :: text, after)

/-- The text up to a mark, in which nothing has a meaning of its own, and what follows the
mark. -/
def textUntil? (mark : List Char) : List Char → Option (List Char × List Char)
  | [] => none
  | c :: rest =>
    if mark.isPrefixOf (c :: rest) then some ([], (c :: rest).drop mark.length)
    else (textUntil? mark rest).map fun (text, after) => (c :: text, after)

/-- A text between number signs and quotes, from the first of them on. -/
def rawText? (cs : List Char) : Option (List Char × List Char) :=
  let signs := cs.takeWhile (· == '#')
  match cs.dropWhile (· == '#') with
  | '"' :: rest => textUntil? ('"' :: signs) rest
  | _ => none

/-- A single character between its quotes, behind the first of them. -/
def char? : List Char → Option (Char × List Char)
  | '\\' :: rest =>
    match escape? rest with
    | some (x, '\x27' :: after) => some (x, after)
    | _ => none
  | c :: '\x27' :: after => some (c, after)
  | _ => none

/-! ## All tokens -/

def punctuation? : Char → Option Token
  | '(' => some .leftParen
  | ')' => some .rightParen
  | '[' => some .leftBracket
  | ']' => some .rightBracket
  | '\x7b' => some .leftBrace
  | '\x7d' => some .rightBrace
  | ',' => some .comma
  | ':' => some .colon
  | _ => none

def isNameStart (c : Char) : Bool := Text.isWordChar c && !c.isDigit

/-- A name may hold more signs behind a mark that tells so. -/
def isRawNameChar (c : Char) : Bool := Text.isWordChar c || c == '.' || c == '+' || c == '-'

def isNumberStart (c : Char) : Bool := c.isDigit || c == '+' || c == '-' || c == '.'

/-- The text token that was read, and what follows it. -/
def asText (read : Option (List Char × List Char)) : Option (Token × List Char) :=
  read.map fun (text, after) => (.text (String.ofList text), after)

/-- A text that begins here: in quotes, raw, of bytes, or a single character. -/
def textToken? (cs : List Char) : Option (Option (Token × List Char)) :=
  match cs with
  | '"' :: rest | 'b' :: '"' :: rest => some (asText (text? (rest.length + 1) rest))
  | 'r' :: '"' :: rest | 'b' :: 'r' :: '"' :: rest => some (asText (rawText? ('"' :: rest)))
  | 'r' :: '#' :: '"' :: rest => some (asText (rawText? ('#' :: '"' :: rest)))
  | 'r' :: '#' :: '#' :: rest => some (asText (rawText? ('#' :: '#' :: rest)))
  | 'b' :: 'r' :: '#' :: rest => some (asText (rawText? ('#' :: rest)))
  | '\x27' :: rest => some (asText ((char? rest).map fun (c, after) => ([c], after)))
  | _ => none

/-- The first token of a text that does not begin with space, and what follows it. -/
def token? (cs : List Char) : Option (Token × List Char) :=
  match textToken? cs with
  | some read => read
  | none =>
    match cs with
    | '(' :: ')' :: rest => some (.unit, rest)
    | 'r' :: '#' :: rest =>
      let name := rest.takeWhile isRawNameChar
      if name = [] then none
      else some (.name (String.ofList name), rest.dropWhile isRawNameChar)
    | c :: rest =>
      match punctuation? c with
      | some t => some (t, rest)
      | none =>
        if isNumberStart c then
          some (.number (c :: rest.takeWhile isRawNameChar), rest.dropWhile isRawNameChar)
        else if isNameStart c then
          some (.name (String.ofList (c :: rest.takeWhile Text.isWordChar)),
            rest.dropWhile Text.isWordChar)
        else none
    | [] => none

/-- The tokens of a text. -/
def tokens? : Nat → List Char → Option (List Token)
  | 0, _ => none
  | fuel + 1, cs =>
    match skipSpace? cs with
    | none => none
    | some [] => some []
    | some rest =>
      match token? rest with
      | none => none
      | some (t, after) => (tokens? fuel after).map (t :: ·)

end Verdict.Settings.Ron
