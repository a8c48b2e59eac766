-- Texts between quotes, in settings that are ordered by indentation.
import Verdict.Settings.Yaml.Cursor

namespace Verdict.Settings.Yaml

/-! ## Escapes -/

/-- The character that a letter after a backslash stands for. -/
def escaped? : Char → Option Char
  | '0' => some '\x00'
  | 'a' => some '\x07'
  | 'b' => some '\x08'
  | 't' | '\t' => some '\t'
  | 'n' => some '\n'
  | 'v' => some '\x0b'
  | 'f' => some '\x0c'
  | 'r' => some '\r'
  | 'e' => some '\x1b'
  | 'N' => some '\u0085'
  | '_' => some '\u00a0'
  | 'L' => some '\u2028'
  | 'P' => some '\u2029'
  | ' ' => some ' '
  | '"' => some '"'
  | '/' => some '/'
  | '\\' => some '\\'
  | _ => none

/-- The number of hexadecimal digits after a letter that announces a number. -/
def numberWidth? : Char → Option Nat
  | 'x' => some 2
  | 'u' => some 4
  | 'U' => some 8
  | _ => none

/-- The character that is written after a backslash, and what follows it. -/
def escape? (c : Cursor) : Option (Char × Cursor) :=
  match numberWidth? c.char with
  | none => (escaped? c.char).map fun x => (x, c.skip 1)
  | some width =>
    let digits := (c.rest.drop 1).take width
    if digits.length = width then
      (Text.hexChar? digits).map fun x => (x, c.skip (1 + width))
    else none

/-! ## Words -/

/-- The kind of quotes. -/
inductive Quote where
  | single | double
deriving DecidableEq, Repr

def Quote.mark : Quote → Char
  | .single => '\x27'
  | .double => '"'

/-- What was read of a text up to a gap in it. -/
structure Word where
  text : List Char
  /-- The line ends with a backslash. -/
  joined : Bool
  after : Cursor

/-- Puts a character in front of a word. -/
def Word.cons (x : Char) (w : Word) : Word := { w with text := x :: w.text }

/-- The characters up to the next gap, or to the quote that ends the text. Two single quotes stand
for one. -/
def word? (q : Quote) : Nat → Cursor → Option Word
  | 0, _ => none
  | fuel + 1, c =>
    if isSpaceOrEnd c.char then some ⟨[], false, c⟩
    else if c.char = q.mark then
      if q = .single ∧ c.second = q.mark then (word? q fuel (c.skip 2)).map (Word.cons q.mark)
      else some ⟨[], false, c⟩
    else if c.char = '\\' ∧ q = .double then
      if isBreak c.second then some ⟨[], true, (c.skip 1).skipBreak⟩
      else match escape? (c.skip 1) with
        | none => none
        | some (x, after) => (word? q fuel after).map (Word.cons x)
    else (word? q fuel (c.skip 1)).map (Word.cons c.char)

/-! ## Texts -/

/-- The text up to the quote that ends it, and what follows the quote. A line of it stands no
further left than the indentation, and no document begins or ends in it. -/
def quotedText? (q : Quote) (indent : Int) : Nat → Cursor → Option (List Char × Cursor)
  | 0, _ => none
  | fuel + 1, c =>
    if c.isDocumentMarker || c.rest.isEmpty || decide ((c.column : Int) < indent) then none
    else match word? q (c.rest.length + 1) c with
      | none => none
      | some word =>
        if word.after.char = q.mark then some (word.text, word.after.skip 1)
        else match word.after.gap? indent false word.joined with
          | none => none
          | some (gap, after) =>
            let between := if word.joined then gap.joined else gap.text
            (quotedText? q indent fuel after).map fun (text, after) =>
              (word.text ++ between ++ text, after)

/-- What may follow a text in quotes on its line: nothing, a comment, or a sign that goes on with
what is around it. -/
def endsWell (inFlow sameLine : Bool) (c : Cursor) : Bool :=
  isBreakOrEnd c.char ||
    (inFlow && (c.char == ',' || c.char == ']' || c.char == '\x7d' || c.char == ':')) ||
    (!inFlow && sameLine && c.char == ':')

/-- A text in quotes, from the first of them on, and what follows it. -/
def quoted? (q : Quote) (indent : Int) (inFlow : Bool) (c : Cursor) :
    Option (List Char × Cursor) := do
  let (text, after) ← quotedText? q indent (c.rest.length + 1) (c.skip 1)
  let after ← after.skipBlanks? true
  if endsWell inFlow (after.line == c.line) after then some (text, after) else none

end Verdict.Settings.Yaml
