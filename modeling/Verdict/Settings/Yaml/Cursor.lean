-- A place in a text of settings that are ordered by indentation: what
-- is ahead, and where on which line it stands.
import Verdict.Text.Ascii

namespace Verdict.Settings.Yaml

/-! ## Characters -/

/-- What stands for the end of the text. -/
def endMark : Char := '\x00'

def isBlank (c : Char) : Bool := c == ' ' || c == '\t'

def isBreak (c : Char) : Bool := c == '\n' || c == '\r'

def isBreakOrEnd (c : Char) : Bool := isBreak c || c == endMark

def isSpaceOrEnd (c : Char) : Bool := isBlank c || isBreakOrEnd c

/-- The marks of lists and mappings in brackets. -/
def isFlowMark (c : Char) : Bool :=
  c == ',' || c == '[' || c == ']' || c == '\x7b' || c == '\x7d'

/-- Letters, digits, and the two signs that join words. -/
def isWordChar (c : Char) : Bool := c.isAlphanum || c == '_' || c == '-'

structure Cursor where
  rest : List Char
  /-- The number of characters in front of this place. -/
  index : Nat := 0
  line : Nat := 0
  /-- The number of characters in front of this place on its line. -/
  column : Nat := 0
  /-- Nothing but blanks stands in front of this place on its line. -/
  lineStart : Bool := true
deriving Repr

namespace Cursor

/-- The next character. -/
def char (c : Cursor) : Char := c.rest.headD endMark

/-- The character behind the next one. -/
def second (c : Cursor) : Char := (c.rest.drop 1).headD endMark

/-! ## Steps -/

/-- Passes a number of characters, of which none ends a line. -/
def skip (c : Cursor) (n : Nat) : Cursor :=
  { c with
    rest := c.rest.drop n
    index := c.index + n
    column := c.column + n
    lineStart := c.lineStart && (c.rest.take n).all isBlank }

/-- Passes the characters of a kind, of which none ends a line. -/
def skipWhile (c : Cursor) (p : Char → Bool) : Cursor := c.skip (c.rest.takeWhile p).length

/-- Passes the end of a line. A return and a line feed end one line. -/
def skipBreak (c : Cursor) : Cursor :=
  let n := match c.rest with
    | '\r' :: '\n' :: _ => 2
    | _ => 1
  { rest := c.rest.drop n, index := c.index + n, line := c.line + 1 }

/-- Passes the rest of a line. -/
def skipLine (c : Cursor) : Cursor := c.skipWhile fun x => !isBreak x

/-- Passes blanks, and a comment after them. In front of a comment there is a blank. -/
def skipBlanks? (tabs : Bool) (c : Cursor) : Option Cursor :=
  let after := c.skipWhile fun x => x == ' ' || (tabs && x == '\t')
  if after.char != '#' then some after
  else if after.index = c.index then none
  else some after.skipLine

/-- The blanks ahead. -/
def blanks (c : Cursor) : List Char := c.rest.takeWhile isBlank

/-- Three marks in a row, alone at the start of a line. -/
def isMarker (c : Cursor) (mark : Char) : Bool :=
  c.column == 0 && c.rest.take 3 == [mark, mark, mark] &&
    isSpaceOrEnd ((c.rest.drop 3).headD endMark)

/-- A document begins or ends here. -/
def isDocumentMarker (c : Cursor) : Bool := c.isMarker '-' || c.isMarker '.'

/-! ## Gaps -/

/-- What stands between two words: blanks, or ends of lines with blanks around them. -/
structure Gap where
  blanks : List Char := []
  breaks : Nat := 0
deriving DecidableEq, Repr

namespace Gap

/-- The text of a gap. One end of a line is a blank, and of more the first is left out. -/
def text (g : Gap) : List Char :=
  if g.breaks = 0 then g.blanks
  else if g.breaks = 1 then [' ']
  else List.replicate (g.breaks - 1) '\n'

/-- The text of a gap after a line whose end does not count. -/
def joined (g : Gap) : List Char := List.replicate g.breaks '\n'

end Gap

/-- Adds the gap ahead to a gap, or to the end of a line that does not count. A tab is no
indentation; with `emptyLines` it may stand on an empty line. -/
def skipGap? (indent : Int) (emptyLines joined : Bool) : Nat → Gap → Cursor → Option (Gap × Cursor)
  | 0, _, _ => none
  | fuel + 1, gap, c =>
    if isBreak c.char then
      skipGap? indent emptyLines joined fuel ⟨[], gap.breaks + 1⟩ c.skipBreak
    else if !isBlank c.char then some (gap, c)
    else if !joined && gap.breaks == 0 then
      skipGap? indent emptyLines joined fuel ⟨gap.blanks ++ [c.char], 0⟩ (c.skip 1)
    else if c.char = '\t' ∧ (c.column : Int) < indent then
      match c.skipBlanks? true with
      | none => none
      | some after =>
        if emptyLines && isBreakOrEnd after.char then
          skipGap? indent emptyLines joined fuel gap after
        else none
    else skipGap? indent emptyLines joined fuel gap (c.skip 1)

/-- The gap ahead, and what follows it. -/
def gap? (c : Cursor) (indent : Int) (emptyLines joined : Bool) : Option (Gap × Cursor) :=
  skipGap? indent emptyLines joined (c.rest.length + 1) {} c

end Cursor

end Verdict.Settings.Yaml
