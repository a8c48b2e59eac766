-- Texts over several lines that are further indented than what is
-- around them.
import Verdict.Settings.Yaml.Cursor

namespace Verdict.Settings.Yaml

/-! ## Headers -/

/-- What becomes of the ends of lines after the last line of a text. -/
inductive Chomping where
  /-- The first one stays. -/
  | clip
  /-- None stays. -/
  | strip
  /-- All stay. -/
  | keep
deriving DecidableEq, Repr

def chomping? : Char → Option Chomping
  | '+' => some .keep
  | '-' => some .strip
  | _ => none

structure Header where
  chomping : Chomping := .clip
  /-- How far the lines are indented, if that is told. -/
  indent : Option Nat := none
deriving DecidableEq, Repr

/-- A number for the indentation, if there is one. It is not zero. -/
def indentNumber? (c : Cursor) : Option (Option Nat × Cursor) :=
  if c.char = '0' then none
  else if c.char.isDigit then some (some (c.char.toNat - 48), c.skip 1)
  else some (none, c)

/-- The signs in front of a text over several lines, in either order, up to the end of their
line. -/
def header? (c : Cursor) : Option (Header × Cursor) := do
  let (header, after) ← match chomping? c.char with
    | some chomping => do
      let (indent, after) ← indentNumber? (c.skip 1)
      some (⟨chomping, indent⟩, after)
    | none => do
      let (indent, after) ← indentNumber? c
      match indent, chomping? after.char with
      | some _, some chomping => some (⟨chomping, indent⟩, after.skip 1)
      | _, _ => some (⟨.clip, indent⟩, after)
  let after ← after.skipBlanks? true
  if isBreakOrEnd after.char then some (header, after) else none

/-! ## Indentation -/

/-- Passes empty lines, and on the line after them at most the indentation. Also the number of the
empty lines. -/
def skipEmpty (indent : Nat) : Nat → Nat → Cursor → Nat × Cursor
  | 0, breaks, c => (breaks, c)
  | fuel + 1, breaks, c =>
    let ahead := (c.rest.takeWhile (· == ' ')).length
    let after := c.skip (min ahead (indent - c.column))
    if isBreak after.char then skipEmpty indent fuel (breaks + 1) after.skipBreak
    else (breaks, after)

/-- Passes empty lines, and all blanks on the line after them. Also the number of the empty lines,
and the most blanks on a line. -/
def measure : Nat → Nat → Nat → Cursor → Nat × Nat × Cursor
  | 0, widest, breaks, c => (widest, breaks, c)
  | fuel + 1, widest, breaks, c =>
    let after := c.skipWhile (· == ' ')
    let widest := max widest after.column
    if isBreak after.char then measure fuel widest (breaks + 1) after.skipBreak
    else (widest, breaks, after)

/-! ## Lines -/

/-- What was read of a text over several lines. -/
structure Lines where
  text : List Char := []
  /-- The last line has an end. -/
  ended : Bool := false
  /-- The number of empty lines after the last line. -/
  empty : Nat := 0
  /-- The last line begins with a blank. -/
  blank : Bool := false

def newlines (n : Nat) : List Char := List.replicate n '\n'

/-- The text between the last line and one that begins with the given character. Where lines are
folded, the end of a line is a blank, but for lines that begin with one, and in front of empty
lines it does not count. -/
def Lines.between (l : Lines) (folded : Bool) (first : Char) : List Char :=
  if folded && l.ended && !l.blank && !isBlank first then
    if l.empty = 0 then [' '] else newlines l.empty
  else (if l.ended then ['\n'] else []) ++ newlines l.empty

/-- The lines with an indentation, after those in front of them. -/
def lines (folded : Bool) (indent : Nat) : Nat → Lines → Cursor → Lines × Cursor
  | 0, l, c => (l, c)
  | fuel + 1, l, c =>
    if c.column ≠ indent ∨ c.rest = [] ∨ (indent = 0 ∧ c.isMarker '.') then (l, c)
    else
      let after := c.skipLine
      let text := l.text ++ l.between folded c.char ++ c.rest.take (after.index - c.index)
      let line : Lines := { text, blank := isBlank c.char }
      if after.rest = [] then (line, after)
      else
        let (empty, after) := skipEmpty indent (c.rest.length + 1) 0 after.skipBreak
        lines folded indent fuel { line with ended := true, empty } after

/-- The whole text. A last line at the end of all text has an end, too. -/
def Lines.whole (l : Lines) (chomping : Chomping) (indent : Nat) (after : Cursor) : List Char :=
  let ends := (if l.ended then ['\n'] else []) ++
    (if after.rest = [] ∧ max indent 1 ≤ after.column then ['\n'] else [])
  match chomping with
  | .strip => l.text
  | .clip => l.text ++ ends
  | .keep => l.text ++ ends ++ newlines l.empty

/-- The text of which all is empty, up to the end of all text. -/
def emptyText (chomping : Chomping) (sameLine : Bool) (breaks : Nat) : List Char :=
  if chomping = .strip ∨ sameLine then []
  else if chomping = .keep ∧ breaks ≠ 0 then newlines breaks
  else ['\n']

/-- A text over several lines, from its sign on, and what follows it. Its lines are further
indented than what is around it, as far as the first of them. -/
def block? (folded : Bool) (around : Int) (c : Cursor) : Option (List Char × Cursor) := do
  let (header, headerEnd) ← header? (c.skip 1)
  let start := if isBreak headerEnd.char then headerEnd.skipBreak else headerEnd
  if start.char = '\t' then none
  else
    let fuel := c.rest.length + 1
    let (indent, breaks, first) := match header.indent with
      | some n =>
        let indent := if 0 ≤ around then around.toNat + n else n
        (indent, skipEmpty indent fuel 0 start)
      | none =>
        let (widest, read) := measure fuel 0 0 start
        (max (max widest (around + 1).toNat) (if 0 < around then 1 else 0), read)
    if first.rest = [] then
      some (emptyText header.chomping (first.line == c.line) breaks, first)
    else if first.column < indent ∧ around < first.column then none
    else
      let (l, after) := lines folded indent fuel { empty := breaks } first
      some (l.whole header.chomping indent after, after)

end Verdict.Settings.Yaml
