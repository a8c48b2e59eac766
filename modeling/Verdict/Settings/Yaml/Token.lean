-- The tokens of a file of settings that are ordered by indentation. What
-- is further indented than the line before it opens a list or a mapping,
-- and what is less indented closes those that stand further right.
import Verdict.Settings.Yaml.Block
import Verdict.Settings.Yaml.Plain
import Verdict.Settings.Yaml.Quoted
import Verdict.Settings.Yaml.Tag

namespace Verdict.Settings.Yaml

/-- The ways to write a list or a mapping. -/
inductive Opening where
  /-- A list of lines that begin with a dash. -/
  | entries
  /-- A mapping of lines that begin with a key. -/
  | lines
  | bracket
  | brace
deriving DecidableEq, Repr

inductive Token where
  | documentStart | documentEnd
  | directive (d : Directive)
  | opening (o : Opening)
  /-- The end of what was opened by indentation. -/
  | blockEnd
  | rightBracket | rightBrace | comma
  /-- The dash in front of an entry. -/
  | dash
  | key | value
  /-- A name for the value that follows. -/
  | anchor (name : List Char)
  /-- The value with a name. -/
  | reference (name : List Char)
  | tag (t : Tag)
  | scalar (plain : Bool) (text : List Char)
deriving DecidableEq, Repr

/-! ## State -/

/-- What may turn out to be a key, if a colon follows it. -/
structure Candidate where
  place : Cursor
  /-- The number of tokens in front of it. -/
  before : Nat
  /-- Nothing but a key may stand here. -/
  required : Bool

/-- An open bracket, by what stands in it. -/
inductive Flow where
  | list
  /-- A list, in a mapping of which this entry is the only one. -/
  | pair
  | mapping
deriving DecidableEq, Repr

/-- An indentation, by the one around it. -/
structure Indent where
  around : Int
  /-- A list or a mapping was opened with it. -/
  opened : Bool
deriving DecidableEq, Repr

structure Lexer where
  place : Cursor
  /-- The tokens, the last first. -/
  tokens : List Token := []
  indent : Int := -1
  /-- The indentations, the innermost first. -/
  indents : List Indent := []
  flows : List Flow := []
  /-- What may be a key now, and in the brackets around. -/
  candidates : List (Option Candidate) := [none]
  /-- A key may begin here. -/
  keyAllowed : Bool := true
  /-- The place at which a colon needs no blank behind it. -/
  valueAt : Nat := 0
  /-- The column of the last token, if that is an anchor or a tag. -/
  property : Option Nat := none

namespace Lexer

def inFlow (l : Lexer) : Bool := !l.flows.isEmpty

def push (l : Lexer) (t : Token) : Lexer := { l with tokens := t :: l.tokens, property := none }

/-- Puts a token behind so many others. -/
def insert (l : Lexer) (before : Nat) (t : Token) : Lexer :=
  let n := l.tokens.length - before
  { l with tokens := l.tokens.take n ++ t :: l.tokens.drop n }

def goto (l : Lexer) (c : Cursor) : Lexer := { l with place := c }

def allowKey (l : Lexer) (allowed : Bool) : Lexer := { l with keyAllowed := allowed }

/-! ## Indentation -/

/-- Closes what stands further right than a column. -/
def unroll (column : Int) : List Indent → Lexer → Lexer
  | [], l => l
  | i :: rest, l =>
    if column < l.indent then
      let l := { l with indent := i.around, indents := rest }
      unroll column rest (if i.opened then l.push .blockEnd else l)
    else l

def unrollTo (l : Lexer) (column : Int) : Lexer :=
  if l.inFlow then l else unroll column l.indents l

/-- Takes back an indentation with which nothing was opened. -/
def dropUnopened (l : Lexer) : Lexer :=
  match l.indents with
  | ⟨around, false⟩ :: rest => { l with indent := around, indents := rest }
  | _ => l

/-- What follows a key or a dash stands at least one column further right. -/
def indentByOne (l : Lexer) : Lexer :=
  match l.indents with
  | ⟨_, true⟩ :: _ =>
    if l.inFlow then l
    else { l with indent := l.indent + 1, indents := ⟨l.indent, false⟩ :: l.indents }
  | _ => l

/-- Opens a list or a mapping in front of a token, if the column is further right than all that is
open. -/
def roll (l : Lexer) (column before : Nat) (o : Opening) : Lexer :=
  if l.inFlow then l
  else
    let l := if l.indent ≤ column then l.dropUnopened else l
    if l.indent < column then
      { l.insert before (.opening o) with
        indent := column
        indents := ⟨l.indent, true⟩ :: l.indents }
    else l

/-! ## Keys -/

/-- What begins here may be a key. -/
def candidate (l : Lexer) : Lexer :=
  if l.keyAllowed then
    let required := !l.inFlow && l.indent == l.place.column && l.indents.head?.any (·.opened)
    { l with candidates := some ⟨l.place, l.tokens.length, required⟩ :: l.candidates.drop 1 }
  else l

/-- What was read is no key. -/
def noCandidate? (l : Lexer) : Option Lexer :=
  match l.candidates with
  | some k :: rest => if k.required then none else some { l with candidates := none :: rest }
  | _ => some l

/-- The most characters in front of a colon after a key. -/
def maxKey : Nat := 1024

/-- A key stands on one line, if it is not in brackets. -/
def dropStale? (l : Lexer) : Option Lexer :=
  match l.inFlow, l.candidates with
  | false, some k :: rest =>
    if k.place.line < l.place.line ∨ k.place.index + maxKey < l.place.index then
      if k.required then none else some { l with candidates := none :: rest }
    else some l
  | _, _ => some l

/-! ## Space -/

/-- Passes blanks, comments and ends of lines. A tab is no indentation, but on an empty line. -/
def skipSpace? : Nat → Lexer → Option Lexer
  | 0, _ => none
  | fuel + 1, l =>
    let c := l.place
    if c.char = '\t' ∧ l.indents ≠ [] ∧ c.lineStart ∧ (c.column : Int) < l.indent then
      match c.skipBlanks? true with
      | none => none
      | some after => if isBreakOrEnd after.char then skipSpace? fuel (l.goto after) else none
    else if isBlank c.char then skipSpace? fuel (l.goto (c.skip 1))
    else if isBreak c.char then
      skipSpace? fuel ({ l with keyAllowed := l.keyAllowed || !l.inFlow }.goto c.skipBreak)
    else if c.char = '#' then skipSpace? fuel (l.goto c.skipLine)
    else some l

/-- The place after blanks, comments and ends of lines. -/
def toToken? (l : Lexer) : Option Lexer := skipSpace? (l.place.rest.length + 1) l

/-! ## Brackets -/

/-- The most brackets in one another. -/
def maxFlow : Nat := 255

def openFlow? (l : Lexer) (o : Opening) (flow : Flow) : Option Lexer := do
  let l := l.candidate.indentByOne
  if maxFlow ≤ l.flows.length then none
  else
    let after ← (l.place.skip 1).skipBlanks? true
    some ({ l with
      flows := flow :: l.flows
      candidates := none :: l.candidates
      keyAllowed := true }.push (.opening o) |>.goto after)

/-- Ends a mapping of one entry in a list. -/
def endPair (l : Lexer) : Lexer :=
  match l.flows with
  | .pair :: rest => { l with flows := .list :: rest }.push .rightBrace
  | _ => l

def closeFlow? (l : Lexer) (t : Token) : Option Lexer := do
  let l := (← l.noCandidate?).endPair
  let l := if l.inFlow then
      { l with flows := l.flows.drop 1, candidates := l.candidates.drop 1 }
    else l
  let after ← (l.place.skip 1).skipBlanks? true
  let l := if l.inFlow then { l with valueAt := after.index } else l
  some ((l.allowKey false).push t |>.goto after)

def nextFlow? (l : Lexer) : Option Lexer := do
  let l := (← l.noCandidate?).endPair
  let after ← (l.place.skip 1).skipBlanks? true
  some ((l.allowKey true).push .comma |>.goto after)

/-! ## Entries, keys and values -/

/-- A dash begins an entry. An anchor or a tag at the start of a line goes with no dash at the
start of the next one, if a list or a mapping is open. -/
def dash? (l : Lexer) : Option Lexer := do
  let c := l.place
  if l.inFlow || !l.keyAllowed then none
  else if c.column = 0 ∧ l.property = some 0 ∧ -1 < l.indent then none
  else
    let l := l.roll c.column l.tokens.length .entries
    let blanks := (c.skip 1).blanks
    let after ← (c.skip 1).skipBlanks? true
    if blanks.contains '\t' && after.char == '-' && isSpaceOrEnd after.second then none
    else
      let l := if isBreak after.char || isFlowMark after.char then l.indentByOne else l
      some (((← l.noCandidate?).allowKey true).push .dash |>.goto after)

/-- Passes what may stand behind a question mark: no tab, and no end of the text. -/
def skipAfterKey? : Nat → Lexer → Option Lexer
  | 0, _ => none
  | fuel + 1, l =>
    let c := l.place
    if c.char = ' ' then skipAfterKey? fuel (l.goto (c.skip 1))
    else if isBreak c.char then
      skipAfterKey? fuel ({ l with keyAllowed := l.keyAllowed || !l.inFlow }.goto c.skipBreak)
    else if c.char = '#' then skipAfterKey? fuel (l.goto c.skipLine)
    else if c.char = '\t' then none
    else some l

/-- A mapping of one entry begins in a list, in front of the entry. -/
def beginPair (l : Lexer) (before : Nat) : Lexer :=
  match l.flows with
  | .list :: rest => { l with flows := .pair :: rest }.insert before (.opening .brace)
  | _ => l

def key? (l : Lexer) : Option Lexer := do
  if !l.inFlow && !l.keyAllowed then none
  else
    let l := (l.roll l.place.column l.tokens.length .lines).beginPair l.tokens.length
    let l ← l.noCandidate?
    let l := (l.allowKey !l.inFlow).goto (l.place.skip 1)
    if l.place.rest = [] then none
    else some ((← skipAfterKey? (l.place.rest.length + 1) l).push .key)

/-- The colon after a key in a list stands on the line of the key. -/
def pairFits (l : Lexer) (k : Candidate) : Bool :=
  l.flows.head? != some .list || !decide (k.place.line < l.place.line)

/-- A tab may not be all that stands between a colon and a word. -/
def valueSpace? (c : Cursor) : Option Cursor :=
  if c.char = '\t' then do
    let after ← c.skipBlanks? true
    if !c.blanks.contains ' ' && isWordChar after.char then none else some after
  else some c

def value? (l : Lexer) : Option Lexer := do
  let after ← valueSpace? (l.place.skip 1)
  match l.candidates with
  | some k :: rest =>
    if l.pairFits k then
      let l := ((l.insert k.before .key).beginPair k.before).roll k.place.column k.before .lines
      some (({ l.indentByOne with candidates := none :: rest, keyAllowed := false }.push .value)
        |>.goto after)
    else none
  | _ =>
    if !l.inFlow && !l.keyAllowed then none
    else
      let l := (l.beginPair l.tokens.length).roll l.place.column l.tokens.length .lines
      some ((l.indentByOne.allowKey !l.inFlow).push .value |>.goto after)

/-! ## Scalars and their properties -/

def isNameChar (c : Char) : Bool := !isSpaceOrEnd c && !isFlowMark c && c != '\ufeff'

/-- A name after its sign. -/
def name? (l : Lexer) (token : List Char → Token) : Option Lexer :=
  let l := l.candidate.allowKey false
  let name := (l.place.rest.drop 1).takeWhile isNameChar
  if name = [] then none
  else
    some ({ l.push (token name) with property := some l.place.column }.goto
      (l.place.skip (1 + name.length)))

def tag? (l : Lexer) : Option Lexer := do
  let l := l.candidate.allowKey false
  let (t, after) ← Yaml.tag? l.inFlow l.place
  some ({ l.push (.tag t) with property := some l.place.column }.goto after)

def quoted? (l : Lexer) (q : Quote) : Option Lexer := do
  let l := l.candidate.allowKey false
  let (text, after) ← Yaml.quoted? q l.indent l.inFlow l.place
  let l ← (l.goto after).toToken?
  some ({ l with valueAt := l.place.index }.push (.scalar false text))

def plain? (l : Lexer) : Option Lexer := do
  let l := (l.candidate.allowKey false).dropUnopened
  let (text, after) ← Yaml.plain? l.indent l.inFlow l.place
  some ((l.allowKey after.lineStart).push (.scalar true text) |>.goto after)

def block? (l : Lexer) (folded : Bool) : Option Lexer := do
  let l := (l.candidate.allowKey true).dropUnopened
  let (text, after) ← Yaml.block? folded l.indent l.place
  some ((l.push (.scalar false text)).goto after)

/-! ## Documents -/

/-- Closes all that is open by indentation. -/
def closeAll? (l : Lexer) : Option Lexer := do
  some ((← (l.unrollTo (-1)).noCandidate?).allowKey false)

def documentMarker? (l : Lexer) (t : Token) : Option Lexer := do
  let l ← l.closeAll?
  some ((l.push t).goto (l.place.skip 3))

/-- Behind the end of a document stands nothing on its line. -/
def documentEnd? (l : Lexer) : Option Lexer := do
  let l ← l.documentMarker? .documentEnd
  let after ← l.place.skipBlanks? true
  if isBreakOrEnd after.char then some (l.goto after) else none

def directive? (l : Lexer) : Option Lexer := do
  let l ← l.closeAll?
  let (d, after) ← Yaml.directive? l.place
  some ((l.push (.directive d)).goto after)

/-! ## All tokens -/

/-- A colon that ends a key. In brackets it may stand close to what follows it. -/
def isColon (l : Lexer) : Bool :=
  isSpaceOrEnd l.place.second ||
    (l.inFlow && (isFlowMark l.place.second || l.place.index == l.valueAt))

/-- The next token, by its first character. -/
def token? (l : Lexer) : Option Lexer :=
  let alone := isSpaceOrEnd l.place.second
  match l.place.char with
  | '[' => l.openFlow? .bracket .list
  | '\x7b' => l.openFlow? .brace .mapping
  | ']' => l.closeFlow? .rightBracket
  | '\x7d' => l.closeFlow? .rightBrace
  | ',' => l.nextFlow?
  | '*' => l.name? .reference
  | '&' => l.name? .anchor
  | '!' => l.tag?
  | '\x27' => l.quoted? .single
  | '"' => l.quoted? .double
  | '%' | '@' | '\x60' => none
  | '-' => if alone then l.dash? else l.plain?
  | '?' => if alone then l.key? else l.plain?
  | ':' => if l.isColon then l.value? else l.plain?
  | '|' => if l.inFlow then l.plain? else l.block? false
  | '>' => if l.inFlow then l.plain? else l.block? true
  | _ => l.plain?

/-- The next token, or the marker of a document at the start of a line. -/
def step? (l : Lexer) : Option Lexer :=
  if l.place.column = 0 ∧ l.place.char = '%' then l.directive?
  else if l.place.isMarker '-' then l.documentMarker? .documentStart
  else if l.place.isMarker '.' then l.documentEnd?
  else if (l.place.column : Int) < l.indent then none
  else l.token?

/-- The end of the text. A key that must stand there is missing its colon. -/
def finish? (l : Lexer) : Option Lexer :=
  if l.candidates.any fun k => k.any (·.required) then none
  else some ({ l with candidates := [none] }.unrollTo (-1))

def run? : Nat → Lexer → Option Lexer
  | 0, _ => none
  | fuel + 1, l =>
    match (l.toToken?).bind dropStale? with
    | none => none
    | some l =>
      let l := l.unrollTo l.place.column
      if l.place.rest = [] then l.finish?
      else match l.step? with
        | none => none
        | some l => run? fuel l

end Lexer

/-- The tokens of a text. -/
def tokens? (cs : List Char) : Option (List Token) :=
  (Lexer.run? (cs.length + 1) { place := ⟨cs, 0, 0, 0, true⟩ }).map fun l => l.tokens.reverse

end Verdict.Settings.Yaml
