-- Tags, which tell the kind of a value, and the directives that go
-- before a document.
import Verdict.Settings.Yaml.Cursor

namespace Verdict.Settings.Yaml

/-- A tag as it is written: the handle, which stands for the first part of a name, and the rest of
the name. -/
structure Tag where
  handle : List Char
  suffix : List Char
deriving DecidableEq, Repr

inductive Directive where
  | version
  /-- What a handle stands for. -/
  | handle (handle lead : List Char)
deriving DecidableEq, Repr

/-! ## Characters -/

def isUriChar (c : Char) : Bool :=
  c.isAlphanum || "-#;/?:@&=+$,_.!~*\x27()[]%".toList.contains c

def isTagChar (c : Char) : Bool := isUriChar c && !isFlowMark c && c != '!'

/-- The value of two hexadecimal digits after a percent sign. -/
def octet? (c : Cursor) : Option Nat :=
  match c.rest with
  | '%' :: a :: b :: _ => Text.hexNumber? [a, b]
  | _ => none

/-- The number of octets of a character, by the first of them, and what the first tells of the
character. -/
def leadOctet? (n : Nat) : Option (Nat × Nat) :=
  if n < 0x80 then some (1, n)
  else if 0xC0 ≤ n ∧ n < 0xE0 then some (2, n - 0xC0)
  else if 0xE0 ≤ n ∧ n < 0xF0 then some (3, n - 0xE0)
  else if 0xF0 ≤ n ∧ n < 0xF8 then some (4, n - 0xF0)
  else none

/-- The number of a character after so many more octets. -/
def moreOctets? : Nat → Nat → Cursor → Option (Nat × Cursor)
  | 0, n, c => some (n, c)
  | count + 1, n, c =>
    match octet? c with
    | none => none
    | some o =>
      if 0x80 ≤ o ∧ o < 0xC0 then moreOctets? count (64 * n + (o - 0x80)) (c.skip 3) else none

/-- The character that is written by its octets. -/
def octets? (c : Cursor) : Option (Char × Cursor) := do
  let (count, n) ← leadOctet? (← octet? c)
  let (n, after) ← moreOctets? (count - 1) n (c.skip 3)
  if n.isValidChar then some (Char.ofNat n, after) else none

/-- The characters of a kind, and what follows them. -/
def uriText? (p : Char → Bool) : Nat → Cursor → Option (List Char × Cursor)
  | 0, _ => none
  | fuel + 1, c =>
    if c.char = '%' then
      match octets? c with
      | none => none
      | some (x, after) => (uriText? p fuel after).map fun (text, after) => (x :: text, after)
    else if c.rest ≠ [] ∧ p c.char then
      (uriText? p fuel (c.skip 1)).map fun (text, after) => (c.char :: text, after)
    else some ([], c)

/-- The part of a name, and what follows it. -/
def uri? (p : Char → Bool) (c : Cursor) : Option (List Char × Cursor) :=
  uriText? p (c.rest.length + 1) c

/-! ## Tags -/

/-- A handle: a mark, and letters between it and another mark. The other mark may be missing. -/
def handle? (c : Cursor) : Option (List Char × Cursor) :=
  if c.char = '!' then
    let letters := (c.rest.drop 1).takeWhile isWordChar
    let after := c.skip (1 + letters.length)
    if after.char = '!' then some ('!' :: letters ++ ['!'], after.skip 1)
    else some ('!' :: letters, after)
  else none

/-- A handle ends with a mark of its own. -/
def isWholeHandle (handle : List Char) : Bool :=
  2 ≤ handle.length && handle.getLast? == some '!'

/-- A tag in pointed brackets, which stands for itself. -/
def wholeTag? (c : Cursor) : Option (Tag × Cursor) := do
  let (suffix, after) ← uri? isUriChar (c.skip 2)
  if after.char = '>' then some (⟨[], suffix⟩, after.skip 1) else none

/-- A tag with a handle. A mark alone is a tag, too. -/
def shortTag? (c : Cursor) : Option (Tag × Cursor) := do
  let (handle, after) ← handle? c
  let (suffix, after) ← uri? isTagChar after
  if isWholeHandle handle then
    if suffix = [] then none else some (⟨handle, suffix⟩, after)
  else
    let suffix := handle.drop 1 ++ suffix
    some (if suffix = [] then ⟨[], ['!']⟩ else ⟨['!'], suffix⟩, after)

/-- A tag, and what follows it. -/
def tag? (inFlow : Bool) (c : Cursor) : Option (Tag × Cursor) := do
  let (tag, after) ← if c.second = '<' then wholeTag? c else shortTag? c
  if isSpaceOrEnd after.char || (inFlow && isFlowMark after.char) then some (tag, after) else none

/-! ## Directives -/

/-- The digits of a version, at most nine, and what follows them. -/
def versionNumber? (c : Cursor) : Option Cursor :=
  let digits := (c.rest.takeWhile Char.isDigit).length
  if 0 < digits ∧ digits ≤ 9 then some (c.skip digits) else none

def version? (c : Cursor) : Option (Directive × Cursor) := do
  let after ← versionNumber? (c.skipWhile isBlank)
  if after.char = '.' then some (.version, ← versionNumber? (after.skip 1)) else none

/-- What a handle stands for begins with a mark, or with a character of a tag. -/
def lead? (c : Cursor) : Option (List Char × Cursor) :=
  if c.char = '!' ∨ isTagChar c.char then uri? isUriChar c else none

/-- A handle and what it stands for. -/
def handleDirective? (c : Cursor) : Option (Directive × Cursor) := do
  let (handle, after) ← handle? (c.skipWhile isBlank)
  if handle ≠ ['!'] ∧ isWholeHandle handle = false then none
  else
    let (lead, after) ← lead? (after.skipWhile isBlank)
    if isSpaceOrEnd after.char then some (.handle handle lead, after) else none

/-- A directive up to the end of its line. Of one with an unknown name nothing is read. -/
def directive? (c : Cursor) : Option (Directive × Cursor) := do
  let name := (c.rest.drop 1).takeWhile isWordChar
  let after := c.skip (1 + name.length)
  if name = [] ∨ isSpaceOrEnd after.char = false then none
  else
    let (d, after) ← if name = ['Y', 'A', 'M', 'L'] then version? after
      else if name = ['T', 'A', 'G'] then handleDirective? after
      else some (.handle [] [], after.skipLine)
    let after ← after.skipBlanks? true
    if isBreak after.char then some (d, after.skipBreak)
    else if isBreakOrEnd after.char then some (d, after)
    else none

end Verdict.Settings.Yaml
