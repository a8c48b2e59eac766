-- Files of settings in sections: a name and a text on each line, below
-- the headings of their sections.
import Verdict.Settings.Tree
import Verdict.Text.Ascii

namespace Verdict.Settings.Ini

inductive Statement where
  /-- The settings that follow belong to a new section. -/
  | heading (name : String)
  | setting (name text : String)
deriving DecidableEq, Repr

/-! ## Texts with escapes -/

/-- The character that a letter after a backslash stands for. All but a few stand for
themselves. -/
def escaped : Char → Char
  | '0' => '\x00'
  | 'a' => '\x07'
  | 'b' => '\x08'
  | 't' => '\t'
  | 'r' => '\r'
  | 'n' => '\n'
  | c => c

/-- Puts a character in front of a text, with what follows the text. -/
def prepend (c : Char) (read : List Char × List Char) : List Char × List Char :=
  (c :: read.1, read.2)

/-- The text up to a character at which it stops, and what stands from there on. A backslash at
the end of a line joins the next line to it. -/
def textUntil? (stops : Char → Bool) : List Char → Option (List Char × List Char)
  | [] => some ([], [])
  | ['\\'] => some (['\\'], [])
  | '\\' :: '\n' :: rest => textUntil? stops rest
  | '\\' :: 'x' :: a :: b :: c :: d :: rest =>
    match Text.hexChar? [a, b, c, d], textUntil? stops rest with
    | some x, some read => some (prepend x read)
    | _, _ => none
  | '\\' :: 'x' :: _ => none
  | '\\' :: c :: rest => (textUntil? stops rest).map (prepend (escaped c))
  | c :: rest =>
    if stops c then some ([], c :: rest) else (textUntil? stops rest).map (prepend c)

theorem eq_of_map_prepend {c : Char} {read : Option (List Char × List Char)}
    {text after : List Char} (h : read.map (prepend c) = some (text, after)) :
    ∃ t, read = some (t, after) := by
  obtain ⟨⟨t, _⟩, hr, h⟩ := Option.map_eq_some_iff.1 h
  cases h
  exact ⟨t, hr⟩

theorem length_of_textUntil? {stops : Char → Bool} {cs text after : List Char}
    (h : textUntil? stops cs = some (text, after)) : after.length ≤ cs.length := by
  fun_induction textUntil? stops cs generalizing text after <;>
    grind [prepend, → eq_of_map_prepend]

/-! ## Values -/

def isLineBreak (c : Char) : Bool := c == '\n' || c == '\r'

def isQuote (c : Char) : Bool := c == '"' || c == '\x27'

/-- The text of a value after what was read of it, and what follows the value. Any number of
quoted parts may stand in front of a part without quotes, which goes to the end of the line.
Blanks at the start of the line and at its end do not count. -/
def value? (first : Bool) (cs : List Char) : Option (List Char × List Char) :=
  match cs with
  | [] => some ([], [])
  | c :: rest =>
    if isQuote c then
      match h : textUntil? (· == c) rest with
      | some (text, _ :: after) =>
        have := length_of_textUntil? h
        (value? false after).map fun (more, after) => (text ++ more, after)
      | _ => none
    else
      (textUntil? isLineBreak (c :: rest)).map fun (text, after) =>
        (if first then Text.trim text else Text.trimEnd text, after)
termination_by cs.length
decreasing_by simp_all only [List.length_cons]; omega

theorem length_of_value? {first : Bool} {cs text after : List Char}
    (h : value? first cs = some (text, after)) : after.length ≤ cs.length := by
  fun_induction value? first cs generalizing text after with
  | case1 => cases h; exact Nat.le_refl _
  | case2 first c rest _ _ _ inner ht hl ih =>
    obtain ⟨⟨_, _⟩, hv, h⟩ := Option.map_eq_some_iff.1 h
    cases h
    have := ih hv
    simp only [List.length_cons] at hl ⊢
    omega
  | case3 => cases h
  | case4 =>
    obtain ⟨⟨_, _⟩, ht, h⟩ := Option.map_eq_some_iff.1 h
    cases h
    exact length_of_textUntil? ht

/-! ## Statements -/

/-- A text without the space at its start, and whether it then stands at the start of a line. -/
def skipSpace (lineStart : Bool) : List Char → Bool × List Char
  | [] => (lineStart, [])
  | c :: rest => if Text.isBlank c then skipSpace (c == '\n') rest else (lineStart, c :: rest)

def isSeparator (c : Char) : Bool := c == '=' || c == ':'

def isBlankInLine (c : Char) : Bool := Text.isBlank c && !isLineBreak c

/-- The statement at the start of a text, and what follows it. -/
def statement? (cs : List Char) : Option (Statement × List Char) :=
  match cs with
  | '[' :: rest =>
    match textUntil? (· == ']') rest with
    | some (name, _ :: after) => some (.heading (String.ofList (Text.trim name)), after)
    | _ => none
  | _ =>
    match textUntil? isSeparator cs with
    | some (name, _ :: after) =>
      if Text.trim name = [] then none
      else (value? true (after.dropWhile isBlankInLine)).map fun (text, after) =>
        (.setting (String.ofList (Text.trim name)) (String.ofList text), after)
    | _ => none

theorem length_skipSpace_le (lineStart : Bool) (cs : List Char) :
    (skipSpace lineStart cs).2.length ≤ cs.length := by
  fun_induction skipSpace lineStart cs <;> simp_all only [List.length_cons, List.length_nil] <;>
    omega

theorem length_of_statement? {cs after : List Char} {s : Statement}
    (h : statement? cs = some (s, after)) : after.length < cs.length := by
  unfold statement? at h
  split at h
  · split at h
    · rename_i ht
      cases h
      have := length_of_textUntil? ht
      simp only [List.length_cons] at this ⊢
      omega
    · cases h
  · split at h
    · rename_i inner ht
      split at h
      · cases h
      obtain ⟨⟨_, _⟩, hv, h⟩ := Option.map_eq_some_iff.1 h
      cases h
      have h1 := length_of_textUntil? ht
      have h2 := length_of_value? hv
      have h3 := (List.dropWhile_suffix isBlankInLine (l := inner)).length_le
      simp only [List.length_cons] at h1
      omega
    · cases h

/-- The statements of a text. A comment begins with the first character of a line. -/
def statements? (lineStart : Bool) (cs : List Char) : Option (List Statement) :=
  match h : skipSpace lineStart cs with
  | (_, []) => some []
  | (atStart, c :: rest) =>
    have : (c :: rest).length ≤ cs.length := by
      have := length_skipSpace_le lineStart cs
      rwa [h] at this
    if c = ';' ∨ c = '#' then
      have := (List.dropWhile_suffix (· != '\n') (l := rest)).length_le
      if atStart then statements? false (rest.dropWhile (· != '\n')) else none
    else match hs : statement? (c :: rest) with
      | none => none
      | some (s, after) =>
        have := length_of_statement? hs
        (statements? false after).map (s :: ·)
termination_by cs.length
decreasing_by all_goals simp_all only [List.length_cons]; omega

/-! ## Sections -/

/-- What was read of a file. -/
structure Document where
  /-- The settings in front of the first heading. -/
  general : List (String × Setting) := []
  /-- The sections by their names, the last first. -/
  sections : List (String × List (String × Setting)) := []

namespace Document

/-- Takes a statement in. Of settings with one name the last stays. -/
def add (d : Document) : Statement → Document
  | .heading name => { d with sections := (name, []) :: d.sections }
  | .setting name text =>
    match d.sections with
    | [] => { d with general := Keyed.insert name (.text text) d.general }
    | (s, es) :: rest => { d with sections := (s, Keyed.insert name (.text text) es) :: rest }

/-- The settings of the document. A section takes the place of what had its name before. -/
def settings (d : Document) : List (String × Setting) :=
  d.sections.reverse.foldl (fun es s => Keyed.insert s.1 (.table s.2) es) d.general

end Document

/-- The settings of a text. -/
def read? (text : String) : Option (List (String × Setting)) :=
  (statements? true text.toList).map fun statements =>
    (statements.foldl Document.add {}).settings

end Verdict.Settings.Ini
