-- Texts without quotes, in settings that are ordered by indentation.
import Verdict.Settings.Yaml.Cursor

namespace Verdict.Settings.Yaml

/-! ## Words -/

/-- A colon stands for the end of a key here. -/
def isKeyEnd (inFlow : Bool) (c : Cursor) : Bool :=
  c.char == ':' && (isSpaceOrEnd c.second || (inFlow && isFlowMark c.second))

/-- The next character goes on with a word. -/
def goesOn (inFlow : Bool) (c : Cursor) : Bool :=
  !isSpaceOrEnd c.char && !isKeyEnd inFlow c && !(inFlow && isFlowMark c.char)

/-- The characters of a word, and what follows it. -/
def plainWord (inFlow : Bool) : Nat → Cursor → List Char × Cursor
  | 0, c => ([], c)
  | fuel + 1, c =>
    if goesOn inFlow c then
      let (word, after) := plainWord inFlow fuel (c.skip 1)
      (c.char :: word, after)
    else ([], c)

/-! ## Texts -/

/-- The text after what was read of it, and what follows it. Between its words are gaps, of which
the last does not belong to it. Lines in brackets have any indentation; all others stand further
right than what is around them. -/
def plainText? (indent : Int) (inFlow : Bool) : Nat → List Char → Cursor →
    Option (List Char × Cursor)
  | 0, _, _ => none
  | fuel + 1, gap, c =>
    if c.isDocumentMarker || c.char == '#' then some ([], c)
    else if inFlow && c.char == '-' && isFlowMark c.second then none
    else
      let (word, after) := plainWord inFlow (c.rest.length + 1) c
      if word.isEmpty then some ([], c)
      else if !isBlank after.char && !isBreak after.char then some (gap ++ word, after)
      else match after.gap? (indent + 1) true false with
        | none => none
        | some (next, after) =>
          if !inFlow && decide ((after.column : Int) < indent + 1) then some (gap ++ word, after)
          else (plainText? indent inFlow fuel next.text after).map fun (text, after) =>
            (gap ++ word ++ text, after)

/-- A text without quotes, and what follows it. It is not empty. -/
def plain? (indent : Int) (inFlow : Bool) (c : Cursor) : Option (List Char × Cursor) :=
  if inFlow && decide ((c.column : Int) < indent + 1) then none
  else match plainText? indent inFlow (c.rest.length + 1) [] c with
    | some (x :: text, after) => some (x :: text, after)
    | _ => none

end Verdict.Settings.Yaml
