-- Compact formulas: one character for an operator or one of the first
-- ids, a hash sign and a number for any id. What cannot be read is
-- passed over and reported with its place in the text, in bytes.
import Verdict.Formula.Element
import Verdict.Report
import Verdict.Text.Ascii
import Verdict.Text.Blank

namespace Verdict.Formula.Compact

/-! ## Pieces -/

/-- What a stretch of the text gives. The place is that of its first byte. -/
inductive Piece where
  | element (e : Element)
  /-- A hash sign without a number that can be an id. -/
  | missingNumber (place : Nat)
  | illegal (place : Nat) (c : Char)
deriving DecidableEq, Repr

namespace Piece

def element? : Piece → Option Element
  | element e => some e
  | missingNumber _ | illegal _ _ => none

def complaint? : Piece → Option String
  | element _ => none
  | missingNumber place => some s!"公式位置 {Text.natText place} 的 '#' 后缺少编号，已忽略"
  | illegal place c =>
    some s!"公式位置 {Text.natText place} 的非法字符 '{String.ofList [c]}'，已忽略"

end Piece

/-- The piece of a hash sign and the digits after it. -/
def hashPiece (place : Nat) (digits : List Char) : Piece :=
  match Text.readIndex? digits with
  | some id => .element (.ref id)
  | none => .missingNumber place

/-- The piece of a single character. A blank gives none. -/
def charPiece? (place : Nat) (c : Char) : Option Piece :=
  if Text.isBlank c then none
  else match LogicOp.ofSymbol? c with
    | some o => some (.element (.op o))
    | none =>
      if Text.isAsciiLower c then some (.element (.ref (c.toNat - 97))) else some (.illegal place c)

/-- The pieces of a text that begins at a place. The digits of a hash sign are read with it; the
flag tells that the text begins inside of them, and then they are passed over. -/
def scan : Bool → Nat → List Char → List Piece
  | _, _, [] => []
  | inNumber, place, c :: rest =>
    if inNumber && c.isDigit then scan true (place + c.utf8Size) rest
    else if c = '#' then
      hashPiece place (rest.takeWhile Char.isDigit) :: scan true (place + c.utf8Size) rest
    else (charPiece? place c).toList ++ scan false (place + c.utf8Size) rest

def pieces (cs : List Char) : List Piece := scan false 0 cs

/-! ## Reading -/

/-- The elements of a compact formula. -/
def elements (formula : String) : List Element := (pieces formula.toList).filterMap Piece.element?

/-- A warning for each stretch that was passed over. -/
def reports (formula : String) : List Report :=
  ((pieces formula.toList).filterMap Piece.complaint?).map (Report.warning · formula)

end Verdict.Formula.Compact
