-- The ids of conditions: whole numbers from 0, shown as letters where
-- the alphabet has one.
import Verdict.Text.Ascii
import Verdict.Text.Integer

namespace Verdict

/-- The largest id of a condition. A repaired formula has an element for each id, so the ids
are bounded. -/
def maxConditionId : Nat := 4095

/-- The name of an id: a capital letter, or a hash sign and the number. -/
def idAlias (id : Nat) : String :=
  if id < 26 then String.ofList [Text.capitalLetter id] else "#" ++ Text.natText id

end Verdict
