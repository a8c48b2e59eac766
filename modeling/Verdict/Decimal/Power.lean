-- Powers of two and of ten.

namespace Verdict.Decimal

/-! ## Powers of two -/

def twoTo (k : Nat) : Nat := Nat.pow 2 k

@[simp] theorem twoTo_zero : twoTo 0 = 1 := rfl

theorem twoTo_pos (k : Nat) : 0 < twoTo k := Nat.two_pow_pos k

/-! ## Powers of ten -/

def tenTo (k : Nat) : Nat := Nat.pow 10 k

@[simp] theorem tenTo_zero : tenTo 0 = 1 := rfl

theorem tenTo_pos (k : Nat) : 0 < tenTo k := Nat.pow_pos (by decide)

end Verdict.Decimal
