/-! Powers of the two bases of numbers. -/

namespace MarkupModule.Decimal

def twoTo (n : Nat) : Nat := Nat.pow 2 n

def tenTo (n : Nat) : Nat := Nat.pow 10 n

end MarkupModule.Decimal
