/-!
# Powers of two and of ten

The scales that numbers are held and written in, and the range of a signed word.
-/

namespace JsonShape

/-- Two to the power of `n`. -/
def twoTo (n : Nat) : Nat := Nat.pow 2 n

/-- Ten to the power of `n`. -/
def tenTo (n : Nat) : Nat := Nat.pow 10 n

theorem twoTo_pos (n : Nat) : 0 < twoTo n := Nat.pow_pos (by decide)

theorem tenTo_pos (n : Nat) : 0 < tenTo n := Nat.pow_pos (by decide)

/-- Whether an integer fits into a signed word of `bits + 1` bits. -/
def fitsSigned (bits : Nat) (n : Int) : Bool := -(twoTo bits : Int) ≤ n && n < twoTo bits

end JsonShape
