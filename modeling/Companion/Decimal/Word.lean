/-! Integers that fit into words of so many bits. -/

set_option autoImplicit false

namespace Companion.Word

/-- The number of values that a word has. -/
def count (bits : Nat) : Nat := Nat.pow 2 bits

def fitsUnsigned (bits n : Nat) : Bool := n < count bits

/-- The least number that a word with a sign holds. -/
def least (bits : Nat) : Int := -(count (bits - 1) : Int)

/-- The greatest number that a word with a sign holds. -/
def greatest (bits : Nat) : Int := (count (bits - 1) : Int) - 1

def fitsSigned (bits : Nat) (i : Int) : Bool := least bits ≤ i && i ≤ greatest bits

/-- Whether a number fits into a word that has a sign only if the number is negative. -/
def fits (bits : Nat) (i : Int) : Bool := least bits ≤ i && i < count bits

end Companion.Word
