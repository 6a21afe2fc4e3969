/-! Powers of two and ten, and the integers that 64 bits hold. -/

namespace NoteVault

abbrev pow2 (n : Nat) : Nat := Nat.pow 2 n

abbrev pow10 (n : Nat) : Nat := Nat.pow 10 n

/-- Whether 64 bits with a sign hold an integer. -/
def isSigned64 (n : Int) : Bool := -0x8000000000000000 ≤ n && n < 0x8000000000000000

/-- Whether 64 bits without a sign hold an integer. -/
def isUnsigned64 (n : Int) : Bool := 0 ≤ n && n < 0x10000000000000000

/-- Whether 64 bits hold an integer, with a sign or without. -/
def isInteger64 (n : Int) : Bool := isSigned64 n || isUnsigned64 n

end NoteVault
