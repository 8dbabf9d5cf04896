/-!
The integers of 64 bits, without and with a sign.
-/
namespace Mustache.Number

/-- The number of words, and so the least natural number that does not fit into 64 bits. -/
def wordLimit : Nat := 18446744073709551616

/-- Whether a natural number fits into 64 bits. -/
def isWord (n : Nat) : Bool := n < wordLimit

/-- Whether an integer fits into 64 bits with its sign. -/
def isSigned (i : Int) : Bool := -9223372036854775808 ≤ i && i ≤ 9223372036854775807

end Mustache.Number
