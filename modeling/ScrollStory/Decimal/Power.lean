/-!
# Powers of two and ten

The powers by which numbers are scaled and bounded.
-/

namespace ScrollStory

/-- A power of two. -/
def twoTo (n : Nat) : Nat := Nat.pow 2 n

/-- A power of ten. -/
def tenTo (n : Nat) : Nat := Nat.pow 10 n

end ScrollStory
