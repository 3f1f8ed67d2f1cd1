/-!
# Ranges of characters

A class of characters is a list of ranges of code points in their order, both ends included.
-/

set_option autoImplicit false

namespace ReviewDiff.Text

/-- Whether one of the ranges holds a character. The ranges come in order, so that none behind the
character is looked at. -/
def inRanges : List (Nat × Nat) → Char → Bool
  | [], _ => false
  | (first, last) :: rest, c => first ≤ c.toNat && (c.toNat ≤ last || inRanges rest c)

end ReviewDiff.Text
