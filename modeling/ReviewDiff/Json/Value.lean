import ReviewDiff.Data.Assoc
import ReviewDiff.Decimal.Shortest

/-!
# JSON values

A number written without fraction and exponent is an integer of any size; every other number is a
double. The members of an object keep their order.
-/

set_option autoImplicit false

namespace ReviewDiff

inductive Json where
  | null
  | bool (b : Bool)
  | int (n : Int)
  | float (x : Binary64)
  | str (s : String)
  | arr (items : List Json)
  | obj (members : List (String × Json))
  deriving Repr, Inhabited

namespace Json

def member? (j : Json) (name : String) : Option Json :=
  match j with
  | .obj members => Assoc.get? members name
  | _ => none

/-- Whether a value counts as true: anything but null, false, zero and what is empty. -/
def holds : Json → Bool
  | .null => false
  | .bool b => b
  | .int n => n ≠ 0
  | .float x => !x.isZero
  | .str s => !s.isEmpty
  | .arr items => !items.isEmpty
  | .obj members => !members.isEmpty

mutual

def depth : Json → Nat
  | .arr items => depthOfItems items + 1
  | .obj members => depthOfMembers members + 1
  | _ => 0

def depthOfItems : List Json → Nat
  | [] => 0
  | item :: rest => max item.depth (depthOfItems rest)

def depthOfMembers : List (String × Json) → Nat
  | [] => 0
  | (_, item) :: rest => max item.depth (depthOfMembers rest)

end

end Json

end ReviewDiff
