import ReviewDiff.Text.Ranges

/-!
# White space

The characters that count as blank when a name is trimmed: the Unicode white space and the four
separators U+001C to U+001F.
-/

set_option autoImplicit false

namespace ReviewDiff.Text

def blankRanges : List (Nat × Nat) :=
  [(0x09, 0x0D), (0x1C, 0x20), (0x85, 0x85), (0xA0, 0xA0), (0x1680, 0x1680), (0x2000, 0x200A),
    (0x2028, 0x2029), (0x202F, 0x202F), (0x205F, 0x205F), (0x3000, 0x3000)]

def isBlank (c : Char) : Bool := inRanges blankRanges c

def trimChars (cs : List Char) : List Char :=
  ((cs.dropWhile isBlank).reverse.dropWhile isBlank).reverse

def trim (s : String) : String := String.ofList (trimChars s.toList)

def isBlankText (s : String) : Bool := s.toList.all isBlank

def wordsOf : List Char → List (List Char)
  | [] => []
  | c :: rest =>
    if isBlank c then wordsOf rest
    else match rest, wordsOf rest with
      | d :: _, word :: others => if isBlank d then [c] :: word :: others else (c :: word) :: others
      | _, others => [c] :: others

def words (s : String) : List String := (wordsOf s.toList).map String.ofList

/-- The text up to the first `n` characters. -/
def cut (n : Nat) (s : String) : String := String.ofList (s.toList.take n)

end ReviewDiff.Text
