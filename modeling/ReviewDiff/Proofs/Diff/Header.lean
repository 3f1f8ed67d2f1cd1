import ReviewDiff.Proofs.Diff.Output
import ReviewDiff.Proofs.Text.Points

/-!
# Reading the header of a hunk

A header is read back from its text alone. For each side it gives the position where the lines of
the hunk start, counted from zero, also where the hunk has no line on that side.
-/

set_option autoImplicit false

namespace ReviewDiff

structure Header where
  oldStart : Nat
  oldCount : Nat
  newStart : Nat
  newCount : Nat

namespace Header

def expect? (mark : String) (text : List Char) : Option (List Char) :=
  if mark.toList.isPrefixOf text then some (text.drop mark.toList.length) else none

/-- The decimal number at the front of a text, and what follows it. -/
def number? (text : List Char) : Option (Nat × List Char) :=
  let digits := text.takeWhile Char.isDigit
  if digits.isEmpty then none
  else some (Nat.ofDigitChars 10 digits 0, text.dropWhile Char.isDigit)

def range? (text : List Char) : Option ((Nat × Nat) × List Char) := do
  let (start, text) ← number? text
  let text ← expect? "," text
  let (count, text) ← number? text
  return ((start, count), text)

def read? (text : Points) : Option Header := do
  let text ← text.chars?
  let text ← expect? "@@ -" text
  let ((oldStart, oldCount), text) ← range? text
  let text ← expect? " +" text
  let ((newStart, newCount), text) ← range? text
  let text ← expect? " @@" text
  if text.isEmpty then return ⟨oldStart, oldCount, newStart, newCount⟩ else none

/-- The position that a start with a count stands for, counted from zero. -/
def begin? (start count : Nat) : Option Nat :=
  if count = 0 then some start else if start = 0 then none else some (start - 1)

def position? (side : DiffSide) (h : Header) : Option Nat :=
  match side with
  | .old => begin? h.oldStart h.oldCount
  | .new => begin? h.newStart h.newCount

theorem expect_append (mark : String) (rest : List Char) :
    expect? mark (mark.toList ++ rest) = some rest := by
  have hprefix : mark.toList.isPrefixOf (mark.toList ++ rest) = true :=
    List.isPrefixOf_iff_prefix.mpr (List.prefix_append ..)
  rw [expect?, if_pos hprefix, List.drop_left]

theorem number_repr (n : Nat) {rest : List Char} (h : ∀ c ∈ rest.head?, c.isDigit = false) :
    number? (n.repr.toList ++ rest) = some (n, rest) := by
  have hdigits : ∀ c ∈ Nat.toDigits 10 n, c.isDigit :=
    fun c hc => Nat.isDigit_of_mem_toDigits (by decide) (by decide) hc
  have hrest : rest.takeWhile Char.isDigit = [] ∧ rest.dropWhile Char.isDigit = rest := by
    cases rest with
    | nil => exact ⟨rfl, rfl⟩
    | cons c rest => simp [h c rfl]
  rw [Nat.toList_repr, number?, List.takeWhile_append_of_pos hdigits,
    List.dropWhile_append_of_pos hdigits, hrest.1, hrest.2, List.append_nil]
  simp [Nat.toDigits_ne_nil]

theorem range_repr (start count : Nat) {rest : List Char}
    (h : ∀ c ∈ rest.head?, c.isDigit = false) :
    range? (start.repr.toList ++ (",".toList ++ (count.repr.toList ++ rest))) =
      some ((start, count), rest) := by
  have hcomma : ∀ c ∈ (",".toList ++ (count.repr.toList ++ rest)).head?, c.isDigit = false := by
    intro c hc
    obtain rfl : ',' = c := Option.some.inj hc
    rfl
  simp only [range?, number_repr start hcomma, expect_append, number_repr count h,
    Option.bind_eq_bind, Option.bind_some, Option.pure_def]

theorem read_headerText (oldStart oldCount newStart newCount : Nat) (lines : List DiffLine) :
    read? (Hunk.mk oldStart oldCount newStart newCount lines).headerText =
      some ⟨oldStart, oldCount, newStart, newCount⟩ := by
  have htext : (Hunk.mk oldStart oldCount newStart newCount lines).headerText.toList =
      "@@ -".toList ++ (oldStart.repr.toList ++ (",".toList ++ (oldCount.repr.toList ++
        (" +".toList ++ (newStart.repr.toList ++ (",".toList ++ (newCount.repr.toList ++
          (" @@".toList ++ [])))))))) := by
    change ("@@ -" ++ oldStart.repr ++ "," ++ oldCount.repr ++ " +" ++ newStart.repr ++ "," ++
      newCount.repr ++ " @@").toList = _
    simp only [String.toList_append, List.append_assoc, List.append_nil]
  have hplus : ∀ c ∈ (" +".toList ++ (newStart.repr.toList ++ (",".toList ++
      (newCount.repr.toList ++ (" @@".toList ++ []))))).head?, c.isDigit = false := by
    intro c hc
    obtain rfl : ' ' = c := Option.some.inj hc
    rfl
  have hend : ∀ c ∈ (" @@".toList ++ []).head?, c.isDigit = false := by
    intro c hc
    obtain rfl : ' ' = c := Option.some.inj hc
    rfl
  simp only [read?, Points.chars?_ofString, htext, expect_append, range_repr oldStart oldCount hplus,
    range_repr newStart newCount hend, Option.bind_eq_bind, Option.bind_some, Option.pure_def,
    List.isEmpty_nil, if_true]

-- A side without lines starts behind the line that its header names.
example : (read? "@@ -5,0 +6,1 @@").bind (position? .old) = some 5 := by cbv

end Header

end ReviewDiff
