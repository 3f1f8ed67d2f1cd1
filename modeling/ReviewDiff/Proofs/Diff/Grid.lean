import ReviewDiff.Diff.Search
import ReviewDiff.Proofs.Diff.Edits

/-!
# Ways through the grid of two sequences

A point `(x, y)` of the grid stands behind `x` symbols of the old sequence and `y` of the new one.
What is left of both sequences there is what steps have to use up to reach the far corner.
-/

set_option autoImplicit false

namespace ReviewDiff.Search

open Step

variable {α : Type}

/-- A diagonal edge of the grid leaves the point `(x, y)`. -/
def Same (a b : Array α) (x y : Nat) : Prop :=
  ∃ (hx : x < a.size) (hy : y < b.size), a[x] = b[y]

/-- The steps lead from the point `(x, y)` to the far corner. -/
def Finishes (a b : Array α) (steps : List Step) (x y : Nat) : Prop :=
  Edits steps (a.toList.drop x) (b.toList.drop y)

variable {a b : Array α} {steps : List Step} {x y : Nat}

theorem drop_column (hx : x < a.size) :
    a.toList.drop x = a[x] :: a.toList.drop (x+1) := by
  rw [List.drop_eq_getElem_cons (by simpa using hx)]
  simp

theorem drop_eq_cons {line : α} {rest : List α} (h : a.toList.drop x = line :: rest) :
    ∃ hx : x < a.size, line = a[x] ∧ rest = a.toList.drop (x+1) := by
  have hx : x < a.size := by
    have hlen := congrArg List.length h
    simp only [List.length_drop, List.length_cons, Array.length_toList] at hlen
    omega
  rw [drop_column hx] at h
  obtain ⟨hline, hrest⟩ := List.cons.inj h
  exact ⟨hx, hline.symm, hrest.symm⟩

theorem finishes_corner : Finishes a b [] a.size b.size := by
  rw [Finishes, List.drop_eq_nil_of_le (by simp), List.drop_eq_nil_of_le (by simp)]
  exact .nil

theorem finishes_keep (hs : Same a b x y) (h : Finishes a b steps (x+1) (y+1)) :
    Finishes a b (.keep :: steps) x y := by
  obtain ⟨hx, hy, heq⟩ := hs
  rw [Finishes, drop_column hx, drop_column hy, heq]
  exact .keep _ h

theorem finishes_delete (hx : x < a.size) (h : Finishes a b steps (x+1) y) :
    Finishes a b (.delete :: steps) x y := by
  rw [Finishes, drop_column hx]
  exact .delete _ h

theorem finishes_insert (hy : y < b.size) (h : Finishes a b steps x (y+1)) :
    Finishes a b (.insert :: steps) x y := by
  rw [Finishes, drop_column hy]
  exact .insert _ h

theorem finishes_keeps {s : Nat} (hs : ∀ t < s, Same a b (x+t) (y+t))
    (h : Finishes a b steps (x+s) (y+s)) :
    Finishes a b (List.replicate s .keep ++ steps) x y := by
  induction s generalizing x y with
  | zero => exact h
  | succ s ih =>
    rw [List.replicate_succ, List.cons_append]
    refine finishes_keep (hs 0 (by omega)) (ih (fun t ht => ?_) ?_)
    · simpa only [Nat.add_assoc, Nat.add_comm 1] using hs (t+1) (by omega)
    · simpa only [Nat.add_assoc, Nat.add_comm 1] using h

theorem keep_finishes (h : Finishes a b (.keep :: steps) x y) :
    Same a b x y ∧ Finishes a b steps (x+1) (y+1) := by
  rw [Finishes] at h
  generalize hold : a.toList.drop x = old at h
  generalize hnew : b.toList.drop y = new at h
  cases h with
  | keep line rest =>
    obtain ⟨hx, hline, rfl⟩ := drop_eq_cons hold
    obtain ⟨hy, hline', rfl⟩ := drop_eq_cons hnew
    exact ⟨⟨hx, hy, hline ▸ hline'⟩, rest⟩

theorem delete_finishes (h : Finishes a b (.delete :: steps) x y) :
    x < a.size ∧ Finishes a b steps (x+1) y := by
  rw [Finishes] at h
  generalize hold : a.toList.drop x = old at h
  cases h with
  | delete line rest =>
    obtain ⟨hx, -, rfl⟩ := drop_eq_cons hold
    exact ⟨hx, rest⟩

theorem insert_finishes (h : Finishes a b (.insert :: steps) x y) :
    y < b.size ∧ Finishes a b steps x (y+1) := by
  rw [Finishes] at h
  generalize hnew : b.toList.drop y = new at h
  cases h with
  | insert line rest =>
    obtain ⟨hy, -, rfl⟩ := drop_eq_cons hnew
    exact ⟨hy, rest⟩

theorem nil_finishes (h : Finishes a b [] x y) : a.size ≤ x ∧ b.size ≤ y := by
  rw [Finishes] at h
  generalize hold : a.toList.drop x = old at h
  generalize hnew : b.toList.drop y = new at h
  cases h with
  | nil => simpa [List.drop_eq_nil_iff] using And.intro hold hnew

variable [DecidableEq α]

theorem slide_spec (a b : Array α) (x y : Nat) :
    ∃ s, slide a b x y = x+s ∧ (∀ t < s, Same a b (x+t) (y+t)) ∧ ¬ Same a b (x+s) (y+s) := by
  fun_induction slide a b x y with
  | case1 x y hx hy heq ih =>
    obtain ⟨s, hslide, hsame, hend⟩ := ih
    refine ⟨s+1, by omega, fun t ht => ?_, ?_⟩
    · cases t with
      | zero => exact ⟨hx, hy, heq⟩
      | succ t => simpa only [Nat.add_assoc, Nat.add_comm 1] using hsame t (by omega)
    · simpa only [Nat.add_assoc, Nat.add_comm 1] using hend
  | case2 x y hx hy hne => exact ⟨0, rfl, by omega, fun ⟨_, _, heq⟩ => hne heq⟩
  | case3 x y hx hy => exact ⟨0, rfl, by omega, fun ⟨_, hy', _⟩ => hy hy'⟩
  | case4 x y hx => exact ⟨0, rfl, by omega, fun ⟨hx', _⟩ => hx hx'⟩

theorem le_slide (a b : Array α) (x y : Nat) : x ≤ slide a b x y := by
  obtain ⟨s, hslide, -⟩ := slide_spec a b x y
  omega

theorem slide_inside (a b : Array α) {x y : Nat} (hx : x ≤ a.size) (hy : y ≤ b.size) :
    slide a b x y ≤ a.size ∧ slide a b x y + y ≤ b.size + x := by
  obtain ⟨s, hslide, hsame, -⟩ := slide_spec a b x y
  cases s with
  | zero => omega
  | succ s =>
    obtain ⟨hx', hy', -⟩ := hsame s (by omega)
    omega

end ReviewDiff.Search
