import ReviewDiff.Proofs.Path.NormalForm

/-!
# Paths with one component more

However many slashes a directory ends in, a path with one component more leads along the components
of one and the same directory to that component. What is written behind the path goes into the name.
-/

set_option autoImplicit false

namespace ReviewDiff.Path

open PathChar Way

variable {α : Type} [DecidableEq α] [PathChar α]

theorem withSlash_eq (directory : List α) : ∃ front, withSlash directory = front ++ [slash] := by
  unfold withSlash
  split
  · next hlast => exact List.getLast?_eq_some_iff.mp hlast
  · exact ⟨directory, rfl⟩

omit [DecidableEq α] in
theorem slashes_join (slashes : Nat) (names : List (Component α)) (name : Component α) :
    List.replicate slashes slash ++ join (names ++ [name]) = name ∨
      ∃ above, List.replicate slashes slash ++ join (names ++ [name]) =
        above ++ slash :: name := by
  by_cases hnames : names = []
  · subst hnames
    cases slashes with
    | zero => exact .inl (join_singleton name)
    | succ count =>
      refine .inr ⟨List.replicate count slash, ?_⟩
      rw [List.replicate_succ', List.append_assoc, List.singleton_append, List.nil_append,
        join_singleton]
  · refine .inr ⟨List.replicate slashes slash ++ join names, ?_⟩
    rw [join_append hnames (List.cons_ne_nil _ _), join_singleton, List.append_assoc]

theorem child_eq (directory : List α) {name : Component α} (h : IsName name) :
    child directory name = name ∨ ∃ above, child directory name = above ++ slash :: name := by
  obtain ⟨front, hfront⟩ := withSlash_eq directory
  have hname : components name = [name] := List.splitOn_eq_singleton h.2.2
  have hparts : (components (withSlash directory ++ name)).filter (fun c => !isEmptyStep c) =
      (components front).filter (fun c => !isEmptyStep c) ++ [name] := by
    rw [hfront, List.append_assoc, List.singleton_append, components_append, hname,
      List.filter_append]
    simp [h.1]
  have hbody := slashes_join (rootSlashes (withSlash directory ++ name))
    ((components front).filter fun c => !isEmptyStep c) name
  have hne : List.replicate (rootSlashes (withSlash directory ++ name)) slash ++ join
      ((components front).filter (fun c => !isEmptyStep c) ++ [name]) ≠ [] := by
    obtain heq | ⟨above, heq⟩ := hbody
    · rw [heq]
      exact h.ne_nil
    · rw [heq]
      simp
  simp only [child, tidy, hparts, List.isEmpty_iff, if_neg hne]
  exact hbody

theorem components_child (directory : List α) {name : Component α} (h : IsName name) :
    ∃ above, ∀ tail, slash ∉ tail →
      components (child directory name ++ tail) = above ++ [name ++ tail] := by
  have hself {tail : List α} (htail : slash ∉ tail) : components (name ++ tail) = [name ++ tail] :=
    List.splitOn_eq_singleton (by simp [h.2.2, htail])
  obtain heq | ⟨above, heq⟩ := child_eq directory h
  · exact ⟨[], fun tail htail => by rw [heq, hself htail, List.nil_append]⟩
  · refine ⟨components above, fun tail htail => ?_⟩
    rw [heq, List.append_assoc, List.cons_append, components_append, hself htail]

variable {names : List (Component α)}

theorem components_slashes (hne : names ≠ []) (h : ∀ c ∈ names, IsName c) (slashes : Nat) :
    components (List.replicate slashes slash ++ join names) =
      List.replicate slashes [] ++ names := by
  induction slashes with
  | zero => exact components_join hne h
  | succ slashes ih =>
    rw [List.replicate_succ, List.cons_append, components_slash, ih]
    rfl

theorem along_slashes (slashes : Nat) (way : List (Component α)) :
    along (List.replicate slashes [] ++ way) = along way := by
  induction slashes with
  | zero => rfl
  | succ slashes ih =>
    rw [List.replicate_succ, List.cons_append, ← ih]
    rfl

/-- A path with one component more has the names of the directory before that component, and slashes
at its front if the directory has. -/
theorem child_names {directory : List α} (habsolute : isAbsolute directory = true)
    {name : Component α} (h : IsName name) :
    ∃ slashes, child directory name = List.replicate (slashes + 1) slash ++
      join ((components directory).filter (fun c => !isEmptyStep c) ++ [name]) := by
  obtain ⟨rest, rfl⟩ := absolute_cons habsolute
  have hname : components name = [name] := List.splitOn_eq_singleton h.2.2
  have hparts : (components (withSlash (slash :: rest) ++ name)).filter (fun c => !isEmptyStep c) =
      (components (slash :: rest)).filter (fun c => !isEmptyStep c) ++ [name] := by
    unfold withSlash
    split
    · next hlast =>
      obtain ⟨front, hfront⟩ := List.getLast?_eq_some_iff.mp hlast
      rw [hfront, List.append_assoc, List.singleton_append, components_append, components_append,
        hname, List.filter_append, List.filter_append]
      simp [h.1, show components [] = [[]] from rfl, show isEmptyStep [] = true from rfl]
    · rw [List.append_assoc, List.singleton_append, components_append, hname, List.filter_append]
      simp [h.1]
  have hslash : isAbsolute (withSlash (slash :: rest) ++ name) = true := by
    unfold withSlash
    split <;> exact isAbsolute_slash _
  obtain ⟨slashes, hslashes⟩ :=
    Nat.exists_eq_succ_of_ne_zero (Nat.pos_iff_ne_zero.mp (rootSlashes_pos hslash))
  refine ⟨slashes, ?_⟩
  simp only [child, tidy, hparts, hslashes]
  rw [if_neg (by simp [List.replicate_succ])]

theorem parent_slashes (h : ∀ c ∈ names, IsName c) {name : Component α} (hname : IsName name)
    (slashes : Nat) :
    parent (List.replicate (slashes + 1) slash ++ join (names ++ [name])) =
      slash :: join names := by
  have hall : ∀ c ∈ names ++ [name], IsName c := by
    simpa [or_imp, forall_and, hname] using h
  rw [parent, normalComponents_absolute (by simp [List.replicate_succ]),
    components_slashes (by simp) hall, along_slashes, along_names hall]
  simp

omit [DecidableEq α] in
theorem slashes_behind (names : List (Component α)) (name : Component α) (slashes : Nat) :
    ∃ front rest, List.replicate (slashes + 1) slash ++ join (names ++ [name]) =
      front ++ (slash :: join names) ++ rest := by
  rw [List.replicate_succ']
  by_cases hnames : names = []
  · subst hnames
    exact ⟨List.replicate slashes slash, name,
      by simp [show join ([] : List (Component α)) = [] from rfl]⟩
  · refine ⟨List.replicate slashes slash, slash :: name, ?_⟩
    rw [join_append hnames (List.cons_ne_nil _ _), join_singleton]
    simp

end ReviewDiff.Path
