import ReviewDiff.Proofs.Files.Rename
import ReviewDiff.Proofs.Path.NormalForm

/-!
# Places, and directories that are made

A path without `..` leads to the place of its names, and what stands there is what a walk along the
names comes to. Making a directory with all directories above it depends on that alone: what is a
directory already stays as it is, a file at the place or on the way to it is in the way, and
otherwise an empty directory is made.
-/

set_option autoImplicit false

namespace ReviewDiff.FileTree

open ReviewDiff.Path (Component IsName)

theorem walk_append {tree next : FileTree} {place : List String}
    (h : tree.walk place = .ok (some next)) (rest : List String) :
    tree.walk (place ++ rest) = next.walk rest := by
  induction place generalizing tree with
  | nil =>
    cases tree <;> cases h <;> rfl
  | cons name place ih =>
    cases tree with
    | file bytes => cases h
    | dir entries =>
      cases hnext : named? entries name with
      | none =>
        rw [walk_missing hnext] at h
        split at h <;> cases h
      | some below =>
        rw [walk_named hnext] at h
        rw [List.cons_append, walk_named hnext]
        exact ih h

def stepInto (name : String) : Except Obstacle (Option FileTree) → Except Obstacle (Option FileTree)
  | .ok (some (.dir entries)) => .ok (named? entries name)
  | .ok (some (.file _)) => .error .notDirectory
  | .ok none => .error .missing
  | .error obstacle => .error obstacle

theorem walk_concat (tree : FileTree) (place : List String) (name : String) :
    tree.walk (place ++ [name]) = stepInto name (tree.walk place) := by
  induction place generalizing tree with
  | nil =>
    cases tree with
    | file bytes => rfl
    | dir entries => cases hnext : named? entries name <;> simp [walk, stepInto, hnext]
  | cons first place ih =>
    cases tree with
    | file bytes => rfl
    | dir entries =>
      rw [List.cons_append]
      cases hnext : named? entries first with
      | none => cases place <;> simp [walk_missing hnext, stepInto]
      | some below => rw [walk_named hnext, walk_named hnext, ih]

theorem walk_error {tree : FileTree} {place : List String} {obstacle : Obstacle}
    (h : tree.walk place = .error obstacle) :
    obstacle = .missing ∨ obstacle = .notDirectory ∧
      ∃ front rest bytes, place = front ++ rest ∧ rest ≠ [] ∧
        tree.walk front = .ok (some (.file bytes)) := by
  induction place using List.reverseRecOn generalizing obstacle with
  | nil => cases tree <;> cases h
  | append_singleton place name ih =>
    rw [walk_concat] at h
    cases hwalk : tree.walk place with
    | error before =>
      rw [hwalk] at h
      cases h
      obtain hmissing | ⟨hfile, front, rest, bytes, rfl, -, hfront⟩ := ih hwalk
      · exact .inl hmissing
      · exact .inr ⟨hfile, front, rest ++ [name], bytes, List.append_assoc front rest [name],
          by simp, hfront⟩
    | ok found =>
      rw [hwalk] at h
      rcases found with _ | bytes | inside <;> cases h
      · exact .inl rfl
      · exact .inr ⟨rfl, place, [name], bytes, rfl, by simp, hwalk⟩

theorem walk_behind {tree : FileTree} {front rest : List String} {bytes : Bytes}
    (h : tree.walk front = .ok (some (.file bytes))) (hrest : rest ≠ []) :
    tree.walk (front ++ rest) = .error .notDirectory := by
  rw [walk_append h]
  cases rest with
  | nil => exact absurd rfl hrest
  | cons name rest => rfl

def standing (tree : FileTree) (place : List String) : Option FileTree :=
  match tree.walk place with
  | .ok found => found
  | .error _ => none

theorem standing_concat (tree : FileTree) (place : List String) (name : String) :
    tree.standing (place ++ [name]) =
      match tree.standing place with
      | some (.dir entries) => named? entries name
      | _ => none := by
  rw [standing, standing, walk_concat]
  cases tree.walk place with
  | error obstacle => rfl
  | ok found =>
    rcases found with _ | bytes | inside <;> rfl

variable {names : List (Component Char)}

def placeNamed (names : List (Component Char)) : List String := names.map String.ofList

def Fit (names : List (Component Char)) : Prop :=
  ∀ c ∈ names, IsName c ∧ (String.ofList c).utf8ByteSize ≤ nameLimit

theorem Fit.front {c : Component Char} (h : Fit (names ++ [c])) : Fit names :=
  fun d hd => h d (List.mem_append_left [c] hd)

theorem Fit.last {c : Component Char} (h : Fit (names ++ [c])) :
    IsName c ∧ (String.ofList c).utf8ByteSize ≤ nameLimit := h c (by simp)

theorem Fit.concat (h : Fit names) {c : Component Char}
    (hc : IsName c ∧ (String.ofList c).utf8ByteSize ≤ nameLimit) : Fit (names ++ [c]) := by
  intro d hd
  obtain hd | hd := List.mem_append.mp hd
  · exact h d hd
  · rw [List.mem_singleton.mp hd]
    exact hc

theorem placeNamed_concat (names : List (Component Char)) (c : Component Char) :
    placeNamed (names ++ [c]) = placeNamed names ++ [String.ofList c] := by
  simp [placeNamed]

theorem locate_name {tree : FileTree} {place : List String} {c : Component Char}
    (hc : IsName c ∧ (String.ofList c).utf8ByteSize ≤ nameLimit) :
    tree.locate place [c] =
      (stepInto (String.ofList c) (tree.walk place)).map fun _ => place ++ [String.ofList c] := by
  rw [locate]
  cases tree.walk place with
  | error obstacle => rfl
  | ok found =>
    rcases found with _ | bytes | inside
    · rfl
    · rfl
    · have hlimit : ¬ nameLimit < (String.ofList c).utf8ByteSize := Nat.not_lt.mpr hc.2
      simp [hc.1.1, hc.1.2.1, hlimit, locate, stepInto, Except.map]

theorem locate_names (h : Fit names) (tree : FileTree) :
    tree.locate [] names = (tree.walk (placeNamed names)).map fun _ => placeNamed names := by
  induction names using List.reverseRecOn with
  | nil => rfl
  | append_singleton names c ih =>
    rw [locate_append, ih h.front, placeNamed_concat, walk_concat]
    cases hwalk : tree.walk (placeNamed names) with
    | error obstacle => rfl
    | ok found => simp only [Except.map, Except.bind, locate_name h.last, hwalk]

/-- A path from the root that leads along names only, within the limits of a file system. -/
structure Leads (path : String) (names : List (Component Char)) : Prop where
  short : path.utf8ByteSize ≤ pathLimit
  fit : Fit names
  named : names ≠ []
  components : ∃ slashes, Path.components path.toList = List.replicate slashes [] ++ names

theorem locate_slashes (h : names ≠ []) (tree : FileTree) (slashes : Nat) :
    tree.locate [] (List.replicate slashes [] ++ names) = tree.locate [] names := by
  cases tree with
  | file bytes =>
    cases slashes with
    | zero => rfl
    | succ slashes => cases names <;> [exact absurd rfl h; rfl]
  | dir entries =>
    induction slashes with
    | zero => rfl
    | succ slashes ih =>
      rw [List.replicate_succ, List.cons_append, locate]
      exact ih

theorem look_leads {path : String} (h : Leads path names) (tree : FileTree) :
    tree.look path =
      (tree.walk (placeNamed names)).map fun found => (placeNamed names, found) := by
  obtain ⟨slashes, hcomponents⟩ := h.components
  rw [look, placeOf, if_neg (Nat.not_lt.mpr h.short), hcomponents, locate_slashes h.named,
    locate_names h.fit]
  cases hwalk : tree.walk (placeNamed names) with
  | error obstacle => rfl
  | ok found =>
    simp only [Except.map, bind, Except.bind, hwalk]
    rfl

theorem find?_leads {path : String} (h : Leads path names) (tree : FileTree) :
    tree.find? path = .ok (tree.standing (placeNamed names)) := by
  rw [find?, look_leads h, standing]
  cases hwalk : tree.walk (placeNamed names) with
  | ok found => rfl
  | error obstacle => obtain rfl | ⟨rfl, -⟩ := walk_error hwalk <;> rfl

theorem write_leads {path : String} (h : Leads path names) (tree : FileTree) (bytes : Bytes) :
    tree.write path bytes =
      match tree.walk (placeNamed names) with
      | .ok (some (.dir _)) => .error ⟨.isDirectory, path, none⟩
      | .ok _ => .ok (tree.replace (some (.file bytes)) (placeNamed names))
      | .error obstacle => .error ⟨obstacle, path, none⟩ := by
  rw [write, look_leads h]
  cases tree.walk (placeNamed names) with
  | error obstacle => rfl
  | ok found =>
    rcases found with _ | bytes | inside <;> rfl

theorem rename_leads {source target : String} {names' : List (Component Char)}
    (h : Leads source names) (h' : Leads target names') {tree : FileTree} {bytes : Bytes}
    {found : Option FileTree}
    (hsource : tree.walk (placeNamed names) = .ok (some (.file bytes)))
    (htarget : tree.walk (placeNamed names') = .ok found) :
    tree.rename source target = .error ⟨.isDirectory, source, some target⟩ ∨
      tree.rename source target = .ok ((tree.replace (some (.file bytes)) (placeNamed names')).replace
        none (placeNamed names)) := by
  rw [rename, look_leads h, look_leads h', hsource, htarget]
  rcases found with _ | bytes' | inside
  · exact .inr rfl
  · exact .inr rfl
  · exact .inl rfl

theorem makeDir_names (h : Fit names) (tree : FileTree) :
    tree.makeDir names =
      match tree.walk (placeNamed names) with
      | .ok (some (.dir _)) => .ok tree
      | .ok (some (.file _)) => .error .exists
      | .ok none => .ok (tree.replace (some (.dir [])) (placeNamed names))
      | .error obstacle => .error obstacle := by
  rw [makeDir, locate_names h]
  cases hwalk : tree.walk (placeNamed names) with
  | error obstacle => rfl
  | ok found =>
    simp only [Except.map, bind, Except.bind, hwalk]
    rcases found with _ | bytes | inside <;> rfl

/-- The levels of a place with no file on the way are made one in the other, and the last one is
empty. -/
theorem makeLevels_new (h : Fit names) {tree : FileTree} (slashes : Nat)
    (hmissing : tree.walk (placeNamed names) = .ok none ∨
      tree.walk (placeNamed names) = .error .missing) :
    ∃ made, tree.makeLevels [] slashes names.reverse = .ok made ∧
      made.walk (placeNamed names) = .ok (some (.dir [])) := by
  induction names using List.reverseRecOn with
  | nil => cases tree <;> simp [placeNamed, walk] at hmissing
  | append_singleton above last ih =>
    rw [List.reverse_append, List.reverse_singleton, List.singleton_append, makeLevels]
    simp only [List.reverse_cons, List.reverse_reverse, List.nil_append]
    rw [makeDir_names h]
    obtain hnone | herror := hmissing
    · rw [hnone]
      exact ⟨_, rfl, walk_replace_self hnone _⟩
    · rw [herror]
      have habove : tree.walk (placeNamed above) = .ok none ∨
          tree.walk (placeNamed above) = .error .missing := by
        rw [placeNamed_concat, walk_concat] at herror
        cases hwalk : tree.walk (placeNamed above) with
        | error obstacle =>
          rw [hwalk] at herror
          exact .inr herror
        | ok found =>
          rw [hwalk] at herror
          rcases found with _ | bytes | inside
          · exact .inl rfl
          · cases herror
          · cases herror
      obtain ⟨made, hmade, hwalk⟩ := ih h.front habove
      have hempty : made.walk (placeNamed (above ++ [last])) = .ok none := by
        rw [placeNamed_concat, walk_concat, hwalk]
        rfl
      refine ⟨_, ?_, walk_replace_self hempty (.dir [])⟩
      rw [hmade]
      change (made.makeDir (above ++ [last])).mapError _ = _
      rw [makeDir_names h, hempty]
      rfl

theorem makeLevels_there (h : Fit names) {tree : FileTree} {entries : List (String × FileTree)}
    (slashes : Nat) (hthere : tree.walk (placeNamed names) = .ok (some (.dir entries))) :
    tree.makeLevels [] slashes names.reverse = .ok tree := by
  cases hreverse : names.reverse with
  | nil => rfl
  | cons last above =>
    rw [makeLevels, ← hreverse, List.reverse_reverse, List.nil_append]
    rw [makeDir_names h, hthere]

theorem makeLevels_blocked (h : Fit names) (hnames : names ≠ []) {tree : FileTree} (slashes : Nat)
    {front rest : List String} {bytes : Bytes} (hplace : placeNamed names = front ++ rest)
    (hfile : tree.walk front = .ok (some (.file bytes))) :
    tree.makeLevels [] slashes names.reverse =
      .error ⟨if rest = [] then .exists else .notDirectory, pathText slashes names, none⟩ := by
  cases hreverse : names.reverse with
  | nil => exact absurd (List.reverse_eq_nil_iff.mp hreverse) hnames
  | cons last above =>
    rw [makeLevels, ← hreverse, List.reverse_reverse, List.nil_append]
    rw [makeDir_names h, hplace]
    by_cases hrest : rest = []
    · subst hrest
      rw [List.append_nil, hfile]
      rfl
    · rw [walk_behind hfile hrest, if_neg hrest]

/-- What a place is to a directory that is to be made there: it is one already, or nothing is in the
way, or a file is. -/
theorem place_cases (entries : List (String × FileTree)) (place : List String) :
    (∃ inside, (dir entries).walk place = .ok (some (.dir inside))) ∨
    ((dir entries).walk place = .ok none ∨ (dir entries).walk place = .error .missing) ∨
    ∃ front rest bytes, place = front ++ rest ∧ front ≠ [] ∧
      (dir entries).walk front = .ok (some (.file bytes)) := by
  have hfront {front : List String} {bytes : Bytes}
      (h : (dir entries).walk front = .ok (some (.file bytes))) : front ≠ [] := by
    rintro rfl
    cases h
  cases hwalk : (dir entries).walk place with
  | error obstacle =>
    obtain rfl | ⟨-, front, rest, bytes, hplace, -, hfile⟩ := walk_error hwalk
    · exact .inr (.inl (.inr rfl))
    · exact .inr (.inr ⟨front, rest, bytes, hplace, hfront hfile, hfile⟩)
  | ok found =>
    rcases found with _ | bytes | inside
    · exact .inr (.inl (.inl rfl))
    · exact .inr (.inr ⟨place, [], bytes, (List.append_nil place).symm, hfront hwalk, hwalk⟩)
    · exact .inl ⟨inside, rfl⟩

end ReviewDiff.FileTree
