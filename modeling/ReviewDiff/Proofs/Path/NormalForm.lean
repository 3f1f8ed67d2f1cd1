import ReviewDiff.Path.RepoPath
import ReviewDiff.Proofs.Path.Way

/-!
# Normal forms and the paths they name

A normal form is written from the way that its path leads. It names a path in the repository when
the way ends below where it began: when it has a name and, unless the path is absolute, leads
nowhere up.
-/

set_option autoImplicit false

namespace ReviewDiff

open PathChar ReviewDiff.Path ReviewDiff.Path.Way

variable {α : Type} [DecidableEq α] [PathChar α]

namespace Path

variable {names : List (Component α)}

theorem IsName.ne_nil {c : Component α} (h : IsName c) : c ≠ [] := by
  rintro rfl
  simpa [isEmptyStep] using h.1

omit [DecidableEq α] in
@[simp]
theorem join_singleton (name : Component α) : join [name] = name := by simp [join]

@[simp]
theorem isAbsolute_slash (rest : List α) : isAbsolute (slash :: rest) = true :=
  decide_eq_true rfl

omit [DecidableEq α] in
theorem join_cons (c : Component α) (hne : names ≠ []) :
    join (c :: names) = c ++ slash :: join names := by
  rw [join, List.intercalate_cons_of_ne_nil hne, List.append_assoc]
  rfl

theorem components_join (hne : names ≠ []) (h : ∀ c ∈ names, IsName c) :
    components (join names) = names :=
  List.splitOn_intercalate slash (fun c hc => (h c hc).2.2) hne

theorem join_components (path : List α) : join (components path) = path :=
  List.intercalate_splitOn slash

theorem along_join (h : ∀ c ∈ names, IsName c) :
    along (components (join names)) = ⟨0, names.reverse⟩ := by
  by_cases hne : names = []
  · subst hne
    rfl
  · rw [components_join hne h, along_names h]

omit [DecidableEq α] in
theorem join_append {more : List (Component α)} (hnames : names ≠ []) (hmore : more ≠ []) :
    join (names ++ more) = join names ++ slash :: join more := by
  induction names with
  | nil => exact absurd rfl hnames
  | cons c rest ih =>
    cases rest with
    | nil =>
      rw [List.singleton_append, join_cons c hmore, join_singleton]
    | cons next rest =>
      rw [List.cons_append, join_cons c (by simp), ih (by simp), join_cons c (by simp),
        List.append_assoc, List.cons_append]

theorem join_eq_nil (h : ∀ c ∈ names, IsName c) (hjoin : join names = []) :
    names = [] := by
  by_contra hne
  have hcomponents := components_join hne h
  rw [hjoin] at hcomponents
  exact (h [] (hcomponents ▸ List.mem_singleton_self [])).ne_nil rfl

theorem join_relative (h : ∀ c ∈ names, IsName c) : isAbsolute (join names) = false := by
  by_cases hne : names = []
  · subst hne
    rfl
  · cases hjoin : join names with
    | nil => rfl
    | cons c rest =>
      rw [isAbsolute, List.head?_cons, decide_eq_false_iff_not]
      rintro ⟨⟩
      have hcomponents := components_join hne h
      rw [hjoin, components_slash] at hcomponents
      exact (h [] (hcomponents ▸ List.mem_cons_self)).ne_nil rfl

theorem absolute_cons {path : List α} (h : isAbsolute path = true) :
    ∃ rest, path = slash :: rest := by
  cases path with
  | nil => cases h
  | cons c rest =>
    rw [isAbsolute, List.head?_cons, decide_eq_true_eq, Option.some.injEq] at h
    exact ⟨rest, by rw [h]⟩

theorem absolute_ne_nil {path : List α} (h : isAbsolute path = true) : path ≠ [] := by
  rintro rfl
  cases h

theorem trimStart_slashes (count : Nat) (path : List α) :
    trimStart (List.replicate count slash ++ path) = trimStart path := by
  induction count with
  | zero => rfl
  | succ count ih =>
    rw [List.replicate_succ, List.cons_append, trimStart, List.dropWhile_cons_of_pos (by simp)]
    exact ih

theorem trimStart_relative {path : List α} (h : isAbsolute path = false) :
    trimStart path = path := by
  cases path with
  | nil => rfl
  | cons c rest =>
    rw [isAbsolute, List.head?_cons, decide_eq_false_iff_not] at h
    exact List.dropWhile_cons_of_neg (by simpa using h)

theorem rootSlashes_eq_zero {path : List α} (h : isAbsolute path = false) :
    rootSlashes path = 0 := by
  cases path with
  | nil => rfl
  | cons c rest =>
    rw [isAbsolute, List.head?_cons, decide_eq_false_iff_not, Option.some.injEq] at h
    simp [rootSlashes, h]

theorem rootSlashes_pos {path : List α} (h : isAbsolute path = true) :
    0 < rootSlashes path := by
  rw [isAbsolute, decide_eq_true_eq] at h
  cases path with
  | nil => cases h
  | cons c rest =>
    cases h
    rw [rootSlashes.eq_def]
    split <;> simp_all

theorem normalComponents_absolute {path : List α} (h : isAbsolute path = true) :
    normalComponents path = (along (components path)).names.reverse := by
  rw [normalComponents, h, along_absolute components_slashless]

theorem normalComponents_relative {path : List α} (h : isAbsolute path = false) :
    normalComponents path = List.replicate (along (components path)).up [dot, dot] ++
      (along (components path)).names.reverse := by
  rw [normalComponents, h, along_relative components_slashless, List.reverse_append,
    List.reverse_replicate]

theorem normalize_absolute {path : List α} (h : isAbsolute path = true) :
    normalize path = List.replicate (rootSlashes path) slash ++
      join (along (components path)).names.reverse := by
  have hslashes := rootSlashes_pos h
  rw [normalize, normalComponents_absolute h, if_neg]
  simp
  omega

/-- A relative path that leads nowhere up is written with its names alone. -/
theorem normalize_below {path : List α} (h : isAbsolute path = false)
    (hup : (along (components path)).up = 0) :
    normalize path =
      if (along (components path)).names = [] then [dot]
      else join (along (components path)).names.reverse := by
  have hnames : ∀ c ∈ (along (components path)).names.reverse, IsName c := fun c hc =>
    along_proper components_slashless c (List.mem_reverse.mp hc)
  rw [normalize, rootSlashes_eq_zero h, normalComponents_relative h, hup]
  by_cases hnil : (along (components path)).names = []
  · rw [hnil]
    rfl
  · rw [List.replicate_zero, List.replicate_zero, List.nil_append, List.nil_append, if_neg hnil,
      if_neg]
    intro hempty
    have hjoin := join_eq_nil hnames (List.isEmpty_iff.mp hempty)
    exact hnil (List.reverse_eq_nil_iff.mp hjoin)

/-- A relative path that leads up is written with a `..` in front. -/
theorem normalize_above {path : List α} (h : isAbsolute path = false)
    (hup : 0 < (along (components path)).up) :
    normalize path = [dot, dot] ∨ ∃ rest, normalize path = dot :: dot :: slash :: rest := by
  obtain ⟨count, hcount⟩ := Nat.exists_eq_succ_of_ne_zero (Nat.pos_iff_ne_zero.mp hup)
  rw [normalize, rootSlashes_eq_zero h, normalComponents_relative h, hcount, List.replicate_succ,
    List.replicate_zero, List.nil_append, List.cons_append]
  cases List.replicate count [dot, dot] ++ (along (components path)).names.reverse with
  | nil => exact .inl rfl
  | cons c rest => exact .inr ⟨_, by rw [join_cons _ (by simp)]; rfl⟩

end Path

namespace RepoPath

variable {names : List (Component CodePoint)}

theorem components_names (path : RepoPath) : ∀ c ∈ components path.value, IsName c := by
  intro c hc
  have hvalid := path.valid
  rw [check] at hvalid
  split at hvalid
  · cases hvalid
  · split at hvalid
    · cases hvalid
    · split at hvalid
      · cases hvalid
      · rename_i hany
        rw [Bool.not_eq_true, List.any_eq_false] at hany
        have hname := hany c hc
        rw [Bool.not_eq_true, Bool.or_eq_false_iff] at hname
        exact ⟨hname.1, hname.2, components_slashless c hc⟩

theorem check_join (h : ∀ c ∈ names, IsName c) (hne : names ≠ []) :
    check (join names) = none := by
  have hcs : (join names).isEmpty = false := by
    rw [Bool.eq_false_iff]
    intro hempty
    exact hne (join_eq_nil h (List.isEmpty_iff.mp hempty))
  have hany : (names.any fun c => isEmptyStep c || isParent c) = false := by
    rw [List.any_eq_false]
    intro c hc
    simp [(h c hc).1, (h c hc).2.1]
  rw [check]
  simp [hcs, join_relative h, components_join hne h, hany]

/-- A path has some names as its components if it is written with them. -/
theorem components_eq_iff (h : ∀ c ∈ names, IsName c) (hne : names ≠ []) {path : RepoPath} :
    components path.value = names ↔ path.value = join names := by
  constructor
  · rintro rfl
    rw [join_components]
  · intro heq
    rw [heq, components_join hne h]

theorem ofPoints_join_iff (h : ∀ c ∈ names, IsName c) {path : RepoPath} :
    ofPoints (join names) = .ok path ↔
      names ≠ [] ∧ components path.value = names := by
  by_cases hne : names = []
  · subst hne
    constructor
    · rintro ⟨⟩
    · rintro ⟨hne, -⟩
      exact absurd rfl hne
  · have hcheck := check_join h hne
    rw [ofPoints]
    split
    · rename_i fault hfault
      rw [hcheck] at hfault
      cases hfault
    · constructor
      · rintro ⟨⟩
        refine ⟨hne, ?_⟩
        rw [components_join hne h]
      · rintro ⟨-, hcomponents⟩
        have hvalue := (components_eq_iff h hne).mp hcomponents
        cases path
        cases hvalue
        rfl

theorem ofNormal_slash (raw : Points) (rest : Points) :
    ofNormal raw (slash :: rest) = ofPoints (trimStart (slash :: rest)) := by
  have hne : (slash : CodePoint) ≠ dot := PathChar.dot_ne_slash.symm
  rw [ofNormal, if_neg (by simp [hne]), if_neg (by simp [hne, hne.symm])]

theorem ofNormal_join (raw : Points) (h : ∀ c ∈ names, IsName c) (hne : names ≠ []) :
    ofNormal raw (join names) = ofPoints (join names) := by
  have hcomponents := components_join hne h
  have hdot : [dot] ∉ names := fun hc => absurd (h _ hc).1 (by decide)
  have hparent : [dot, dot] ∉ names := fun hc => absurd (h _ hc).2.1 (by decide)
  have hfront (rest : Points) : join names ≠ dot :: dot :: slash :: rest := by
    intro heq
    rw [heq, show dot :: dot :: slash :: rest = [dot, dot] ++ slash :: rest from rfl,
      components_append] at hcomponents
    exact hparent (hcomponents ▸ List.mem_cons_self)
  rw [ofNormal, if_neg, if_neg, trimStart_relative (join_relative h)]
  · rw [Bool.or_eq_true, decide_eq_true_eq, List.isPrefixOf_iff_prefix, not_or]
    constructor
    · intro heq
      rw [heq] at hcomponents
      exact hparent (hcomponents ▸ List.mem_cons_self)
    · rintro ⟨rest, heq⟩
      exact hfront rest heq.symm
  · intro heq
    rw [heq] at hcomponents
    exact hdot (hcomponents ▸ List.mem_cons_self)

theorem ofNormal_above (raw : Points) {normal : Points}
    (h : normal = [dot, dot] ∨ ∃ rest, normal = dot :: dot :: slash :: rest) :
    ofNormal raw normal = .error ⟨raw, .escapes⟩ := by
  obtain rfl | ⟨rest, rfl⟩ := h
  · rfl
  · rw [ofNormal, if_neg (by simp), if_pos (by simp)]

theorem ofNormal_absolute (raw : Points) {rest : Points} (h : isAbsolute rest = true) :
    ofNormal raw (normalize rest) =
      ofPoints (join (along (components rest)).names.reverse) := by
  have hnames : ∀ c ∈ (along (components rest)).names.reverse, IsName c := fun c hc =>
    along_proper components_slashless c (List.mem_reverse.mp hc)
  obtain ⟨count, hcount⟩ :=
    Nat.exists_eq_succ_of_ne_zero (Nat.pos_iff_ne_zero.mp (rootSlashes_pos h))
  rw [normalize_absolute h, hcount, List.replicate_succ, List.cons_append, ofNormal_slash,
    ← List.cons_append, ← List.replicate_succ, trimStart_slashes,
    trimStart_relative (join_relative hnames)]

/-- A text names a path in the repository when it leads along names and, unless it is absolute,
nowhere up. -/
theorem ofNormal_iff {raw : Points} {rest : Points} {path : RepoPath} :
    ofNormal raw (normalize rest) = .ok path ↔
      (along (components rest)).names ≠ [] ∧
        ((along (components rest)).up = 0 ∨ isAbsolute rest = true) ∧
        components path.value = (along (components rest)).names.reverse := by
  have hnames : ∀ c ∈ (along (components rest)).names.reverse, IsName c := fun c hc =>
    along_proper components_slashless c (List.mem_reverse.mp hc)
  have hne : (along (components rest)).names.reverse ≠ [] ↔ (along (components rest)).names ≠ [] :=
    not_congr List.reverse_eq_nil_iff
  cases habsolute : isAbsolute rest with
  | true =>
    rw [ofNormal_absolute raw habsolute, ofPoints_join_iff hnames, hne]
    simp
  | false =>
    rcases Nat.eq_zero_or_pos (along (components rest)).up with hup | hup
    · rw [normalize_below habsolute hup]
      by_cases hnil : (along (components rest)).names = []
      · rw [if_pos hnil]
        constructor
        · rintro ⟨⟩
        · rintro ⟨hsome, -⟩
          exact absurd hnil hsome
      · rw [if_neg hnil, ofNormal_join raw hnames (hne.mpr hnil), ofPoints_join_iff hnames, hne]
        simp [hup]
    · rw [ofNormal_above raw (normalize_above habsolute hup)]
      constructor
      · rintro ⟨⟩
      · rintro ⟨-, hbelow | hslash, -⟩
        · omega
        · cases hslash

end RepoPath

end ReviewDiff
