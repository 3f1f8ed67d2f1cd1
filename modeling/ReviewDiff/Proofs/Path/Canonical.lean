import ReviewDiff.Proofs.Path.Inside

/-!
# A user's path in canonical form

A path in the repository is read as itself, alone or behind the working directory. Any other
relative path is read as the names that it leads down to. It is refused if at some point it leads
up from where it began, and if there are no names at the end. A path that is accepted has the form
of a path in the repository, and one that is refused is told with one of four reasons.
-/

set_option autoImplicit false

namespace ReviewDiff

open PathChar ReviewDiff.Path ReviewDiff.Path.Way

namespace Path

variable {α : Type} [DecidableEq α] [PathChar α]

def descend : List (Component α) → List (Component α) → Option (List (Component α))
  | stack, [] => some stack
  | stack, c :: rest =>
    if isEmptyStep c then descend stack rest
    else if isParent c then
      match stack with
      | [] => none
      | _ :: before => descend before rest
    else descend (c :: stack) rest

def descent? (path : List α) : Option (List (Component α)) :=
  (descend [] (components path)).map List.reverse

theorem descend_next (stack : List (Component α)) {cs : List (Component α)}
    (hcs : ∀ c ∈ cs, slash ∉ c) :
    descend stack cs =
      if (cs.foldl next ⟨0, stack⟩).up = 0 then some (cs.foldl next ⟨0, stack⟩).names
      else none := by
  induction cs generalizing stack with
  | nil => rfl
  | cons c rest ih =>
    have hrest (d : Component α) (hd : d ∈ rest) : slash ∉ d := hcs d (List.mem_cons_of_mem c hd)
    rw [List.foldl_cons]
    obtain ⟨hempty, heq⟩ | ⟨hempty, hparent, ⟨hnames, heq⟩ | ⟨last, before, hnames, heq⟩⟩ |
      ⟨⟨hempty, hparent, -⟩, heq⟩ := Way.next_cases ⟨0, stack⟩ (hcs c List.mem_cons_self)
    · rw [heq, ← ih stack hrest]
      simp [descend, hempty]
    · obtain rfl : stack = [] := hnames
      have hone : Way.next ⟨0, []⟩ c = ⟨1, []⟩ := heq
      have hup : 1 ≤ (rest.foldl next ⟨1, []⟩).up := foldl_up_le ⟨1, []⟩ hrest
      rw [hone, if_neg (by omega)]
      simp [descend, hempty, hparent]
    · obtain rfl : stack = last :: before := hnames
      rw [heq, ← ih before hrest]
      simp [descend, hempty, hparent]
    · rw [heq, ← ih (c :: stack) hrest]
      simp [descend, hempty, hparent]

theorem descent?_eq (path : List α) : descent? path =
    if (along (components path)).up = 0 then some (along (components path)).names.reverse
    else none := by
  rw [descent?, descend_next [] components_slashless, ← start, ← along]
  split <;> rfl

theorem descent?_some {path : List α} {names : List (Component α)}
    (h : descent? path = some names) :
    (along (components path)).up = 0 ∧ (along (components path)).names.reverse = names := by
  rw [descent?_eq] at h
  split at h
  · exact ⟨‹_›, Option.some.inj h⟩
  · cases h

theorem descent?_none {path : List α} (h : descent? path = none) :
    0 < (along (components path)).up := by
  rw [descent?_eq] at h
  split at h
  · cases h
  · omega

theorem absolute_behind {directory : List α} (h : isAbsolute directory = true)
    (rest : List α) : isAbsolute (trimEnd directory ++ slash :: rest) = true := by
  have hfront : trimEnd directory <+: directory := by
    rw [trimEnd, ← List.reverse_suffix, List.reverse_reverse]
    exact List.dropWhile_suffix _
  cases htrim : trimEnd directory with
  | nil => exact isAbsolute_slash rest
  | cons c base =>
    obtain ⟨more, rfl⟩ := htrim ▸ hfront
    simpa [isAbsolute] using h

end Path

namespace RepoPath

variable (raw : Points) {rest : Points} {names : List (Component CodePoint)}

theorem ofNormal_escapes (hrest : isAbsolute rest = false) (h : descent? rest = none) :
    ofNormal raw (normalize rest) = .error ⟨raw, .escapes⟩ :=
  ofNormal_above raw (normalize_above hrest (descent?_none h))

theorem ofNormal_root (hrest : isAbsolute rest = false) (h : descent? rest = some []) :
    ofNormal raw (normalize rest) = .error ⟨raw, .root⟩ := by
  obtain ⟨hup, hnames⟩ := descent?_some h
  rw [normalize_below hrest hup, if_pos (List.reverse_eq_nil_iff.mp hnames)]
  rfl

theorem ofNormal_descent (h : descent? rest = some names) (hnames : names ≠ []) :
    ∃ path, ofNormal raw (normalize rest) = .ok path ∧
      path.value = join names := by
  obtain ⟨hup, rfl⟩ := descent?_some h
  have hname : ∀ c ∈ (along (components rest)).names.reverse, IsName c := fun c hc =>
    along_proper components_slashless c (List.mem_reverse.mp hc)
  let path : RepoPath := ⟨_, check_join hname hnames⟩
  refine ⟨path, ofNormal_iff.mpr ⟨by simpa using hnames, .inl hup, ?_⟩, rfl⟩
  exact (components_eq_iff hname hnames).mpr rfl

theorem ofNormal_error {e : InvalidPath}
    (h : ofNormal raw (normalize rest) = .error e) :
    e = ⟨[], .empty⟩ ∨ e = ⟨raw, .root⟩ ∨ e = ⟨raw, .escapes⟩ := by
  cases hrest : isAbsolute rest with
  | true =>
    have hname : ∀ c ∈ (along (components rest)).names.reverse, IsName c := fun c hc =>
      along_proper components_slashless c (List.mem_reverse.mp hc)
    rw [ofNormal_absolute raw hrest] at h
    by_cases hnames : (along (components rest)).names.reverse = []
    · rw [hnames] at h
      cases h
      exact .inl rfl
    · obtain ⟨path, hpath⟩ : ∃ path,
          ofPoints (join (along (components rest)).names.reverse) = .ok path :=
        ⟨⟨_, check_join hname hnames⟩, (ofPoints_join_iff hname).mpr
          ⟨hnames, (components_eq_iff hname hnames).mpr rfl⟩⟩
      rw [hpath] at h
      cases h
  | false =>
    cases hdescent : descent? rest with
    | none =>
      rw [ofNormal_escapes raw hrest hdescent] at h
      cases h
      exact .inr (.inr rfl)
    | some names =>
      by_cases hnames : names = []
      · subst hnames
        rw [ofNormal_root raw hrest hdescent] at h
        cases h
        exact .inr (.inl rfl)
      · obtain ⟨path, hpath, -⟩ := ofNormal_descent raw hdescent hnames
        rw [hpath] at h
        cases h

variable {raw} {links : Links} {workingDir : Points}

theorem ofUser_relative (hne : raw ≠ []) (hraw : isAbsolute raw = false) :
    ofUser links raw workingDir = (ofNormal raw (normalize raw)).mapError .invalid := by
  rw [ofUser, if_neg (by simpa using hne), if_neg (by simp [hraw])]

theorem ofNormal_self (raw : Points) (path : RepoPath) :
    ofNormal raw (normalize path.value) = .ok path := by
  rw [ofNormal_iff, along_names (components_names path)]
  exact ⟨mt List.reverse_eq_nil_iff.mp (List.splitOn_ne_nil _ _), .inl rfl,
    (List.reverse_reverse _).symm⟩

theorem value_relative (path : RepoPath) : isAbsolute path.value = false := by
  have h := join_relative (components_names path)
  rwa [join_components] at h

theorem value_ne_empty (path : RepoPath) : path.value ≠ [] := by
  intro h
  have hname := components_names path [] (by rw [h]; exact List.mem_singleton_self [])
  exact hname.ne_nil rfl

theorem value_getLast (path : RepoPath) : path.value.getLast? ≠ some slash := by
  intro hlast
  obtain ⟨front, heq⟩ := List.getLast?_eq_some_iff.mp hlast
  have hname := components_names path [] (by
    rw [heq, components_append]
    exact List.mem_append_right _ (List.mem_singleton_self []))
  exact hname.ne_nil rfl

theorem ofUser_error {e : PathRefusal} (h : ofUser links raw workingDir = .error e) :
    (e = .invalid ⟨[], .empty⟩ ∨ e = .invalid ⟨raw, .root⟩ ∨ e = .invalid ⟨raw, .escapes⟩ ∨
      e = .invalid ⟨raw, .outside workingDir⟩) ∨
    ∃ u, e = .unreadable u ∧ isAbsolute raw = true ∧ reals links raw workingDir = .error u := by
  have hnormal {rest : Points}
      (herror : (ofNormal raw (normalize rest)).mapError PathRefusal.invalid = .error e) :
      e = .invalid ⟨[], .empty⟩ ∨ e = .invalid ⟨raw, .root⟩ ∨ e = .invalid ⟨raw, .escapes⟩ ∨
        e = .invalid ⟨raw, .outside workingDir⟩ := by
    cases hvalue : ofNormal raw (normalize rest) with
    | ok path =>
      rw [hvalue] at herror
      cases herror
    | error invalid =>
      rw [hvalue] at herror
      cases herror
      rcases ofNormal_error raw hvalue with rfl | rfl | rfl <;> simp
  by_cases hne : raw = []
  · subst hne
    cases h
    exact .inl (.inl rfl)
  · by_cases hraw : isAbsolute raw = true
    · cases hplaces : reals links raw workingDir with
      | error u =>
        rw [ofUser_unreadable hraw hplaces] at h
        cases h
        exact .inr ⟨u, rfl, hraw, rfl⟩
      | ok places =>
        rw [ofUser_places hraw hplaces] at h
        split at h
        · cases h
          exact .inl (.inr (.inr (.inr rfl)))
        · exact .inl (hnormal h)
    · rw [ofUser_relative hne (Bool.not_eq_true _ ▸ hraw)] at h
      exact .inl (hnormal h)

/-- How the paths of a user are read where a working directory is given. -/
structure Canonical (links : Links) (workingDir : Points) : Prop where
  /-- A path in the repository is itself. -/
  itself : ∀ path : RepoPath, ofUser links path.value workingDir = .ok path
  /-- It is the same behind the working directory, which has no slash at its end then, as long as
  the file system can be asked about both. -/
  behind : ∀ path : RepoPath,
    ofUser links (trimEnd workingDir ++ slash :: path.value) workingDir =
      ((reals links (trimEnd workingDir ++ slash :: path.value) workingDir).map fun _ =>
        path).mapError .unreadable
  /-- It can be asked about paths without zero bytes and surrogates that stand for no bytes. -/
  readable : ∀ raw, unreadable? raw = none → unreadable? workingDir = none →
    (∀ place target, Assoc.get? links place = some target → unreadable? target = none) →
      ∃ places, reals links raw workingDir = .ok places
  /-- A relative path that leads down to names is the path with these names. -/
  accepted : ∀ raw names, raw ≠ [] → isAbsolute raw = false →
    descent? raw = some names → names ≠ [] → ∃ path,
      ofUser links raw workingDir = .ok path ∧ path.value = join names
  /-- One that comes back to where it began is refused. -/
  root : ∀ raw, raw ≠ [] → isAbsolute raw = false → descent? raw = some [] →
    ofUser links raw workingDir = .error (.invalid ⟨raw, .root⟩)
  /-- One that leads up from where it began is refused, wherever it leads then. -/
  escapes : ∀ raw, raw ≠ [] → isAbsolute raw = false → descent? raw = none →
    ofUser links raw workingDir = .error (.invalid ⟨raw, .escapes⟩)
  /-- Whatever is accepted has names for its components and no slash at its ends. -/
  form : ∀ raw path, ofUser links raw workingDir = .ok path →
    (∀ c ∈ components path.value, c ≠ [] ∧ c ≠ [dot] ∧ c ≠ [dot, dot]) ∧
      path.value.head? ≠ some slash ∧ path.value.getLast? ≠ some slash
  /-- Whatever is refused is told with one of four reasons, or is an absolute path that the file
  system cannot be asked about. -/
  refused : ∀ raw e, ofUser links raw workingDir = .error e →
    (e = .invalid ⟨[], .empty⟩ ∨ e = .invalid ⟨raw, .root⟩ ∨ e = .invalid ⟨raw, .escapes⟩ ∨
      e = .invalid ⟨raw, .outside workingDir⟩) ∨
    ∃ u, e = .unreadable u ∧ isAbsolute raw = true ∧ reals links raw workingDir = .error u

/-- The paths of a user are brought into canonical form, whatever links there are. -/
theorem ofUser_canonical (links : Links) (hdirectory : isAbsolute workingDir = true) :
    Canonical links workingDir where
  itself path := by
    rw [ofUser_relative (value_ne_empty path) (value_relative path), ofNormal_self]
    rfl
  behind path := by
    have hpath := absolute_behind hdirectory path.value
    cases hplaces : reals links (trimEnd workingDir ++ slash :: path.value) workingDir with
    | error e => exact ofUser_unreadable hpath hplaces
    | ok places =>
      have hbehind := (behind?_iff (absolute_ne_nil hpath)).mpr
        (.inl rfl : trimEnd workingDir ++ slash :: path.value = _ ∨ _)
      rw [ofUser_places hpath hplaces, hbehind, Option.some_or]
      simp only [ofNormal_self]
      rfl
  readable raw hraw hroot hlinks := by
    obtain ⟨place, hplace⟩ := real_readable hlinks hraw
    obtain ⟨root, hroot⟩ := real_readable hlinks hroot
    exact ⟨(place, root), reals_ok.mpr ⟨hplace, hroot⟩⟩
  accepted raw names hne hraw hdescent hnames := by
    rw [ofUser_relative hne hraw]
    obtain ⟨path, haccepted, hvalue⟩ := ofNormal_descent raw hdescent hnames
    exact ⟨path, mapError_ok.mpr haccepted, hvalue⟩
  root raw hne hraw hdescent := by
    rw [ofUser_relative hne hraw, ofNormal_root raw hraw hdescent]
    rfl
  escapes raw hne hraw hdescent := by
    rw [ofUser_relative hne hraw, ofNormal_escapes raw hraw hdescent]
    rfl
  form raw path _ := by
    refine ⟨fun c hc => ?_, ?_, value_getLast path⟩
    · obtain ⟨hempty, hparent, -⟩ := components_names path c hc
      simp_all [isEmptyStep, isParent]
    · simpa [isAbsolute] using value_relative path
  refused raw e h := ofUser_error h

theorem ofUser_canonical_slashes :
    let workingDir : Points := "/w//"
    isAbsolute workingDir = true ∧ Canonical noLinks workingDir :=
  ⟨by decide, ofUser_canonical noLinks (by decide)⟩

/-- A path in the repository with a zero byte is refused behind the working directory, and not as an
invalid path. -/
theorem ofUser_refuses_zeroByte :
    let workingDir : Points := "/w"
    let path : RepoPath := ⟨"a\x00b", by decide⟩
    ofUser noLinks (trimEnd workingDir ++ slash :: path.value) workingDir =
      .error (.unreadable .zeroByte) := by
  decide

end RepoPath

end ReviewDiff
