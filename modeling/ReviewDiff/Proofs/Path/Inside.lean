import ReviewDiff.Proofs.Outcome
import ReviewDiff.Proofs.Path.Links

/-!
# Absolute paths and the working directory

An absolute path is compared with the working directory as it is written, and only if it does not
begin with it, by the place that it leads to. What follows the working directory is read on its own,
so the answer is right as long as the way behind the working directory does not leave it. A way that
leaves the directory and comes back is refused, and behind two slashes it is taken for a path from
the root, which names another file.
-/

set_option autoImplicit false

namespace ReviewDiff

open PathChar ReviewDiff.Path ReviewDiff.Path.Way

variable {α : Type} [DecidableEq α] [PathChar α]

namespace Path

theorem trimEnd_last (path : List α) : (trimEnd path).getLast? ≠ some slash := by
  rw [trimEnd, List.getLast?_reverse]
  intro h
  have hnot := List.head?_dropWhile_not (fun c : α => decide (c = slash)) path.reverse
  rw [h] at hnot
  simp at hnot

theorem trimEnd_slashes (count : Nat) :
    trimEnd (List.replicate count (slash : α)) = [] := by
  rw [trimEnd, List.reverse_replicate, List.dropWhile_replicate, if_pos (by simp)]
  rfl

theorem trimEnd_self {path : List α} (h : path.getLast? ≠ some slash) : trimEnd path = path := by
  have hreverse : path.reverse.dropWhile (· = slash) = path.reverse := by
    cases hpath : path.reverse with
    | nil => rfl
    | cons c rest =>
      rw [List.getLast?_eq_head?_reverse, hpath, List.head?_cons] at h
      exact List.dropWhile_cons_of_neg (by simpa using h)
  rw [trimEnd, hreverse, List.reverse_reverse]

theorem trimEnd_join {names : List (Component α)} (hne : names ≠ []) (h : ∀ c ∈ names, IsName c)
    (front : List α) :
    trimEnd (front ++ join names) = front ++ join names := by
  apply trimEnd_self
  intro hlast
  have hjoin : join names ≠ [] := fun heq => hne (join_eq_nil h heq)
  rw [List.getLast?_append, List.getLast?_eq_some_getLast hjoin, Option.some_or,
    ← List.getLast?_eq_some_getLast hjoin, List.getLast?_eq_some_iff] at hlast
  obtain ⟨rest, heq⟩ := hlast
  have hcomponents := components_join hne h
  rw [heq, components_append] at hcomponents
  exact (h [] (hcomponents ▸ List.mem_append_right _ (List.mem_singleton_self []))).ne_nil rfl

end Path

namespace RepoPath

theorem cut_iff {front path rest : Points} :
    (if front.isPrefixOf path then some (path.drop front.length) else none) = some rest ↔
      path = front ++ rest := by
  by_cases h : front <+: path
  · obtain ⟨more, rfl⟩ := h
    simp
  · rw [if_neg (by rwa [List.isPrefixOf_iff_prefix])]
    constructor
    · rintro ⟨⟩
    · rintro rfl
      exact absurd (List.prefix_append ..) h

theorem behind?_iff {path directory rest : Points} (hne : path ≠ []) :
    behind? path directory = some rest ↔
      path = trimEnd directory ++ slash :: rest ∨ (path = trimEnd directory ∧ rest = []) := by
  have hlast := trimEnd_last directory
  rw [behind?]
  generalize trimEnd directory = base at hlast ⊢
  by_cases hbase : base = []
  · subst hbase
    have hroot : (if ([] : Points).isEmpty = true then [slash] else []) =
        ([slash] : Points) := rfl
    have hslash : withSlash [slash] = ([slash] : Points) := rfl
    simp only [hroot, hslash]
    by_cases hpath : path = [slash]
    · subst hpath
      simp [eq_comm]
    · rw [if_neg hpath, cut_iff]
      simp [hne]
  · have hroot : (if base.isEmpty = true then [slash] else base) = base := by
      rw [if_neg (by rwa [List.isEmpty_iff])]
    have hslash : withSlash base = base ++ [slash] := by rw [withSlash, if_neg hlast]
    simp only [hroot, hslash]
    by_cases hpath : path = base
    · subst hpath
      simp
    · rw [if_neg hpath, cut_iff]
      simp [hpath]

end RepoPath

namespace Path

theorem normal_directory {directory : Points} (habsolute : isAbsolute directory = true)
    (hnormal : normalize directory = directory) :
    directory =
      List.replicate (rootSlashes directory) slash ++ join (resolve directory) := by
  conv_lhs => rw [← hnormal, normalize_absolute habsolute]
  rw [resolve, place_eq]

theorem trimEnd_directory {directory : Points} (habsolute : isAbsolute directory = true)
    (hnormal : normalize directory = directory) :
    trimEnd directory = if resolve directory = [] then [] else directory := by
  have htext := normal_directory habsolute hnormal
  by_cases hroot : resolve directory = []
  · rw [if_pos hroot, htext, hroot]
    exact (List.append_nil _).symm ▸ trimEnd_slashes _
  · rw [if_neg hroot]
    conv_lhs => rw [htext, trimEnd_join hroot resolve_names]
    exact htext.symm

end Path

namespace RepoPath

theorem behind?_places {inner outer : List (Component CodePoint)} (hinner : ∀ c ∈ inner, IsName c)
    (houter : ∀ c ∈ outer, IsName c) {rest : Points} :
    behind? (slash :: join inner) (slash :: join outer) = some rest ↔
      ∃ more, inner = outer ++ more ∧ rest = join more := by
  rw [behind?_iff (List.cons_ne_nil _ _)]
  by_cases hroot : outer = []
  · subst hroot
    have htrim : trimEnd (slash :: join []) = ([] : Points) := trimEnd_slashes 1
    simp only [htrim, List.nil_append, List.cons.injEq, true_and, List.cons_ne_nil, false_and,
      or_false, exists_eq_left']
    exact eq_comm
  · have htrim : trimEnd (slash :: join outer) = slash :: join outer :=
      trimEnd_join hroot houter [slash]
    rw [htrim, List.cons_append, List.cons.injEq, List.cons.injEq]
    constructor
    · rintro (⟨-, hjoin⟩ | ⟨⟨-, hjoin⟩, rfl⟩)
      · have hne : inner ≠ [] := by
          rintro rfl
          have hlength := congrArg List.length hjoin
          simp [join] at hlength
        have hsplit := congrArg components hjoin
        rw [components_join hne hinner, components_append, components_join hroot houter] at hsplit
        exact ⟨_, hsplit, (join_components rest).symm⟩
      · have hne : inner ≠ [] := by
          rintro rfl
          exact hroot (join_eq_nil houter hjoin.symm)
        have hsame := congrArg components hjoin
        rw [components_join hne hinner, components_join hroot houter] at hsame
        exact ⟨[], by simp [hsame], rfl⟩
    · rintro ⟨more, rfl, rfl⟩
      by_cases hmore : more = []
      · subst hmore
        exact .inr ⟨⟨rfl, by rw [List.append_nil]⟩, rfl⟩
      · exact .inl ⟨rfl, join_append hroot hmore⟩

variable {raw workingDir : Points} {path : RepoPath}

theorem ofUser_unreadable {links : Links} {e : Unreadable} (hraw : isAbsolute raw = true)
    (h : reals links raw workingDir = .error e) :
    ofUser links raw workingDir = .error (.unreadable e) := by
  have hbehind : behindWorkingDir? links raw workingDir = .error e := by
    rw [behindWorkingDir?, h]
    rfl
  rw [ofUser, if_neg (by simpa using absolute_ne_nil hraw), if_pos hraw, hbehind]

theorem ofUser_places {links : Links} {places : Points × Points} (hraw : isAbsolute raw = true)
    (h : reals links raw workingDir = .ok places) :
    ofUser links raw workingDir =
      match (behind? raw workingDir).or (behind? places.1 places.2) with
      | none => .error (.invalid ⟨raw, .outside workingDir⟩)
      | some rest => (ofNormal raw (normalize rest)).mapError .invalid := by
  have hbehind : behindWorkingDir? links raw workingDir =
      .ok ((behind? raw workingDir).or (behind? places.1 places.2)) := by
    rw [behindWorkingDir?, h]
    cases behind? raw workingDir <;> rfl
  rw [ofUser, if_neg (by simpa using absolute_ne_nil hraw), if_pos hraw, hbehind]
  cases (behind? raw workingDir).or (behind? places.1 places.2) <;> rfl

theorem ofUser_absolute (hraw : isAbsolute raw = true) :
    ofUser noLinks raw workingDir = .ok path ↔
      (unreadable? raw = none ∧ unreadable? workingDir = none) ∧
      ((∃ rest, behind? raw workingDir = some rest ∧
        (along (components rest)).names ≠ [] ∧
        ((along (components rest)).up = 0 ∨ isAbsolute rest = true) ∧
        components path.value = (along (components rest)).names.reverse) ∨
      (behind? raw workingDir = none ∧
        resolve raw = resolve workingDir ++ components path.value)) := by
  cases hplaces : reals noLinks raw workingDir with
  | error e =>
    rw [ofUser_unreadable hraw hplaces]
    simp only [reduceCtorEq, false_iff, not_and]
    rintro ⟨hread, hroot⟩
    have hboth : reals noLinks raw workingDir =
        .ok (slash :: join (resolve raw), slash :: join (resolve workingDir)) :=
      reals_ok.mpr ⟨real_noLinks.mpr ⟨hread, rfl⟩, real_noLinks.mpr ⟨hroot, rfl⟩⟩
    rw [hplaces] at hboth
    cases hboth
  | ok places =>
    obtain ⟨hfirst, hsecond⟩ := reals_ok.mp hplaces
    obtain ⟨hread, hfirst⟩ := real_noLinks.mp hfirst
    obtain ⟨hroot, hsecond⟩ := real_noLinks.mp hsecond
    rw [ofUser_places hraw hplaces, and_iff_right ⟨hread, hroot⟩, ← hfirst, ← hsecond]
    cases hbehind : behind? raw workingDir with
    | some rest => simp [mapError_ok, ofNormal_iff]
    | none =>
      rw [Option.none_or]
      cases hinner : behind? (slash :: join (resolve raw)) (slash :: join (resolve workingDir)) with
      | none =>
        have hout : resolve raw ≠ resolve workingDir ++ components path.value := by
          intro hin
          have hsome := (behind?_places resolve_names resolve_names).mpr ⟨_, hin, rfl⟩
          rw [hinner] at hsome
          cases hsome
        simp [hout]
      | some rest =>
        obtain ⟨more, hin, rfl⟩ := (behind?_places resolve_names resolve_names).mp hinner
        have hmore : ∀ c ∈ more, IsName c := fun c hc =>
          resolve_names c (hin ▸ List.mem_append_right _ hc)
        have hsome : components path.value ≠ [] := List.splitOn_ne_nil _ _
        simp only [mapError_ok, ofNormal_iff, along_join hmore, hin, List.append_cancel_left_eq]
        constructor
        · rintro ⟨-, -, hcomponents⟩
          exact .inr ⟨trivial, by rw [hcomponents, List.reverse_reverse]⟩
        · rintro (⟨_, ⟨⟩, -⟩ | ⟨-, rfl⟩)
          exact ⟨by simpa using hsome, .inl trivial, (List.reverse_reverse _).symm⟩

theorem drop_self_iff {α : Type} {l : List α} (h : l ≠ []) {count : Nat} :
    l.drop count = l ↔ count = 0 := by
  constructor
  · intro hdrop
    have hlength := congrArg List.length hdrop
    have hpos := List.length_pos_iff.mpr h
    rw [List.length_drop] at hlength
    omega
  · rintro rfl
    rfl

section Directory

variable (hdirectory : isAbsolute workingDir = true)
  (hnormal : normalize workingDir = workingDir)
  (hraw : isAbsolute raw = true)

include hdirectory hnormal hraw

theorem behind?_place {rest : Points}
    (h : behind? raw workingDir = some rest) :
    place raw = (along (components rest)).names ++
      (place workingDir).drop (along (components rest)).up := by
  have htrim : place (trimEnd workingDir) = place workingDir := by
    rw [trimEnd_directory hdirectory hnormal]
    split
    · rename_i hroot
      rw [List.reverse_eq_nil_iff.mp hroot]
      rfl
    · rfl
  obtain hfront | ⟨hsame, rfl⟩ := (behind?_iff (absolute_ne_nil hraw)).mp h
  · rw [hfront, place_append, htrim]
  · rw [hsame, htrim]
    rfl

theorem behind?_text {rest : Points} (hroot : place workingDir ≠ []) :
    behind? raw workingDir = some rest ↔
      raw = workingDir ++ slash :: rest ∨
        (raw = workingDir ∧ rest = []) := by
  have hresolve : resolve workingDir ≠ [] := mt List.reverse_eq_nil_iff.mp hroot
  rw [behind?_iff (absolute_ne_nil hraw), trimEnd_directory hdirectory hnormal, if_neg hresolve]

theorem behind?_apart (hroot : place workingDir ≠ [])
    (hnone : behind? raw workingDir = none) (beyond : Points) :
    raw ≠ workingDir ++ slash :: beyond := by
  intro htext
  have hsome := (behind?_text hdirectory hnormal hraw hroot).mpr (.inl htext)
  rw [hnone] at hsome
  cases hsome

theorem behind?_leaves {rest : Points} (hroot : place workingDir ≠ [])
    (h : behind? raw workingDir = some rest) :
    (∃ beyond, raw = workingDir ++ slash :: beyond ∧
      Leaves workingDir beyond) ↔ 0 < (along (components rest)).up := by
  obtain htext | ⟨hsame, rfl⟩ := (behind?_text hdirectory hnormal hraw hroot).mp h
  · rw [htext]
    simp [leaves_iff hroot]
  · rw [hsame]
    simp [along, components, next, start, isEmptyStep]

theorem behind?_leaves_slashes {rest : Points} (hroot : place workingDir ≠ [])
    (h : behind? raw workingDir = some rest) :
    (∃ beyond, raw = workingDir ++ slash :: slash :: beyond ∧
      Leaves workingDir beyond) ↔
        isAbsolute rest = true ∧ 0 < (along (components rest)).up := by
  obtain htext | ⟨hsame, rfl⟩ := (behind?_text hdirectory hnormal hraw hroot).mp h
  · rw [htext]
    constructor
    · rintro ⟨beyond, hslashes, hleaves⟩
      rw [List.append_cancel_left_eq, List.cons.injEq] at hslashes
      rw [hslashes.2, along_slash, ← leaves_iff hroot]
      exact ⟨rfl, hleaves⟩
    · rintro ⟨habsolute, hup⟩
      obtain ⟨beyond, rfl⟩ := absolute_cons habsolute
      rw [along_slash, ← leaves_iff hroot] at hup
      exact ⟨beyond, rfl, hup⟩
  · rw [hsame]
    simp [isAbsolute]

end Directory

/-- An accepted absolute path is the file that it names below the working directory, unless what
stands behind the working directory and two slashes leaves it. -/
theorem ofUser_names (hdirectory : isAbsolute workingDir = true)
    (hnormal : normalize workingDir = workingDir)
    (hraw : isAbsolute raw = true) (h : ofUser noLinks raw workingDir = .ok path) :
    resolve raw = resolve workingDir ++ components path.value ↔
      ¬ ∃ beyond, raw = workingDir ++ slash :: slash :: beyond ∧
        Leaves workingDir beyond := by
  obtain ⟨-, ⟨rest, hbehind, hnames, hway, hcomponents⟩ | ⟨hnone, hin⟩⟩ :=
    (ofUser_absolute hraw).mp h
  · have hlevel : resolve raw =
          resolve workingDir ++ components path.value ↔
        (place workingDir).drop (along (components rest)).up =
          place workingDir := by
      rw [resolve, resolve, behind?_place hdirectory hnormal hraw hbehind, hcomponents,
        ← List.reverse_append, List.reverse_inj, List.append_cancel_left_eq]
    rw [hlevel]
    by_cases hroot : place workingDir = []
    · rw [hroot, List.drop_nil]
      refine iff_of_true rfl ?_
      rintro ⟨_, -, hleaves⟩
      exact not_leaves_root hroot hleaves
    · rw [drop_self_iff hroot, behind?_leaves_slashes hdirectory hnormal hraw hroot hbehind]
      constructor
      · rintro hup ⟨-, hpos⟩
        omega
      · intro hstays
        obtain hup | habsolute := hway
        · exact hup
        · by_contra hup
          exact hstays ⟨habsolute, Nat.pos_iff_ne_zero.mpr hup⟩
  · refine iff_of_true hin ?_
    rintro ⟨beyond, htext, hleaves⟩
    have hroot : place workingDir ≠ [] := fun hroot => not_leaves_root hroot hleaves
    exact behind?_apart hdirectory hnormal hraw hroot hnone _ htext

theorem ofUser_names_below :
    let raw : Points := "/w/./b//a"
    let workingDir : Points := "/w"
    let path : RepoPath := ⟨"b/a", by decide⟩
    ofUser noLinks raw workingDir = .ok path ∧
      (resolve raw = resolve workingDir ++ components path.value ↔
        ¬ ∃ beyond, raw = workingDir ++ slash :: slash :: beyond ∧ Leaves workingDir beyond) :=
  have haccepted : ofUser noLinks "/w/./b//a" "/w" = .ok ⟨"b/a", by decide⟩ := by decide
  ⟨haccepted, ofUser_names (by decide) (by decide) (by decide) haccepted⟩

/-- Behind two slashes a file outside is taken for one of the working directory. -/
theorem ofUser_alias :
    let raw : Points := "/w//../a"
    let workingDir : Points := "/w"
    let path : RepoPath := ⟨"a", by decide⟩
    ofUser noLinks raw workingDir = .ok path ∧ resolve raw = [("a" : Points)] ∧
      resolve workingDir ++ components path.value = [("w" : Points), "a"] := by
  decide

/-- An absolute path that leads below the working directory is accepted as what it leads to, exactly
if both can be read and what stands behind the working directory does not leave it. -/
theorem ofUser_inside (hdirectory : isAbsolute workingDir = true)
    (hnormal : normalize workingDir = workingDir)
    (hroot : resolve workingDir ≠ []) (hraw : isAbsolute raw = true)
    {inside : List (Component CodePoint)} (hinside : inside ≠ [])
    (hin : resolve raw = resolve workingDir ++ inside) :
    (∃ path, ofUser noLinks raw workingDir = .ok path ∧ path.value = join inside) ↔
      (unreadable? raw = none ∧ unreadable? workingDir = none) ∧
        ¬ ∃ beyond, raw = workingDir ++ slash :: beyond ∧ Leaves workingDir beyond := by
  have hnames : ∀ c ∈ inside, IsName c := fun c hc =>
    resolve_names c (hin ▸ List.mem_append_right _ hc)
  have hplace : place workingDir ≠ [] := mt List.reverse_eq_nil_iff.mpr hroot
  let target : RepoPath := ⟨_, check_join hnames hinside⟩
  have htarget : components target.value = inside := (components_eq_iff hnames hinside).mpr rfl
  cases hbehind : behind? raw workingDir with
  | none =>
    have hapart : ¬ ∃ beyond, raw = workingDir ++ slash :: beyond ∧ Leaves workingDir beyond := by
      rintro ⟨beyond, htext, -⟩
      exact behind?_apart hdirectory hnormal hraw hplace hbehind beyond htext
    rw [and_iff_left hapart]
    constructor
    · rintro ⟨path, haccepted, -⟩
      exact ((ofUser_absolute hraw).mp haccepted).1
    · intro hread
      refine ⟨target, (ofUser_absolute hraw).mpr ⟨hread, .inr ⟨hbehind, ?_⟩⟩, rfl⟩
      rw [hin, htarget]
  | some rest =>
    -- The place is reached on two ways: through the directory, and as the names inside of it.
    have hboth : (along (components rest)).names ++
        (place workingDir).drop (along (components rest)).up =
          inside.reverse ++ place workingDir := by
      rw [← behind?_place hdirectory hnormal hraw hbehind, ← List.reverse_inj]
      simpa [resolve] using hin
    rw [behind?_leaves hdirectory hnormal hraw hplace hbehind, Nat.pos_iff_ne_zero, not_not]
    constructor
    · rintro ⟨path, haccepted, hpath⟩
      obtain ⟨hread, ⟨_, hrest, -, -, hcomponents⟩ | ⟨hnone, -⟩⟩ :=
        (ofUser_absolute hraw).mp haccepted
      · obtain rfl := Option.some.inj (hbehind.symm.trans hrest)
        rw [(components_eq_iff hnames hinside).mpr hpath] at hcomponents
        rw [hcomponents, List.reverse_reverse, List.append_cancel_left_eq] at hboth
        exact ⟨hread, (drop_self_iff hplace).mp hboth⟩
      · rw [hbehind] at hnone
        cases hnone
    · rintro ⟨hread, hup⟩
      rw [hup, List.drop_zero, List.append_cancel_right_eq] at hboth
      refine ⟨target,
        (ofUser_absolute hraw).mpr ⟨hread, .inl ⟨rest, hbehind, ?_, .inl hup, ?_⟩⟩, rfl⟩
      · rw [hboth]
        simpa using hinside
      · rw [hboth, List.reverse_reverse, htarget]

theorem ofUser_inside_beside :
    let raw : Points := "/x/../w//b/./a"
    let workingDir : Points := "/w"
    resolve raw = resolve workingDir ++ [("b" : Points), "a"] ∧
      ((∃ path, ofUser noLinks raw workingDir = .ok path ∧ path.value = join ["b", "a"]) ↔
        (unreadable? raw = none ∧ unreadable? workingDir = none) ∧
          ¬ ∃ beyond, raw = workingDir ++ slash :: beyond ∧ Leaves workingDir beyond) :=
  have hin : resolve ("/x/../w//b/./a" : Points) =
      resolve ("/w" : Points) ++ [("b" : Points), "a"] := by
    decide
  ⟨hin, ofUser_inside (by decide) (by decide) (by decide) (by decide) (by decide) hin⟩

/-- A path that leaves the working directory and comes back is refused. -/
theorem ofUser_refuses_return :
    let raw : Points := "/w/../w/a"
    let workingDir : Points := "/w"
    resolve raw = resolve workingDir ++ [("a" : Points)] ∧
      ofUser noLinks raw workingDir = .error (.invalid ⟨raw, .escapes⟩) := by
  decide

end RepoPath

end ReviewDiff
