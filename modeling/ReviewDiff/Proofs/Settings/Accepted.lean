import Mathlib.Data.List.DropRight
import ReviewDiff.Proofs.Outcome
import ReviewDiff.Settings.Decode

/-!
# Settings that are accepted

Whatever document is accepted, the name of its version has no blanks at its ends and is not blank,
and its level is one that a document may name. Settings like that are the ones that the document
made from them gives back.
-/

set_option autoImplicit false

namespace ReviewDiff

namespace Text

theorem trimChars_eq (cs : List Char) : trimChars cs = (cs.dropWhile isBlank).rdropWhile isBlank :=
  rfl

/-- Trimming at the end takes no blanks from the front, since what is left begins as before. -/
theorem trimChars_trimChars (cs : List Char) : trimChars (trimChars cs) = trimChars cs := by
  have hfront : (trimChars cs).dropWhile isBlank = trimChars cs := by
    rw [List.dropWhile_eq_self_iff]
    intro hpos
    have hbegin : trimChars cs <+: cs.dropWhile isBlank := List.rdropWhile_prefix isBlank _
    rw [hbegin.getElem hpos]
    exact List.dropWhile_get_zero_not isBlank cs _
  rw [trimChars_eq (trimChars cs), hfront, trimChars_eq, List.rdropWhile_idempotent]

theorem trim_trim (s : String) : trim (trim s) = trim s := by
  rw [trim, trim, String.toList_ofList, trimChars_trimChars]

theorem isBlankText_trim (s : String) : isBlankText (trim s) = isBlankText s := by
  have hback : ((s.toList.dropWhile isBlank).rtakeWhile isBlank).all isBlank = true :=
    List.all_eq_true.mpr fun _ => List.mem_rtakeWhile_imp
  have hsplit : s.toList.all isBlank =
      ((s.toList.takeWhile isBlank ++ (trimChars s.toList ++
        (s.toList.dropWhile isBlank).rtakeWhile isBlank)).all isBlank) := by
    rw [trimChars_eq, List.rdropWhile_append_rtakeWhile, List.takeWhile_append_dropWhile]
  rw [isBlankText, isBlankText, hsplit, List.all_append, List.all_append, List.all_takeWhile, hback,
    Bool.true_and, Bool.and_true, trim, String.toList_ofList]

end Text

namespace Settings

/-- What holds of settings that were accepted, beyond what their sections carry. -/
structure Accepted (s : Settings) : Prop where
  named : Text.isBlankText s.diff.defaultOldRef = false
  trimmed : Text.trim s.diff.defaultOldRef = s.diff.defaultOldRef
  leveled : s.log.level ∈ levels

theorem default_accepted : Settings.default.Accepted := ⟨by decide, by decide, by decide⟩

theorem refName_ok {j : Json} {ref : String} (h : refName j = .ok ref) :
    Text.isBlankText ref = false ∧ Text.trim ref = ref := by
  cases j with
  | str s =>
    simp only [refName] at h
    split_ifs at h with hblank
    obtain rfl := Except.ok.inj h
    rw [Text.isBlankText_trim, Text.trim_trim]
    exact ⟨eq_false_of_ne_true hblank, rfl⟩
  | _ => cases h

theorem level_ok {j : Json} {l : Level} (h : level j = .ok l) : l ∈ levels := by
  cases j with
  | str s =>
    simp only [level] at h
    cases hfind : levels.find? fun l => l.name = s with
    | none => simp [hfind] at h
    | some found =>
      rw [hfind] at h
      obtain rfl := Except.ok.inj h
      exact List.mem_of_find?_eq_some hfind
  | _ => cases h

section

variable {α : Type} {members : List (String × Json)} {name model : String} {missing found : α}

theorem member_ok {decode : Json → Except Problem α}
    (h : member members name missing decode = .ok found) :
    found = missing ∨ ∃ j, decode j = .ok found := by
  rw [member] at h
  cases hget : Assoc.get? members name with
  | none =>
    rw [hget] at h
    exact .inl (Except.ok.inj h).symm
  | some j =>
    rw [hget] at h
    cases hdecode : decode j with
    | ok value =>
      simp only [hdecode] at h
      exact .inr ⟨j, by rw [hdecode, Except.ok.inj h]⟩
    | error problem => simp [hdecode] at h

theorem section_ok {decode : List (String × Json) → Except Invalid α}
    (h : section? members name model missing decode = .ok found) :
    found = missing ∨ ∃ inner, decode inner = .ok found := by
  rw [section?] at h
  split at h
  · exact .inl (Except.ok.inj h).symm
  · next inner _ =>
    cases hdecode : decode inner with
    | ok value =>
      simp only [hdecode] at h
      exact .inr ⟨inner, hdecode.trans h⟩
    | error e => simp [hdecode] at h
  · cases h

end

theorem diffSection_ok {members : List (String × Json)} {diff : DiffSettings}
    (h : diffSection members = .ok diff) :
    Text.isBlankText diff.defaultOldRef = false ∧
      Text.trim diff.defaultOldRef = diff.defaultOldRef := by
  obtain ⟨context, -, h⟩ := bind_ok h
  obtain ⟨ref, href, h⟩ := bind_ok h
  obtain ⟨-, -, h⟩ := bind_ok h
  obtain rfl := Except.ok.inj h
  obtain rfl | ⟨j, hj⟩ := member_ok href
  · exact ⟨default_accepted.named, default_accepted.trimmed⟩
  · exact refName_ok hj

theorem logSection_ok {members : List (String × Json)} {log : LogSettings}
    (h : logSection members = .ok log) : log.level ∈ levels := by
  obtain ⟨found, hlevel, h⟩ := bind_ok h
  obtain ⟨-, -, h⟩ := bind_ok h
  obtain rfl := Except.ok.inj h
  obtain rfl | ⟨j, hj⟩ := member_ok hlevel
  · exact default_accepted.leveled
  · exact level_ok hj

theorem ofMembers_accepted {members : List (String × Json)} {s : Settings}
    (h : ofMembers members = .ok s) : s.Accepted := by
  obtain ⟨diff, hdiff, h⟩ := bind_ok h
  obtain ⟨cache, -, h⟩ := bind_ok h
  obtain ⟨log, hlog, h⟩ := bind_ok h
  obtain ⟨-, -, h⟩ := bind_ok h
  obtain rfl := Except.ok.inj h
  have href : Text.isBlankText diff.defaultOldRef = false ∧
      Text.trim diff.defaultOldRef = diff.defaultOldRef := by
    obtain rfl | ⟨inner, hinner⟩ := section_ok hdiff
    · exact ⟨default_accepted.named, default_accepted.trimmed⟩
    · exact diffSection_ok hinner
  have hlevel : log.level ∈ levels := by
    obtain rfl | ⟨inner, hinner⟩ := section_ok hlog
    · exact default_accepted.leveled
    · exact logSection_ok hinner
  exact ⟨href.1, href.2, hlevel⟩

theorem natural_int (n : Nat) : natural (.int n) = .ok n := by
  simp [natural, integer, bind, Except.bind]

theorem positive_int {n : Nat} (h : 0 < n) : positive (.int n) = .ok ⟨n, h⟩ := by
  simp [positive, integer, bind, Except.bind, h]

theorem positiveDouble_float {x : Binary64} (h : x.isPositive = true) :
    positiveDouble (.float x) = .ok ⟨x, h⟩ := by
  simp [positiveDouble, double, bind, Except.bind, h]

theorem level_name {l : Level} (h : l ∈ levels) : level (.str l.name) = .ok l := by
  have hall : ∀ l ∈ levels, level (.str l.name) = .ok l := by decide
  exact hall l h

theorem refName_self {ref : String} (hnamed : Text.isBlankText ref = false)
    (htrimmed : Text.trim ref = ref) : refName (.str ref) = .ok ref := by
  simp [refName, hnamed, htrimmed]

/-- The members of the document that holds the settings. -/
def members (s : Settings) : List (String × Json) := [
  ("diff", .obj [("context_lines", .int s.diff.contextLines),
    ("default_old_ref", .str s.diff.defaultOldRef)]),
  ("cache", .obj [("enabled", .bool s.cache.enabled),
    ("max_size_bytes", .int s.cache.maxSizeBytes), ("ttl_seconds", .float s.cache.ttlSeconds)]),
  ("log", .obj [("level", .str s.log.level.name)])]

theorem toJson_eq (s : Settings) : s.toJson = .obj s.members := rfl

theorem ofMembers_members {s : Settings} (h : s.Accepted) : ofMembers s.members = .ok s := by
  have hdiff : diffSection [("context_lines", .int s.diff.contextLines),
      ("default_old_ref", .str s.diff.defaultOldRef)] = .ok s.diff := by
    simp [diffSection, member, Assoc.get?, natural_int, refName_self h.named h.trimmed, onlyKnown,
      bind, Except.bind, pure, Except.pure]
  have hcache : cacheSection [("enabled", .bool s.cache.enabled),
      ("max_size_bytes", .int s.cache.maxSizeBytes), ("ttl_seconds", .float s.cache.ttlSeconds)] =
        .ok s.cache := by
    simp [cacheSection, member, Assoc.get?, boolean, positive_int s.cache.budget_pos,
      positiveDouble_float s.cache.lifetime_pos, onlyKnown, bind, Except.bind, pure, Except.pure]
  have hlog : logSection [("level", .str s.log.level.name)] = .ok s.log := by
    simp [logSection, member, Assoc.get?, level_name h.leveled, onlyKnown, bind, Except.bind, pure,
      Except.pure]
  simp [ofMembers, members, section?, Assoc.get?, hdiff, hcache, hlog, onlyKnown, bind, Except.bind,
    pure, Except.pure]

theorem accepted_iff (s : Settings) : s.Accepted ↔ ∃ members, ofMembers members = .ok s :=
  ⟨fun h => ⟨s.members, ofMembers_members h⟩, fun ⟨_, h⟩ => ofMembers_accepted h⟩

end Settings

end ReviewDiff
