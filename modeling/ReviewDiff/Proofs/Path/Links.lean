import ReviewDiff.Path.Links
import ReviewDiff.Proofs.Path.NormalForm
import ReviewDiff.Proofs.Text.Points

/-!
# Paths that the file system can be asked about

Whether a path can be read is a question about each of its code points, so it passes to components
and to places made of them. A path that can be read, through links that can, has a place. Without
links only such a path has one, and it is the place that the text leads to.
-/

set_option autoImplicit false

namespace ReviewDiff

open PathChar

namespace Path

def Readable (text : Points) : Prop :=
  ∀ point ∈ text, (point.isSurrogate && !point.isByte) = false ∧ point ≠ Char.ofNat 0

theorem readable_iff {text : Points} : unreadable? text = none ↔ Readable text := by
  rw [unreadable?, Readable, forall₂_and, ← Points.refusal?_none_iff]
  cases text.refusal? fun point => point.isSurrogate && !point.isByte with
  | some e => simp
  | none =>
    simp only [List.contains_iff_mem, ite_eq_right_iff, reduceCtorEq, imp_false, true_and]
    exact List.forall_mem_ne'.symm

theorem readable_join {parts : List (Component CodePoint)} :
    Readable (join parts) ↔ ∀ c ∈ parts, Readable c := by
  have hslash : ((slash : CodePoint).isSurrogate && !(slash : CodePoint).isByte) = false ∧
      (slash : CodePoint) ≠ Char.ofNat 0 := by decide
  induction parts with
  | nil => simp [Readable, join]
  | cons c rest ih =>
    by_cases hrest : rest = []
    · subst hrest
      simp
    · have htail : Readable (slash :: join rest) ↔ Readable (join rest) :=
        List.forall_mem_cons.trans (and_iff_right hslash)
      rw [join_cons c hrest, List.forall_mem_cons]
      exact List.forall_mem_append.trans (and_congr Iff.rfl (htail.trans ih))

theorem readable_components {path : Points} :
    Readable path ↔ ∀ c ∈ components path, Readable c := by
  rw [← readable_join, join_components]

theorem readable_place {place : List (Component CodePoint)} :
    Readable (placeText place) ↔ ∀ c ∈ place, Readable c := by
  have htext : placeText place = join ([] :: place.reverse) ∨ place = [] := by
    by_cases hplace : place = []
    · exact .inr hplace
    · exact .inl (join_cons [] (by simpa using hplace)).symm
  obtain htext | rfl := htext
  · rw [htext, readable_join]
    simp [Readable]
  · exact iff_of_true (by unfold Readable; decide) (by simp)

/-- What going along readable components comes to. -/
def Arrives : Except Halt (List (Component CodePoint)) → Prop
  | .ok place => ∀ c ∈ place, Readable c
  | .error (.loop _) => True
  | .error (.unreadable _) => False

section Walk

variable {links : Links}
  {jump : List (Component CodePoint) → Points → Except Halt (List (Component CodePoint))}
  {place cs : List (Component CodePoint)}

theorem walk_arrives
    (hjump : ∀ link target, Assoc.get? links link.reverse = some target →
      (∀ c ∈ link, Readable c) → Arrives (jump link target))
    (hplace : ∀ c ∈ place, Readable c) (hcs : ∀ c ∈ cs, Readable c) :
    Arrives (walk links jump place cs) := by
  induction cs generalizing place with
  | nil => exact hplace
  | cons c rest ih =>
    rw [List.forall_mem_cons] at hcs
    have hnext : ∀ d ∈ c :: place, Readable d := List.forall_mem_cons.mpr ⟨hcs.1, hplace⟩
    rw [walk]
    split
    · exact ih hplace hcs.2
    · split
      · exact ih (fun d hd => hplace d (List.mem_of_mem_tail hd)) hcs.2
      · rw [readable_iff.mpr (readable_place.mpr hnext)]
        cases hlink : Assoc.get? links (c :: place).reverse with
        | none => exact ih hnext hcs.2
        | some target =>
          have hreached := hjump _ _ hlink hnext
          simp only
          cases hanswer : jump (c :: place) target with
          | ok reached =>
            rw [hanswer] at hreached
            exact ih hreached hcs.2
          | error halt =>
            rw [hanswer] at hreached
            cases halt with
            | loop path => exact hreached
            | unreadable e => exact hreached

theorem walk_noLinks (hplace : ∀ c ∈ place, Readable c) (hcs : ∀ c ∈ cs, Readable c) :
    walk noLinks jump place cs = .ok (cs.foldl enter place) := by
  induction cs generalizing place with
  | nil => rfl
  | cons c rest ih =>
    rw [List.forall_mem_cons] at hcs
    have hnext : ∀ d ∈ c :: place, Readable d := List.forall_mem_cons.mpr ⟨hcs.1, hplace⟩
    rw [walk, List.foldl_cons, enter]
    split
    · exact ih hplace hcs.2
    · split
      · exact ih (fun d hd => hplace d (List.mem_of_mem_tail hd)) hcs.2
      · rw [readable_iff.mpr (readable_place.mpr hnext)]
        exact ih hnext hcs.2

theorem readable_of_walk_noLinks
    (h : ∀ e, walk noLinks jump place cs ≠ .error (.unreadable e)) : ∀ c ∈ cs, Readable c := by
  induction cs generalizing place with
  | nil => simp
  | cons c rest ih =>
    rw [List.forall_mem_cons]
    rw [walk] at h
    split at h
    · rename_i hempty
      refine ⟨?_, ih h⟩
      obtain rfl | rfl : c = [] ∨ c = [dot] := by simpa [isEmptyStep] using hempty
      · simp [Readable]
      · unfold Readable
        decide
    · split at h
      · rename_i hparent
        refine ⟨?_, ih h⟩
        obtain rfl : c = [dot, dot] := by simpa [isParent] using hparent
        unfold Readable
        decide
      · cases hread : unreadable? (placeText (c :: place)) with
        | some e =>
          rw [hread] at h
          exact absurd rfl (h e)
        | none =>
          rw [hread] at h
          have hnext := readable_place.mp (readable_iff.mp hread)
          exact ⟨hnext c List.mem_cons_self, ih h⟩

end Walk

theorem follow_arrives {links : Links}
    (hlinks : ∀ place target, Assoc.get? links place = some target → unreadable? target = none)
    (fuel : Nat) (opened : List (List (Component CodePoint)))
    {place cs : List (Component CodePoint)} (hplace : ∀ c ∈ place, Readable c)
    (hcs : ∀ c ∈ cs, Readable c) : Arrives (follow links fuel opened place cs) := by
  induction fuel generalizing opened place cs with
  | zero => exact walk_arrives (fun _ _ _ _ => trivial) hplace hcs
  | succ fuel ih =>
    refine walk_arrives (fun link target hlink hread => ?_) hplace hcs
    split
    · trivial
    · have htarget := readable_components.mp (readable_iff.mp (hlinks _ _ hlink))
      refine ih _ ?_ htarget
      split
      · simp
      · exact fun c hc => hread c (List.mem_of_mem_tail hc)

/-- A path that can be read has a place, if the links can be read too. -/
theorem real_readable {links : Links}
    (hlinks : ∀ place target, Assoc.get? links place = some target → unreadable? target = none)
    {path : Points} (hpath : unreadable? path = none) : ∃ place, real links path = .ok place := by
  have harrives : Arrives (follow links links.length [] [] (components path)) :=
    follow_arrives hlinks links.length [] (by simp) (readable_components.mp (readable_iff.mp hpath))
  rw [real]
  cases hfollow : follow links links.length [] [] (components path) with
  | ok place => exact ⟨_, rfl⟩
  | error halt =>
    cases halt with
    | loop stuck => exact ⟨_, rfl⟩
    | unreadable e =>
      rw [hfollow] at harrives
      exact harrives.elim

theorem real_noLinks {path place : Points} :
    real noLinks path = .ok place ↔
      unreadable? path = none ∧ slash :: join (resolve path) = place := by
  have hfollow : follow noLinks noLinks.length [] [] (components path) =
      walk noLinks (fun link _ => .error (.loop (placeText link))) [] (components path) := rfl
  constructor
  · intro hplace
    have hread : unreadable? path = none := by
      have hwalk (e : Unreadable) :
          walk noLinks (fun link _ => .error (.loop (placeText link))) [] (components path) ≠
            .error (.unreadable e) := by
        intro he
        rw [real, hfollow, he] at hplace
        cases hplace
      exact readable_iff.mpr (readable_components.mpr (readable_of_walk_noLinks hwalk))
    refine ⟨hread, ?_⟩
    rw [real, hfollow, walk_noLinks (by simp) (readable_components.mp (readable_iff.mp hread))]
      at hplace
    exact Except.ok.inj hplace
  · rintro ⟨hread, rfl⟩
    rw [real, hfollow, walk_noLinks (by simp) (readable_components.mp (readable_iff.mp hread))]
    rfl

theorem reals_ok {links : Links} {first second : Points} {places : Points × Points} :
    reals links first second = .ok places ↔
      real links first = .ok places.1 ∧ real links second = .ok places.2 := by
  rw [reals]
  cases real links first with
  | error e => simp [bind, Except.bind]
  | ok place =>
    cases real links second with
    | error e => simp [bind, Except.bind]
    | ok other => simp [bind, Except.bind, pure, Except.pure, Prod.ext_iff]

end Path

end ReviewDiff
