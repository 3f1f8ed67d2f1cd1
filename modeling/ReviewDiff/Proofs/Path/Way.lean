import Mathlib.Data.List.Induction
import ReviewDiff.Path.Lexical
import ReviewDiff.Proofs.Text.Points

/-!
# Where the components of a path lead

Read from left to right, components lead some levels up from where they begin and from there down
along names. A relative normal form spells out exactly these levels and names, and an absolute one
the names alone, since there is nothing above the root. From a directory the way leads to what is
left of the directory and then along the names, so it never leaves the directory as long as it does
not lead up.
-/

set_option autoImplicit false

namespace ReviewDiff.Path

open PathChar

variable {α : Type} [DecidableEq α] [PathChar α]

def IsName (c : Component α) : Prop := isEmptyStep c = false ∧ isParent c = false ∧ slash ∉ c

/-- One component further from a place, which has its last component first. A `..` takes back the
last component, and nothing at the root. -/
def enter (place : List (Component α)) (c : Component α) : List (Component α) :=
  if isEmptyStep c then place
  else if isParent c then place.tail
  else c :: place

def place (path : List α) : List (Component α) := (components path).foldl enter []

/-- The components of the place that an absolute path leads to, the first one first. -/
def resolve (path : List α) : List (Component α) := (place path).reverse

/-- On the way along a path some place is not in the directory where the way begins. -/
def Leaves (directory path : List α) : Prop :=
  ∃ front, front <+: components path ∧
    ¬ place directory <:+ front.foldl enter (place directory)

structure Way (α : Type) where
  up : Nat
  /-- The last name comes first. -/
  names : List (Component α)

namespace Way

def start : Way α := ⟨0, []⟩

/-- One component further. -/
def next (way : Way α) (c : Component α) : Way α :=
  if isEmptyStep c then way
  else if isParent c then
    match way.names with
    | [] => ⟨way.up + 1, []⟩
    | _ :: before => ⟨way.up, before⟩
  else ⟨way.up, c :: way.names⟩

def along (cs : List (Component α)) : Way α := cs.foldl next start

theorem next_cases (way : Way α) {c : Component α} (hc : slash ∉ c) :
    (isEmptyStep c = true ∧ way.next c = way) ∨
    (isEmptyStep c = false ∧ isParent c = true ∧
      ((way.names = [] ∧ way.next c = ⟨way.up + 1, []⟩) ∨
        ∃ last before, way.names = last :: before ∧ way.next c = ⟨way.up, before⟩)) ∨
    (IsName c ∧ way.next c = ⟨way.up, c :: way.names⟩) := by
  obtain ⟨up, names⟩ := way
  cases hempty : isEmptyStep c with
  | true => exact .inl ⟨rfl, by simp [next, hempty]⟩
  | false =>
    cases hparent : isParent c with
    | true =>
      refine .inr (.inl ⟨rfl, rfl, ?_⟩)
      cases names with
      | nil => exact .inl ⟨rfl, by simp [next, hempty, hparent]⟩
      | cons last before => exact .inr ⟨last, before, rfl, by simp [next, hempty, hparent]⟩
    | false => exact .inr (.inr ⟨⟨hempty, hparent, hc⟩, by simp [next, hempty, hparent]⟩)

def Proper (way : Way α) : Prop := ∀ c ∈ way.names, IsName c

theorem start_proper : (start : Way α).Proper := by simp [Proper, start]

theorem next_proper {way : Way α} (h : way.Proper) {c : Component α} (hc : slash ∉ c) :
    (way.next c).Proper := by
  obtain ⟨-, heq⟩ | ⟨-, -, ⟨-, heq⟩ | ⟨last, before, hnames, heq⟩⟩ | ⟨hname, heq⟩ :=
    way.next_cases hc
  · rwa [heq]
  · simp [heq, Proper]
  · intro d hd
    rw [heq] at hd
    exact h d (hnames ▸ List.mem_cons_of_mem last hd)
  · intro d hd
    rw [heq] at hd
    rcases List.mem_cons.mp hd with rfl | hd
    · exact hname
    · exact h d hd

theorem along_keeps {β : Type} {f : β → Component α → β} {R : Way α → β → Prop} {b : β}
    (hstart : R start b)
    (hnext : ∀ way b c, slash ∉ c → way.Proper → R way b → R (way.next c) (f b c))
    {cs : List (Component α)} (hcs : ∀ c ∈ cs, slash ∉ c) :
    (along cs).Proper ∧ R (along cs) (cs.foldl f b) := by
  suffices h : ∀ way b, way.Proper → R way b →
      (cs.foldl next way).Proper ∧ R (cs.foldl next way) (cs.foldl f b) from
    h start b start_proper hstart
  induction cs with
  | nil => exact fun way b hproper hR => ⟨hproper, hR⟩
  | cons c rest ih =>
    intro way b hproper hR
    have hc := hcs c List.mem_cons_self
    exact ih (fun d hd => hcs d (List.mem_cons_of_mem c hd)) (way.next c) (f b c)
      (next_proper hproper hc) (hnext way b c hc hproper hR)

theorem along_proper {cs : List (Component α)} (hcs : ∀ c ∈ cs, slash ∉ c) : (along cs).Proper :=
  (along_keeps (f := fun _ _ => ()) (R := fun _ _ => True) (b := ()) trivial
    (fun _ _ _ _ _ _ => trivial) hcs).1

theorem along_enter (place : List (Component α)) {cs : List (Component α)}
    (hcs : ∀ c ∈ cs, slash ∉ c) :
    cs.foldl enter place = (along cs).names ++ place.drop (along cs).up := by
  refine (along_keeps (R := fun way b => b = way.names ++ place.drop way.up) rfl ?_ hcs).2
  rintro way b c hc - rfl
  obtain ⟨hempty, heq⟩ | ⟨hempty, hparent, ⟨hnames, heq⟩ | ⟨last, before, hnames, heq⟩⟩ |
    ⟨⟨hempty, hparent, -⟩, heq⟩ := way.next_cases hc
  · simp [enter, hempty, heq]
  · simp [enter, hempty, hparent, heq, hnames]
  · simp [enter, hempty, hparent, heq, hnames]
  · simp [enter, hempty, hparent, heq]

theorem along_absolute {cs : List (Component α)} (hcs : ∀ c ∈ cs, slash ∉ c) :
    cs.foldl (step true) [] = (along cs).names := by
  refine (along_keeps (R := fun way b => b = way.names) rfl ?_ hcs).2
  rintro way b c hc hproper rfl
  obtain ⟨hempty, heq⟩ | ⟨hempty, hparent, ⟨hnames, heq⟩ | ⟨last, before, hnames, heq⟩⟩ |
    ⟨⟨hempty, hparent, -⟩, heq⟩ := way.next_cases hc
  · simp [step, hempty, heq]
  · simp [step, hempty, hparent, heq, hnames]
  · have hlast : isParent last = false := (hproper last (hnames ▸ List.mem_cons_self)).2.1
    simp [step, hempty, hparent, heq, hnames, hlast]
  · simp [step, hempty, hparent, heq]

theorem along_relative {cs : List (Component α)} (hcs : ∀ c ∈ cs, slash ∉ c) :
    cs.foldl (step false) [] = (along cs).names ++ List.replicate (along cs).up [dot, dot] := by
  refine (along_keeps
    (R := fun way b => b = way.names ++ List.replicate way.up [dot, dot]) rfl ?_ hcs).2
  rintro way b c hc hproper rfl
  obtain ⟨hempty, heq⟩ | ⟨hempty, hparent, ⟨hnames, heq⟩ | ⟨last, before, hnames, heq⟩⟩ |
    ⟨⟨hempty, hparent, -⟩, heq⟩ := way.next_cases hc
  · simp [step, hempty, heq]
  · have hc : c = [dot, dot] := by simpa [isParent] using hparent
    rw [hc] at hempty hparent
    rw [heq, hnames, hc]
    cases way.up with
    | zero => simp [step, hempty, hparent]
    | succ count => simp [step, hempty, hparent, List.replicate_succ]
  · have hlast : isParent last = false := (hproper last (hnames ▸ List.mem_cons_self)).2.1
    simp [step, hempty, hparent, heq, hnames, hlast]
  · simp [step, hempty, hparent, heq]

theorem along_append (cs more : List (Component α)) :
    along (cs ++ more) = more.foldl next (along cs) := by
  rw [along, List.foldl_append, along]

theorem along_names {names : List (Component α)} (h : ∀ c ∈ names, IsName c) :
    along names = ⟨0, names.reverse⟩ := by
  induction names using List.reverseRecOn with
  | nil => rfl
  | append_singleton names c ih =>
    have hc : IsName c := h c (by simp)
    rw [along_append, ih fun d hd => h d (by simp [hd])]
    simp [next, hc.1, hc.2.1]

theorem next_up_le (way : Way α) {c : Component α} (hc : slash ∉ c) : way.up ≤ (way.next c).up := by
  obtain ⟨-, heq⟩ | ⟨-, -, ⟨-, heq⟩ | ⟨_, _, -, heq⟩⟩ | ⟨-, heq⟩ := way.next_cases hc <;> simp [heq]

theorem foldl_up_le (way : Way α) {cs : List (Component α)} (hcs : ∀ c ∈ cs, slash ∉ c) :
    way.up ≤ (cs.foldl next way).up := by
  induction cs generalizing way with
  | nil => exact Nat.le_refl _
  | cons c rest ih =>
    have hrest := ih (way.next c) fun d hd => hcs d (List.mem_cons_of_mem c hd)
    exact Nat.le_trans (way.next_up_le (hcs c List.mem_cons_self)) hrest

theorem along_above {cs : List (Component α)} (hcs : ∀ c ∈ cs, slash ∉ c) (h : 0 < (along cs).up) :
    ∃ front, front <+: cs ∧ along front = ⟨1, []⟩ := by
  induction cs using List.reverseRecOn with
  | nil => simp [along, start] at h
  | append_singleton cs c ih =>
    have hfront (d : Component α) (hd : d ∈ cs) : slash ∉ d := hcs d (by simp [hd])
    rw [along_append, List.foldl_cons, List.foldl_nil] at h
    rcases Nat.eq_zero_or_pos (along cs).up with hzero | hpos
    · obtain ⟨-, heq⟩ | ⟨-, -, ⟨-, heq⟩ | ⟨_, _, -, heq⟩⟩ | ⟨-, heq⟩ :=
        (along cs).next_cases (hcs c (by simp))
      · rw [heq, hzero] at h
        cases h
      · refine ⟨cs ++ [c], List.prefix_rfl, ?_⟩
        rw [along_append, List.foldl_cons, List.foldl_nil, heq, hzero]
      · rw [heq, hzero] at h
        cases h
      · rw [heq, hzero] at h
        cases h
    · obtain ⟨front, hahead, hup⟩ := ih hfront hpos
      exact ⟨front, hahead.trans (List.prefix_append ..), hup⟩

end Way

open Way

theorem components_slashless {path : List α} : ∀ c ∈ components path, slash ∉ c :=
  fun _ hc => separator_not_mem hc

theorem leaves_iff {directory path : List α} (hroot : place directory ≠ []) :
    Leaves directory path ↔ 0 < (along (components path)).up := by
  constructor
  · rintro ⟨front, ⟨more, hmore⟩, hleft⟩
    have hslashless : ∀ c ∈ front ++ more, slash ∉ c := hmore ▸ components_slashless
    rw [Nat.pos_iff_ne_zero]
    intro hzero
    rw [← hmore, along_append] at hzero
    have hle := foldl_up_le (along front) fun c hc => hslashless c (List.mem_append_right front hc)
    have hup : (along front).up = 0 := by omega
    apply hleft
    rw [along_enter _ fun c hc => hslashless c (List.mem_append_left more hc), hup, List.drop_zero]
    exact List.suffix_append ..
  · intro h
    obtain ⟨front, hahead, hup⟩ := along_above components_slashless h
    refine ⟨front, hahead, ?_⟩
    rw [along_enter _ fun c hc => components_slashless c (hahead.subset hc), hup]
    intro hsuffix
    have hlength := hsuffix.length_le
    have hpos := List.length_pos_iff.mpr hroot
    simp at hlength
    omega

theorem not_leaves_root {directory path : List α} (hroot : place directory = []) :
    ¬ Leaves directory path := by
  rintro ⟨front, -, hleft⟩
  exact hleft (hroot ▸ List.nil_suffix)

theorem components_append (front rest : List α) :
    components (front ++ slash :: rest) = components front ++ components rest :=
  List.splitOn_append_cons_self front rest

theorem components_slash (rest : List α) : components (slash :: rest) = [] :: components rest :=
  components_append [] rest

theorem along_slash (rest : List α) :
    along (components (slash :: rest)) = along (components rest) := by
  rw [components_slash]
  rfl

theorem place_append (directory rest : List α) :
    place (directory ++ slash :: rest) =
      (along (components rest)).names ++ (place directory).drop (along (components rest)).up := by
  rw [place, components_append, List.foldl_append, ← place,
    along_enter (place directory) components_slashless]

theorem place_eq (path : List α) : place path = (along (components path)).names := by
  rw [place, along_enter [] components_slashless, List.drop_nil, List.append_nil]

theorem place_names {path : List α} : ∀ c ∈ place path, IsName c := by
  rw [place_eq]
  exact along_proper components_slashless

theorem resolve_names {path : List α} : ∀ c ∈ resolve path, IsName c := by
  intro c hc
  exact place_names c (List.mem_reverse.mp hc)

end ReviewDiff.Path
