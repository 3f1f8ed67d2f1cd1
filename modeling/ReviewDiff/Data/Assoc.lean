/-!
# Association lists

A finite map in the order in which its keys first came in. Putting a key that is there changes its
value and not its place.
-/

set_option autoImplicit false

namespace ReviewDiff

abbrev Assoc (κ ν : Type) := List (κ × ν)

namespace Assoc

variable {κ ν : Type} [DecidableEq κ]

def get? (m : Assoc κ ν) (k : κ) : Option ν :=
  match m with
  | [] => none
  | (key, value) :: rest => if key = k then some value else get? rest k

def put (m : Assoc κ ν) (k : κ) (v : ν) : Assoc κ ν :=
  match m with
  | [] => [(k, v)]
  | (key, value) :: rest => if key = k then (key, v) :: rest else (key, value) :: put rest k v

def remove (m : Assoc κ ν) (k : κ) : Assoc κ ν := m.filter fun entry => !decide (entry.1 = k)

def contains (m : Assoc κ ν) (k : κ) : Bool := (m.get? k).isSome

def keys (m : Assoc κ ν) : List κ := m.map (·.1)

theorem get?_put_self (m : Assoc κ ν) (k : κ) (v : ν) : (m.put k v).get? k = some v := by
  induction m with
  | nil => simp [put, get?]
  | cons entry rest ih => by_cases h : entry.1 = k <;> simp [put, get?, h, ih]

theorem get?_put_ne (m : Assoc κ ν) {k k' : κ} (v : ν) (hne : k ≠ k') :
    (m.put k v).get? k' = m.get? k' := by
  induction m with
  | nil => simp [put, get?, hne]
  | cons entry rest ih => by_cases h : entry.1 = k <;> simp [put, get?, h, hne, ih]

theorem get?_remove_self (m : Assoc κ ν) (k : κ) : (m.remove k).get? k = none := by
  induction m with
  | nil => rfl
  | cons entry rest ih =>
    rw [remove] at ih ⊢
    by_cases h : entry.1 = k <;> simp [get?, h, ih]

theorem get?_remove_ne (m : Assoc κ ν) {k k' : κ} (hne : k ≠ k') :
    (m.remove k).get? k' = m.get? k' := by
  induction m with
  | nil => rfl
  | cons entry rest ih =>
    rw [remove] at ih ⊢
    by_cases h : entry.1 = k <;> simp [get?, h, hne, ih]

/-- A new key comes last. -/
theorem put_absent {m : Assoc κ ν} {k : κ} (v : ν) (h : k ∉ m.keys) :
    m.put k v = m ++ [(k, v)] := by
  induction m with
  | nil => rfl
  | cons entry rest ih =>
    rw [keys, List.map_cons, List.mem_cons, not_or] at h
    rw [put, if_neg (Ne.symm h.1), ih h.2, List.cons_append]

theorem get?_eq_none_iff {m : Assoc κ ν} {k : κ} : m.get? k = none ↔ k ∉ m.keys := by
  induction m with
  | nil => simp [get?, keys]
  | cons entry rest ih =>
    by_cases h : entry.1 = k
    · simp [get?, keys, h]
    · simp [get?, keys, h, ih, Ne.symm h]

theorem mem_of_get? {m : Assoc κ ν} {k : κ} {v : ν} (h : m.get? k = some v) : (k, v) ∈ m := by
  induction m with
  | nil => cases h
  | cons entry rest ih =>
    by_cases hkey : entry.1 = k
    · simp only [get?, hkey, if_true, Option.some.injEq] at h
      exact List.mem_cons.mpr (.inl (Prod.ext hkey.symm h.symm))
    · simp only [get?, hkey, if_false] at h
      exact List.mem_cons_of_mem entry (ih h)

/-- Where no key comes twice, a key has the value that stands beside it. -/
theorem get?_eq_some_iff {m : Assoc κ ν} (hkeys : m.keys.Nodup) {k : κ} {v : ν} :
    m.get? k = some v ↔ (k, v) ∈ m := by
  induction m with
  | nil => simp [get?]
  | cons entry rest ih =>
    obtain ⟨key, value⟩ := entry
    obtain ⟨habsent, hrest⟩ := List.nodup_cons.mp hkeys
    by_cases h : key = k
    · subst h
      have hnot : (key, v) ∉ rest := fun hmem => habsent (List.mem_map.mpr ⟨_, hmem, rfl⟩)
      simp [get?, hnot, eq_comm]
    · simp [get?, h, Ne.symm h, ih hrest]

end Assoc

end ReviewDiff
