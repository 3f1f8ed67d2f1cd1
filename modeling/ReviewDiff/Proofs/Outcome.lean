/-!
# Computations that may fail

What a computation came to tells what its parts came to, whether it has a result or failed.
-/

set_option autoImplicit false

namespace ReviewDiff

variable {ε ε' α β : Type} {x : Except ε α} {e : ε} {b : β}

theorem bind_ok {f : α → Except ε β} (h : (x >>= f) = .ok b) : ∃ a, x = .ok a ∧ f a = .ok b := by
  cases x with
  | error e => cases h
  | ok a => exact ⟨a, rfl, h⟩

theorem bind_error {f : α → Except ε β} (h : (x >>= f) = .error e) :
    x = .error e ∨ ∃ a, x = .ok a ∧ f a = .error e := by
  cases x with
  | error _ => exact .inl (congrArg Except.error (Except.error.inj h))
  | ok a => exact .inr ⟨a, rfl, h⟩

theorem map_ok {f : α → β} (h : x.map f = .ok b) : ∃ a, x = .ok a ∧ f a = b := by
  cases x with
  | error e => cases h
  | ok a => exact ⟨a, rfl, Except.ok.inj h⟩

theorem map_error {f : α → β} (h : x.map f = .error e) : x = .error e := by
  cases x with
  | error _ => exact congrArg Except.error (Except.error.inj h)
  | ok a => cases h

theorem mapError_ok {f : ε → ε'} {a : α} : x.mapError f = .ok a ↔ x = .ok a := by
  cases x with
  | error e => constructor <;> (intro h; cases h)
  | ok b =>
    exact ⟨fun h => congrArg Except.ok (Except.ok.inj h),
      fun h => congrArg Except.ok (Except.ok.inj h)⟩

theorem mapError_error {f : ε → ε'} {e' : ε'} (h : x.mapError f = .error e') :
    ∃ e, x = .error e ∧ f e = e' := by
  cases x with
  | error e => exact ⟨e, rfl, Except.error.inj h⟩
  | ok a => cases h

theorem mapM_forall {f : α → Except ε β} {Q : β → Prop} (hf : ∀ a b, f a = .ok b → Q b)
    {items : List α} {results : List β} (h : items.mapM f = .ok results) : ∀ b ∈ results, Q b := by
  induction items generalizing results with
  | nil =>
    obtain rfl := Except.ok.inj h
    exact fun _ hb => absurd hb List.not_mem_nil
  | cons a items ih =>
    rw [List.mapM_cons] at h
    obtain ⟨b, hb, h⟩ := bind_ok h
    obtain ⟨rest, hrest, h⟩ := bind_ok h
    obtain rfl := Except.ok.inj h
    exact List.forall_mem_cons.mpr ⟨hf a b hb, ih hrest⟩

theorem mapM_flatten_forall {f : α → Except ε (List β)} {Q : β → Prop}
    (hf : ∀ a part, f a = .ok part → ∀ b ∈ part, Q b) {items : List α} {parts : List (List β)}
    (h : items.mapM f = .ok parts) : ∀ b ∈ parts.flatten, Q b := by
  intro b hb
  obtain ⟨part, hpart, hmem⟩ := List.mem_flatten.mp hb
  exact mapM_forall hf h part hpart b hmem

end ReviewDiff
