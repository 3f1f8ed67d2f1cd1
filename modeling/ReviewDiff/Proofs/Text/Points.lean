import Mathlib.Data.List.TakeWhile
import ReviewDiff.Text.Quoted
import ReviewDiff.Text.Utf8

/-!
# Texts and their pieces

A text has bytes where no surrogate stands in it. It consists of characters then and is encoded as
they are. No piece between the places of a separator holds the separator.
-/

set_option autoImplicit false

namespace ReviewDiff

namespace Points

@[simp]
theorem chars?_ofChars (cs : List Char) : (ofChars cs).chars? = some cs := by
  induction cs with
  | nil => rfl
  | cons c cs ih =>
    rw [ofChars, List.map_cons, chars?, ← ofChars, ih]
    rfl

@[simp]
theorem chars?_ofString (s : String) : (ofString s).chars? = some s.toList :=
  chars?_ofChars s.toList

theorem ofString_append (s t : String) : ofString (s ++ t) = ofString s ++ ofString t := by
  simp [ofString, ofChars]

theorem refusal?_none_iff {refused : CodePoint → Bool} {p : Points} :
    p.refusal? refused = none ↔ ∀ point ∈ p, refused point = false := by
  rw [refusal?]
  cases hrest : p.dropWhile fun point => !refused point with
  | nil => simpa [List.dropWhile_eq_nil_iff] using hrest
  | cons first rest =>
    have hfirst := List.head?_dropWhile_not (fun point => !refused point) p
    have hmem : first ∈ p := (List.dropWhile_suffix _).subset (hrest ▸ List.mem_cons_self)
    rw [hrest, List.head?_cons] at hfirst
    simp only [reduceCtorEq, false_iff]
    intro hall
    simp [hall first hmem] at hfirst

def Encodable (p : Points) : Prop := ∀ point ∈ p, point.isSurrogate = false

theorem surrogates?_none_iff {p : Points} : p.surrogates? = none ↔ p.Encodable :=
  refusal?_none_iff

theorem Encodable.append {p q : Points} (hp : p.Encodable) (hq : q.Encodable) :
    (p ++ q).Encodable := by
  intro point hpoint
  exact (List.mem_append.mp hpoint).elim (hp point) (hq point)

theorem encodable_ofChars (cs : List Char) : (ofChars cs).Encodable := by
  intro point hpoint
  obtain ⟨c, -, rfl⟩ := List.mem_map.mp hpoint
  rfl

theorem encodable_ofString (s : String) : (ofString s).Encodable := encodable_ofChars s.toList

theorem Encodable.exists_chars {p : Points} (h : p.Encodable) : ∃ cs, ofChars cs = p := by
  induction p with
  | nil => exact ⟨[], rfl⟩
  | cons point rest ih =>
    obtain ⟨cs, rfl⟩ := ih fun other hmem => h other (List.mem_cons_of_mem point hmem)
    cases point with
    | char c => exact ⟨c :: cs, rfl⟩
    | surrogate index => exact nomatch h (.surrogate index) List.mem_cons_self

theorem encode_ofChars (cs : List Char) : (ofChars cs).encode = .ok (Utf8.encode cs) := by
  rw [encode, surrogates?_none_iff.mpr (encodable_ofChars cs), Utf8.encode, ofChars,
    List.flatMap_map]
  rfl

theorem Encodable.exists_size {p : Points} (h : p.Encodable) : ∃ size, p.size = .ok size := by
  obtain ⟨cs, rfl⟩ := h.exists_chars
  rw [size, encode_ofChars]
  exact ⟨_, rfl⟩

end Points

theorem separator_not_mem {α : Type} [BEq α] [LawfulBEq α] {separator : α} {s piece : List α}
    (h : piece ∈ s.splitOn separator) : separator ∉ piece := by
  induction s generalizing piece with
  | nil =>
    rw [List.splitOn_nil, List.mem_singleton] at h
    simp [h]
  | cons c rest ih =>
    rw [List.splitOn_cons_eq_if_modifyHead] at h
    split at h
    · rcases List.mem_cons.mp h with rfl | hrest
      · simp
      · exact ih hrest
    · rename_i hc
      cases hpieces : rest.splitOn separator with
      | nil => exact absurd hpieces (List.splitOn_ne_nil separator rest)
      | cons first others =>
        rw [hpieces] at h ih
        rcases List.mem_cons.mp h with rfl | hothers
        · rw [List.mem_cons, not_or]
          exact ⟨fun heq => hc (beq_iff_eq.mpr heq.symm), ih List.mem_cons_self⟩
        · exact ih (List.mem_cons_of_mem first hothers)

end ReviewDiff
