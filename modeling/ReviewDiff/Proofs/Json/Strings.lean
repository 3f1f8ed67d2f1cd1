import ReviewDiff.Json.Reader
import ReviewDiff.Json.Writer
import Mathlib.Data.List.Basic

/-!
# Strings that are written and read back

One turn of the reader takes what was written for one character: the character itself, an escape by
a letter, an escape by its code, or a pair of such escapes for a code above U+FFFF. From this a
whole string is read back, whatever follows its closing quote.
-/

set_option autoImplicit false

namespace ReviewDiff.Json

theorem hexValue_hexDigit : ∀ d < 16, hexValue? (Text.hexDigit d) = some d := by decide

theorem hexFour_hexDigits {n : Nat} (h : n < 0x10000) (rest : List Char) :
    hexFour? (Text.hexDigits 4 n ++ rest) = some (n, rest) := by
  have hdigit (m : Nat) : hexValue? (Text.hexDigit (m % 16)) = some (m % 16) :=
    hexValue_hexDigit _ (Nat.mod_lt _ (by decide))
  have hsum : (((n / 16 / 16 / 16 % 16 * 16 + n / 16 / 16 % 16) * 16 + n / 16 % 16) * 16 + n % 16)
      = n := by omega
  simp [Text.hexDigits, hexFour?, hdigit, hsum]

theorem length_hexDigits (width n : Nat) : (Text.hexDigits width n).length = width := by
  induction width generalizing n with
  | zero => rfl
  | succ width ih => rw [Text.hexDigits, List.length_append, ih, List.length_singleton]

theorem toNat_not_surrogate (c : Char) : isHigh c.toNat = false ∧ isLow c.toNat = false := by
  have hvalid : c.toNat < 0xD800 ∨ 0xDFFF < c.toNat ∧ c.toNat < 0x110000 := c.valid
  constructor
  · simp only [isHigh, Bool.and_eq_false_imp, decide_eq_true_eq, decide_eq_false_iff_not]
    omega
  · simp only [isLow, Bool.and_eq_false_imp, decide_eq_true_eq, decide_eq_false_iff_not]
    omega

theorem codeEscape_one {c : Char} (h : c.toNat ≤ 0xFFFF) {rest : List Char} (hrest : rest ≠ []) :
    codeEscape (Text.hexDigits 4 c.toNat ++ rest) = .ok (c, rest) := by
  have hlength : ¬ (Text.hexDigits 4 c.toNat ++ rest).length < 5 := by
    have hpos : 0 < rest.length := List.length_pos_iff.mpr hrest
    rw [List.length_append, length_hexDigits]
    omega
  obtain ⟨hhigh, hlow⟩ := toNat_not_surrogate c
  rw [codeEscape, if_neg hlength, hexFour_hexDigits (by omega)]
  simp [charOfCode, hhigh, hlow, Char.ofNat_toNat]

theorem codeEscape_pair {c : Char} (h : 0xFFFF < c.toNat) {rest : List Char} (hrest : rest ≠ []) :
    codeEscape (Text.hexDigits 4 (0xD800 + (c.toNat - 0x10000) / 0x400) ++
      unitEscape (0xDC00 + (c.toNat - 0x10000) % 0x400) ++ rest) = .ok (c, rest) := by
  have hvalid : c.toNat < 0xD800 ∨ 0xDFFF < c.toNat ∧ c.toNat < 0x110000 := c.valid
  have hpos : 0 < rest.length := List.length_pos_iff.mpr hrest
  generalize hhigh : 0xD800 + (c.toNat - 0x10000) / 0x400 = high
  generalize hlow : 0xDC00 + (c.toNat - 0x10000) % 0x400 = low
  have hpair : 0x10000 + (high - 0xD800) * 0x400 + (low - 0xDC00) = c.toNat := by omega
  have hisHigh : isHigh high = true := by simp [isHigh]; omega
  have hisLow : isLow low = true := by simp [isLow]; omega
  have hlength : ¬ (Text.hexDigits 4 high ++ (unitEscape low ++ rest)).length < 5 := by
    simp only [List.length_append, length_hexDigits, unitEscape, List.length_cons]
    omega
  have hsecond : ¬ (Text.hexDigits 4 low ++ rest).length < 5 := by
    rw [List.length_append, length_hexDigits]
    omega
  have hhalf : lowHalf? (unitEscape low ++ rest) = .ok (some (low, rest)) := by
    rw [unitEscape, List.cons_append, List.cons_append, lowHalf?, if_neg hsecond,
      hexFour_hexDigits (by omega)]
    simp [hisLow]
  rw [List.append_assoc, codeEscape, if_neg hlength, hexFour_hexDigits (by omega)]
  simp [hisHigh, hhalf, hpair, Char.ofNat_toNat]

section

variable (opened fuel : Nat) (before : List Char)

theorem stringRest_quote (rest : List Char) :
    stringRest opened (fuel + 1) ('"' :: rest) before = .ok (String.ofList before.reverse, rest) := by
  simp [stringRest]

theorem stringRest_letter {e c : Char} (he : e ≠ 'u') (h : simpleEscape? e = some c)
    (rest : List Char) :
    stringRest opened (fuel + 1) ('\\' :: e :: rest) before =
      stringRest opened fuel rest (c :: before) := by
  simp [stringRest, he, h]

theorem stringRest_code {tail rest : List Char} {c : Char} (h : codeEscape tail = .ok (c, rest)) :
    stringRest opened (fuel + 1) ('\\' :: 'u' :: tail) before =
      stringRest opened fuel rest (c :: before) := by
  simp [stringRest, h]

theorem stringRest_units (c : Char) {rest : List Char} (hrest : rest ≠ []) :
    stringRest opened (fuel + 1) (unitsEscape c ++ rest) before =
      stringRest opened fuel rest (c :: before) := by
  by_cases h : c.toNat ≤ 0xFFFF
  · rw [unitsEscape, if_pos h]
    exact stringRest_code opened fuel before (codeEscape_one h hrest)
  · rw [unitsEscape, if_neg h]
    exact stringRest_code opened fuel before (codeEscape_pair (Nat.lt_of_not_le h) hrest)

/-- What was written for a character is read as this character in one turn. Something has to
follow, since an escape by a code is not read in the last characters of a text. -/
theorem stringRest_writeChar (asciiOnly : Bool) (c : Char) {rest : List Char} (hrest : rest ≠ []) :
    stringRest opened (fuel + 1) (writeChar asciiOnly c ++ rest) before =
      stringRest opened fuel rest (c :: before) := by
  have hletter {e : Char} (he : e ≠ 'u') (h : simpleEscape? e = some c) :=
    stringRest_letter opened fuel before he h rest
  unfold writeChar
  split_ifs with hmark hfeed hreturn htab hback hform hcode
  · refine hletter ?_ ?_
    · rintro rfl
      exact absurd hmark (by decide)
    · rw [simpleEscape?, hmark, Bool.true_or, if_pos rfl]
  · exact hletter (by decide) (hfeed ▸ rfl)
  · exact hletter (by decide) (hreturn ▸ rfl)
  · exact hletter (by decide) (htab ▸ rfl)
  · exact hletter (by decide) (by rw [← Char.ofNat_toNat c, hback]; rfl)
  · exact hletter (by decide) (by rw [← Char.ofNat_toNat c, hform]; rfl)
  · exact stringRest_units opened fuel before c hrest
  · have hprintable : ¬ c.toNat < 32 := fun h => hcode (by simp [h])
    simp only [Bool.or_eq_true, decide_eq_true_eq, not_or] at hmark
    simp [stringRest, hmark.1, hmark.2, hprintable]

theorem stringRest_written (asciiOnly : Bool) (cs rest : List Char) (hfuel : cs.length < fuel) :
    stringRest opened fuel (cs.flatMap (writeChar asciiOnly) ++ '"' :: rest) before =
      .ok (String.ofList (before.reverse ++ cs), rest) := by
  induction cs generalizing fuel before with
  | nil =>
    obtain ⟨fuel, rfl⟩ := Nat.exists_eq_add_one_of_ne_zero (Nat.ne_of_gt hfuel)
    rw [List.flatMap_nil, List.nil_append, stringRest_quote, List.append_nil]
  | cons c cs ih =>
    obtain ⟨fuel, rfl⟩ := Nat.exists_eq_add_one_of_ne_zero (Nat.ne_of_gt (Nat.zero_lt_of_lt hfuel))
    rw [List.length_cons, Nat.add_lt_add_iff_right] at hfuel
    rw [List.flatMap_cons, List.append_assoc, stringRest_writeChar opened fuel before asciiOnly c
      (by simp), ih fuel (c :: before) hfuel, List.reverse_cons, List.append_assoc,
      List.singleton_append]

end

theorem writeChar_ne_nil (asciiOnly : Bool) (c : Char) : writeChar asciiOnly c ≠ [] := by
  have hunits : unitsEscape c ≠ [] := by
    by_cases h : c.toNat ≤ 0xFFFF <;> simp [unitsEscape, unitEscape, h]
  unfold writeChar
  split_ifs <;> simp [hunits]

theorem length_le_written (asciiOnly : Bool) (cs : List Char) :
    cs.length ≤ (cs.flatMap (writeChar asciiOnly)).length := by
  induction cs with
  | nil => exact Nat.zero_le _
  | cons c cs ih =>
    have hpos : 0 < (writeChar asciiOnly c).length :=
      List.length_pos_iff.mpr (writeChar_ne_nil asciiOnly c)
    rw [List.flatMap_cons, List.length_append, List.length_cons]
    omega

theorem string_written (asciiOnly : Bool) (s : String) (rest : List Char) :
    string (s.toList.flatMap (writeChar asciiOnly) ++ '"' :: rest) = .ok (s, rest) := by
  have hlength := length_le_written asciiOnly s.toList
  rw [string, stringRest_written _ _ _ _ _ _ (by rw [List.length_append]; omega),
    List.reverse_nil, List.nil_append, String.ofList_toList]

theorem ne_return_hexDigits (width n : Nat) : ∀ c ∈ Text.hexDigits width n, c ≠ '\r' := by
  have hdigit : ∀ d < 16, Text.hexDigit d ≠ '\r' := by decide
  induction width generalizing n with
  | zero => exact List.forall_mem_nil _
  | succ width ih =>
    rw [Text.hexDigits, List.forall_mem_append, List.forall_mem_singleton]
    exact ⟨ih (n / 16), hdigit (n % 16) (Nat.mod_lt n (by decide))⟩

theorem ne_return_unitsEscape (c : Char) : ∀ d ∈ unitsEscape c, d ≠ '\r' := by
  have hunit (n : Nat) : ∀ d ∈ unitEscape n, d ≠ '\r' := by
    rw [unitEscape, List.forall_mem_cons, List.forall_mem_cons]
    exact ⟨by decide, by decide, ne_return_hexDigits 4 n⟩
  by_cases h : c.toNat ≤ 0xFFFF
  · rw [unitsEscape, if_pos h]
    exact hunit _
  · rw [unitsEscape, if_neg h, List.forall_mem_append]
    exact ⟨hunit _, hunit _⟩

/-- A carriage return is written as an escape, so that none stands in what is written. -/
theorem ne_return_writeChar (asciiOnly : Bool) (c : Char) :
    ∀ d ∈ writeChar asciiOnly c, d ≠ '\r' := by
  have hletter {e : Char} (he : e ≠ '\r') : ∀ d ∈ ['\\', e], d ≠ '\r' := by
    rw [List.forall_mem_cons, List.forall_mem_singleton]
    exact ⟨by decide, he⟩
  unfold writeChar
  split_ifs with hmark hfeed hreturn
  · refine hletter ?_
    rintro rfl
    exact absurd hmark (by decide)
  · exact hletter (by decide)
  · exact hletter (by decide)
  · exact hletter (by decide)
  · exact hletter (by decide)
  · exact hletter (by decide)
  · exact ne_return_unitsEscape c
  · rw [List.forall_mem_singleton]
    exact hreturn

theorem ne_return_writeString (asciiOnly : Bool) (s : String) :
    ∀ c ∈ writeString asciiOnly s, c ≠ '\r' := by
  rw [writeString, List.cons_append, List.forall_mem_cons, List.forall_mem_append]
  refine ⟨by decide, fun c hc => ?_, List.forall_mem_singleton.mpr (by decide)⟩
  obtain ⟨d, -, hd⟩ := List.mem_flatMap.mp hc
  exact ne_return_writeChar asciiOnly d c hd

end ReviewDiff.Json
