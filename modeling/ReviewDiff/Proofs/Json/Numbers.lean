import ReviewDiff.Json.Reader
import ReviewDiff.Json.Writer
import Mathlib.Data.List.TakeWhile

/-!
# Numbers that are written and read back

A number is read up to the character that cannot belong to it. In a document that is a space, a
comma or a closing bracket: none of these goes on with a number or a word, so whatever is read at
the end of a text is read alike in front of one of them.
-/

set_option autoImplicit false

namespace ReviewDiff.Json

/-- Whether a character can stand behind a value in a document. -/
def isStop (c : Char) : Bool := isSpace c || c = ',' || c = ']' || c = '}'

/-- Whether a value ends where the characters begin. -/
def AtStop (rest : List Char) : Prop := ∀ c ∈ rest.head?, isStop c = true

theorem AtStop.head_ne {rest : List Char} (h : AtStop rest) {d : Char} (hd : isStop d = false) :
    ∀ c ∈ rest.head?, c ≠ d := by
  rintro c hc rfl
  exact absurd (h c hc) (by simp [hd])

theorem not_isDigit_of_isStop {c : Char} (h : isStop c = true) : isDigit c = false := by
  have hcases : c = ' ' ∨ c = '\t' ∨ c = '\n' ∨ c = '\r' ∨ c = ',' ∨ c = ']' ∨ c = '}' := by
    simpa [isStop, isSpace, or_assoc] using h
  rcases hcases with rfl | rfl | rfl | rfl | rfl | rfl | rfl <;> rfl

theorem AtStop.not_isDigit {rest : List Char} (h : AtStop rest) :
    ∀ c ∈ rest.head?, isDigit c = false :=
  fun c hc => not_isDigit_of_isStop (h c hc)

section

variable {p : Char → Bool} {rest : List Char} (h : ∀ c ∈ rest.head?, p c = false)
include h

theorem takeWhile_append_stop (cs : List Char) : (cs ++ rest).takeWhile p = cs.takeWhile p := by
  have hrest : rest.takeWhile p = [] := by
    cases rest with
    | nil => rfl
    | cons c rest => simp [h c rfl]
  rw [List.takeWhile_append, hrest, List.append_nil]
  split
  · next hall => exact ((List.takeWhile_prefix p).eq_of_length hall).symm
  · rfl

theorem dropWhile_append_stop (cs : List Char) :
    (cs ++ rest).dropWhile p = cs.dropWhile p ++ rest := by
  have hrest : rest.dropWhile p = rest := by
    cases rest with
    | nil => rfl
    | cons c rest => simp [h c rfl]
  rw [List.dropWhile_append, hrest]
  split
  · next hnone => rw [List.isEmpty_iff.mp hnone, List.nil_append]
  · rfl

end

section

variable {rest : List Char} (hstop : AtStop rest)
include hstop

theorem fractionPart_append (cs : List Char) :
    fractionPart? (cs ++ rest) = (fractionPart? cs).map fun found => (found.1, found.2 ++ rest) := by
  match cs with
  | [] =>
    cases rest with
    | nil => rfl
    | cons c rest =>
      have hpoint : c ≠ '.' := hstop.head_ne (by decide) c rfl
      simp [fractionPart?, hpoint]
  | c :: cs =>
    by_cases hpoint : c = '.'
    · subst hpoint
      simp only [List.cons_append, fractionPart?, takeWhile_append_stop hstop.not_isDigit,
        dropWhile_append_stop hstop.not_isDigit]
      split <;> rfl
    · simp [fractionPart?, hpoint]

theorem splitSign_append (cs : List Char) :
    Numeral.splitSign (cs ++ rest) =
      ((Numeral.splitSign cs).1, (Numeral.splitSign cs).2 ++ rest) := by
  match cs with
  | [] =>
    cases rest with
    | nil => rfl
    | cons c rest =>
      have hminus : c ≠ '-' := hstop.head_ne (by decide) c rfl
      have hplus : c ≠ '+' := hstop.head_ne (by decide) c rfl
      simp [Numeral.splitSign, hminus, hplus]
  | c :: cs =>
    by_cases hminus : c = '-'
    · subst hminus
      rfl
    by_cases hplus : c = '+'
    · subst hplus
      rfl
    simp [Numeral.splitSign, hminus, hplus]

end

theorem exponentPart_cons (e : Char) (cs : List Char) :
    exponentPart? (e :: cs) =
      if e != 'e' && e != 'E' then none
      else
        let ds := (Numeral.splitSign cs).2.takeWhile isDigit
        if ds.isEmpty then none
        else
          let size : Int := digitsValue ds
          some (if (Numeral.splitSign cs).1 then -size else size,
            (Numeral.splitSign cs).2.dropWhile isDigit) := rfl

section

variable {rest : List Char} (hstop : AtStop rest)
include hstop

theorem exponentPart_append (cs : List Char) :
    exponentPart? (cs ++ rest) = (exponentPart? cs).map fun found => (found.1, found.2 ++ rest) := by
  match cs with
  | [] =>
    cases rest with
    | nil => rfl
    | cons c rest =>
      have hsmall : c ≠ 'e' := hstop.head_ne (by decide) c rfl
      have hlarge : c ≠ 'E' := hstop.head_ne (by decide) c rfl
      rw [List.nil_append, exponentPart_cons, if_pos (by simp [hsmall, hlarge])]
      rfl
  | e :: cs =>
    rw [List.cons_append, exponentPart_cons, exponentPart_cons, splitSign_append hstop]
    simp only [takeWhile_append_stop hstop.not_isDigit, dropWhile_append_stop hstop.not_isDigit]
    split_ifs <;> rfl

end

/-- The number at the front, when there is one. -/
def number? (cs : List Char) : Option (Reading Json) :=
  match cs with
  | '-' :: rest => numberDigits? true rest
  | _ => numberDigits? false cs

theorem number?_unsigned {cs : List Char} (h : ∀ rest, cs ≠ '-' :: rest) :
    number? cs = numberDigits? false cs := by
  unfold number?
  split
  · next rest => exact absurd rfl (h rest)
  · rfl

theorem scalar_eq (cs : List Char) :
    scalar cs = match word? cs with
      | some found => .ok found
      | none => (number? cs).getD (failAt .value cs) := rfl

/-- What a reading gives when more characters stand behind those that were read. -/
def Reading.followedBy {α : Type} (rest : List Char) (reading : Reading α) : Reading α :=
  reading.map fun found => (found.1, found.2 ++ rest)

section

variable {rest : List Char} (hstop : AtStop rest)
include hstop

theorem numberRest_append (negative : Bool) (whole cs : List Char) :
    numberRest negative whole (cs ++ rest) = (numberRest negative whole cs).followedBy rest := by
  have hparts : (fractionPart? (cs ++ rest)).getD ([], cs ++ rest) =
      (((fractionPart? cs).getD ([], cs)).1, ((fractionPart? cs).getD ([], cs)).2 ++ rest) := by
    rw [fractionPart_append hstop]
    cases fractionPart? cs <;> rfl
  simp only [numberRest, hparts, exponentPart_append hstop]
  generalize (fractionPart? cs).getD ([], cs) = parts
  cases exponentPart? parts.2 with
  | some found => rfl
  | none =>
    simp only [Option.map_none]
    split_ifs <;> rfl

theorem numberDigits_append (negative : Bool) (cs : List Char) :
    numberDigits? negative (cs ++ rest) =
      (numberDigits? negative cs).map (Reading.followedBy rest) := by
  match cs with
  | [] =>
    cases rest with
    | nil => rfl
    | cons c rest =>
      have hdigit : isDigit c = false := hstop.not_isDigit c rfl
      have hzero : c ≠ '0' := hstop.head_ne (by decide) c rfl
      simp [numberDigits?, hdigit, hzero]
  | c :: cs =>
    simp only [List.cons_append, numberDigits?, numberRest_append hstop,
      takeWhile_append_stop hstop.not_isDigit, dropWhile_append_stop hstop.not_isDigit]
    split_ifs <;> rfl

theorem afterWord_append {word : String} (hword : word.toList.any isStop = false)
    (cs : List Char) :
    afterWord? word (cs ++ rest) = (afterWord? word cs).map (· ++ rest) := by
  have hbegin : word.toList.isPrefixOf (cs ++ rest) = word.toList.isPrefixOf cs := by
    generalize word.toList = w at hword
    induction w generalizing cs with
    | nil => simp
    | cons d w ih =>
      rw [List.any_cons, Bool.or_eq_false_iff] at hword
      match cs with
      | [] =>
        cases rest with
        | nil => rfl
        | cons c rest =>
          have hne : c ≠ d := hstop.head_ne hword.1 c rfl
          simp [List.isPrefixOf, hne.symm]
      | c :: cs =>
        rw [List.cons_append, List.isPrefixOf, List.isPrefixOf, ih cs hword.2]
  rw [afterWord?, afterWord?, hbegin]
  split
  · next h =>
    have hlength : word.length ≤ cs.length := by
      rw [← String.length_toList]
      exact (List.isPrefixOf_iff_prefix.mp h).length_le
    rw [List.drop_append_of_le_length hlength, Option.map_some]
  · rfl

theorem word_append (cs : List Char) :
    word? (cs ++ rest) = (word? cs).map fun found => (found.1, found.2 ++ rest) := by
  have hnamed (word : String) (hword : word.toList.any isStop = false) :=
    afterWord_append hstop hword cs
  simp only [word?, hnamed "null" (by decide), hnamed "true" (by decide),
    hnamed "false" (by decide), hnamed "NaN" (by decide), hnamed "Infinity" (by decide),
    hnamed "-Infinity" (by decide), Option.orElse_eq_orElse, Option.orElse_eq_or, Option.map_or,
    Option.map_map, Function.comp_def]

theorem number_append (cs : List Char) :
    number? (cs ++ rest) = (number? cs).map (Reading.followedBy rest) := by
  match cs with
  | [] =>
    have hminus : ∀ tail, rest ≠ '-' :: tail := by
      rintro tail rfl
      exact hstop.head_ne (d := '-') (by decide) '-' rfl rfl
    rw [List.nil_append, number?_unsigned hminus, number?_unsigned (by simp)]
    exact numberDigits_append hstop false []
  | c :: cs =>
    by_cases hminus : c = '-'
    · subst hminus
      exact numberDigits_append hstop true cs
    · rw [List.cons_append, number?_unsigned (by simp [hminus]),
        number?_unsigned (by simp [hminus])]
      exact numberDigits_append hstop false (c :: cs)

theorem scalar_append {cs left : List Char} {j : Json} (h : scalar cs = .ok (j, left)) :
    scalar (cs ++ rest) = .ok (j, left ++ rest) := by
  rw [scalar_eq] at h ⊢
  rw [word_append hstop, number_append hstop]
  cases hword : word? cs with
  | some found =>
    obtain rfl : found = (j, left) := by simpa [hword] using h
    rfl
  | none =>
    rw [hword] at h
    cases hnumber : number? cs with
    | none =>
      rw [hnumber] at h
      cases h
    | some reading =>
      obtain rfl : reading = .ok (j, left) := by simpa [hnumber] using h
      rfl

end

theorem fractionPart_suffix {cs ds left : List Char} (h : fractionPart? cs = some (ds, left)) :
    left <:+ cs := by
  match cs with
  | [] => cases h
  | c :: cs =>
    by_cases hpoint : c = '.'
    · subst hpoint
      simp only [fractionPart?, Option.ite_none_left_eq_some, Option.some.injEq,
        Prod.mk.injEq] at h
      obtain ⟨-, -, rfl⟩ := h
      exact (List.dropWhile_suffix isDigit).trans (List.suffix_cons '.' cs)
    · simp [fractionPart?, hpoint] at h

theorem splitSign_suffix (cs : List Char) : (Numeral.splitSign cs).2 <:+ cs := by
  unfold Numeral.splitSign
  split
  · exact List.suffix_cons ..
  · exact List.suffix_cons ..
  · exact List.suffix_rfl

theorem exponentPart_suffix {cs left : List Char} {n : Int}
    (h : exponentPart? cs = some (n, left)) : left <:+ cs := by
  match cs with
  | [] => cases h
  | e :: cs =>
    simp only [exponentPart_cons, Option.ite_none_left_eq_some, Option.some.injEq,
      Prod.mk.injEq] at h
    obtain ⟨-, -, -, rfl⟩ := h
    exact ((List.dropWhile_suffix isDigit).trans (splitSign_suffix cs)).trans
      (List.suffix_cons e cs)

theorem numberRest_suffix {negative : Bool} {whole cs left : List Char} {j : Json}
    (h : numberRest negative whole cs = .ok (j, left)) : left <:+ cs := by
  have hfraction : ((fractionPart? cs).getD ([], cs)).2 <:+ cs := by
    cases hpart : fractionPart? cs with
    | none => exact List.suffix_rfl
    | some found => exact fractionPart_suffix hpart
  simp only [numberRest] at h
  generalize (fractionPart? cs).getD ([], cs) = parts at h hfraction
  cases hexponent : exponentPart? parts.2 with
  | some found =>
    simp only [hexponent, Except.ok.injEq, Prod.mk.injEq] at h
    exact h.2 ▸ (exponentPart_suffix hexponent).trans hfraction
  | none =>
    simp only [hexponent] at h
    split_ifs at h
    all_goals
      simp only [Except.ok.injEq, Prod.mk.injEq] at h
      exact h.2 ▸ hfraction

theorem numberDigits_suffix {negative : Bool} {cs left : List Char} {j : Json}
    (h : numberDigits? negative cs = some (.ok (j, left))) : left <:+ cs := by
  match cs with
  | [] => cases h
  | c :: cs =>
    simp only [numberDigits?] at h
    split_ifs at h
    · exact (numberRest_suffix (Option.some.inj h)).trans (List.suffix_cons c cs)
    · exact ((numberRest_suffix (Option.some.inj h)).trans (List.dropWhile_suffix isDigit)).trans
        (List.suffix_cons c cs)

theorem number_suffix {cs left : List Char} {j : Json}
    (h : number? cs = some (.ok (j, left))) : left <:+ cs := by
  unfold number? at h
  split at h
  · exact (numberDigits_suffix h).trans (List.suffix_cons ..)
  · exact numberDigits_suffix h

theorem word_suffix {cs left : List Char} {j : Json} (h : word? cs = some (j, left)) :
    left <:+ cs := by
  have hafter {word : String} {rest : List Char} (h : afterWord? word cs = some rest) :
      rest <:+ cs := by
    simp only [afterWord?, Option.ite_none_right_eq_some, Option.some.injEq] at h
    exact h.2 ▸ List.drop_suffix ..
  simp only [word?, Option.orElse_eq_orElse, Option.orElse_eq_or, Option.or_eq_some_iff,
    Option.map_eq_some_iff, Prod.mk.injEq] at h
  rcases h with ⟨rest, hrest, -, rfl⟩ | ⟨-, ⟨rest, hrest, -, rfl⟩ | ⟨-, ⟨rest, hrest, -, rfl⟩ |
    ⟨-, ⟨rest, hrest, -, rfl⟩ | ⟨-, ⟨rest, hrest, -, rfl⟩ | ⟨-, rest, hrest, -, rfl⟩⟩⟩⟩⟩
  all_goals exact hafter hrest

theorem scalar_suffix {cs left : List Char} {j : Json} (h : scalar cs = .ok (j, left)) :
    left <:+ cs := by
  rw [scalar_eq] at h
  cases hword : word? cs with
  | some found =>
    obtain rfl : found = (j, left) := by simpa [hword] using h
    exact word_suffix hword
  | none =>
    rw [hword] at h
    cases hnumber : number? cs with
    | none =>
      rw [hnumber] at h
      cases h
    | some reading =>
      obtain rfl : reading = .ok (j, left) := by simpa [hnumber] using h
      exact number_suffix hnumber

theorem digitsValue_toDigits (n : Nat) : digitsValue (Nat.toDigits 10 n) = n := by
  have hvalue : digitsValue (Nat.toDigits 10 n) = Nat.ofDigitChars 10 (Nat.toDigits 10 n) 0 := by
    simp only [digitsValue, Nat.ofDigitChars, Nat.mul_comm 10]
    rfl
  rw [hvalue, Nat.ofDigitChars_toDigits (by decide) (by decide)]

theorem isDigit_toDigits (n : Nat) : ∀ c ∈ Nat.toDigits 10 n, isDigit c = true :=
  fun _ hc => Nat.isDigit_of_mem_toDigits (by decide) (by decide) hc

theorem head_toDigits_ne {n : Nat} (h : 0 < n) : (Nat.toDigits 10 n).head? ≠ some '0' := by
  induction n using Nat.strongRecOn with
  | ind n ih =>
    rw [Nat.toDigits_eq_if (by decide)]
    split
    · next hsmall =>
      have hdigits : ∀ d < 10, 0 < d → d.digitChar ≠ '0' := by decide
      simpa using hdigits n hsmall h
    · next hlarge =>
      have hfront := ih (n / 10) (by omega) (by omega)
      cases hdigits : Nat.toDigits 10 (n / 10) with
      | nil => exact absurd hdigits Nat.toDigits_ne_nil
      | cons c ds =>
        rw [hdigits] at hfront
        exact hfront

/-- A number is read from its digits, which do not begin with a zero unless it is zero. -/
theorem numberDigits_toDigits (negative : Bool) {n : Nat}
    (h : (Nat.toDigits 10 n).length ≤ Numeral.maxDigits) :
    numberDigits? negative (Nat.toDigits 10 n) =
      some (.ok (.int (if negative then -(n : Int) else n), [])) := by
  have hrest : numberRest negative (Nat.toDigits 10 n) [] =
      .ok (.int (if negative then -(n : Int) else n), []) := by
    simp [numberRest, fractionPart?, exponentPart?, Nat.not_lt.mpr h, digitsValue_toDigits]
  rcases Nat.eq_zero_or_pos n with rfl | hpos
  · exact congrArg some hrest
  · cases hdigits : Nat.toDigits 10 n with
    | nil => exact absurd hdigits Nat.toDigits_ne_nil
    | cons c ds =>
      have hall : ∀ d ∈ c :: ds, isDigit d = true := hdigits ▸ isDigit_toDigits n
      have hzero : c ≠ '0' := by
        rintro rfl
        exact head_toDigits_ne hpos (hdigits ▸ rfl)
      have htake : ds.takeWhile isDigit = ds :=
        List.takeWhile_eq_self_iff.mpr fun d hd => hall d (List.mem_cons_of_mem c hd)
      have hdrop : ds.dropWhile isDigit = [] :=
        List.dropWhile_eq_nil_iff.mpr fun d hd => hall d (List.mem_cons_of_mem c hd)
      rw [hdigits] at hrest
      simp [numberDigits?, hzero, hall c List.mem_cons_self, htake, hdrop, hrest]

theorem word_digit {c : Char} (hc : isDigit c = true) (cs : List Char) :
    word? (c :: cs) = none ∧ word? ('-' :: c :: cs) = none := by
  have hne : ∀ d, isDigit d = false → d ≠ c := by
    rintro d hd rfl
    rw [hc] at hd
    cases hd
  constructor <;>
  simp [word?, afterWord?, hne 'n' (by decide), hne 't' (by decide), hne 'f' (by decide),
    hne 'N' (by decide), hne 'I' (by decide), hne '-' (by decide)]

theorem toList_ofNat (n : Nat) : (toString (Int.ofNat n)).toList = Nat.toDigits 10 n :=
  Nat.toList_repr

theorem toList_negSucc (n : Nat) :
    (toString (Int.negSucc n)).toList = '-' :: Nat.toDigits 10 (n + 1) := by
  change ("-" ++ (n + 1).repr).toList = _
  rw [String.toList_append, Nat.toList_repr]
  rfl

theorem scalar_toString {n : Int} (h : Numeral.isLong n = false) :
    scalar (toString n).toList = .ok (.int n, []) := by
  have hlength : (Nat.toDigits 10 n.natAbs).length ≤ Numeral.maxDigits := by
    simpa [Numeral.isLong] using h
  cases n with
  | ofNat m =>
    cases hdigits : Nat.toDigits 10 m with
    | nil => exact absurd hdigits Nat.toDigits_ne_nil
    | cons c ds =>
      have hc : isDigit c = true := isDigit_toDigits m c (hdigits ▸ List.mem_cons_self)
      have hminus : ∀ rest, c :: ds ≠ '-' :: rest := by
        rintro rest hcons
        rw [(List.cons.inj hcons).1] at hc
        exact absurd hc (by decide)
      have hread : numberDigits? false (Nat.toDigits 10 m) = some (.ok (.int m, [])) :=
        numberDigits_toDigits false hlength
      rw [hdigits] at hread
      rw [toList_ofNat, hdigits, scalar_eq, (word_digit hc ds).1, number?_unsigned hminus, hread]
      rfl
  | negSucc m =>
    have hread : number? ('-' :: Nat.toDigits 10 (m + 1)) = some (.ok (.int (Int.negSucc m), [])) :=
      numberDigits_toDigits true hlength
    cases hdigits : Nat.toDigits 10 (m + 1) with
    | nil => exact absurd hdigits Nat.toDigits_ne_nil
    | cons c ds =>
      have hc : isDigit c = true := isDigit_toDigits (m + 1) c (hdigits ▸ List.mem_cons_self)
      rw [hdigits] at hread
      rw [toList_negSucc, hdigits, scalar_eq, (word_digit hc ds).2, hread]
      rfl

/-- The characters that texts of numbers are made of. -/
def isNumeric (c : Char) : Bool := isDigit c || "+-.eInfinityNaN".toList.contains c

theorem ne_of_isNumeric {c d : Char} (hc : isNumeric c = true) (hd : isNumeric d = false) :
    c ≠ d := by
  rintro rfl
  rw [hc] at hd
  cases hd

theorem not_isSpace_of_isNumeric {c : Char} (h : isNumeric c = true) : isSpace c = false := by
  simp [isSpace, ne_of_isNumeric h (d := ' ') (by decide), ne_of_isNumeric h (d := '\t') (by decide),
    ne_of_isNumeric h (d := '\n') (by decide), ne_of_isNumeric h (d := '\r') (by decide)]

theorem isNumeric_of_isDigit {c : Char} (h : isDigit c = true) : isNumeric c = true := by
  rw [isNumeric, h, Bool.true_or]

theorem isNumeric_toDigits (n : Nat) : ∀ c ∈ Nat.toDigits 10 n, isNumeric c = true :=
  fun c hc => isNumeric_of_isDigit (isDigit_toDigits n c hc)

theorem isNumeric_toString (n : Int) : ∀ c ∈ (toString n).toList, isNumeric c = true := by
  cases n with
  | ofNat m =>
    rw [toList_ofNat]
    exact isNumeric_toDigits m
  | negSucc m =>
    rw [toList_negSucc]
    exact List.forall_mem_cons.mpr ⟨by decide, isNumeric_toDigits (m + 1)⟩

theorem isNumeric_positional (d : Binary64.Decimal) :
    ∀ c ∈ (d.positional true).toList, isNumeric c = true := by
  have hzeros (n : Nat) : ∀ c ∈ List.replicate n '0', isNumeric c = true := by
    intro c hc
    rw [List.eq_of_mem_replicate hc]
    decide
  have hdigits := isNumeric_toDigits d.digits
  simp only [Binary64.Decimal.positional, if_true]
  split_ifs
  all_goals
    simp only [String.toList_append, String.toList_ofList, List.forall_mem_append]
  · exact ⟨List.all_eq_true.mp (by decide), hzeros _, hdigits⟩
  · exact ⟨⟨hdigits, hzeros _⟩, List.all_eq_true.mp (by decide)⟩
  · exact ⟨⟨fun c hc => hdigits c (List.mem_of_mem_take hc), List.all_eq_true.mp (by decide)⟩,
      fun c hc => hdigits c (List.mem_of_mem_drop hc)⟩

theorem isNumeric_exponent (e : Int) :
    ∀ c ∈ (Binary64.exponentText e).toList, isNumeric c = true := by
  have hdigits : ∀ c ∈ (toString e.natAbs).toList, isNumeric c = true := isNumeric_toString e.natAbs
  simp only [Binary64.exponentText]
  split_ifs
  all_goals
    simp only [String.toList_append, List.forall_mem_append]
  · exact ⟨List.all_eq_true.mp (by decide), List.all_eq_true.mp (by decide), hdigits⟩
  · exact ⟨List.all_eq_true.mp (by decide), hdigits⟩
  · exact ⟨List.all_eq_true.mp (by decide), List.all_eq_true.mp (by decide), hdigits⟩
  · exact ⟨List.all_eq_true.mp (by decide), hdigits⟩

theorem isNumeric_scientific (d : Binary64.Decimal) :
    ∀ c ∈ d.scientific.toList, isNumeric c = true := by
  have hdigits := isNumeric_toDigits d.digits
  have hfirst : ∀ c ∈ (Nat.toDigits 10 d.digits).take 1, isNumeric c = true :=
    fun c hc => hdigits c (List.mem_of_mem_take hc)
  have htail : ∀ c ∈ (Nat.toDigits 10 d.digits).drop 1, isNumeric c = true :=
    fun c hc => hdigits c (List.mem_of_mem_drop hc)
  have hexponent := isNumeric_exponent (d.point - 1)
  simp only [Binary64.Decimal.scientific]
  split_ifs
  all_goals
    simp only [String.toList_append, String.toList_ofList, List.forall_mem_append]
  · exact ⟨⟨hfirst, List.all_eq_true.mp (by decide)⟩, hexponent⟩
  · exact ⟨⟨hfirst, List.all_eq_true.mp (by decide), htail⟩, hexponent⟩

theorem isNumeric_text (x : Binary64) : ∀ c ∈ (x.text numberLayout).toList, isNumeric c = true := by
  simp only [Binary64.text, numberLayout]
  cases x.value with
  | nan => exact List.all_eq_true.mp (by decide)
  | infinite negative => cases negative <;> exact List.all_eq_true.mp (by decide)
  | finite negative mantissa exponent =>
    have hsign : ∀ c ∈ (if negative = true then "-" else "").toList, isNumeric c = true := by
      cases negative <;> exact List.all_eq_true.mp (by decide)
    have hbody (d : Binary64.Decimal) (fits : Bool) :
        ∀ c ∈ (if fits then d.positional true else d.scientific).toList, isNumeric c = true := by
      cases fits
      · exact isNumeric_scientific d
      · exact isNumeric_positional d
    simp only [if_true]
    by_cases hzero : mantissa = 0
    · rw [if_pos hzero, String.toList_append]
      exact List.forall_mem_append.mpr ⟨hsign, List.all_eq_true.mp (by decide)⟩
    · rw [if_neg hzero, String.toList_append]
      exact List.forall_mem_append.mpr ⟨hsign, hbody _ _⟩

end ReviewDiff.Json
