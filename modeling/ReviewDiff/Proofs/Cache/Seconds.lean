import Mathlib.Algebra.Order.Ring.Rat
import ReviewDiff.Cache.Seconds

/-!
# Comparing seconds

What is no number compares with nothing. Between numbers one side is at most the other, so a span
that does not reach a lifetime lies below it. The time between two finite times is a number, and
between a time and itself there is none or zero, which reaches no lifetime.
-/

set_option autoImplicit false

namespace ReviewDiff

namespace Binary64

theorem ofFields_toNat (negative : Bool) {field fraction : Nat} (hfield : field < 2048)
    (hfraction : fraction < Nat.pow 2 52) : (ofFields negative field fraction).bits.toNat =
      (if negative then Nat.pow 2 63 else 0) + field * Nat.pow 2 52 + fraction := by
  refine (UInt64.toNat_ofNat' ..).trans (Nat.mod_eq_of_lt ?_)
  simp only [Nat.pow_eq, Nat.reducePow] at *
  split <;> omega

theorem ofFields_fields (negative : Bool) {field fraction : Nat} (hfield : field < 2048)
    (hfraction : fraction < Nat.pow 2 52) :
    (ofFields negative field fraction).field = field ∧
      (ofFields negative field fraction).fraction = fraction := by
  have hword := ofFields_toNat negative hfield hfraction
  simp only [Binary64.field, Binary64.fraction, hword, Nat.pow_eq, Nat.reducePow] at *
  constructor <;> split <;> omega

theorem ofFields_isNegative (negative : Bool) {field fraction : Nat} (hfield : field < 2048)
    (hfraction : fraction < Nat.pow 2 52) :
    (ofFields negative field fraction).isNegative = negative := by
  rw [isNegative, ofFields_toNat negative hfield hfraction]
  simp only [Nat.pow_eq, Nat.reducePow] at *
  cases negative <;> simp <;> omega

variable {x y : Binary64}

theorem value_finite (h : x.isFinite = true) :
    ∃ negative mantissa exponent, x.value = .finite negative mantissa exponent := by
  have hfield : x.field ≠ 2047 := by simpa [isFinite] using h
  rw [value, if_neg hfield]
  split
  · exact ⟨_, _, _, rfl⟩
  · exact ⟨_, _, _, rfl⟩

theorem value_nan : x.value = .nan ↔ x.isNan = true := by
  rw [value, isNan]
  split <;> rename_i hfield
  · split <;> rename_i hfraction <;> simp [hfield, hfraction]
  · split <;> simp [hfield]

theorem isNan_of_finite (h : x.isFinite = true) : x.isNan = false := by
  rw [isFinite, bne_iff_ne] at h
  simp [isNan, h]

theorem isNan_of_fraction (h : x.fraction = 0) : x.isNan = false := by
  simp [isNan, h]

theorem infinity_isNan (negative : Bool) : (infinity negative).isNan = false :=
  isNan_of_fraction (ofFields_fields negative (by decide) (by decide)).2

theorem ofRatio_isNan (negative : Bool) (num den : Nat) :
    (ofRatio negative num den).isNan = false := by
  rw [ofRatio]
  split
  · exact isNan_of_fraction (ofFields_fields negative (by decide) (by decide)).2
  · dsimp only
    split
    · exact infinity_isNan negative
    · rename_i hword
      have hfield := (Nat.div_lt_iff_lt_mul (by decide : 0 < Nat.pow 2 52)).mpr (not_le.mp hword)
      refine isNan_of_finite ?_
      rw [isFinite, (ofFields_fields negative (by omega) (Nat.mod_lt _ (by decide))).1]
      exact bne_iff_ne.mpr (Nat.ne_of_lt hfield)

theorem negate_isFinite (h : x.isFinite = true) : x.negate.isFinite = true := by
  obtain ⟨negative, mantissa, exponent, hvalue⟩ := value_finite h
  have hnegate : x.negate = ofFields (!negative) x.field x.fraction := by
    rw [negate, hvalue]
  have hfield : x.field < 2048 := Nat.mod_lt _ (by decide)
  have hfraction : x.fraction < Nat.pow 2 52 := Nat.mod_lt _ (by decide)
  rw [isFinite] at h ⊢
  rwa [hnegate, (ofFields_fields _ hfield hfraction).1]

theorem negate_isNan (h : x.isNan = false) : x.negate.isNan = false := by
  cases hvalue : x.value with
  | nan =>
    rw [value_nan.mp hvalue] at h
    cases h
  | infinite negative =>
    rw [negate, hvalue]
    exact infinity_isNan _
  | finite negative mantissa exponent =>
    refine isNan_of_finite (negate_isFinite ?_)
    rw [isFinite, bne_iff_ne]
    intro hfield
    rw [value, if_pos hfield] at hvalue
    split at hvalue <;> cases hvalue

theorem add_isNan (hx : x.isNan = false) (hy : y.isNan = false)
    (hfinite : x.isFinite = true ∨ y.isFinite = true) : (x.add y).isNan = false := by
  have hnot {z : Binary64} (hz : z.isNan = false) : z.value ≠ .nan := fun h => by
    rw [value_nan.mp h] at hz
    cases hz
  have hnotboth (a b : Bool) : ¬ (x.value = .infinite a ∧ y.value = .infinite b) := by
    rintro ⟨hinfx, hinfy⟩
    obtain h | h := hfinite <;> obtain ⟨_, _, _, hvalue⟩ := value_finite h
    · cases hvalue.symm.trans hinfx
    · cases hvalue.symm.trans hinfy
  rw [add]
  cases hxv : x.value with
  | nan => exact absurd hxv (hnot hx)
  | infinite a =>
    cases hyv : y.value with
    | nan => exact absurd hyv (hnot hy)
    | infinite b => exact absurd ⟨hxv, hyv⟩ (hnotboth a b)
    | finite b n f => exact infinity_isNan _
  | finite a m e =>
    cases hyv : y.value with
    | nan => exact absurd hyv (hnot hy)
    | infinite b => exact infinity_isNan _
    | finite b n f =>
      dsimp only
      rw [ofScaled]
      exact ofRatio_isNan ..

theorem negate_value {negative : Bool} {mantissa : Nat} {exponent : Int}
    (h : x.value = .finite negative mantissa exponent) :
    x.negate.value = .finite (!negative) mantissa exponent := by
  have hnegate : x.negate = ofFields (!negative) x.field x.fraction := by
    rw [negate, h]
  have hfield : x.field < 2048 := Nat.mod_lt _ (by decide)
  have hfraction : x.fraction < Nat.pow 2 52 := Nat.mod_lt _ (by decide)
  obtain ⟨hfields, hfractions⟩ := ofFields_fields (!negative) hfield hfraction
  rw [hnegate, value, hfields, hfractions, ofFields_isNegative _ hfield hfraction]
  rw [value] at h
  split at h
  · split at h <;> cases h
  · rename_i hnot
    rw [if_neg hnot]
    split at h
    · rename_i hzero
      rw [if_pos hzero]
      cases h
      rfl
    · rename_i hnonzero
      rw [if_neg hnonzero]
      cases h
      rfl

theorem ofScaled_zero (exponent : Int) : ofScaled 0 exponent = zero false := by
  have hnum : (scaleRatio (Int.natAbs 0) 1 exponent).1 = 0 := by
    rw [scaleRatio]
    split <;> simp
  change ofRatio (decide ((0 : Int) < 0)) (scaleRatio (Int.natAbs 0) 1 exponent).1 _ = _
  rw [hnum]
  rfl

theorem sub_self (x : Binary64) : x.sub x = zero false ∨ x.sub x = nan := by
  rw [sub, add]
  cases hvalue : x.value with
  | nan => exact .inr rfl
  | infinite negative =>
    right
    have hnegate : x.negate.value = .infinite (!negative) := by
      rw [negate, hvalue]
      change (infinity (!negative)).value = _
      cases negative <;> decide
    rw [hnegate]
    cases negative <;> rfl
  | finite negative mantissa exponent =>
    left
    rw [negate_value hvalue]
    have hsum : lowered negative mantissa (exponent - min exponent exponent) +
        lowered (!negative) mantissa (exponent - min exponent exponent) = 0 := by
      cases negative <;> simp [lowered]
    simp only [hsum]
    exact ofScaled_zero _

theorem zero_toRat? : (zero false).toRat? = some 0 := by
  have hvalue : (zero false).value = .finite false 0 (-1074) := by decide
  rw [toRat?, hvalue]
  simp [scaleRatio, -Nat.pow_eq]

end Binary64

namespace Seconds

/-- Whether it is a number at all, if an infinite one. -/
def isNumber : Seconds → Bool
  | .whole _ => true
  | .double x => !x.isNan

def isFinite : Seconds → Bool
  | .whole _ => true
  | .double x => x.isFinite

/-- Whether one number lies below another one. -/
def lt (a b : Seconds) : Bool := a.le b && !b.le a

variable {a b : Seconds}

theorem number_cases (h : a.isNumber = true) :
    (∃ q, a.value? = some q) ∨ a.value? = none ∧ ∃ low, a.infinite? = some low := by
  cases a with
  | whole n => exact .inl ⟨n, rfl⟩
  | double x =>
    rw [value?, Binary64.toRat?, infinite?]
    cases hvalue : x.value with
    | nan =>
      rw [isNumber, Binary64.value_nan.mp hvalue] at h
      cases h
    | infinite low => exact .inr ⟨rfl, low, rfl⟩
    | finite negative mantissa exponent => exact .inl ⟨_, rfl⟩

theorem le_or_le (ha : a.isNumber = true) (hb : b.isNumber = true) :
    a.le b = true ∨ b.le a = true := by
  rw [le, le]
  obtain ⟨q, hq⟩ | ⟨hq, low, hlow⟩ := number_cases ha <;>
    obtain ⟨r, hr⟩ | ⟨hr, low', hlow'⟩ := number_cases hb
  · simp only [hq, hr, decide_eq_true_eq]
    exact le_total q r
  · cases low' <;> simp [hq, hr, hlow']
  · cases low <;> simp [hq, hr, hlow]
  · cases low <;> cases low' <;> simp [hq, hr, hlow, hlow']

theorem lt_of_not_le (ha : a.isNumber = true) (hb : b.isNumber = true) (h : b.le a = false) :
    a.lt b = true := by
  obtain hle | hle := le_or_le ha hb
  · rw [lt, hle, h]
    rfl
  · rw [h] at hle
    cases hle

theorem toDouble_isNan (h : a.isNumber = true) : a.toDouble.isNan = false := by
  cases a with
  | whole n => exact Binary64.ofRatio_isNan ..
  | double x => simpa [isNumber, toDouble] using h

theorem sub_isNumber (ha : a.isFinite = true) (hb : b.isFinite = true) :
    (a.sub b).isNumber = true := by
  have hnumber {c : Seconds} (hc : c.isFinite = true) : c.isNumber = true := by
    cases c with
    | whole n => rfl
    | double x => rw [isNumber, Binary64.isNan_of_finite hc]; rfl
  have hdouble {x y : Binary64} (hx : x.isNan = false) (hy : y.isNan = false)
      (h : x.isFinite = true ∨ y.isFinite = true) :
      (Seconds.double (x.sub y)).isNumber = true := by
    rw [isNumber, Binary64.sub, Binary64.add_isNan hx (Binary64.negate_isNan hy)
      (h.imp_right Binary64.negate_isFinite)]
    rfl
  have hx := toDouble_isNan (hnumber ha)
  have hy := toDouble_isNan (hnumber hb)
  cases a with
  | whole m =>
    cases b with
    | whole n => rfl
    | double y => exact hdouble hx hy (.inr hb)
  | double x => exact hdouble hx hy (.inl ha)

/-- What is more than zero is more than the time between a time and itself. -/
theorem sub_self_lt (h : a.le (.whole 0) = false) (time : Seconds) :
    a.le (time.sub time) = false := by
  cases time with
  | whole n =>
    have hzero : (Seconds.whole n).sub (.whole n) = .whole 0 :=
      congrArg Seconds.whole (Int.sub_self n)
    rw [hzero, h]
  | double x =>
    have hsub : (Seconds.double x).sub (.double x) = .double (x.sub x) := rfl
    rw [hsub]
    obtain hzero | hnan := Binary64.sub_self x
    · rw [hzero]
      have hvalue : (Seconds.double (Binary64.zero false)).value? = (Seconds.whole 0).value? :=
        Binary64.zero_toRat?
      rw [le, hvalue]
      exact h
    · rw [hnan, le]
      have hvalue : (Seconds.double Binary64.nan).value? = none := by decide
      have hinfinite : (Seconds.double Binary64.nan).infinite? = none := by decide
      rw [hvalue, hinfinite]
      cases a.value? <;> cases a.infinite? <;> rfl

end Seconds

end ReviewDiff
