import Mathlib
/-!
# Powers of two bound floats

Rounding never passes a power of two, which is a float itself. So bounds by powers of two are as
good for floats as for exact numbers: the sum of two floats up to `2 ^ k` is one up to twice that
power, and products and quotients add and subtract exponents, without a thought for rounding errors.
In particular a whole number of at most 64 bits is a finite float (`isFinite_ofInt`).
-/

namespace NodeCanvas

open Float.Model (UnpackedFloat Format)
open Float.Model.UnpackedFloat (ExtendedMantissa Accuracy Sign)

namespace Rounding

variable {em : ExtendedMantissa} {n mantissa m : Nat} {k l e : Int} {u v : UnpackedFloat}

/-! ## A mantissa and what was cut off it -/

theorem roundedMantissa_le (em : ExtendedMantissa) : em.roundedMantissa ≤ em.mantissa + 1 := by
  obtain ⟨mantissa, roundBit, stickyBit⟩ := em
  cases roundBit <;> cases stickyBit <;>
    simp only [ExtendedMantissa.roundedMantissa, ExtendedMantissa.accuracy,
      Accuracy.roundToNearestEven] <;> omega

theorem mantissa_ofMantissaAndAccuracy (mantissa : Nat) (accuracy : Accuracy) :
    (ExtendedMantissa.ofMantissaAndAccuracy mantissa accuracy).mantissa = mantissa := by
  cases accuracy with
  | exact => rfl
  | inexact o => cases o <;> rfl

/-- The exact value that a mantissa and its residual bits stand for is at most a whole number. -/
def ExactLe (em : ExtendedMantissa) (n : Nat) : Prop :=
  em.mantissa < n ∨ em.mantissa = n ∧ em.roundBit = false ∧ em.stickyBit = false

theorem ExactLe.mantissa_le (h : ExactLe em n) : em.mantissa ≤ n := by
  obtain hlt | ⟨heq, -⟩ := h
  · exact hlt.le
  · exact heq.le

theorem ExactLe.shiftRightOne (h : ExactLe em (2 * n)) : ExactLe em.shiftRightOne n := by
  obtain hlt | ⟨heq, hround, hsticky⟩ := h
  · exact .inl (Nat.div_lt_of_lt_mul hlt)
  · refine .inr ⟨?_, ?_, ?_⟩
    · change em.mantissa / 2 = n
      omega
    · change (em.mantissa % 2 != 0) = false
      rw [heq, Nat.mul_mod_right]
      rfl
    · change (em.roundBit || em.stickyBit) = false
      rw [hround, hsticky]
      rfl

theorem ExactLe.shiftRight {s : Nat} (h : ExactLe em (2 ^ s * n)) : ExactLe (em >>> s) n := by
  change ExactLe (s.repeat ExtendedMantissa.shiftRightOne em) n
  induction s generalizing n with
  | zero => rwa [pow_zero, one_mul] at h
  | succ s ih =>
    rw [pow_succ, mul_assoc] at h
    exact (ih h).shiftRightOne

/-- A value that is no more than a whole number is not rounded up past it. -/
theorem ExactLe.roundedMantissa_le (h : ExactLe em n) : em.roundedMantissa ≤ n := by
  obtain hlt | ⟨heq, hround, hsticky⟩ := h
  · exact (Rounding.roundedMantissa_le em).trans hlt
  · obtain ⟨mantissa, roundBit, stickyBit⟩ := em
    subst hround hsticky
    exact heq.le

theorem exactLe_of_le (h : mantissa ≤ n) : ExactLe (.ofMantissaAndAccuracy mantissa .exact) n := by
  obtain hlt | heq := h.lt_or_eq
  · exact .inl hlt
  · exact .inr ⟨heq, rfl, rfl⟩

/-- The quotient of two numbers, of which the first is not too large. -/
theorem exactLe_div {a b : Nat} (hb : 0 < b) (h : a ≤ b * n) :
    ExactLe (.ofMantissaAndAccuracy (a / b) (UnpackedFloat.accuracyOfFraction (a % b) b)) n := by
  obtain hlt | heq := h.lt_or_eq
  · refine .inl ?_
    rw [mantissa_ofMantissaAndAccuracy]
    exact Nat.div_lt_of_lt_mul hlt
  · subst heq
    rw [Nat.mul_mod_right, Nat.mul_div_cancel_left n hb]
    exact exactLe_of_le le_rfl

/-! ## Floats up to a power of two, and from one on -/

/-- Zero, or a positive float of at most `2 ^ k`. -/
def UpTo (k : Int) : UnpackedFloat → Prop
  | .zero _ => True
  | .finite s m e _ => s = .positive ∧ e ≤ k ∧ m ≤ 2 ^ (k - e).toNat
  | .infinity _ | .notANumber => False

/-- A positive float of at least `2 ^ k`. -/
def AtLeast (k : Int) : UnpackedFloat → Prop
  | .finite s m e _ => s = .positive ∧ 2 ^ (k - e).toNat ≤ m
  | .zero _ | .infinity _ | .notANumber => False

theorem UpTo.zero_or_finite (h : UpTo k u) :
    (∃ s, u = .zero s) ∨ ∃ m e, ∃ hm : 0 < m, u = .finite .positive m e hm ∧ e ≤ k ∧
      m ≤ 2 ^ (k - e).toNat := by
  cases u with
  | notANumber => exact h.elim
  | infinity s => exact h.elim
  | zero s => exact .inl ⟨s, rfl⟩
  | finite s m e hm =>
    obtain ⟨rfl, he, hbound⟩ := h
    exact .inr ⟨m, e, hm, rfl, he, hbound⟩

theorem AtLeast.exists_finite (h : AtLeast k u) :
    ∃ m e, ∃ hm : 0 < m, u = .finite .positive m e hm ∧ 2 ^ (k - e).toNat ≤ m := by
  cases u with
  | notANumber => exact h.elim
  | infinity s => exact h.elim
  | zero s => exact h.elim
  | finite s m e hm =>
    obtain ⟨rfl, hbound⟩ := h
    exact ⟨m, e, hm, rfl, hbound⟩

theorem UpTo.mono (h : UpTo k u) (hle : k ≤ l) : UpTo l u := by
  obtain ⟨s, rfl⟩ | ⟨m, e, hm, rfl, he, hbound⟩ := h.zero_or_finite
  · trivial
  · exact ⟨rfl, he.trans hle, hbound.trans (Nat.pow_le_pow_right two_pos (by omega))⟩

theorem log2_le_of_le_pow (h : m ≤ 2 ^ n) : m.log2 ≤ n := by
  by_cases hzero : m = 0
  · subst hzero
    exact Nat.zero_le n
  · have hlt : m < 2 ^ (n + 1) := h.trans_lt (Nat.pow_lt_pow_right one_lt_two (Nat.lt_succ_self n))
    exact Nat.lt_succ_iff.1 ((Nat.log2_lt hzero).2 hlt)

/-- Shifting to the exponent of the format keeps the bound. -/
theorem ExactLe.shiftToTargetExponent {accuracy : Accuracy}
    (h : ExactLe (.ofMantissaAndAccuracy mantissa accuracy) (2 ^ (k - e).toNat)) (he : e ≤ k)
    (hlow : -1074 ≤ k) :
    (UnpackedFloat.shiftToTargetExponent .binary64 mantissa e accuracy).2 ≤ k ∧
      ExactLe (UnpackedFloat.shiftToTargetExponent .binary64 mantissa e accuracy).1
        (2 ^ (k -
          (UnpackedFloat.shiftToTargetExponent .binary64 mantissa e accuracy).2).toNat) := by
  have hmantissa := h.mantissa_le
  rw [mantissa_ofMantissaAndAccuracy] at hmantissa
  have hlog := log2_le_of_le_pow hmantissa
  have hmin : Format.binary64.minExponent = -1074 := rfl
  have hbits : Format.binary64.mantissaBits = 53 := rfl
  simp only [UnpackedFloat.shiftToTargetExponent, UnpackedFloat.shiftToExponent,
    Format.targetExponent, Float.Model.totalExponent, hmin, hbits]
  -- The mantissa has at most `k - e` bits and one more, so the new exponent is `k` at the most.
  generalize hs : (max ((mantissa.log2 : Int) + 1 + e - (53 : Nat)) (-1074) - e).toNat = s
  have hroom : (s : Int) ≤ k - e := by omega
  refine ⟨by omega, ExactLe.shiftRight ?_⟩
  rwa [← pow_add, show s + (k - (e + s)).toNat = (k - e).toNat by omega]

theorem upTo_roundWithAccuracy {accuracy : Accuracy}
    (h : ExactLe (.ofMantissaAndAccuracy mantissa accuracy) (2 ^ (k - e).toNat)) (he : e ≤ k)
    (hlow : -1074 ≤ k) :
    UpTo k (UnpackedFloat.roundWithAccuracy .binary64 .positive mantissa e accuracy) := by
  obtain ⟨hfirst, hshifted⟩ := h.shiftToTargetExponent he hlow
  unfold UnpackedFloat.roundWithAccuracy
  generalize UnpackedFloat.shiftToTargetExponent .binary64 mantissa e accuracy = shifted
    at hfirst hshifted
  obtain ⟨em, e'⟩ := shifted
  obtain ⟨hlast, hfinal⟩ :=
    (exactLe_of_le hshifted.roundedMantissa_le).shiftToTargetExponent hfirst hlow
  dsimp only
  split
  · trivial
  · exact ⟨rfl, hlast, hfinal.mantissa_le⟩

theorem shiftLeft_le_pow {s : Nat} (he : e ≤ k) (h : m ≤ 2 ^ (k - e).toNat) :
    m <<< s ≤ 2 ^ (k - (e - s)).toNat := by
  rw [Nat.shiftLeft_eq, show (k - (e - s)).toNat = (k - e).toNat + s by omega, pow_add]
  exact Nat.mul_le_mul_right _ h

theorem upTo_round (he : e ≤ k) (h : m ≤ 2 ^ (k - e).toNat)
    (hlow : -1074 ≤ k) : UpTo k (UnpackedFloat.round .binary64 .positive m e) := by
  unfold UnpackedFloat.round UnpackedFloat.decreaseExponent
  exact upTo_roundWithAccuracy (exactLe_of_le (shiftLeft_le_pow he h)) (by omega) hlow

theorem upTo_normalize (he : e ≤ k) (h : m ≤ 2 ^ (k - e).toNat) (hlow : -1074 ≤ k) (zero : Sign) :
    UpTo k (UnpackedFloat.normalize .binary64 (m : Int) e zero) := by
  unfold UnpackedFloat.normalize
  split
  · rename_i hcompare
    rw [Int.compare_eq_lt] at hcompare
    omega
  · trivial
  · exact upTo_round he h hlow

/-! ## Operations -/

theorem UpTo.add (hu : UpTo k u) (hv : UpTo k v)
    (hlow : -1074 ≤ k) : UpTo (k + 1) (UnpackedFloat.add .binary64 u v) := by
  obtain ⟨s, rfl⟩ | ⟨m, e, hm, rfl, he, hmle⟩ := hu.zero_or_finite
  · obtain ⟨t, rfl⟩ | ⟨n, f, hn, rfl, -⟩ := hv.zero_or_finite
    · simp only [UnpackedFloat.add]
      split <;> trivial
    · exact hv.mono (by omega)
  · obtain ⟨t, rfl⟩ | ⟨n, f, hn, rfl, hf, hnle⟩ := hv.zero_or_finite
    · exact hu.mono (by omega)
    · have hleft := shiftLeft_le_pow (s := (e - min e f).toNat) he hmle
      have hright := shiftLeft_le_pow (s := (f - min e f).toNat) hf hnle
      rw [show (k - (e - (e - min e f).toNat)).toNat = (k - min e f).toNat by omega] at hleft
      rw [show (k - (f - (f - min e f).toNat)).toNat = (k - min e f).toNat by omega] at hright
      refine upTo_normalize (by omega) ?_ (by omega) .positive
      rw [show (k + 1 - min e f).toNat = (k - min e f).toNat + 1 by omega, pow_succ]
      omega

theorem UpTo.mul (hu : UpTo k u) (hv : UpTo l v)
    (hlow : -1074 ≤ k + l) : UpTo (k + l) (UnpackedFloat.mul .binary64 u v) := by
  obtain ⟨s, rfl⟩ | ⟨m, e, hm, rfl, he, hmle⟩ := hu.zero_or_finite
  · obtain ⟨t, rfl⟩ | ⟨n, f, hn, rfl, -⟩ := hv.zero_or_finite <;> trivial
  · obtain ⟨t, rfl⟩ | ⟨n, f, hn, rfl, hf, hnle⟩ := hv.zero_or_finite
    · trivial
    · refine upTo_roundWithAccuracy (exactLe_of_le ?_) (by omega) hlow
      rw [show (k + l - (e + f)).toNat = (k - e).toNat + (l - f).toNat by omega, pow_add]
      exact Nat.mul_le_mul hmle hnle

theorem UpTo.div (hu : UpTo k u) (hv : AtLeast l v)
    (hlow : -1074 ≤ k - l) : UpTo (k - l) (UnpackedFloat.div .binary64 u v) := by
  obtain ⟨n, f, hn, rfl, hleast⟩ := hv.exists_finite
  obtain ⟨s, rfl⟩ | ⟨m, e, hm, rfl, he, hbound⟩ := hu.zero_or_finite
  · trivial
  · have hmlog := log2_le_of_le_pow hbound
    have hnlog : (l - f).toNat ≤ n.log2 := (Nat.le_log2 hn.ne').2 hleast
    have hmin : Format.binary64.minExponent = -1074 := rfl
    have hbits : Format.binary64.mantissaBits = 53 := rfl
    simp only [UnpackedFloat.div, UnpackedFloat.divCore, Format.targetExponent,
      Float.Model.totalExponent, hmin, hbits]
    generalize htarget : min (e - f) (max ((m.log2 : Int) + 1 + e - ((n.log2 : Int) + 1 + f) -
      (53 : Nat)) (-1074)) = target
    generalize hshift : (e - f - target).toNat = s
    -- Either the exponents of the operands bound it, or the bits of their mantissas do.
    have hroom : target ≤ k - l := by omega
    refine upTo_roundWithAccuracy (exactLe_div hn ?_) hroom hlow
    calc m <<< s
      _ ≤ 2 ^ (k - (e - s)).toNat := shiftLeft_le_pow he hbound
      _ ≤ 2 ^ ((l - f).toNat + (k - l - target).toNat) :=
        Nat.pow_le_pow_right two_pos (by omega)
      _ = 2 ^ (l - f).toNat * 2 ^ (k - l - target).toNat := pow_add ..
      _ ≤ n * 2 ^ (k - l - target).toNat := Nat.mul_le_mul_right _ hleast

/-! ## Bits -/

theorem sign_packComponents (format : Format) (s : Sign) (exponent : BitVec format.exponentBits)
    (mantissa : BitVec format.mantissaBitsWithoutImplicit) :
    Sign.ofBitVec (UnpackedFloat.unpackSign
      (UnpackedFloat.packComponents format s exponent mantissa)) = s := by
  have hbit : UnpackedFloat.unpackSign
      (UnpackedFloat.packComponents format s exponent mantissa) = s.toBitVec := by
    apply BitVec.eq_of_getLsbD_eq
    intro i hi
    obtain rfl : i = 0 := by omega
    simp [UnpackedFloat.unpackSign, UnpackedFloat.packComponents, BitVec.getLsbD_append,
      BitVec.getElem_append]
  rw [hbit]
  cases s <;> rfl

theorem toNat_implicit (fraction : BitVec 52) :
    (1#1 ++ fraction).toNat = 2 ^ 52 + fraction.toNat := by
  rw [BitVec.toNat_append, ← Nat.shiftLeft_add_eq_or_of_lt fraction.isLt]
  rfl

/-- The form that the bits of a finite float have when they are unpacked: the highest bit of the
mantissa is set, unless the exponent is the least. -/
def IsCanonical : UnpackedFloat → Prop
  | .finite _ m e _ => m < 2 ^ 53 ∧ (2 ^ 52 ≤ m ∨ e = -1074)
  | .zero _ | .infinity _ | .notANumber => True

theorem isCanonical_unpack (b : BitVec Format.binary64.numBits) :
    IsCanonical (UnpackedFloat.unpack .binary64 b) := by
  have hbias : (Format.binary64.exponentBias : Int) = 1023 := rfl
  have hfraction : (UnpackedFloat.unpackMantissa b).toNat < 2 ^ 52 :=
    (UnpackedFloat.unpackMantissa b).isLt
  unfold UnpackedFloat.unpack
  simp only
  split
  · split <;> trivial
  · split
    · rename_i hzero
      split
      · trivial
      · refine ⟨by omega, .inr ?_⟩
        rw [hzero, hbias]
        rfl
    · rw [IsCanonical, toNat_implicit]
      exact ⟨by omega, .inl (by omega)⟩

/-- What has no exponent is small. -/
theorem upTo_unpack_subnormal (hlow : -1022 ≤ k) (mantissa : BitVec 52) :
    UpTo k (UnpackedFloat.unpack .binary64
      (UnpackedFloat.packComponents .binary64 .positive 0#11 mantissa)) := by
  have hbias : (Format.binary64.exponentBias : Int) = 1023 := rfl
  unfold UnpackedFloat.unpack
  simp only [UnpackedFloat.unpackExponent_packComponents,
    UnpackedFloat.unpackMantissa_packComponents, sign_packComponents]
  rw [if_neg (by decide), if_pos trivial]
  split
  · trivial
  · simp only [UpTo, hbias, BitVec.toNat_ofNat]
    refine ⟨trivial, by omega, mantissa.isLt.le.trans (Nat.pow_le_pow_right two_pos ?_)⟩
    omega

theorem ofNat_ne_ones (h : n < 2047) : BitVec.ofNat 11 n ≠ -1#11 := by
  intro heq
  have hvalue := congrArg BitVec.toNat heq
  rw [BitVec.toNat_ofNat, Nat.mod_eq_of_lt (by omega)] at hvalue
  exact h.ne hvalue

theorem upTo_unpack_normal (hpos : n ≠ 0) (hset : n < 2047)
    (mantissa : BitVec 52) (hexponent : (n : Int) - 1075 ≤ k)
    (h : 2 ^ 52 + mantissa.toNat ≤ 2 ^ (k - (n - 1075)).toNat) :
    UpTo k (UnpackedFloat.unpack .binary64
      (UnpackedFloat.packComponents .binary64 .positive (.ofNat 11 n) mantissa)) := by
  have hbias : (Format.binary64.exponentBias : Int) = 1023 := rfl
  have hvalue : (BitVec.ofNat 11 n).toNat = n := by
    rw [BitVec.toNat_ofNat, Nat.mod_eq_of_lt (by omega)]
  have hzeros : BitVec.ofNat 11 n ≠ 0#11 := by
    intro heq
    rw [heq] at hvalue
    exact hpos hvalue.symm
  unfold UnpackedFloat.unpack
  simp only [UnpackedFloat.unpackExponent_packComponents,
    UnpackedFloat.unpackMantissa_packComponents, sign_packComponents]
  rw [if_neg (ofNat_ne_ones hset), if_neg hzeros]
  simp only [UpTo, hbias, hvalue, toNat_implicit]
  exact ⟨trivial, hexponent, h⟩

theorem UpTo.unpack_pack (h : UpTo k u) (hlow : -1022 ≤ k)
    (hhigh : k ≤ 971) : UpTo k (Float.Model.pack u).unpack := by
  change UpTo k (UnpackedFloat.unpack .binary64 (UnpackedFloat.pack .binary64 u))
  obtain ⟨s, rfl⟩ | ⟨m, e, hm, rfl, he, hbound⟩ := h.zero_or_finite
  · cases s <;> trivial
  · have hbias : (Format.binary64.exponentBias : Int) = 1023 := rfl
    rw [UnpackedFloat.pack]
    simp only [hbias]
    split
    · rename_i hlarge
      omega
    · split
      · rename_i hlog
        have hbits : Format.binary64.mantissaBits = 53 := rfl
        obtain ⟨hmlow, hmhigh⟩ := (Nat.log2_eq_iff hm.ne').1 (show m.log2 = 52 by omega)
        by_cases hzero : (e + 1023 + (52 : Nat)).toNat = 0
        · rw [hzero]
          exact upTo_unpack_subnormal hlow _
        · have hfraction : 2 ^ 52 + (BitVec.ofNat 52 m).toNat = m := by
            rw [BitVec.toNat_ofNat]
            omega
          refine upTo_unpack_normal hzero (by omega) _ (by omega) ?_
          rw [hfraction]
          exact hbound.trans (Nat.pow_le_pow_right two_pos (by omega))
      · -- A mantissa of any other length is packed without its exponent.
        exact upTo_unpack_subnormal hlow _

/-! ## Floats -/

theorem UpTo.float_add {x y : Float} (hx : UpTo k x.toModel.unpack)
    (hy : UpTo k y.toModel.unpack) (hlow : -1023 ≤ k) (hhigh : k ≤ 970) :
    UpTo (k + 1) (x + y).toModel.unpack :=
  (hx.add hy (by omega)).unpack_pack (by omega) (by omega)

theorem UpTo.float_mul {x y : Float} (hx : UpTo k x.toModel.unpack)
    (hy : UpTo l y.toModel.unpack) (hlow : -1022 ≤ k + l) (hhigh : k + l ≤ 971) :
    UpTo (k + l) (x * y).toModel.unpack :=
  (hx.mul hy (by omega)).unpack_pack hlow hhigh

theorem UpTo.float_div {x y : Float} (hx : UpTo k x.toModel.unpack)
    (hy : AtLeast l y.toModel.unpack) (hlow : -1022 ≤ k - l) (hhigh : k - l ≤ 971) :
    UpTo (k - l) (x / y).toModel.unpack :=
  (hx.div hy (by omega)).unpack_pack hlow hhigh

theorem upTo_scaled {factor k : Nat} {exponent : Int} (hm : 0 < m) (hfactor : 0 < factor)
    (h : m ≤ 2 ^ (k + 53)) (hone : factor = 1) (hexponent : exponent = -53) :
    UpTo k (UnpackedFloat.mul .binary64 (.finite .positive m exponent hm)
      (.finite .positive factor 0 hfactor)) := by
  subst hone hexponent
  have hscaled : UpTo k (.finite .positive m (-53) hm) := ⟨rfl, by omega, h⟩
  have hunit : UpTo 0 (.finite .positive 1 0 hfactor) := ⟨rfl, le_rfl, le_rfl⟩
  have hproduct := hscaled.mul hunit (by omega)
  rwa [add_zero] at hproduct

theorem upTo_ofScientific {k : Nat} (h : n ≤ 2 ^ k) :
    UpTo k (UnpackedFloat.ofScientific .binary64 n 0) := by
  have hbits : Format.binary64.mantissaBits = 53 := rfl
  have hshifted : n <<< Format.binary64.mantissaBits ≤ 2 ^ (k + 53) := by
    rw [hbits, Nat.shiftLeft_eq, pow_add]
    exact Nat.mul_le_mul_right _ h
  unfold UnpackedFloat.ofScientific
  split
  · trivial
  · split
    · rename_i hlarge
      exact absurd hlarge (by decide)
    · split
      · trivial
      · rw [if_pos (Int.le_refl 0)]
        refine upTo_scaled _ _ ?_ ?_ ?_
        · exact hshifted
        · rfl
        · rw [hbits]
          rfl

theorem upTo_ofNat {k : Nat} (h : n ≤ 2 ^ k) (hk : k ≤ 971) :
    UpTo k (Float.ofNat n).toModel.unpack := by
  change UpTo k (Float.ofScientific n false 0).toModel.unpack
  unfold Float.ofScientific
  split
  · have hone : UpTo 0 (Float.ofBits 0x3FF0000000000000).toModel.unpack :=
      ⟨rfl, by decide, by decide⟩
    have hword : n.toUInt64.toNat ≤ 2 ^ k := (Nat.mod_le n _).trans h
    have hexact : UpTo k n.toUInt64.toFloat.toModel.unpack :=
      (upTo_normalize (Int.natCast_nonneg k) (by rwa [sub_zero, Int.toNat_natCast]) (by omega)
        .positive).unpack_pack (by omega) (by omega)
    have hproduct := hexact.float_mul hone (by omega) (by omega)
    rwa [add_zero] at hproduct
  · exact (upTo_ofScientific h).unpack_pack (by omega) (by omega)

/-! ## Finite floats -/

theorem isFinite_unpack (s : Sign) {exponent : BitVec 11} (h : exponent ≠ -1#11)
    (mantissa : BitVec 52) :
    (UnpackedFloat.unpack .binary64
      (UnpackedFloat.packComponents .binary64 s exponent mantissa)).isFinite = true := by
  unfold UnpackedFloat.unpack
  simp only [UnpackedFloat.unpackExponent_packComponents]
  rw [if_neg h]
  split
  · split <;> rfl
  · rfl

/-- Packing makes no infinity of an exponent that the format has. -/
theorem isFinite_unpack_pack (s : Sign) (hm : 0 < m) (he : e ≤ 971) :
    (Float.Model.pack (.finite s m e hm)).unpack.isFinite = true := by
  change (UnpackedFloat.unpack .binary64
    (UnpackedFloat.pack .binary64 (.finite s m e hm))).isFinite = true
  have hbias : (Format.binary64.exponentBias : Int) = 1023 := rfl
  rw [UnpackedFloat.pack]
  simp only [hbias]
  split
  · rename_i hlarge
    omega
  · split
    · exact isFinite_unpack s (ofNat_ne_ones (by omega)) _
    · exact isFinite_unpack s (by decide) _

theorem UpTo.isFinite (h : UpTo k u) : u.isFinite = true := by
  obtain ⟨s, rfl⟩ | ⟨m, e, hm, rfl, -⟩ := h.zero_or_finite <;> rfl

theorem UpTo.isFinite_neg (h : UpTo k u) (hhigh : k ≤ 971) :
    (Float.Model.pack u.neg).unpack.isFinite = true := by
  obtain ⟨s, rfl⟩ | ⟨m, e, hm, rfl, he, -⟩ := h.zero_or_finite
  · cases s <;> rfl
  · exact isFinite_unpack_pack .negative hm (he.trans hhigh)

/-- A finite float that is not below a positive one is positive and has no smaller exponent. -/
theorem exists_of_not_lt (hfinite : u.isFinite = true) {f : Int}
    (hn : 0 < n) (h : ¬ u.lt (.finite .positive n f hn) = true) :
    ∃ m e, ∃ hm, u = .finite .positive m e hm ∧ f ≤ e := by
  cases u with
  | notANumber => cases hfinite
  | infinity s => cases hfinite
  | zero s => exact absurd rfl h
  | finite s m e hm =>
    cases s with
    | negative => exact absurd rfl h
    | positive =>
      refine ⟨m, e, hm, rfl, not_lt.1 fun hlt => h ?_⟩
      simp only [UnpackedFloat.lt, UnpackedFloat.compare, Int.compare_eq_lt.2 hlt]
      rfl

end Rounding

/-- **A whole number of at most 64 bits is a finite float.** -/
theorem isFinite_ofInt {n : Int} (h : n.natAbs < 2 ^ 64) : (Float.ofInt n).isFinite = true := by
  cases n with
  | ofNat n => exact (Rounding.upTo_ofNat h.le (by decide)).isFinite
  | negSucc n =>
    exact (Rounding.upTo_ofNat (show n + 1 ≤ 2 ^ 64 from h.le) (by decide)).isFinite_neg (by decide)

end NodeCanvas
