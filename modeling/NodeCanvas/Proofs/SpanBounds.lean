import Mathlib
import NodeCanvas.Proofs.Magnitude
import NodeCanvas.Time.Span
/-!
# Which numbers of seconds are spans

The exact value of a float is the one that the float model unpacks (`Binary.ofFloat?_eq`), so bounds
on floats become bounds on spans. A number of seconds is too long for a span exactly from `2 ^ 64`
on (`Span.ofSeconds?_eq_none_iff`).
-/

namespace NodeCanvas

open Float.Model (UnpackedFloat Format)
open Float.Model.UnpackedFloat (Sign)
open Rounding

namespace Binary

/-- The number that an unpacked float stands for. -/
def ofUnpacked? : UnpackedFloat → Option Binary
  | .zero s => some ⟨s == .negative, 0, -1074⟩
  | .finite s m e _ => some ⟨s == .negative, m, e⟩
  | .infinity _ | .notANumber => none

theorem negative_eq (b : BitVec Format.binary64.numBits) :
    (b.toNat / Nat.pow 2 63 == 1) =
      (Sign.ofBitVec (UnpackedFloat.unpackSign b) == Sign.negative) := by
  have hbit : (UnpackedFloat.unpackSign b).toNat = b.toNat / 2 ^ 63 := by
    have hlt : b.toNat < 2 ^ 64 := b.isLt
    simp [UnpackedFloat.unpackSign, Nat.shiftRight_eq_div_pow]
    omega
  rw [Nat.pow_eq, ← hbit]
  generalize UnpackedFloat.unpackSign b = s
  revert s
  decide

theorem ofFloat?_eq (x : Float) : ofFloat? x = ofUnpacked? x.toModel.unpack := by
  have hbias : (Format.binary64.exponentBias : Int) = 1023 := rfl
  obtain ⟨b, hb⟩ : ∃ b : BitVec Format.binary64.numBits, b = x.toModel.toBits.toBitVec := ⟨_, rfl⟩
  have hbits : x.toBits.toNat = b.toNat := by rw [hb]; rfl
  have hexponent : b.toNat / Nat.pow 2 52 % Nat.pow 2 11 =
      (UnpackedFloat.unpackExponent b).toNat := by
    simp [UnpackedFloat.unpackExponent, Nat.shiftRight_eq_div_pow]
  have hmantissa : b.toNat % Nat.pow 2 52 = (UnpackedFloat.unpackMantissa b).toNat := by
    simp [UnpackedFloat.unpackMantissa]
  unfold ofFloat? Float.Model.unpack
  rw [← hb, hbits]
  unfold UnpackedFloat.unpack
  simp only [hexponent, hmantissa, negative_eq]
  have hall : (-1#11 : BitVec 11).toNat = 2047 := by decide
  -- The exponent bits are all set, all clear, or neither; both sides are split in this order.
  split
  · rename_i hset
    have hones : UnpackedFloat.unpackExponent b = -1#11 :=
      BitVec.eq_of_toNat_eq (hset.trans hall.symm)
    rw [if_pos hones]
    split <;> rfl
  · rename_i hset
    have hones : UnpackedFloat.unpackExponent b ≠ -1#11 := fun h => hset (by rw [h]; exact hall)
    rw [if_neg hones]
    split
    · rename_i hzero
      have hzeros : UnpackedFloat.unpackExponent b = 0#11 := BitVec.eq_of_toNat_eq hzero
      rw [if_pos hzeros]
      split
      · rename_i hfraction
        rw [hfraction]
        rfl
      · rw [hzero, hbias]
        rfl
    · rename_i hzero
      have hzeros : UnpackedFloat.unpackExponent b ≠ 0#11 := fun h => hzero (by rw [h]; rfl)
      rw [if_neg hzeros, ofUnpacked?, toNat_implicit, hbias]
      rfl
theorem ratio_eq (b : Binary) :
    b.ratio = ⟨b.mantissa * 2 ^ b.exponent.toNat, 2 ^ (-b.exponent).toNat⟩ := by
  unfold ratio
  split
  · rename_i h
    rw [Int.toNat_of_nonpos (Int.neg_nonpos_of_nonneg h)]
    rfl
  · rename_i h
    rw [Int.toNat_of_nonpos (not_le.1 h).le, pow_zero, mul_one]
    rfl

end Binary

namespace Ratio

theorem roundEven_le {r : Ratio} {n : Nat} (hden : 0 < r.den) (h : r.num ≤ r.den * n) :
    r.roundEven ≤ n := by
  have hdecomposed := Nat.div_add_mod r.num r.den
  obtain hlt | heq := h.lt_or_eq
  · have hfloor : r.num / r.den < n := Nat.div_lt_of_lt_mul hlt
    unfold roundEven
    simp only
    split_ifs <;> omega
  · unfold roundEven
    simp only [heq, Nat.mul_mod_right, Nat.mul_div_cancel_left n hden]
    rw [if_pos (by omega)]

theorem le_roundEven {r : Ratio} {n : Nat} (hden : 0 < r.den) (h : r.den * n ≤ r.num) :
    n ≤ r.roundEven := by
  have hfloor : n ≤ r.num / r.den := (Nat.le_div_iff_mul_le hden).2 (by rwa [mul_comm])
  unfold roundEven
  simp only
  split_ifs <;> omega

end Ratio

namespace Binary

/-- The nanoseconds of a number of seconds, without its sign. -/
def nanos (b : Binary) : Nat := (b.ratio.scale 1000000000).roundEven

theorem nanos_le {b : Binary} {n : Nat}
    (h : b.mantissa * 2 ^ b.exponent.toNat ≤ 2 ^ (-b.exponent).toNat * n) :
    b.nanos ≤ Span.ofSeconds n := by
  unfold nanos
  rw [ratio_eq]
  refine Ratio.roundEven_le (Nat.two_pow_pos _) ?_
  change b.mantissa * 2 ^ b.exponent.toNat * 1000000000 ≤
    2 ^ (-b.exponent).toNat * (n * 1000000000)
  rw [← mul_assoc]
  exact Nat.mul_le_mul_right _ h

theorem le_nanos {b : Binary} {n : Nat}
    (h : 2 ^ (-b.exponent).toNat * n ≤ b.mantissa * 2 ^ b.exponent.toNat) :
    Span.ofSeconds n ≤ b.nanos := by
  unfold nanos
  rw [ratio_eq]
  refine Ratio.le_roundEven (Nat.two_pow_pos _) ?_
  change 2 ^ (-b.exponent).toNat * (n * 1000000000) ≤
    b.mantissa * 2 ^ b.exponent.toNat * 1000000000
  rw [← mul_assoc]
  exact Nat.mul_le_mul_right _ h

end Binary

theorem float_le_iff {x y : Float} :
    x ≤ y ↔ UnpackedFloat.le x.toModel.unpack y.toModel.unpack = true :=
  decide_eq_true_iff

namespace Span

variable {x : Float} {m : Nat} {e : Int}

theorem ofSeconds?_of_ofFloat? {b : Binary} (h : Binary.ofFloat? x = some b)
    (hsign : b.mantissa = 0 ∨ b.negative = false) :
    ofSeconds? x = if b.nanos < ofSeconds (2 ^ 64) then some b.nanos else none := by
  have hguard : b.mantissa = 0 ∨ (!b.negative) = true := by rwa [Bool.not_eq_true']
  have hlimit : Nat.pow 2 64 * 1000000000 = ofSeconds (2 ^ 64) := rfl
  have hnanos : (b.ratio.scale 1000000000).roundEven = b.nanos := rfl
  simp only [ofSeconds?, h, Option.bind_eq_bind, Option.bind_some, guard, if_pos hguard, hlimit,
    hnanos]
  by_cases hfits : b.nanos < ofSeconds (2 ^ 64)
  · rw [if_pos hfits, if_pos hfits]
    rfl
  · rw [if_neg hfits, if_neg hfits]
    rfl

theorem ofSeconds?_of_zero {s : Sign} (h : x.toModel.unpack = .zero s) : ofSeconds? x = some 0 := by
  have hfloat : Binary.ofFloat? x = some ⟨s == .negative, 0, -1074⟩ := by
    rw [Binary.ofFloat?_eq, h]
    rfl
  have hnanos : (⟨s == .negative, 0, -1074⟩ : Binary).nanos = 0 :=
    Nat.le_zero.1 (Binary.nanos_le (n := 0) (Nat.zero_mul _).le)
  rw [ofSeconds?_of_ofFloat? hfloat (.inl rfl), hnanos, if_pos (by decide)]

theorem ofSeconds?_of_finite {hm : 0 < m} (h : x.toModel.unpack = .finite .positive m e hm) :
    ofSeconds? x = if (⟨false, m, e⟩ : Binary).nanos < ofSeconds (2 ^ 64) then
      some (⟨false, m, e⟩ : Binary).nanos else none := by
  have hfloat : Binary.ofFloat? x = some ⟨false, m, e⟩ := by
    rw [Binary.ofFloat?_eq, h]
    rfl
  exact ofSeconds?_of_ofFloat? hfloat (.inr rfl)

/-- What is bounded by a power of two is a span with this bound. -/
theorem exists_ofSeconds? {k : Nat} (h : UpTo k x.toModel.unpack) (hk : k < 64) :
    ∃ d, ofSeconds? x = some d ∧ d ≤ ofSeconds (2 ^ k) := by
  cases hu : x.toModel.unpack with
  | notANumber => exact (hu ▸ h : UpTo k .notANumber).elim
  | infinity s => exact (hu ▸ h : UpTo k (.infinity s)).elim
  | zero s => exact ⟨0, ofSeconds?_of_zero hu, Nat.zero_le _⟩
  | finite s m e hm =>
    rw [hu] at h
    obtain ⟨rfl, he, hbound⟩ := h
    have hnanos : (⟨false, m, e⟩ : Binary).nanos ≤ ofSeconds (2 ^ k) := by
      refine Binary.nanos_le ?_
      calc m * 2 ^ e.toNat
        _ ≤ 2 ^ ((k : Int) - e).toNat * 2 ^ e.toNat := Nat.mul_le_mul_right _ hbound
        _ = 2 ^ (-e).toNat * 2 ^ k := by rw [← pow_add, ← pow_add]; congr 1; omega
    have hfits : (⟨false, m, e⟩ : Binary).nanos < ofSeconds (2 ^ 64) :=
      hnanos.trans_lt (Nat.mul_lt_mul_of_pos_right (Nat.pow_lt_pow_right one_lt_two hk) (by decide))
    exact ⟨_, by rw [ofSeconds?_of_finite hu, if_pos hfits], hnanos⟩

/-- The numbers of seconds that are too long have an exponent that says so. -/
theorem limit_le_nanos_iff (hm : m < 2 ^ 53) (hcanonical : 2 ^ 52 ≤ m ∨ e = -1074) :
    ofSeconds (2 ^ 64) ≤ (⟨false, m, e⟩ : Binary).nanos ↔ 12 ≤ e := by
  constructor
  · intro h
    by_contra hsmall
    -- One second below the limit there is room for the greatest mantissa.
    have hnanos : (⟨false, m, e⟩ : Binary).nanos ≤ ofSeconds (2 ^ 64 - 1) := by
      refine Binary.nanos_le ?_
      calc m * 2 ^ e.toNat
        _ ≤ (2 ^ 53 - 1) * 2 ^ 11 :=
          Nat.mul_le_mul (by omega) (Nat.pow_le_pow_right two_pos (by omega))
        _ ≤ 1 * (2 ^ 64 - 1) := by decide
        _ ≤ 2 ^ (-e).toNat * (2 ^ 64 - 1) := Nat.mul_le_mul_right _ (Nat.two_pow_pos _)
    exact absurd (h.trans hnanos) (by decide)
  · intro h
    refine Binary.le_nanos ?_
    have hlow : 2 ^ 52 ≤ m := hcanonical.resolve_right (by omega)
    calc 2 ^ (-e).toNat * 2 ^ 64
      _ = 2 ^ 52 * 2 ^ 12 := by rw [Int.toNat_of_nonpos (by omega)]; rfl
      _ ≤ m * 2 ^ e.toNat := Nat.mul_le_mul hlow (Nat.pow_le_pow_right two_pos (by omega))

theorem le_iff_of_canonical (hm : 0 < m) (hcanonical : 2 ^ 52 ≤ m ∨ e = -1074) :
    UnpackedFloat.le (.finite .positive (2 ^ 52) 12 (by decide)) (.finite .positive m e hm) = true ↔
      12 ≤ e := by
  simp only [UnpackedFloat.le, UnpackedFloat.compare, Option.any_some]
  obtain hlt | rfl | hgt := lt_trichotomy (12 : Int) e
  · rw [Int.compare_eq_lt.2 hlt]
    exact iff_of_true rfl hlt.le
  · rw [Int.compare_eq_eq.2 rfl]
    have hlow : 2 ^ 52 ≤ m := hcanonical.resolve_right (by omega)
    exact iff_of_true (Nat.isLE_compare.2 hlow) le_rfl
  · rw [Int.compare_eq_gt.2 hgt]
    exact iff_of_false Bool.false_ne_true hgt.not_ge

/-- **A number of seconds from zero up is too long for a span exactly from `2 ^ 64` on.** -/
theorem ofSeconds?_eq_none_iff (hfinite : x.isFinite = true) (hnonneg : 0.0 ≤ x) :
    ofSeconds? x = none ↔ 18446744073709551616.0 ≤ x := by
  have hlimit : (18446744073709551616.0 : Float).toModel.unpack =
      .finite .positive (2 ^ 52) 12 (by decide) := by rfl
  have hzero : (0.0 : Float).toModel.unpack = .zero .positive := by rfl
  change x.toModel.unpack.isFinite = true at hfinite
  rw [float_le_iff, hzero] at hnonneg
  rw [float_le_iff, hlimit]
  have hcanonical : IsCanonical x.toModel.unpack := isCanonical_unpack _
  cases hu : x.toModel.unpack with
  | notANumber => rw [hu] at hfinite; cases hfinite
  | infinity s => rw [hu] at hfinite; cases hfinite
  | zero s =>
    rw [ofSeconds?_of_zero hu]
    exact iff_of_false (Option.some_ne_none 0) Bool.false_ne_true
  | finite s m e hm =>
    rw [hu] at hnonneg hcanonical
    cases s with
    | negative => cases hnonneg
    | positive =>
      rw [ofSeconds?_of_finite hu]
      rw [le_iff_of_canonical hm hcanonical.2, ← limit_le_nanos_iff hcanonical.1 hcanonical.2,
        ite_eq_right_iff, ← not_lt]
      exact imp_congr_right fun _ => iff_of_false (Option.some_ne_none _) id

theorem ofMillis_lt_ofMillis {a b : Nat} (h : a < b) : ofMillis a < ofMillis b :=
  Nat.mul_lt_mul_of_pos_right h (by decide)

/-- A span of any 64-bit number of milliseconds, in seconds. -/
theorem upTo_toSeconds {d : Span} (h : d < ofMillis (2 ^ 64)) :
    UpTo 56 (toSeconds d).toModel.unpack := by
  have hwhole : UpTo 55 (Float.ofNat (d / 1000000000)).toModel.unpack :=
    upTo_ofNat (k := 55) (Nat.div_le_of_le_mul (h.le.trans (by decide))) (by decide)
  have hpart : UpTo 30 (Float.ofNat (d % 1000000000)).toModel.unpack :=
    upTo_ofNat (k := 30) ((Nat.mod_lt d (by decide)).le.trans (by decide)) (by decide)
  have hbillion : AtLeast 29 (1000000000.0 : Float).toModel.unpack := ⟨rfl, by decide⟩
  have hfraction : UpTo 1 (Float.ofNat (d % 1000000000) / 1000000000.0).toModel.unpack :=
    hpart.float_div hbillion (by decide) (by decide)
  exact hwhole.float_add (hfraction.mono (by decide)) (by decide) (by decide)

/-- Such a span divided by a number from one sixteenth on is a span again. -/
theorem exists_ofSeconds?_div {d : Span} (h : d < ofMillis (2 ^ 64)) {speed : Float}
    (hspeed : AtLeast (-4) speed.toModel.unpack) :
    ∃ flow, ofSeconds? (toSeconds d / speed) = some flow ∧ flow ≤ ofSeconds (2 ^ 60) :=
  exists_ofSeconds? (k := 60) ((upTo_toSeconds h).float_div hspeed (by decide) (by decide))
    (by decide)

end Span

end NodeCanvas
