import Mathlib
import NodeCanvas.Node
import NodeCanvas.Proofs.Bag
/-!
# Equality by comparison

Comparing floats is symmetric and transitive, and a float equals itself
unless it is no number (`float_beq_self`). What is read from a whole
number is always a number (`not_isNaN_ofInt`), and the floats of a value
are finite, so comparing values is an equivalence (`EquivBEq Json`), and
a bag of properties equals itself. The operations of the canvas compare
before they write: these are the facts that make a second write of the
same thing no change.
-/

namespace NodeCanvas

open Float.Model (UnpackedFloat Format)

variable {u : UnpackedFloat}

/-! ## Floats -/

/-- What is a number equals itself. -/
theorem float_beq_self {x : Float} (h : x.isNaN = false) : (x == x) = true := by
  rw [Float.isNaN_eq_decide_eq_nan] at h
  exact Float.beq_self_iff.2 (of_decide_eq_false h)

theorem isNaN_of_isFinite {x : Float} (h : x.isFinite = true) : x.isNaN = false := by
  change x.toModel.unpack.isFinite = true at h
  change x.toModel.unpack.isNaN = false
  cases hu : x.toModel.unpack with
  | notANumber => rw [hu] at h; cases h
  | infinity s => rfl
  | zero s => rfl
  | finite s m e hm => rfl

/-! ## What is read from a whole number is a number -/

/-- Rounding gives a number. -/
theorem not_isNaN_roundWithAccuracy (format : Format) (sign : UnpackedFloat.Sign) (mantissa : Nat)
    (exponent : Int) (accuracy : UnpackedFloat.Accuracy) :
    (UnpackedFloat.roundWithAccuracy format sign mantissa exponent accuracy).isNaN = false := by
  unfold UnpackedFloat.roundWithAccuracy
  simp only
  split <;> rfl

/-- So does normalizing. -/
theorem not_isNaN_normalize (format : Format) (mantissa exponent : Int)
    (zero : UnpackedFloat.Sign) :
    (UnpackedFloat.normalize format mantissa exponent zero).isNaN = false := by
  unfold UnpackedFloat.normalize
  split
  · exact not_isNaN_roundWithAccuracy ..
  · rfl
  · exact not_isNaN_roundWithAccuracy ..

/-- A number times a finite one is a number. -/
theorem not_isNaN_mul {format : Format} (hu : u.isNaN = false)
    (s : UnpackedFloat.Sign) (m : Nat) (e : Int) (hm : 0 < m) :
    (UnpackedFloat.mul format u (.finite s m e hm)).isNaN = false := by
  cases u with
  | notANumber => cases hu
  | infinity t => rfl
  | zero t => rfl
  | finite t n f hn => exact not_isNaN_roundWithAccuracy ..

theorem not_isNaN_neg (hu : u.isNaN = false) : u.neg.isNaN = false := by
  cases u with
  | notANumber => cases hu
  | infinity t => rfl
  | zero t => rfl
  | finite t n f hn => rfl

/-- What is no number is written with all exponent bits set and some bit
of the mantissa. -/
theorem isNaN_unpack {format : Format} {b : BitVec format.numBits}
    (h : (UnpackedFloat.unpack format b).isNaN = true) :
    UnpackedFloat.unpackExponent b = -1#_ ∧ UnpackedFloat.unpackMantissa b ≠ 0#_ := by
  unfold UnpackedFloat.unpack at h
  simp only at h
  split at h
  · rename_i hexponent
    split at h
    · cases h
    · rename_i hmantissa
      exact ⟨hexponent, hmantissa⟩
  · split at h
    · split at h <;> cases h
    · cases h

/-- Packing keeps numbers numbers. -/
theorem not_isNaN_pack (hu : u.isNaN = false) : (Float.Model.pack u).unpack.isNaN = false := by
  rw [← Bool.not_eq_true]
  intro hnan
  obtain ⟨hexponent, hmantissa⟩ :=
    @isNaN_unpack Format.binary64 (UnpackedFloat.pack Format.binary64 u) hnan
  cases u with
  | notANumber => cases hu
  | infinity s =>
    simp [UnpackedFloat.pack, UnpackedFloat.packedInfinity] at hmantissa
  | zero s => simp [UnpackedFloat.pack, UnpackedFloat.packedZero] at hmantissa
  | finite s m e hm =>
    rw [UnpackedFloat.pack] at hexponent hmantissa
    simp only at hexponent hmantissa
    split at hexponent
    · rename_i hlarge
      rw [if_pos hlarge] at hmantissa
      simp [UnpackedFloat.packedInfinity] at hmantissa
    · rename_i hsmall
      split at hexponent
      · rw [UnpackedFloat.unpackExponent_packComponents] at hexponent
        have hbits := congrArg BitVec.toNat hexponent
        rw [BitVec.toNat_ofNat, Nat.mod_eq_of_lt (by omega)] at hbits
        have hall : (-1#11 : BitVec 11).toNat = 2 ^ 11 - 1 := by decide
        rw [hall] at hbits
        omega
      · rw [UnpackedFloat.unpackExponent_packComponents] at hexponent
        exact absurd hexponent (by decide)

/-- Digits are read as a number. -/
theorem not_isNaN_ofScientific (n : Nat) :
    (UnpackedFloat.ofScientific Format.binary64 n 0).isNaN = false := by
  unfold UnpackedFloat.ofScientific
  split
  · rfl
  · split
    · rfl
    · split
      · rfl
      · rw [if_pos (Int.le_refl 0)]
        exact not_isNaN_mul rfl ..

/-- A natural number is a number as a float. -/
theorem not_isNaN_ofNat (n : Nat) : (Float.ofNat n).isNaN = false := by
  change (Float.ofScientific n false 0).toModel.unpack.isNaN = false
  unfold Float.ofScientific
  split
  · have hone : (Float.ofBits 0x3FF0000000000000).toModel.unpack =
        .finite .positive (2 ^ 52) (-52) (by decide) := by rfl
    change (Float.Model.pack (UnpackedFloat.mul Format.binary64 n.toUInt64.toFloat.toModel.unpack
      (Float.ofBits 0x3FF0000000000000).toModel.unpack)).unpack.isNaN = false
    rw [hone]
    exact not_isNaN_pack (not_isNaN_mul (not_isNaN_pack (not_isNaN_normalize ..)) ..)
  · exact not_isNaN_pack (not_isNaN_ofScientific n)

/-- So is an integer. -/
theorem not_isNaN_ofInt (n : Int) : (Float.ofInt n).isNaN = false := by
  cases n with
  | ofNat n => exact not_isNaN_ofNat n
  | negSucc n => exact not_isNaN_pack (not_isNaN_neg (not_isNaN_ofNat _))

/-! ## Values -/

namespace Json

/-- Numbers of documents are numbers as floats. -/
theorem not_isNaN_toFloat (n : Number) : n.toFloat.isNaN = false := by
  cases n with
  | int n => exact not_isNaN_ofInt n
  | float x finite => exact isNaN_of_isFinite finite

instance : EquivBEq Number where
  rfl {n} := by
    cases n with
    | int n => exact beq_self_eq_true n
    | float x finite => exact float_beq_self (isNaN_of_isFinite finite)
  symm {m n} h := by
    cases m with
    | int m =>
      cases n with
      | int n => exact BEq.symm (α := Int) h
      | float y _ => cases h
    | float x _ =>
      cases n with
      | int n => cases h
      | float y _ => exact BEq.symm (α := Float) h
  trans {l m n} hlm hmn := by
    cases m with
    | int m =>
      cases l with
      | int l =>
        cases n with
        | int n => exact BEq.trans (α := Int) hlm hmn
        | float z _ => cases hmn
      | float x _ => cases hlm
    | float y _ =>
      cases l with
      | int l => cases hlm
      | float x _ =>
        cases n with
        | int n => cases hmn
        | float z _ => exact BEq.trans (α := Float) hlm hmn

mutual

/-- Comparing values is reflexive: no value holds what is not a number. -/
theorem beq_refl : ∀ value : Json, beq value value = true
  | .null => rfl
  | .bool b => beq_self_eq_true b
  | .number n => BEq.refl n
  | .string s => beq_self_eq_true s
  | .array items => beqItems_refl items
  | .object fields => beqFields_refl fields

theorem beqItems_refl : ∀ items : List Json, beqItems items items = true
  | [] => rfl
  | item :: rest => by rw [beqItems, beq_refl item, beqItems_refl rest, Bool.and_self]

theorem beqFields_refl : ∀ fields : List (String × Json), beqFields fields fields = true
  | [] => rfl
  | (name, value) :: rest => by
    rw [beqFields, beq_self_eq_true, beq_refl value, beqFields_refl rest, Bool.and_self,
      Bool.and_self]

end

mutual

/-- Comparing values is symmetric. -/
theorem beq_symm : ∀ {a b : Json}, beq a b = true → beq b a = true
  | .null, .null, _ => rfl
  | .bool _, .bool _, h => BEq.symm h
  | .number _, .number _, h => BEq.symm h
  | .string _, .string _, h => BEq.symm h
  | .array as, .array _, h => beqItems_symm as h
  | .object as, .object _, h => beqFields_symm as h

theorem beqItems_symm : ∀ (as : List Json) {bs : List Json},
    beqItems as bs = true → beqItems bs as = true
  | [], [], _ => rfl
  | a :: as, b :: bs, h => by
    rw [beqItems, Bool.and_eq_true] at h ⊢
    exact ⟨beq_symm h.1, beqItems_symm as h.2⟩

theorem beqFields_symm : ∀ (as : List (String × Json)) {bs : List (String × Json)},
    beqFields as bs = true → beqFields bs as = true
  | [], [], _ => rfl
  | (k, a) :: as, (l, b) :: bs, h => by
    rw [beqFields, Bool.and_eq_true, Bool.and_eq_true] at h ⊢
    exact ⟨⟨BEq.symm h.1.1, beq_symm h.1.2⟩, beqFields_symm as h.2⟩

end

mutual

/-- Comparing values is transitive. -/
theorem beq_trans : ∀ {a b c : Json}, beq a b = true → beq b c = true → beq a c = true
  | .null, .null, .null, _, _ => rfl
  | .bool _, .bool _, .bool _, hab, hbc => BEq.trans hab hbc
  | .number _, .number _, .number _, hab, hbc => BEq.trans hab hbc
  | .string _, .string _, .string _, hab, hbc => BEq.trans hab hbc
  | .array as, .array _, .array _, hab, hbc => beqItems_trans as hab hbc
  | .object as, .object _, .object _, hab, hbc => beqFields_trans as hab hbc

theorem beqItems_trans : ∀ (as : List Json) {bs cs : List Json},
    beqItems as bs = true → beqItems bs cs = true → beqItems as cs = true
  | [], [], [], _, _ => rfl
  | a :: as, b :: bs, c :: cs, hab, hbc => by
    rw [beqItems, Bool.and_eq_true] at hab hbc ⊢
    exact ⟨beq_trans hab.1 hbc.1, beqItems_trans as hab.2 hbc.2⟩

theorem beqFields_trans : ∀ (as : List (String × Json)) {bs cs : List (String × Json)},
    beqFields as bs = true → beqFields bs cs = true → beqFields as cs = true
  | [], [], [], _, _ => rfl
  | (k, a) :: as, (l, b) :: bs, (m, c) :: cs, hab, hbc => by
    rw [beqFields, Bool.and_eq_true, Bool.and_eq_true] at hab hbc ⊢
    exact ⟨⟨BEq.trans hab.1.1 hbc.1.1, beq_trans hab.1.2 hbc.1.2⟩, beqFields_trans as hab.2 hbc.2⟩

end

instance : EquivBEq Json where
  rfl := beq_refl _
  symm := beq_symm
  trans := beq_trans

end Json

instance equivBEqProd {α β : Type} [BEq α] [BEq β] [EquivBEq α] [EquivBEq β] :
    EquivBEq (α × β) where
  symm {a b} h := by
    change (a.1 == b.1 && a.2 == b.2) = true at h
    change (b.1 == a.1 && b.2 == a.2) = true
    rw [Bool.and_eq_true] at h ⊢
    exact ⟨BEq.symm h.1, BEq.symm h.2⟩
  trans {a b c} hab hbc := by
    change (a.1 == b.1 && a.2 == b.2) = true at hab
    change (b.1 == c.1 && b.2 == c.2) = true at hbc
    change (a.1 == c.1 && a.2 == c.2) = true
    rw [Bool.and_eq_true] at hab hbc ⊢
    exact ⟨BEq.trans hab.1 hbc.1, BEq.trans hab.2 hbc.2⟩

instance {α : Type} [BEq α] [ReflBEq α] : ReflBEq (Table α) where
  rfl {t} := BEq.refl t.entries

instance : ReflBEq Parameters where
  rfl := Parameters.beq_iff.2 ⟨rfl, rfl, rfl, rfl, rfl, rfl, rfl, BEq.rfl⟩

instance : ReflBEq Metadata where
  rfl {m} := by
    change instBEqMetadata.beq m m = true
    simp only [instBEqMetadata.beq, BEq.rfl, Bool.and_self]

end NodeCanvas
