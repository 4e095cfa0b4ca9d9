import Mathlib
import PeripheralLink.Number.Reading
/-!
Which integers have a nearest double.  The significand of a large integer is cut to 53 bits and rounded, ties to
even; if that carries, the power of two grows by one.  So the integers beyond all doubles begin half a unit in the
last place below `2 ^ 1024`, as `ofInt?_eq_none_iff` says.
-/

namespace PeripheralLink.Number

open Float.Model Float.Model.UnpackedFloat

theorem mantissa_shift (em : ExtendedMantissa) (k : Nat) : (em >>> k).mantissa = em.mantissa / 2 ^ k := by
  induction k with
  | zero => exact (Nat.div_one _).symm
  | succ k ih =>
      have hstep : (em >>> (k + 1)).mantissa = (em >>> k).mantissa / 2 := rfl
      rw [hstep, ih, Nat.div_div_eq_div_mul, Nat.pow_succ]

theorem roundBit_shift (em : ExtendedMantissa) (k : Nat) :
    (em >>> (k + 1)).roundBit = (em.mantissa / 2 ^ k % 2 != 0) := by
  have hstep : (em >>> (k + 1)).roundBit = ((em >>> k).mantissa % 2 != 0) := rfl
  rw [hstep, mantissa_shift]

theorem roundedMantissa_bounds (em : ExtendedMantissa) :
    em.mantissa ≤ em.roundedMantissa ∧ em.roundedMantissa ≤ em.mantissa + 1 := by
  obtain ⟨m, round, sticky⟩ := em
  cases round <;> cases sticky <;>
    simp only [ExtendedMantissa.roundedMantissa, ExtendedMantissa.accuracy, Accuracy.roundToNearestEven] <;> omega

/-- An odd significand is rounded up exactly if the first bit behind it is set. -/
theorem roundedMantissa_of_odd {em : ExtendedMantissa} (hodd : em.mantissa % 2 = 1) :
    em.roundedMantissa = em.mantissa + em.roundBit.toNat := by
  obtain ⟨m, round, sticky⟩ := em
  cases round <;> cases sticky <;>
    simp_all [ExtendedMantissa.roundedMantissa, ExtendedMantissa.accuracy, Accuracy.roundToNearestEven]

/-- An integer as a significand whose bits are all there. -/
def whole (m : Nat) : ExtendedMantissa := ⟨m, false, false⟩

variable {m k : Nat}

theorem log2_eq_iff (hm : m ≠ 0) : m.log2 = k ↔ 2 ^ k ≤ m ∧ m < 2 ^ (k + 1) := by
  rw [← Nat.le_log2 hm, ← Nat.log2_lt hm]
  omega

/-- Cutting all bits but 53 leaves a significand of 53 bits, which may carry when it is rounded. -/
theorem cut_bounds (hm : m ≠ 0) (hlog : m.log2 = 52 + k) :
    2 ^ 52 ≤ (whole m >>> k).mantissa ∧ (whole m >>> k).mantissa < 2 ^ 53 := by
  obtain ⟨hlow, hhigh⟩ := (log2_eq_iff hm).mp hlog
  rw [mantissa_shift]
  have hpos : 0 < 2 ^ k := by positivity
  constructor
  · rw [whole, Nat.le_div_iff_mul_le hpos, ← Nat.pow_add]
    exact hlow
  · rw [whole, Nat.div_lt_iff_lt_mul hpos, ← Nat.pow_add]
    exact Nat.lt_of_lt_of_eq hhigh (by congr 1; omega)

/-- It carries exactly if the integer is within half a unit in the last place of the next power of two. -/
theorem carries_iff (hm : m ≠ 0) (hlog : m.log2 = 52 + (k + 1)) :
    (whole m >>> (k + 1)).roundedMantissa = 2 ^ 53 ↔ 2 ^ (54 + k) - 2 ^ k ≤ m := by
  -- the significand and the bit behind it
  have hmantissa : (whole m >>> (k + 1)).mantissa = m / 2 ^ k / 2 := by
    rw [mantissa_shift, Nat.pow_succ, Nat.div_div_eq_div_mul]
    rfl
  have hbit : (whole m >>> (k + 1)).roundBit = (m / 2 ^ k % 2 != 0) := roundBit_shift (whole m) k
  obtain ⟨-, hhigh⟩ := cut_bounds hm hlog
  have hbound : 2 ^ (54 + k) - 2 ^ k ≤ m ↔ 2 ^ 54 - 1 ≤ m / 2 ^ k := by
    rw [Nat.le_div_iff_mul_le (by positivity), Nat.sub_mul, ← Nat.pow_add, Nat.one_mul]
  rw [hbound]
  have hrounded := roundedMantissa_bounds (whole m >>> (k + 1))
  generalize m / 2 ^ k = q at hmantissa hbit ⊢
  constructor
  · intro hcarry
    have hlast : (whole m >>> (k + 1)).mantissa = 2 ^ 53 - 1 := by omega
    by_cases hset : q % 2 = 0
    · have hround : (whole m >>> (k + 1)).roundBit = false := by rw [hbit, hset]; rfl
      rw [roundedMantissa_of_odd (by omega), hround, Bool.toNat_false] at hcarry
      omega
    · omega
  · intro hfull
    have hodd : (whole m >>> (k + 1)).mantissa % 2 = 1 := by omega
    have hset : (q % 2 != 0) = true := by
      rw [bne_iff_ne]
      omega
    rw [roundedMantissa_of_odd hodd, hmantissa, hbit, hset, Bool.toNat_true]
    omega

theorem shiftToTargetExponent_eq {e : Int} (hlog : m.log2 = 52 + k) (hmin : -1074 ≤ e + k) :
    shiftToTargetExponent .binary64 m e .exact = (whole m >>> k, e + k) := by
  have htarget : Format.binary64.targetExponent (totalExponent m e) = e + k := by
    simp only [Format.targetExponent, totalExponent, Format.mantissaBits, Format.minExponent, hlog]
    norm_num
    omega
  have hshift : (e + (k : Int) - e).toNat = k := by omega
  rw [shiftToTargetExponent, htarget, shiftToExponent]
  simp only [hshift]
  rfl

/-- A significand of at least 53 bits is rounded to one of 53. -/
theorem roundWithAccuracy_eq {s : Sign} {e : Int} (hm : m ≠ 0) (hlog : m.log2 = 52 + k) (hmin : -1074 ≤ e + k) :
    ∃ (m' : Nat) (hpos : 0 < m'), m'.log2 = 52 ∧ roundWithAccuracy .binary64 s m e .exact =
      .finite s m' (if (whole m >>> k).roundedMantissa = 2 ^ 53 then e + k + 1 else e + k) hpos := by
  obtain ⟨hlow, hhigh⟩ := cut_bounds hm hlog
  obtain ⟨hleast, hmost⟩ := roundedMantissa_bounds (whole m >>> k)
  rw [roundWithAccuracy, shiftToTargetExponent_eq hlog hmin]
  dsimp only
  generalize (whole m >>> k).roundedMantissa = r at *
  by_cases hcarry : r = 2 ^ 53
  · have hr : r ≠ 0 := by omega
    have hlogr : r.log2 = 52 + 1 := by rw [hcarry, Nat.log2_two_pow]
    rw [shiftToTargetExponent_eq hlogr (by omega), if_pos hcarry]
    have hmantissa : (whole r >>> 1).mantissa = 2 ^ 52 := by
      rw [mantissa_shift, whole, hcarry]
      rfl
    refine ⟨2 ^ 52, by decide, Nat.log2_two_pow, ?_⟩
    simp only [hmantissa]
    rfl
  · have hr : r ≠ 0 := by omega
    have hlogr : r.log2 = 52 + 0 := (log2_eq_iff hr).mpr ⟨by omega, by omega⟩
    rw [shiftToTargetExponent_eq hlogr (by omega), if_neg hcarry]
    have hmantissa : (whole r >>> 0).mantissa = r := by
      rw [mantissa_shift, whole]
      exact Nat.div_one r
    refine ⟨r, Nat.pos_of_ne_zero hr, hlogr, ?_⟩
    simp only [hmantissa, hr, dite_false, Int.natCast_zero, Int.add_zero]

theorem unpackSign_packComponents {spec : Format} {s : Sign} {exponent : BitVec spec.exponentBits}
    {mantissa : BitVec spec.mantissaBitsWithoutImplicit} :
    unpackSign (packComponents spec s exponent mantissa) = s.toBitVec := by
  ext i hi
  obtain rfl : i = 0 := by omega
  simp [unpackSign, packComponents, BitVec.getLsbD_append, BitVec.getElem_append]

theorem append_implicit (b : BitVec 52) : (1#1 ++ b).toNat = 2 ^ 52 + b.toNat := by
  rw [BitVec.toNat_append, ← Nat.shiftLeft_add_eq_or_of_lt b.isLt]
  rfl

theorem ofBitVec_toBitVec (s : Sign) : Sign.ofBitVec s.toBitVec = s := by
  cases s <;> rfl

/-- The exponent field of a number that is neither zero, nor too small for 53 bits, nor infinite. -/
theorem unpack_packComponents {s : Sign} {exponent : BitVec 11} {b : BitVec 52} (hzero : exponent ≠ 0#11)
    (hones : exponent ≠ -1#11) :
    UnpackedFloat.unpack .binary64 (packComponents .binary64 s exponent b) =
      .finite s (1#1 ++ b).toNat (exponent.toNat - 1075) (by rw [append_implicit]; omega) := by
  have hexponent : unpackExponent (packComponents .binary64 s exponent b) = exponent := unpackExponent_packComponents
  have hbits : unpackMantissa (packComponents .binary64 s exponent b) = b := unpackMantissa_packComponents
  simp only [UnpackedFloat.unpack, hexponent, hbits, unpackSign_packComponents, ofBitVec_toBitVec]
  rw [if_neg hones, if_neg hzero]
  rfl

/-- A significand of 53 bits survives packing as long as its power is in range. -/
theorem unpack_pack_of_le {s : Sign} {e : Int} (hpos : 0 < m) (hlog : m.log2 = 52) (hmin : -1074 ≤ e) (hmax : e ≤ 971) :
    (Float.Model.pack (.finite s m e hpos)).unpack = .finite s m e hpos := by
  obtain ⟨biased, hbiased⟩ := Int.eq_ofNat_of_zero_le (show 0 ≤ e + 1075 by omega)
  have hnat : (e + (Format.binary64.exponentBias : Int) + (Format.binary64.mantissaBitsWithoutImplicit : Int)).toNat =
      biased := by
    have hbias :
        (Format.binary64.exponentBias : Int) + (Format.binary64.mantissaBitsWithoutImplicit : Int) = 1075 := rfl
    omega
  have hpack : UnpackedFloat.pack .binary64 (.finite s m e hpos) =
      packComponents .binary64 s (BitVec.ofNat 11 biased) (BitVec.ofNat 52 m) := by
    simp only [UnpackedFloat.pack, hnat]
    rw [if_neg (show ¬ 2 ^ 11 ≤ biased + 1 by omega),
      if_pos (show m.log2 + 1 = Format.binary64.mantissaBits from congrArg (· + 1) hlog)]
  -- the two fields hold what was put into them
  have hexponent : (BitVec.ofNat 11 biased).toNat = biased := by
    rw [BitVec.toNat_ofNat, Nat.mod_eq_of_lt (by omega)]
  have hmantissa : (1#1 ++ BitVec.ofNat 52 m).toNat = m := by
    obtain ⟨hlow, hhigh⟩ := (log2_eq_iff hpos.ne').mp hlog
    rw [append_implicit, BitVec.toNat_ofNat]
    omega
  have hzero : BitVec.ofNat 11 biased ≠ 0#11 := fun h => by
    rw [h, BitVec.toNat_zero] at hexponent
    omega
  have hones : BitVec.ofNat 11 biased ≠ -1#11 := fun h => by
    rw [h, show (-1#11).toNat = 2047 from rfl] at hexponent
    omega
  have hunpack := unpack_packComponents (s := s) (b := BitVec.ofNat 52 m) hzero hones
  simp only [hexponent, hmantissa] at hunpack
  calc (Float.Model.pack (.finite s m e hpos)).unpack
      = UnpackedFloat.unpack .binary64 (packComponents .binary64 s (BitVec.ofNat 11 biased) (BitVec.ofNat 52 m)) :=
        congrArg (UnpackedFloat.unpack .binary64) hpack
    _ = .finite s m e hpos := by
        rw [hunpack]
        congr 1
        omega

/-- A power that is too large for a double makes it infinite. -/
theorem unpack_pack_of_lt {s : Sign} {e : Int} (hpos : 0 < m) (hmax : 971 < e) :
    (Float.Model.pack (.finite s m e hpos)).unpack = .infinity s := by
  have hlarge : 2 ^ Format.binary64.exponentBits ≤
      (e + (Format.binary64.exponentBias : Int) + (Format.binary64.mantissaBitsWithoutImplicit : Int)).toNat + 1 := by
    have hbias :
        (Format.binary64.exponentBias : Int) + (Format.binary64.mantissaBitsWithoutImplicit : Int) = 1075 := rfl
    have hbits : 2 ^ Format.binary64.exponentBits = 2048 := rfl
    omega
  have hpack : UnpackedFloat.pack .binary64 (.finite s m e hpos) = packedInfinity .binary64 s := if_pos hlarge
  calc (Float.Model.pack (.finite s m e hpos)).unpack
      = UnpackedFloat.unpack .binary64 (packedInfinity .binary64 s) := congrArg (UnpackedFloat.unpack .binary64) hpack
    _ = .infinity s := by
        cases s <;> rfl

/-- Rounding to a power in range gives a significand of 53 bits. -/
theorem unpack_pack_roundWithAccuracy {s : Sign} {e : Int} (hm : m ≠ 0) (hlog : m.log2 = 52 + k) (hmin : -1074 ≤ e + k)
    (hmax : e + k < 971) :
    ∃ (m' : Nat) (e' : Int) (hpos : 0 < m'), m'.log2 = 52 ∧ e + k ≤ e' ∧ e' ≤ e + k + 1 ∧
      (Float.Model.pack (roundWithAccuracy .binary64 s m e .exact)).unpack = .finite s m' e' hpos := by
  obtain ⟨m', hpos, hlog', heq⟩ := roundWithAccuracy_eq (s := s) hm hlog hmin
  rw [heq]
  refine ⟨m', _, hpos, hlog', ?_, ?_, unpack_pack_of_le hpos hlog' ?_ ?_⟩ <;> split <;> omega

/-- A rounded number is a double exactly if its power is in range. -/
theorem isFinite_roundWithAccuracy {s : Sign} {e : Int} (hm : m ≠ 0) (hlog : m.log2 = 52 + k) (hmin : -1074 ≤ e + k) :
    (Float.Model.pack (roundWithAccuracy .binary64 s m e .exact)).unpack.isFinite = true ↔
      (if (whole m >>> k).roundedMantissa = 2 ^ 53 then e + k + 1 else e + k) ≤ 971 := by
  obtain ⟨m', hpos, hlog', heq⟩ := roundWithAccuracy_eq (s := s) hm hlog hmin
  rw [heq]
  by_cases hmax : (if (whole m >>> k).roundedMantissa = 2 ^ 53 then e + k + 1 else e + k) ≤ 971
  · rw [unpack_pack_of_le hpos hlog' (by split <;> omega) hmax]
    exact iff_of_true rfl hmax
  · rw [unpack_pack_of_lt hpos (by omega)]
    exact iff_of_false Bool.false_ne_true hmax

/-- The power that a significand of `54 + k` bits is rounded to stays below a limit exactly if the significand does not
carry beyond it. -/
theorem power_le_iff (K : Nat) (hm : m ≠ 0) (hlog : m.log2 = 52 + (k + 1)) :
    (if 2 ^ (54 + k) - 2 ^ k ≤ m then (k : Int) + 2 else k + 1) ≤ K + 1 ↔ m < 2 ^ (54 + K) - 2 ^ K := by
  obtain ⟨hlow, hhigh⟩ := (log2_eq_iff hm).mp hlog
  have hsplit : 2 ^ (54 + K) = 2 ^ 54 * 2 ^ K := Nat.pow_add ..
  obtain hk | rfl | hk : k < K ∨ k = K ∨ K < k := by omega
  · have hbelow : m < 2 ^ 53 * 2 ^ K := calc
      m < 2 ^ (52 + (k + 1) + 1) := hhigh
      _ ≤ 2 ^ (53 + K) := Nat.pow_le_pow_right (by decide) (by omega)
      _ = 2 ^ 53 * 2 ^ K := Nat.pow_add ..
    refine iff_of_true ?_ (by omega)
    split <;> omega
  · split <;> omega
  · have habove : 2 ^ (54 + K) ≤ m := calc
      2 ^ (54 + K) ≤ 2 ^ (52 + (k + 1)) := Nat.pow_le_pow_right (by decide) (by omega)
      _ ≤ m := hlow
    refine iff_of_false ?_ (by omega)
    split <;> omega

theorem log2_mul_two_pow (hm : m ≠ 0) (j : Nat) : (m * 2 ^ j).log2 = m.log2 + j := by
  induction j with
  | zero => rw [Nat.pow_zero, Nat.mul_one, Nat.add_zero]
  | succ j ih =>
      have hstep : m * 2 ^ (j + 1) = 2 * (m * 2 ^ j) := by
        rw [Nat.pow_succ, Nat.mul_comm 2, Nat.mul_assoc]
      rw [hstep, Nat.log2_two_mul (by positivity), ih, Nat.add_assoc]

/-- An integer of at most 53 bits is widened to a significand of 53. -/
theorem ofUInt64_eq (hm : m ≠ 0) (hlog : m.log2 + k = 52) :
    UnpackedFloat.ofUInt64 .binary64 m.toUInt64 = roundWithAccuracy .binary64 .positive (m * 2 ^ k) (-k) .exact := by
  obtain ⟨-, hhigh⟩ := (log2_eq_iff hm).mp rfl
  have hword : m.toUInt64.toNat = m := by
    have hle : 2 ^ (m.log2 + 1) ≤ 2 ^ 53 := Nat.pow_le_pow_right (by decide) (by omega)
    exact Nat.mod_eq_of_lt (by omega)
  have hsign : compare (m : Int) 0 = .gt := by
    rw [compare_gt_iff_gt]
    omega
  have htarget : Format.binary64.targetExponent (totalExponent m 0) = -k := by
    simp only [Format.targetExponent, totalExponent, Format.mantissaBits, Format.minExponent]
    norm_num
    omega
  rw [UnpackedFloat.ofUInt64, hword, UnpackedFloat.ofNat, UnpackedFloat.ofInt,
    Float.Model.UnpackedFloat.normalize, hsign]
  simp only [Float.Model.UnpackedFloat.round, Int.toNat_natCast, htarget, decreaseExponent]
  rw [show ((0 : Int) - -k).toNat = k by omega, Nat.shiftLeft_eq, Int.zero_sub]

/-- Integers of at most 53 bits are doubles. -/
theorem isFinite_ofScientific_of_lt (hm : m < 2 ^ 53) : (Float.ofScientific m false 0).isFinite = true := by
  by_cases hm0 : m = 0
  · rw [hm0]
    rfl
  obtain ⟨k, hlog⟩ : ∃ k, m.log2 + k = 52 := by
    have hlt : m.log2 < 53 := (Nat.log2_lt hm0).mpr hm
    exact ⟨52 - m.log2, by omega⟩
  -- the widened significand, times one
  have hwide : (m * 2 ^ k).log2 = 52 + 0 := by rw [log2_mul_two_pow hm0, hlog]
  obtain ⟨m', e, hpos, hlog', hleast, hmost, hrounded⟩ :=
    unpack_pack_roundWithAccuracy (s := .positive) (e := -k) (by positivity) hwide (by omega) (by omega)
  have hword : m.toUInt64.toFloat.toModel.unpack = .finite .positive m' e hpos :=
    (congrArg (fun x => (Float.Model.pack x).unpack) (ofUInt64_eq hm0 hlog)).trans hrounded
  have hone : (Float.ofBits 0x3FF0000000000000).toModel.unpack = .finite .positive (2 ^ 52) (-52) (by decide) := rfl
  have hproduct : (Float.ofScientific m false 0).toModel = Float.Model.pack (UnpackedFloat.mul .binary64
      m.toUInt64.toFloat.toModel.unpack (Float.ofBits 0x3FF0000000000000).toModel.unpack) := by
    rw [show Float.ofScientific m false 0 = m.toUInt64.toFloat * Float.ofBits 0x3FF0000000000000 from
      dif_pos ⟨hm, by decide⟩]
    rfl
  have hlogProduct : (m' * 2 ^ 52).log2 = 52 + 52 := by rw [log2_mul_two_pow hpos.ne', hlog']
  obtain ⟨_, _, _, -, -, -, hfinite⟩ := unpack_pack_roundWithAccuracy (s := .positive) (e := e + -52) (by positivity)
    hlogProduct (by omega) (by omega)
  rw [Float.isFinite, Float.Model.isFinite, hproduct, hword, hone]
  exact congrArg UnpackedFloat.isFinite hfinite

/-- An integer of more bits is one unless it is rounded to a power of two that is not. -/
theorem isFinite_ofScientific_of_le (hm : 2 ^ 53 ≤ m) :
    (Float.ofScientific m false 0).isFinite = true ↔ m < 2 ^ (54 + 970) - 2 ^ 970 := by
  obtain ⟨k, hlog⟩ : ∃ k, m.log2 = 52 + (k + 1) := by
    have hle : 53 ≤ m.log2 := (Nat.le_log2 (by omega)).mpr hm
    exact ⟨m.log2 - 53, by omega⟩
  have hm0 : m ≠ 0 := by omega
  have hslow : Float.ofScientific m false 0 = .ofModel (Float.Model.pack
      (roundWithAccuracy .binary64 .positive ((m <<< 53) * 1) (-53) .exact)) := by
    rw [Float.ofScientific, dif_neg (by omega)]
    have hsmall : ¬ (0 : Int) < -(2 ^ 11 + (m.log2 : Int)) := by omega
    simp only [Bool.false_eq_true, if_false, Float.Model.ofScientific, UnpackedFloat.ofScientific, dif_neg hm0]
    rw [if_neg (by decide), if_neg (show ¬ Int.ofNat 0 < -(2 ^ 11 + (m.log2 : Int)) from hsmall), if_pos (by decide)]
    rfl
  have hproduct : (m <<< 53) * 1 = m * 2 ^ 53 := by rw [Nat.mul_one, Nat.shiftLeft_eq]
  have hshifted0 : m * 2 ^ 53 ≠ 0 := by omega
  have hshifted : (m * 2 ^ 53).log2 = 52 + (k + 53 + 1) := by
    rw [log2_mul_two_pow hm0, hlog]
    omega
  have hcarry : 2 ^ (54 + (k + 53)) - 2 ^ (k + 53) ≤ m * 2 ^ 53 ↔ 2 ^ (54 + k) - 2 ^ k ≤ m := by
    rw [← Nat.add_assoc, Nat.pow_add 2 (54 + k), Nat.pow_add 2 k, ← Nat.sub_mul]
    exact Nat.mul_le_mul_right_iff (by decide)
  have hround := isFinite_roundWithAccuracy (s := .positive) (e := -53) hshifted0 hshifted (by omega)
  simp only [carries_iff hshifted0 hshifted, hcarry] at hround
  rw [hslow, hproduct]
  refine hround.trans (Iff.trans ?_ (power_le_iff 970 hm0 hlog))
  split <;> omega

theorem isFinite_ofScientific_iff : (Float.ofScientific m false 0).isFinite = true ↔ m < 2 ^ (54 + 970) - 2 ^ 970 := by
  by_cases hm : m < 2 ^ 53
  · have hroom : ∀ K : Nat, 2 ^ 53 ≤ 2 ^ (54 + K) - 2 ^ K := fun K => by
      have hsplit : 2 ^ (54 + K) = 2 ^ 54 * 2 ^ K := Nat.pow_add ..
      have hpos : 0 < 2 ^ K := by positivity
      omega
    exact iff_of_true (isFinite_ofScientific_of_lt hm) (Nat.lt_of_lt_of_le hm (hroom 970))
  · exact isFinite_ofScientific_of_le (Nat.not_lt.mp hm)

/-- No double is near an integer that is half a unit in the last place below `2 ^ 1024` or beyond. -/
theorem ofInt?_eq_none_iff {n : Int} : ofInt? n = none ↔ 2 ^ 1024 - 2 ^ 970 ≤ n.natAbs := by
  rw [show 1024 = 54 + 970 from rfl, ← Nat.not_lt, ← isFinite_ofScientific_iff, ofInt?]
  split
  · rename_i hfinite
    exact iff_of_false nofun (not_not_intro hfinite)
  · rename_i hinfinite
    exact iff_of_true rfl hinfinite

end PeripheralLink.Number
