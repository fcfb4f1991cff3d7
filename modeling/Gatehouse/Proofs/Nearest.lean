import Gatehouse.Decimal.Estimate
import Gatehouse.Proofs.Rounded

/-! Sixty-four bits as exact numbers, and the number that a decimal gives. Every number is made of
    its sign and its magnitude, and only what is infinite or no number has none. A decimal around a
    magnitude gives the number with this magnitude: a short one by a single product or quotient of
    two exact numbers, and any other by exact arithmetic that is rounded once. -/

namespace Gatehouse.Decimal

open Float.Model Float.Model.UnpackedFloat

variable {m n : ℕ} {k : ℤ} {b : Binary} {x : Float}

/-! ### Floating-point numbers -/

theorem sign_packed (s : Sign) (ev : BitVec 11) (mv : BitVec 52) :
    Sign.ofBitVec (unpackSign (packComponents .binary64 s ev mv)) = s := by
  rw [unpackSign_packComponents, Sign.ofBitVec_toBitVec]

/-- The exponents of numbers, counted from that of the least ones. -/
theorem exponentBias_binary64 : ((Format.binary64.exponentBias : ℕ) : ℤ) = 1023 := rfl

/-- The units of a magnitude with all its digits are packed without the leading one. -/
theorem leading_append (low : 2 ^ 52 ≤ n) (high : n < 2 ^ 53) :
    (1#1 ++ BitVec.ofNat 52 n).toNat = n := by
  rw [BitVec.toNat_append, ← Nat.shiftLeft_add_eq_or_of_lt (BitVec.ofNat 52 n).isLt,
    BitVec.toNat_ofNat, Nat.shiftLeft_eq]
  simp
  omega

/-- A magnitude with all its digits is unpacked as it was packed. -/
theorem unpack_pack_full (hb : b.IsCanonical) (full : 2 ^ 52 ≤ b.units) (s : Sign) :
    (Float.Model.pack (.finite s b.units b.scale hb.pos)).unpack =
      .finite s b.units b.scale hb.pos := by
  obtain ⟨pos, bound, least, greatest, -, -⟩ := hb
  have digits : b.units.log2 = 52 := by
    have := (Nat.le_log2 pos.ne').mpr full
    have := (Nat.log2_lt pos.ne').mpr bound
    omega
  have biased : (b.scale + Format.binary64.exponentBias +
      Format.binary64.mantissaBitsWithoutImplicit).toNat = (b.scale + 1075).toNat := by
    rw [exponentBias_binary64]
    congr 1
    push_cast
    ring
  have exponent : (BitVec.ofNat 11 (b.scale + 1075).toNat).toNat = (b.scale + 1075).toNat := by
    rw [BitVec.toNat_ofNat]
    omega
  have notTop : BitVec.ofNat 11 (b.scale + 1075).toNat ≠ -1#11 := by
    intro h
    have := congrArg BitVec.toNat h
    rw [exponent] at this
    simp at this
    omega
  have notLeast : BitVec.ofNat 11 (b.scale + 1075).toNat ≠ 0#11 := by
    intro h
    have := congrArg BitVec.toNat h
    rw [exponent] at this
    simp at this
    omega
  have implicit : 52 + 1 = Format.binary64.mantissaBits := rfl
  show UnpackedFloat.unpack .binary64 (UnpackedFloat.pack .binary64 _) = _
  rw [UnpackedFloat.pack]
  simp only [digits, biased]
  rw [if_neg (by omega), if_pos implicit, UnpackedFloat.unpack]
  simp only [unpackMantissa_packComponents, unpackExponent_packComponents, sign_packed]
  rw [if_neg notTop, if_neg notLeast]
  simp only [exponent, leading_append full bound, exponentBias_binary64]
  congr 1
  omega

theorem unpack_pack_few (hb : b.IsCanonical) (few : b.units < 2 ^ 52) (s : Sign) :
    (Float.Model.pack (.finite s b.units b.scale hb.pos)).unpack =
      .finite s b.units b.scale hb.pos := by
  have scale := hb.full.resolve_right (Nat.not_le.mpr few)
  have digits : ¬ b.units.log2 + 1 = Format.binary64.mantissaBits := by
    have := (Nat.log2_lt hb.pos.ne').mpr few
    simp only [Format.mantissaBits]
    omega
  have kept : (BitVec.ofNat 52 b.units).toNat = b.units := by
    rw [BitVec.toNat_ofNat]
    omega
  have some : BitVec.ofNat 52 b.units ≠ 0#52 := by
    intro h
    have zero := congrArg BitVec.toNat h
    rw [kept] at zero
    exact hb.pos.ne' zero
  show UnpackedFloat.unpack .binary64 (UnpackedFloat.pack .binary64 _) = _
  rw [UnpackedFloat.pack]
  simp only [scale]
  rw [if_neg (by decide), if_neg digits, UnpackedFloat.unpack]
  simp only [unpackMantissa_packComponents, unpackExponent_packComponents, sign_packed]
  rw [if_neg (by decide), if_pos trivial, dif_neg some]
  simp only [kept]
  congr 1

/-- What is packed as a magnitude is unpacked as it. -/
theorem unpack_pack (hb : b.IsCanonical) (s : Sign) :
    (Float.Model.pack (.finite s b.units b.scale hb.pos)).unpack =
      .finite s b.units b.scale hb.pos := by
  rcases Nat.lt_or_ge b.units (2 ^ 52) with few | full
  · exact unpack_pack_few hb few s
  · exact unpack_pack_full hb full s

/-- The positive number with a magnitude. -/
def Binary.positive (b : Binary) (hb : b.IsCanonical) : Float :=
  ⟨Float.Model.pack (.finite .positive b.units b.scale hb.pos)⟩

theorem Binary.around_self (b : Binary) : b.Around (b.units * 2 ^ b.scale) := by
  have value : (b.units * 2 ^ b.scale : ℚ) / 2 ^ b.scale = b.units := by field_simp
  rw [Around, value]
  refine ⟨.inl ?_, .inl (by linarith)⟩
  split <;> linarith

/-- A natural number as a magnitude, written out to fifty-three binary digits. -/
def Binary.ofNat (n : ℕ) : Binary :=
  ⟨n * 2 ^ (52 - n.log2), n.log2 - 52, n * 2 ^ (52 - n.log2) = 2 ^ 52⟩

theorem Binary.isCanonical_ofNat (pos : 0 < n) (bound : n < 2 ^ 53) : (ofNat n).IsCanonical := by
  have digits : n.log2 ≤ 52 := by
    have := (Nat.log2_lt pos.ne').mpr bound
    omega
  have low : 2 ^ 52 ≤ n * 2 ^ (52 - n.log2) := by
    calc 2 ^ 52 = 2 ^ n.log2 * 2 ^ (52 - n.log2) := by rw [← pow_add, Nat.add_sub_of_le digits]
      _ ≤ n * 2 ^ (52 - n.log2) := by
        gcongr
        exact Nat.log2_self_le pos.ne'
  have high : n * 2 ^ (52 - n.log2) < 2 ^ 53 := by
    calc n * 2 ^ (52 - n.log2) < 2 ^ (n.log2 + 1) * 2 ^ (52 - n.log2) := by
          gcongr
          exact Nat.lt_log2_self
      _ = 2 ^ 53 := by
          rw [← pow_add]
          congr 1
          omega
  refine ⟨?_, high, ?_, ?_, .inr low, ?_⟩
  · show 0 < n * 2 ^ (52 - n.log2)
    positivity
  · show -1074 ≤ (n.log2 : ℤ) - 52
    omega
  · show (n.log2 : ℤ) - 52 ≤ 971
    omega
  · show decide (n * 2 ^ (52 - n.log2) = 2 ^ 52) = true ↔ _ ∧ -1074 < (n.log2 : ℤ) - 52
    rw [decide_eq_true_eq]
    exact ⟨fun h => ⟨h, by omega⟩, fun h => h.1⟩

theorem Binary.ofNat_value (bound : n < 2 ^ 53) :
    ((ofNat n).units * 2 ^ (ofNat n).scale : ℚ) = n := by
  have digits : n.log2 ≤ 52 := by
    by_cases zero : n = 0
    · simp [zero]
    · have := (Nat.log2_lt zero).mpr bound
      omega
  show ((n * 2 ^ (52 - n.log2) : ℕ) : ℚ) * 2 ^ ((n.log2 : ℤ) - 52) = n
  have cancel : (2 : ℚ) ^ (52 - n.log2) * 2 ^ ((n.log2 : ℤ) - 52) = 1 := by
    rw [← zpow_natCast, ← zpow_add₀ two_ne_zero, Nat.cast_sub digits]
    simp
  push_cast
  rw [mul_assoc, cancel, mul_one]

/-- A natural number of fifty-three binary digits is not rounded. -/
theorem unpack_toFloat (pos : 0 < n) (bound : n < 2 ^ 53) :
    n.toUInt64.toFloat.toModel.unpack =
      .finite .positive (Binary.ofNat n).units (Binary.ofNat n).scale
        (Binary.isCanonical_ofNat pos bound).pos := by
  have hb := Binary.isCanonical_ofNat pos bound
  have word : n.toUInt64.toNat = n := by
    rw [Nat.toUInt64_eq, UInt64.toNat_ofNat']
    omega
  have whole : n.toUInt64.toFloat.toModel =
      Float.Model.pack (UnpackedFloat.ofInt .binary64 (n.toUInt64.toNat : ℤ)) := rfl
  have around : (Binary.ofNat n).Around n := by
    have self := (Binary.ofNat n).around_self
    rwa [Binary.ofNat_value bound] at self
  have exact : UnpackedFloat.ofInt .binary64 (n : ℤ) =
      .finite .positive (Binary.ofNat n).units (Binary.ofNat n).scale hb.pos := by
    have cmp : compare (n : ℤ) 0 = .gt := compare_gt_iff_gt.mpr (by omega)
    rw [UnpackedFloat.ofInt, UnpackedFloat.normalize, cmp]
    simp only [Int.toNat_natCast, UnpackedFloat.round, targetExponent_binary64, decreaseExponent]
    have down : (0 - max (n.log2 + 0 - 52 : ℤ) (-1074)).toNat = 52 - n.log2 := by omega
    have digits : n.log2 ≤ 52 := by
      have := (Nat.log2_lt pos.ne').mpr bound
      omega
    have exponent : (0 - (52 - n.log2 : ℕ) : ℤ) = (n.log2 : ℤ) - 52 := by omega
    rw [down, Nat.shiftLeft_eq, exponent]
    refine roundWithAccuracy_around around hb _ ?_ ?_
    · simp only [LiesAt]
      rw [div_eq_iff (by positivity)]
      exact (Binary.ofNat_value bound).symm
    · have full := hb.full.resolve_left (show (n.log2 : ℤ) - 52 ≠ -1074 by omega)
      have := (Nat.le_log2 hb.pos.ne').mpr full
      have units : (Binary.ofNat n).units = n * 2 ^ (52 - n.log2) := rfl
      rw [units] at this
      omega
  rw [whole, word, exact, unpack_pack hb]

/-- Whether an unpacked number is a power of ten: a power of five, with the twos in its scale. -/
def isPowerOfTen (i : ℕ) : UnpackedFloat → Bool
  | .finite .positive m e _ =>
    m = (Binary.ofNat (5 ^ i)).units && e = (Binary.ofNat (5 ^ i)).scale + i
  | _ => false

theorem powersOfTen_exact :
    ∀ i : Fin 23, isPowerOfTen i Float.exactlyRepresentablePowersOfTen[i].toModel.unpack := by
  decide

/-! ### Decimals -/

theorem unpack_powerOfTen {i : ℕ} (h : i < Float.exactlyRepresentablePowersOfTen.size) :
    ∃ pos, Float.exactlyRepresentablePowersOfTen[i].toModel.unpack =
      .finite .positive (Binary.ofNat (5 ^ i)).units ((Binary.ofNat (5 ^ i)).scale + i) pos := by
  have exact := powersOfTen_exact ⟨i, h⟩
  simp only [Fin.getElem_fin] at exact
  generalize Float.exactlyRepresentablePowersOfTen[i].toModel.unpack = x at *
  unfold isPowerOfTen at exact
  split at exact
  case h_1 units scale pos =>
    simp only [Bool.and_eq_true, decide_eq_true_eq] at exact
    obtain ⟨rfl, rfl⟩ := exact
    exact ⟨pos, rfl⟩
  case h_2 => cases exact

/-- The powers of ten at hand have at most fifty-three binary digits, but for their twos. -/
theorem powerOfFive_bound {i : ℕ} (h : i < 23) : 5 ^ i < 2 ^ 53 :=
  (Nat.pow_le_pow_right (by decide) (by omega : i ≤ 22)).trans_lt (by decide)

theorem powerOfTen_value {i : ℕ} (h : i < 23) :
    ((Binary.ofNat (5 ^ i)).units * 2 ^ ((Binary.ofNat (5 ^ i)).scale + i) : ℚ) = 10 ^ i := by
  rw [zpow_add₀ two_ne_zero, ← mul_assoc, Binary.ofNat_value (powerOfFive_bound h), zpow_natCast]
  push_cast
  rw [← mul_pow]
  norm_num

theorem Binary.full_ofNat (pos : 0 < n) (bound : n < 2 ^ 53) : 2 ^ 52 ≤ (ofNat n).units := by
  have digits : n.log2 ≤ 52 := by
    have := (Nat.log2_lt pos.ne').mpr bound
    omega
  refine (isCanonical_ofNat pos bound).full.resolve_left ?_
  show (n.log2 : ℤ) - 52 ≠ -1074
  omega

/-- A short decimal with a negative exponent is a quotient of two exact numbers. -/
theorem ofScientific_quotient (hb : b.IsCanonical) (pos : 0 < m) (bound : m < 2 ^ 53)
    (inside : k.natAbs < Float.exactlyRepresentablePowersOfTen.size) (negative : k < 0)
    (h : b.Around (m * 10 ^ k)) :
    m.toUInt64.toFloat / Float.exactlyRepresentablePowersOfTen[k.natAbs] = b.positive hb := by
  obtain ⟨_, power⟩ := unpack_powerOfTen inside
  have value : (m * 10 ^ k : ℚ) = (Binary.ofNat m).units * 2 ^ (Binary.ofNat m).scale /
      ((Binary.ofNat (5 ^ k.natAbs)).units *
        2 ^ ((Binary.ofNat (5 ^ k.natAbs)).scale + k.natAbs)) := by
    rw [powerOfTen_value inside, Binary.ofNat_value bound, div_eq_mul_inv, ← zpow_natCast,
      ← zpow_neg]
    congr 2
    omega
  rw [value] at h
  show Float.ofModel (Float.Model.pack (UnpackedFloat.div .binary64 _ _)) = _
  rw [unpack_toFloat pos bound, power, div_around hb h]
  rfl

theorem ofScientific_product (hb : b.IsCanonical) (pos : 0 < m) (bound : m < 2 ^ 53)
    (inside : k.natAbs < Float.exactlyRepresentablePowersOfTen.size) (natural : 0 ≤ k)
    (h : b.Around (m * 10 ^ k)) :
    m.toUInt64.toFloat * Float.exactlyRepresentablePowersOfTen[k.natAbs] = b.positive hb := by
  obtain ⟨power_pos, power⟩ := unpack_powerOfTen inside
  have value : (m * 10 ^ k : ℚ) = (Binary.ofNat m).units * 2 ^ (Binary.ofNat m).scale *
      ((Binary.ofNat (5 ^ k.natAbs)).units *
        2 ^ ((Binary.ofNat (5 ^ k.natAbs)).scale + k.natAbs)) := by
    rw [powerOfTen_value inside, Binary.ofNat_value bound, ← zpow_natCast]
    congr 2
    omega
  rw [value] at h
  have long : 2 ^ 52 ≤ (Binary.ofNat m).units * (Binary.ofNat (5 ^ k.natAbs)).units :=
    (Binary.full_ofNat pos bound).trans (Nat.le_mul_of_pos_right _ power_pos)
  show Float.ofModel (Float.Model.pack (UnpackedFloat.mul .binary64 _ _)) = _
  rw [unpack_toFloat pos bound, power, mul_around hb h long]
  rfl

/-- Any other decimal is rounded once. -/
theorem ofScientific_rounded (hb : b.IsCanonical) (pos : 0 < m) (h : b.Around (m * 10 ^ k))
    (low : -(2048 + m.log2) ≤ k) (high : k ≤ 2048) :
    UnpackedFloat.ofScientific .binary64 m k = .finite .positive b.units b.scale hb.pos := by
  have range : (2 : ℤ) ^ Format.binary64.exponentBits = 2048 := rfl
  have width : Format.binary64.mantissaBits = 53 := rfl
  rw [UnpackedFloat.ofScientific, dif_neg pos.ne', range, if_neg (by omega), if_neg (by omega)]
  split
  case isTrue natural =>
    refine mul_around hb ?_ ?_
    · rw [width, Nat.shiftLeft_eq]
      obtain ⟨n, rfl⟩ := Int.eq_ofNat_of_zero_le natural
      convert h using 1
      push_cast
      rw [Int.toNat_natCast, zpow_natCast]
      norm_num
      ring
    · rw [width, Nat.shiftLeft_eq]
      calc 2 ^ 52 ≤ 1 * 2 ^ 53 * 1 := by norm_num
        _ ≤ m * 2 ^ 53 * 10 ^ k.toNat := by
          gcongr
          · exact pos
          · exact Nat.one_le_pow _ _ (by decide)
  case isFalse negative =>
    refine div_around hb ?_
    obtain ⟨n, hn⟩ := Int.eq_ofNat_of_zero_le (show 0 ≤ -k by omega)
    obtain rfl : k = -n := by omega
    convert h using 1
    push_cast
    rw [neg_neg, Int.toNat_natCast, zpow_neg, zpow_natCast]
    field_simp

/-- A decimal around a magnitude gives the number with this magnitude. -/
theorem ofScientific_around (hb : b.IsCanonical) (pos : 0 < m) (h : b.Around (m * 10 ^ k))
    (low : -(2048 + m.log2) ≤ k) (high : k ≤ 2048) :
    Float.ofScientific m (k < 0) k.natAbs = b.positive hb := by
  rw [Float.ofScientific]
  split
  case isTrue fast =>
    obtain ⟨bound, few⟩ := fast
    have inside : k.natAbs < Float.exactlyRepresentablePowersOfTen.size := Nat.lt_succ_of_le few
    by_cases negative : k < 0
    · simp only [negative, decide_true, if_true]
      exact ofScientific_quotient hb pos bound inside negative h
    · simp only [negative, decide_false, Bool.false_eq_true, if_false]
      exact ofScientific_product hb pos bound inside (Int.not_lt.mp negative) h
  case isFalse =>
    have exponent : (if decide (k < 0) = true then Int.negOfNat k.natAbs else Int.ofNat k.natAbs) =
        k := by
      by_cases negative : k < 0
      · rw [if_pos (decide_eq_true negative), Int.negOfNat_eq]
        show -(k.natAbs : ℤ) = k
        omega
      · rw [if_neg (by simpa using negative)]
        show (k.natAbs : ℤ) = k
        omega
    simp only [exponent]
    show Float.ofModel (Float.Model.pack _) = _
    rw [ofScientific_rounded hb pos h low high]
    rfl

/-! ### Bits -/

/-- The sign of a number. -/
def signOf (x : Float) : Sign := if isNegative x then .negative else .positive

theorem unpack_bits (x : Float) :
    (@unpackExponent .binary64 x.toModel.toBits.toBitVec).toNat =
        x.toBits.toNat / 2 ^ 52 % 2 ^ 11 ∧
      (@unpackMantissa .binary64 x.toModel.toBits.toBitVec).toNat =
        x.toBits.toNat % 2 ^ 52 ∧
      Sign.ofBitVec (@unpackSign .binary64 x.toModel.toBits.toBitVec) = signOf x := by
  have bits : x.toModel.toBits.toBitVec.toNat = x.toBits.toNat := rfl
  have bound : x.toBits.toNat < 2 ^ 64 := x.toBits.toNat_lt
  refine ⟨?_, ?_, ?_⟩
  · rw [unpackExponent, BitVec.toNat_cast, BitVec.extractLsb, BitVec.extractLsb'_toNat, bits,
      Nat.shiftRight_eq_div_pow]
    rfl
  · rw [unpackMantissa, BitVec.toNat_cast, BitVec.extractLsb, BitVec.extractLsb'_toNat, bits,
      Nat.shiftRight_eq_div_pow]
    simp
  · have top : (@unpackSign .binary64 x.toModel.toBits.toBitVec).toNat =
        x.toBits.toNat / 2 ^ 63 := by
      rw [unpackSign, BitVec.toNat_cast, BitVec.extractLsb, BitVec.extractLsb'_toNat, bits,
        Nat.shiftRight_eq_div_pow]
      show x.toBits.toNat / 2 ^ 63 % 2 ^ 1 = _
      omega
    have negative : isNegative x = decide (x.toBits.toNat / 2 ^ 63 = 1) := rfl
    rw [Sign.ofBitVec, signOf, negative, ← top]
    generalize @unpackSign .binary64 x.toModel.toBits.toBitVec = s
    rcases BitVec.eq_zero_or_eq_one s with rfl | rfl <;> rfl

/-- A number is what its parts are packed to. -/
theorem ofModel_unpack (x : Float) : Float.ofModel (Float.Model.pack x.toModel.unpack) = x := by
  obtain ⟨bits, valid⟩ := x
  have packed : UnpackedFloat.pack .binary64 (UnpackedFloat.unpack .binary64 bits.toBitVec) =
      bits.toBitVec := pack_unpack_of_valid valid
  show Float.ofModel ⟨⟨UnpackedFloat.pack .binary64 _⟩, _⟩ = _
  simp only [Float.Model.unpack, packed]

/-- What has no magnitude is infinite or no number. -/
theorem unpack_of_none (h : Binary.ofFloat? x = none) :
    x.toModel.unpack = .infinity (signOf x) ∨ x.toModel.unpack = .notANumber := by
  obtain ⟨exponent, -, sign⟩ := unpack_bits x
  have top : x.toBits.toNat / 2 ^ 52 % 2 ^ 11 = 2047 := by
    by_contra some
    rw [Binary.ofFloat?] at h
    simp only [Nat.pow_eq, if_neg some] at h
    split at h <;> cases h
  have special : @unpackExponent .binary64 x.toModel.toBits.toBitVec = -1#11 := by
    rw [← BitVec.toNat_inj, exponent, top]
    rfl
  rw [Float.Model.unpack, UnpackedFloat.unpack]
  simp only [special, if_true, sign]
  split
  · exact .inl rfl
  · exact .inr rfl

theorem isCanonical_few {units : ℕ} (pos : 0 < units) (few : units < 2 ^ 52) :
    (⟨units, -1074, false⟩ : Binary).IsCanonical := by
  refine ⟨pos, ?_, le_rfl, ?_, .inl rfl, by simp⟩
  · show units < 2 ^ 53
    omega
  · show (-1074 : ℤ) ≤ 971
    decide

/-- Units with a leading one are canonical at any scale. -/
theorem isCanonical_full {e units : ℕ} (pos : 0 < e) (below : e < 2047) (few : units < 2 ^ 52) :
    (⟨2 ^ 52 + units, e - 1075, units = 0 && 1 < e⟩ : Binary).IsCanonical := by
  refine ⟨?_, ?_, ?_, ?_, .inr ?_, ?_⟩
  · show 0 < 2 ^ 52 + units
    omega
  · show 2 ^ 52 + units < 2 ^ 53
    omega
  · show -1074 ≤ (e : ℤ) - 1075
    omega
  · show (e : ℤ) - 1075 ≤ 971
    omega
  · show 2 ^ 52 ≤ 2 ^ 52 + units
    omega
  · show (decide (units = 0) && decide (1 < e)) = true ↔
      2 ^ 52 + units = 2 ^ 52 ∧ -1074 < (e : ℤ) - 1075
    simp only [Bool.and_eq_true, decide_eq_true_eq]
    omega

/-- A magnitude of no units is that of zero, and any other is canonical. -/
theorem unpack_of_some (h : Binary.ofFloat? x = some b) :
    b.units = 0 ∧ x.toModel.unpack = .zero (signOf x) ∨
      ∃ hb : b.IsCanonical, x.toModel.unpack = .finite (signOf x) b.units b.scale hb.pos := by
  obtain ⟨exponent, mantissa, sign⟩ := unpack_bits x
  have below : x.toBits.toNat / 2 ^ 52 % 2 ^ 11 < 2 ^ 11 := Nat.mod_lt _ (by decide)
  have less : x.toBits.toNat % 2 ^ 52 < 2 ^ 52 := Nat.mod_lt _ (by decide)
  rw [Binary.ofFloat?] at h
  simp only [Nat.pow_eq] at h
  rw [Float.Model.unpack, UnpackedFloat.unpack]
  simp only [sign]
  generalize x.toBits.toNat / 2 ^ 52 % 2 ^ 11 = e at *
  generalize x.toBits.toNat % 2 ^ 52 = f at *
  set ev := @unpackExponent .binary64 x.toModel.toBits.toBitVec
  set mv := @unpackMantissa .binary64 x.toModel.toBits.toBitVec
  have top : ev = -1#11 ↔ e = 2047 := by
    rw [← BitVec.toNat_inj, exponent]
    rfl
  have least : ev = 0#11 ↔ e = 0 := by
    rw [← BitVec.toNat_inj, exponent]
    rfl
  have none : mv = 0#52 ↔ f = 0 := by
    rw [← BitVec.toNat_inj, mantissa]
    rfl
  split at h
  · cases h
  case isFalse notTop =>
  rw [if_neg (mt top.mp notTop)]
  split at h
  case isTrue zero =>
    cases h
    rw [if_pos (least.mpr zero)]
    by_cases empty : f = 0
    · rw [dif_pos (none.mpr empty)]
      exact .inl ⟨empty, rfl⟩
    · rw [dif_neg (mt none.mp empty)]
      refine .inr ⟨isCanonical_few (Nat.pos_of_ne_zero empty) less, ?_⟩
      simp only [exponent, zero]
      congr 1
  case isFalse some =>
    cases h
    rw [if_neg (mt least.mp some)]
    refine .inr ⟨isCanonical_full (Nat.pos_of_ne_zero some) (by omega) less, ?_⟩
    have leading : (1#1 ++ mv).toNat = 2 ^ 52 + f := by
      rw [BitVec.toNat_append, ← Nat.shiftLeft_add_eq_or_of_lt mv.isLt, mantissa,
        Nat.shiftLeft_eq]
      rfl
    simp only [exponent]
    congr 1

theorem isInf_of_some (h : Binary.ofFloat? x = some b) : x.isInf = false := by
  show x.toModel.unpack.isInf = false
  obtain ⟨-, unpacked⟩ | ⟨hb, unpacked⟩ := unpack_of_some h
  · rw [unpacked]
    rfl
  · rw [unpacked]
    rfl

theorem neg_positive (hb : b.IsCanonical) :
    -b.positive hb =
      Float.ofModel (Float.Model.pack (.finite .negative b.units b.scale hb.pos)) := by
  show Float.ofModel (Float.Model.pack (Float.Model.pack _).unpack.neg) = _
  rw [unpack_pack hb]
  rfl

/-- A number is that of its magnitude, with its sign. -/
theorem eq_of_canonical (h : Binary.ofFloat? x = some b) (some : b.units ≠ 0) :
    ∃ hb : b.IsCanonical, x = if isNegative x then -b.positive hb else b.positive hb := by
  obtain ⟨zero, -⟩ | ⟨hb, unpacked⟩ := unpack_of_some h
  · exact absurd zero some
  refine ⟨hb, ?_⟩
  rw [neg_positive]
  have packed := ofModel_unpack x
  rw [unpacked, signOf] at packed
  nth_rewrite 1 [← packed]
  split <;> rfl

theorem eq_of_zero (h : Binary.ofFloat? x = some b) (zero : b.units = 0) :
    x = if isNegative x then -0.0 else 0.0 := by
  obtain ⟨-, unpacked⟩ | ⟨hb, -⟩ := unpack_of_some h
  · have packed := ofModel_unpack x
    rw [unpacked, signOf] at packed
    have positive : (0.0 : Float) = Float.ofModel (Float.Model.pack (.zero .positive)) := by rfl
    have negative : (-0.0 : Float) = Float.ofModel (Float.Model.pack (.zero .negative)) := by rfl
    rw [negative, positive]
    nth_rewrite 1 [← packed]
    split <;> rfl
  · exact absurd zero hb.pos.ne'

/-! ### The nearest number -/

/-- The number that a decimal writes. -/
def Magnitude.value (d : Magnitude) : ℚ := d.digits * 10 ^ d.exponent

/-- A number has as many decimal digits as the power of ten that it is below. -/
theorem digitCount_bounds (pos : 0 < n) :
    0 < digitCount n ∧ 10 ^ (digitCount n - 1) ≤ n ∧ n < 10 ^ digitCount n := by
  have some : 0 < (Nat.toDigits 10 n).length := List.length_pos_of_ne_nil Nat.toDigits_ne_nil
  rw [digitCount, if_neg pos.ne']
  refine ⟨some, ?_, (Nat.length_toDigits_le_iff (by decide) some).mp le_rfl⟩
  by_cases one : (Nat.toDigits 10 n).length = 1
  · rw [one]
    exact pos
  · by_contra less
    have := (Nat.length_toDigits_le_iff (by decide) (by omega)).mpr (Nat.lt_of_not_le less)
    omega

/-- The leading digit of a decimal tells what it is worth. -/
theorem Magnitude.value_bounds {d : Magnitude} (pos : 0 < d.digits) :
    10 ^ (digitCount d.digits + d.exponent - 1 : ℤ) ≤ d.value ∧
      d.value < 10 ^ (digitCount d.digits + d.exponent : ℤ) := by
  obtain ⟨some, low, high⟩ := digitCount_bounds pos
  have first : (digitCount d.digits + d.exponent - 1 : ℤ) =
      ((digitCount d.digits - 1 : ℕ) : ℤ) + d.exponent := by omega
  rw [first, zpow_add₀ (by norm_num), zpow_add₀ (by norm_num), zpow_natCast, zpow_natCast, value]
  constructor
  · gcongr
    exact_mod_cast low
  · gcongr
    exact_mod_cast high

/-- What is around a magnitude is positive, and in the range of all magnitudes. -/
theorem Binary.Around.range {v : ℚ} (h : b.Around v) (hb : b.IsCanonical) :
    2 ^ (-1075 : ℤ) ≤ v ∧ v ≤ 2 ^ (1024 : ℤ) := by
  obtain ⟨low, high⟩ := h.bounds
  have unit : (0 : ℚ) < 2 ^ b.scale := by positivity
  rw [le_div_iff₀ unit] at low
  rw [div_le_iff₀ unit] at high
  have one : (1 : ℚ) ≤ b.units := mod_cast hb.pos
  have most : (b.units : ℚ) + 1 ≤ 2 ^ 53 := mod_cast hb.bound
  constructor
  · calc (2 : ℚ) ^ (-1075 : ℤ) = 1 / 2 * 2 ^ (-1074 : ℤ) := by
          rw [show (-1075 : ℤ) = -1 + -1074 by norm_num, zpow_add₀ two_ne_zero]
          norm_num
      _ ≤ (b.units - 1 / 2) * 2 ^ b.scale := by
        have half : (1 / 2 : ℚ) ≤ b.units - 1 / 2 := by linarith
        gcongr
        · exact one_le_two
        · exact hb.least
      _ ≤ v := low
  · calc v ≤ (b.units + 1 / 2) * 2 ^ b.scale := high
      _ ≤ 2 ^ 53 * 2 ^ (971 : ℤ) := by
        gcongr
        · linarith
        · exact one_le_two
        · exact hb.greatest
      _ = 2 ^ (1024 : ℤ) := by
        rw [show (1024 : ℤ) = 53 + 971 by norm_num, zpow_add₀ two_ne_zero]
        norm_num

/-- The range of all magnitudes is well inside of that of the powers of ten that are considered. -/
theorem range_decimal :
    (10 : ℚ) ^ (-400 : ℤ) < 2 ^ (-1075 : ℤ) ∧ (2 : ℚ) ^ (1024 : ℤ) < 10 ^ (400 : ℤ) := by
  have eights (k : ℤ) : (2 : ℚ) ^ (3 * k) = 8 ^ k := by
    rw [zpow_mul]
    norm_num
  have more : (8 : ℚ) ^ (400 : ℤ) < 10 ^ (400 : ℤ) :=
    zpow_lt_zpow_left₀ (by norm_num) (by norm_num) (by norm_num)
  constructor
  · calc (10 : ℚ) ^ (-400 : ℤ) < 8 ^ (-400 : ℤ) := by
          rw [zpow_neg, zpow_neg]
          gcongr
      _ = 2 ^ (-1200 : ℤ) := (eights (-400)).symm
      _ ≤ 2 ^ (-1075 : ℤ) := zpow_le_zpow_right₀ one_le_two (by norm_num)
  · calc (2 : ℚ) ^ (1024 : ℤ) ≤ 2 ^ (1200 : ℤ) := zpow_le_zpow_right₀ one_le_two (by norm_num)
      _ = 8 ^ (400 : ℤ) := eights 400
      _ < 10 ^ (400 : ℤ) := more

/-- The number nearest to a decimal around a magnitude is the number with this magnitude. -/
theorem nearest_around {d : Magnitude} (hb : b.IsCanonical) (h : b.Around d.value) :
    nearest d = b.positive hb := by
  obtain ⟨least, greatest⟩ := h.range hb
  have some : 0 < d.digits := by
    by_contra none
    have zero : d.value = 0 := by simp [Magnitude.value, Nat.eq_zero_of_not_pos none]
    rw [zero] at least
    exact absurd least (not_le.mpr (by positivity))
  obtain ⟨low, high⟩ := Magnitude.value_bounds some
  have bottom : -400 < (digitCount d.digits + d.exponent : ℤ) := by
    rw [← zpow_lt_zpow_iff_right₀ (show (1 : ℚ) < 10 by norm_num)]
    calc (10 : ℚ) ^ (-400 : ℤ) < 2 ^ (-1075 : ℤ) := range_decimal.1
      _ ≤ d.value := least
      _ < _ := high
  have top : (digitCount d.digits + d.exponent - 1 : ℤ) < 400 := by
    rw [← zpow_lt_zpow_iff_right₀ (show (1 : ℚ) < 10 by norm_num)]
    calc (10 : ℚ) ^ (digitCount d.digits + d.exponent - 1 : ℤ) ≤ d.value := low
      _ ≤ 2 ^ (1024 : ℤ) := greatest
      _ < 10 ^ (400 : ℤ) := range_decimal.2
  have digits : digitCount d.digits - 1 ≤ d.digits.log2 := by
    rw [Nat.le_log2 some.ne']
    exact (Nat.pow_le_pow_left (by decide) _).trans (digitCount_bounds some).2.1
  have range : ¬ (decide (d.digits = 0) ||
      decide ((digitCount d.digits + d.exponent : ℤ) < -400)) = true := by
    simp only [Bool.or_eq_true, decide_eq_true_eq]
    omega
  rw [nearest, if_neg range, if_neg (by omega)]
  exact ofScientific_around hb some h (by omega) (by omega)

/-! ### Never no number -/

/-- What is a number is packed as one. -/
theorem isNaN_pack {u : UnpackedFloat} (h : u.isNaN = false) :
    (Float.Model.pack u).unpack.isNaN = false := by
  have components (s : Sign) {ev : BitVec 11} (mv : BitVec 52) (notTop : ev ≠ -1#11) :
      (UnpackedFloat.unpack .binary64 (packComponents .binary64 s ev mv)).isNaN = false := by
    rw [UnpackedFloat.unpack]
    simp only [unpackExponent_packComponents, unpackMantissa_packComponents]
    rw [if_neg notTop]
    split
    · split <;> rfl
    · rfl
  have infinite (s : Sign) :
      (UnpackedFloat.unpack .binary64 (packedInfinity .binary64 s)).isNaN = false := by
    cases s <;> rfl
  show (UnpackedFloat.unpack .binary64 (UnpackedFloat.pack .binary64 u)).isNaN = false
  cases u with
  | notANumber => cases h
  | infinity s => exact infinite s
  | zero s => exact components s 0 (by decide)
  | finite s m e pos =>
    rw [UnpackedFloat.pack]
    split
    · exact infinite s
    case isFalse inside =>
    split
    · refine components s _ fun top => ?_
      have := congrArg BitVec.toNat top
      rw [BitVec.toNat_ofNat] at this
      simp at this inside
      omega
    · exact components s _ (by decide)

theorem isNaN_roundWithAccuracy (s : Sign) (m : ℕ) (e : ℤ) (a : Accuracy) :
    (roundWithAccuracy .binary64 s m e a).isNaN = false := by
  simp only [roundWithAccuracy]
  split <;> rfl

theorem isNaN_ofScientific (pos : 0 < m) (s : Bool) (e : ℕ) :
    (Float.ofScientific m s e).isNaN = false := by
  rw [Float.ofScientific]
  split
  case isTrue fast =>
    obtain ⟨bound, few⟩ := fast
    have whole := unpack_toFloat pos bound
    have inside : e < Float.exactlyRepresentablePowersOfTen.size := Nat.lt_succ_of_le few
    obtain ⟨power_pos, power⟩ := unpack_powerOfTen inside
    dsimp only
    split
    · refine isNaN_pack ?_
      show (UnpackedFloat.div .binary64 _ _).isNaN = false
      rw [whole, power]
      exact isNaN_roundWithAccuracy ..
    · refine isNaN_pack ?_
      show (UnpackedFloat.mul .binary64 _ _).isNaN = false
      rw [whole, power]
      exact isNaN_roundWithAccuracy ..
  case isFalse =>
    refine isNaN_pack ?_
    generalize (if s = true then Int.negOfNat e else Int.ofNat e) = k
    rw [UnpackedFloat.ofScientific, dif_neg pos.ne']
    split
    · rfl
    split
    · rfl
    split
    · exact isNaN_roundWithAccuracy ..
    · exact isNaN_roundWithAccuracy ..

theorem isNaN_nearest (d : Magnitude) : (nearest d).isNaN = false := by
  unfold nearest
  dsimp only
  split
  · rfl
  case isFalse some =>
  split
  · rfl
  · refine isNaN_ofScientific (Nat.pos_of_ne_zero ?_) ..
    rintro none
    simp [none] at some

theorem isNaN_neg (h : x.isNaN = false) : (-x).isNaN = false := by
  refine isNaN_pack ?_
  have number : x.toModel.unpack.isNaN = false := h
  revert number
  cases x.toModel.unpack <;> exact id

theorem Numeral.isNaN_toFloat (n : Numeral) : n.toFloat.isNaN = false := by
  unfold toFloat
  dsimp only
  split
  · exact isNaN_neg (isNaN_nearest _)
  · exact isNaN_nearest _

theorem Numeral.isNaN_estimated (n : Numeral) : n.estimated.isNaN = false := by
  have magnitude (p : Prop) [Decidable p] (e : Estimate) (d : Magnitude) :
      (if p then e.toFloat else nearest d).isNaN = false := by
    split
    · exact isNaN_nearest _
    · exact isNaN_nearest _
  unfold estimated
  dsimp only
  split
  · exact n.isNaN_toFloat
  split
  · exact isNaN_neg (magnitude ..)
  · exact magnitude ..

theorem ofFloat?_isSome (number : x.isNaN = false) (finite : x.isInf = false) :
    (Binary.ofFloat? x).isSome := by
  rw [Option.isSome_iff_ne_none]
  intro none
  have number : x.toModel.unpack.isNaN = false := number
  have finite : x.toModel.unpack.isInf = false := finite
  rcases unpack_of_none none with infinite | nan
  · rw [infinite] at finite
    cases finite
  · rw [nan] at number
    cases number

end Gatehouse.Decimal
