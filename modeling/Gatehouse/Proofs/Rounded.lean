import Gatehouse.Decimal.Shortest
import Mathlib

/-! Rounding to sixty-four bits. The numbers that round to a magnitude lie around it: at most half a
    unit above and half of the gap below. Arithmetic cuts an exact result down to fifty-three binary
    digits in two steps, and what it cuts off is kept as an accuracy; so a result that lies around a
    magnitude ends as it, also where it is first rounded up to one binary digit more. -/

namespace Gatehouse.Decimal

open Float.Model Float.Model.UnpackedFloat

/-! ### Rounding -/

/-- A number of units lies at `m` or between `m` and the next one, as the accuracy says. -/
def LiesAt (r : ℚ) (m : ℕ) : Accuracy → Prop
  | .exact => r = m
  | .inexact .lt => m < r ∧ r < m + 1 / 2
  | .inexact .eq => r = m + 1 / 2
  | .inexact .gt => m + 1 / 2 < r ∧ r < m + 1

variable {r v : ℚ} {m u : ℕ} {e k : ℤ} {a : Accuracy} {em : ExtendedMantissa} {b : Binary}

theorem LiesAt.bounds (h : LiesAt r m a) : (m : ℚ) ≤ r ∧ r < m + 1 := by
  rcases a with _ | _ | _ | _ <;> simp only [LiesAt] at h <;> constructor <;> linarith

/-- Units of twice the size, and the bit that drops out is kept in the accuracy. -/
theorem liesAt_shiftRightOne (h : LiesAt r em.mantissa em.accuracy) :
    LiesAt (r / 2) em.shiftRightOne.mantissa em.shiftRightOne.accuracy := by
  obtain ⟨m, round, sticky⟩ := em
  have parts : ((m % 2 : ℕ) : ℚ) + 2 * ((m / 2 : ℕ) : ℚ) = m := mod_cast Nat.mod_add_div m 2
  rcases Nat.mod_two_eq_zero_or_one m with bit | bit <;> rw [bit] at parts <;>
    cases round <;> cases sticky <;>
    simp only [ExtendedMantissa.accuracy, LiesAt] at h <;>
    simp only [ExtendedMantissa.shiftRightOne, bit, ExtendedMantissa.accuracy, LiesAt,
      Bool.or_false, Bool.or_true, bne_self_eq_false, Nat.reduceBNe] <;>
    push_cast at parts <;> first | linarith | constructor <;> linarith

theorem liesAt_shiftRight (n : ℕ) (h : LiesAt r em.mantissa em.accuracy) :
    LiesAt (r / 2 ^ n) (em >>> n).mantissa (em >>> n).accuracy := by
  induction n with
  | zero => simpa [HShiftRight.hShiftRight, Nat.repeat] using h
  | succ n ih =>
    have step := liesAt_shiftRightOne ih
    rw [div_div, ← pow_succ] at step
    exact step

theorem ofMantissaAndAccuracy_accuracy (m : ℕ) (a : Accuracy) :
    (ExtendedMantissa.ofMantissaAndAccuracy m a).mantissa = m ∧
      (ExtendedMantissa.ofMantissaAndAccuracy m a).accuracy = a := by
  rcases a with _ | _ | _ | _ <;> exact ⟨rfl, rfl⟩

/-- The unit that fifty-three binary digits leave, but none below the least one. -/
theorem targetExponent_binary64 (m : ℕ) (e : ℤ) :
    Format.binary64.targetExponent (totalExponent m e) = max (m.log2 + e - 52) (-1074) := by
  simp only [Format.targetExponent, totalExponent, Format.mantissaBits, Format.minExponent]
  omega

/-- With a mantissa that is fine enough, the first shift gives units of which there are as many as
    fifty-three binary digits can count. -/
theorem shiftToTargetExponent_liesAt (h : LiesAt (v / 2 ^ e) m a)
    (fine : e ≤ max (m.log2 + e - 52) (-1074)) :
    ∃ em t, shiftToTargetExponent .binary64 m e a = (em, t) ∧ -1074 ≤ t ∧
      LiesAt (v / 2 ^ t) em.mantissa em.accuracy ∧ v / 2 ^ t < 2 ^ 53 ∧
      (t = -1074 ∨ 2 ^ 52 ≤ v / 2 ^ t) := by
  obtain ⟨mantissa, accuracy⟩ := ofMantissaAndAccuracy_accuracy m a
  obtain ⟨low, high⟩ := h.bounds
  have unit : (0 : ℚ) < 2 ^ e := by positivity
  rw [le_div_iff₀ unit] at low
  rw [div_lt_iff₀ unit] at high
  have start : LiesAt (v / 2 ^ e) (ExtendedMantissa.ofMantissaAndAccuracy m a).mantissa
      (ExtendedMantissa.ofMantissaAndAccuracy m a).accuracy := by rwa [mantissa, accuracy]
  obtain ⟨n, hn⟩ := Int.le.dest fine
  have exponent : (2 : ℚ) ^ e * 2 ^ n = 2 ^ max (m.log2 + e - 52) (-1074) := by
    rw [← hn, zpow_add₀ two_ne_zero, zpow_natCast]
  have shifted := liesAt_shiftRight n start
  rw [div_div, exponent] at shifted
  refine ⟨_, _, ?_, le_max_right _ _, shifted, ?_, ?_⟩
  · rw [shiftToTargetExponent, targetExponent_binary64, shiftToExponent]
    have toNat : (max (m.log2 + e - 52) (-1074) - e).toNat = n := by omega
    simp only [toNat, hn]
  · have count : ((m + 1 : ℕ) : ℚ) ≤ 2 ^ (m.log2 + 1) := mod_cast Nat.lt_log2_self
    rw [div_lt_iff₀ (by positivity)]
    calc v < (m + 1) * 2 ^ e := high
      _ ≤ 2 ^ (m.log2 + 1) * 2 ^ e := by
        gcongr
        exact_mod_cast count
      _ = 2 ^ ((m.log2 + 1 : ℕ) + e : ℤ) := by rw [zpow_add₀ two_ne_zero, zpow_natCast]
      _ ≤ 2 ^ (53 + max (m.log2 + e - 52) (-1074)) :=
        zpow_le_zpow_right₀ one_le_two (by omega)
      _ = 2 ^ 53 * 2 ^ max (m.log2 + e - 52) (-1074) := by
        rw [zpow_add₀ two_ne_zero]
        norm_num
  · by_cases least : max (m.log2 + e - 52 : ℤ) (-1074) = -1074
    · exact .inl least
    · right
      have some : m ≠ 0 := by
        rintro rfl
        simp only [Nat.log2_zero] at least fine
        omega
      have count : (2 : ℚ) ^ m.log2 ≤ m := mod_cast Nat.log2_self_le some
      rw [le_div_iff₀ (by positivity)]
      calc (2 : ℚ) ^ 52 * 2 ^ max (m.log2 + e - 52 : ℤ) (-1074)
          = 2 ^ (52 + max (m.log2 + e - 52) (-1074) : ℤ) := by
            rw [zpow_add₀ two_ne_zero]
            norm_num
        _ ≤ 2 ^ (m.log2 + e : ℤ) := zpow_le_zpow_right₀ one_le_two (by omega)
        _ = 2 ^ m.log2 * 2 ^ e := by rw [zpow_add₀ two_ne_zero, zpow_natCast]
        _ ≤ m * 2 ^ e := by gcongr
        _ ≤ v := low

/-! ### The numbers around a binary one -/

/-- The numbers that round to a magnitude. In its units, they are at most half a unit above it, and
    below it at most half of the gap to the next one; just half only where its count of units is
    even. -/
def Binary.Around (b : Binary) (v : ℚ) : Prop :=
  let low : ℚ := if b.narrowBelow then b.units - 1 / 4 else b.units - 1 / 2
  (low < v / 2 ^ b.scale ∨ b.units % 2 = 0 ∧ low = v / 2 ^ b.scale) ∧
    (v / 2 ^ b.scale < b.units + 1 / 2 ∨ b.units % 2 = 0 ∧ v / 2 ^ b.scale = b.units + 1 / 2)

/-- A magnitude as sixty-four bits hold it: it has fifty-three binary digits, or fewer if its unit
    is the least one. -/
structure Binary.IsCanonical (b : Binary) : Prop where
  pos : 0 < b.units
  bound : b.units < 2 ^ 53
  least : -1074 ≤ b.scale
  greatest : b.scale ≤ 971
  full : b.scale = -1074 ∨ 2 ^ 52 ≤ b.units
  narrow : b.narrowBelow = true ↔ b.units = 2 ^ 52 ∧ -1074 < b.scale

theorem Binary.Around.bounds (h : b.Around v) :
    b.units - 1 / 2 ≤ v / 2 ^ b.scale ∧ v / 2 ^ b.scale ≤ b.units + 1 / 2 := by
  obtain ⟨low, high⟩ := h
  constructor
  · split at low <;> rcases low with low | ⟨-, low⟩ <;> linarith
  · rcases high with high | ⟨-, high⟩ <;> linarith

/-- Just half a unit away are only numbers around an even count of units. -/
theorem Binary.Around.even (h : b.Around v)
    (half : v / 2 ^ b.scale = b.units + 1 / 2 ∨ v / 2 ^ b.scale = b.units - 1 / 2) :
    b.units % 2 = 0 := by
  obtain ⟨low, high⟩ := h
  rcases half with half | half
  · rcases high with high | ⟨even, -⟩
    · linarith
    · exact even
  · split at low
    · rcases low with low | ⟨even, -⟩
      · linarith
      · exact even
    · rcases low with low | ⟨even, -⟩
      · linarith
      · exact even

/-- In units of its own, a number around a magnitude is rounded to the count of its units. -/
theorem Binary.Around.rounded (h : b.Around v)
    (lies : LiesAt (v / 2 ^ b.scale) em.mantissa em.accuracy) : em.roundedMantissa = b.units := by
  obtain ⟨low, high⟩ := h.bounds
  have even := h.even
  generalize v / 2 ^ b.scale = r at *
  unfold ExtendedMantissa.roundedMantissa
  generalize em.mantissa = m at *
  generalize em.accuracy = a at *
  rcases a with _ | _ | _ | _ <;> simp only [LiesAt] at lies <;>
    simp only [Accuracy.roundToNearestEven]
  case exact =>
    have above : (m : ℚ) < b.units + 1 := by linarith
    have below : (b.units : ℚ) < m + 1 := by linarith
    norm_cast at above below
    omega
  case inexact.lt =>
    have above : (m : ℚ) < b.units + 1 := by linarith
    have below : (b.units : ℚ) < m + 1 := by linarith
    norm_cast at above below
    omega
  case inexact.eq =>
    have above : (m : ℚ) < b.units + 1 := by linarith
    have below : (b.units : ℚ) < m + 2 := by linarith
    norm_cast at above below
    rcases (show m = b.units ∨ m + 1 = b.units by omega) with same | next
    · have := even (.inl (by rw [lies, same]))
      omega
    · have cast : (m : ℚ) + 1 = b.units := mod_cast next
      have := even (.inr (by rw [lies]; linarith))
      omega
  case inexact.gt =>
    have above : (m : ℚ) < b.units := by linarith
    have below : (b.units : ℚ) < m + 2 := by linarith
    norm_cast at above below
    omega

/-- In units of half the size, a number around the least magnitude with its unit is rounded up to
    the first count that needs one binary digit more. -/
theorem rounded_carry (lies : LiesAt r em.mantissa em.accuracy) (below : r < 2 ^ 53)
    (close : 2 ^ 53 - 1 / 2 ≤ r) : em.roundedMantissa = 2 ^ 53 := by
  obtain ⟨low, high⟩ := lies.bounds
  have last : em.mantissa = 2 ^ 53 - 1 := by
    have above : (em.mantissa : ℚ) < (2 ^ 53 : ℕ) := by
      push_cast
      linarith
    have near : ((2 ^ 53 : ℕ) : ℚ) < em.mantissa + 2 := by
      push_cast
      linarith
    norm_cast at above near
    omega
  have cast : (em.mantissa : ℚ) = 2 ^ 53 - 1 := by
    rw [last]
    norm_num
  rw [cast] at low high
  unfold ExtendedMantissa.roundedMantissa
  rw [last]
  generalize em.accuracy = a at *
  rcases a with _ | _ | _ | _ <;> simp only [LiesAt, cast] at lies
  case exact => linarith
  case inexact.lt => linarith [lies.2]
  case inexact.eq => rfl
  case inexact.gt => rfl

/-- A number around a magnitude is rounded to it, in units of its own or, where it is below the
    least magnitude with these, in units of half the size. -/
theorem Binary.Around.roundedMantissa {t : ℤ} (h : b.Around v) (hb : b.IsCanonical)
    (least : -1074 ≤ t) (lies : LiesAt (v / 2 ^ t) em.mantissa em.accuracy)
    (below : v / 2 ^ t < 2 ^ 53) (full : t = -1074 ∨ 2 ^ 52 ≤ v / 2 ^ t) :
    t = b.scale ∧ em.roundedMantissa = b.units ∨
      t + 1 = b.scale ∧ b.units = 2 ^ 52 ∧ em.roundedMantissa = 2 ^ 53 := by
  obtain ⟨low, high⟩ := h.bounds
  have scaled (n : ℕ) (h : t + n = b.scale) : v / 2 ^ t = v / 2 ^ b.scale * 2 ^ n := by
    rw [← h, zpow_add₀ two_ne_zero, zpow_natCast]
    field_simp
  have count : (b.units : ℚ) + 1 ≤ 2 ^ 53 := mod_cast hb.bound
  rcases lt_trichotomy t b.scale with lower | rfl | higher
  · right
    have units : (2 ^ 52 : ℚ) ≤ b.units := mod_cast hb.full.resolve_left (by omega)
    obtain ⟨n, hn⟩ := Int.le.dest lower.le
    rw [scaled n hn] at below lies
    have first : b.units = 2 ^ 52 := by
      by_contra more
      have units : (2 ^ 52 : ℚ) + 1 ≤ b.units := by
        have := hb.full.resolve_left (by omega)
        exact_mod_cast (by omega : 2 ^ 52 + 1 ≤ b.units)
      have twice : (2 : ℚ) ^ 1 ≤ 2 ^ n := pow_le_pow_right₀ one_le_two (by omega)
      nlinarith
    have narrow : b.narrowBelow = true := hb.narrow.mpr ⟨first, by omega⟩
    have close : (2 ^ 52 : ℚ) - 1 / 4 ≤ v / 2 ^ b.scale := by
      obtain ⟨low, -⟩ := h
      rw [if_pos narrow, first] at low
      push_cast at low
      rcases low with low | ⟨-, low⟩ <;> linarith
    have once : n = 1 := by
      by_contra more
      have four : (2 : ℚ) ^ 2 ≤ 2 ^ n := pow_le_pow_right₀ one_le_two (by omega)
      nlinarith
    subst once
    refine ⟨by omega, first, rounded_carry lies below ?_⟩
    linarith
  · exact .inl ⟨rfl, h.rounded lies⟩
  · exfalso
    obtain ⟨n, hn⟩ := Int.le.dest higher.le
    have units := full.resolve_left (by have := hb.least; omega)
    have scaled : v / 2 ^ b.scale = v / 2 ^ t * 2 ^ n := by
      rw [← hn, zpow_add₀ two_ne_zero, zpow_natCast]
      field_simp
    have twice : (2 : ℚ) ^ 1 ≤ 2 ^ n := pow_le_pow_right₀ one_le_two (by omega)
    nlinarith

theorem shiftToTargetExponent_small (hm : m < 2 ^ 53) (he : -1074 ≤ e) :
    shiftToTargetExponent .binary64 m e .exact = (⟨m, false, false⟩, e) := by
  have digits : m.log2 ≤ 52 := by
    by_cases zero : m = 0
    · simp [zero]
    · have := (Nat.log2_lt zero).mpr hm
      omega
  have none : (max (m.log2 + e - 52 : ℤ) (-1074) - e).toNat = 0 := by omega
  rw [shiftToTargetExponent, targetExponent_binary64, shiftToExponent]
  simp only [none]
  rw [Nat.cast_zero, add_zero]
  rfl

theorem shiftToTargetExponent_carry (he : -1074 ≤ e) :
    shiftToTargetExponent .binary64 (2 ^ 53) e .exact = (⟨2 ^ 52, false, false⟩, e + 1) := by
  have one : (max (((2 ^ 53 : ℕ).log2 : ℤ) + e - 52) (-1074) - e).toNat = 1 := by
    rw [Nat.log2_two_pow]
    omega
  rw [shiftToTargetExponent, targetExponent_binary64, shiftToExponent]
  simp only [one]
  rfl

/-- A number around a magnitude is rounded to it, whatever the mantissa that it is given with, as
    long as that is fine enough. -/
theorem roundWithAccuracy_around (h : b.Around v) (hb : b.IsCanonical) (s : Sign)
    (lies : LiesAt (v / 2 ^ e) m a) (fine : e ≤ max (m.log2 + e - 52) (-1074)) :
    roundWithAccuracy .binary64 s m e a = .finite s b.units b.scale hb.pos := by
  obtain ⟨em, t, shifted, least, lies, below, full⟩ := shiftToTargetExponent_liesAt lies fine
  rw [roundWithAccuracy, shifted]
  rcases h.roundedMantissa hb least lies below full with ⟨rfl, rounded⟩ | ⟨scale, first, rounded⟩
  · simp only [rounded, shiftToTargetExponent_small hb.bound least, hb.pos.ne', dite_false]
  · simp only [rounded, shiftToTargetExponent_carry least, scale, first]
    rfl

/-! ### Products and quotients -/

/-- A quotient of naturals lies where the division with a remainder says. -/
theorem liesAt_div (m : ℕ) {n : ℕ} (hn : 0 < n) :
    LiesAt ((m : ℚ) / n) (m / n) (accuracyOfFraction (m % n) n) := by
  have pos : (0 : ℚ) < n := mod_cast hn
  have parts : (m : ℚ) / n = (m / n : ℕ) + ((m % n : ℕ) : ℚ) / n := by
    have division : ((m % n : ℕ) : ℚ) + n * ((m / n : ℕ) : ℚ) = m := mod_cast Nat.mod_add_div m n
    rw [← division]
    field_simp
    ring
  have less : ((m % n : ℕ) : ℚ) / n < 1 := by
    rw [div_lt_one pos]
    exact_mod_cast Nat.mod_lt m hn
  have half (r : ℕ) : (r : ℚ) / n - 1 / 2 = (2 * r - n) / (2 * n) := by
    field_simp
  rw [parts, accuracyOfFraction]
  generalize m / n = q
  split
  case isTrue zero => simp [LiesAt, zero]
  case isFalse some =>
    have more : (0 : ℚ) < ((m % n : ℕ) : ℚ) / n := by
      have : 0 < m % n := Nat.pos_of_ne_zero some
      positivity
    have twice : (0 : ℚ) < 2 * n := by positivity
    rcases lt_trichotomy (2 * (m % n)) n with h | h | h
    · have cast : 2 * ((m % n : ℕ) : ℚ) < n := mod_cast h
      have side : ((m % n : ℕ) : ℚ) / n - 1 / 2 < 0 := by
        rw [half]
        exact div_neg_of_neg_of_pos (by linarith) twice
      rw [compare_lt_iff_lt.mpr h]
      exact ⟨by linarith, by linarith⟩
    · have cast : 2 * ((m % n : ℕ) : ℚ) = n := mod_cast h
      have side : ((m % n : ℕ) : ℚ) / n - 1 / 2 = 0 := by
        rw [half, cast, sub_self, zero_div]
      rw [compare_eq_iff_eq.mpr h]
      simp only [LiesAt]
      linarith
    · have cast : (n : ℚ) < 2 * ((m % n : ℕ) : ℚ) := mod_cast h
      have side : 0 < ((m % n : ℕ) : ℚ) / n - 1 / 2 := by
        rw [half]
        exact div_pos (by linarith) twice
      rw [compare_gt_iff_gt.mpr h]
      exact ⟨by linarith, by linarith⟩

variable {m₁ m₂ : ℕ} {e₁ e₂ : ℤ}

/-- A quotient that is around a magnitude is that magnitude. -/
theorem div_around {h₁ : 0 < m₁} {h₂ : 0 < m₂} (hb : b.IsCanonical)
    (h : b.Around (m₁ * 2 ^ e₁ / (m₂ * 2 ^ e₂))) :
    UnpackedFloat.div .binary64 (.finite .positive m₁ e₁ h₁) (.finite .positive m₂ e₂ h₂) =
      .finite .positive b.units b.scale hb.pos := by
  obtain ⟨t, target⟩ : ∃ t, t = min (e₁ - e₂)
      (Format.binary64.targetExponent (totalExponent m₁ e₁ - totalExponent m₂ e₂)) := ⟨_, rfl⟩
  obtain ⟨n, hn⟩ := Int.le.dest (target ▸ min_le_left _ _ : t ≤ e₁ - e₂)
  have shift : (e₁ - e₂ - t).toNat = n := by omega
  have core : divCore .binary64 m₁ e₁ m₂ e₂ =
      (m₁ * 2 ^ n / m₂, t, accuracyOfFraction (m₁ * 2 ^ n % m₂) m₂) := by
    rw [divCore]
    simp only [← target, shift, Nat.shiftLeft_eq]
  have value : (m₁ * 2 ^ e₁ / (m₂ * 2 ^ e₂) : ℚ) / 2 ^ t = ((m₁ * 2 ^ n : ℕ) : ℚ) / m₂ := by
    have power : (2 : ℚ) ^ e₁ = 2 ^ n * 2 ^ t * 2 ^ e₂ := by
      rw [← zpow_natCast, ← zpow_add₀ two_ne_zero, ← zpow_add₀ two_ne_zero]
      congr 1
      omega
    rw [power]
    push_cast
    field_simp
  have lies := liesAt_div (m₁ * 2 ^ n) h₂
  rw [← value] at lies
  -- where the unit is not the least one, the shift has made the quotient long enough
  have fine : t ≤ max ((m₁ * 2 ^ n / m₂).log2 + t - 52) (-1074) := by
    by_cases least : t ≤ -1074
    · omega
    have top : t ≤ (m₁.log2 + 1 + e₁) - (m₂.log2 + 1 + e₂) - 53 := by
      have := target ▸ min_le_right (e₁ - e₂)
        (Format.binary64.targetExponent (totalExponent m₁ e₁ - totalExponent m₂ e₂))
      simp only [Format.targetExponent, totalExponent, Format.mantissaBits, Format.minExponent]
        at this
      omega
    have long : 2 ^ 52 ≤ m₁ * 2 ^ n / m₂ := by
      rw [Nat.le_div_iff_mul_le h₂]
      calc 2 ^ 52 * m₂ ≤ 2 ^ 52 * 2 ^ (m₂.log2 + 1) := by
            gcongr
            exact Nat.lt_log2_self.le
        _ = 2 ^ (52 + (m₂.log2 + 1)) := (pow_add ..).symm
        _ ≤ 2 ^ (m₁.log2 + n) := Nat.pow_le_pow_right two_pos (by omega)
        _ = 2 ^ m₁.log2 * 2 ^ n := pow_add ..
        _ ≤ m₁ * 2 ^ n := by
            gcongr
            exact Nat.log2_self_le h₁.ne'
    have := (Nat.le_log2 (by omega)).mpr long
    omega
  rw [UnpackedFloat.div, core]
  exact roundWithAccuracy_around h hb _ lies fine

theorem mul_around {h₁ : 0 < m₁} {h₂ : 0 < m₂} (hb : b.IsCanonical)
    (h : b.Around (m₁ * 2 ^ e₁ * (m₂ * 2 ^ e₂))) (long : 2 ^ 52 ≤ m₁ * m₂) :
    UnpackedFloat.mul .binary64 (.finite .positive m₁ e₁ h₁) (.finite .positive m₂ e₂ h₂) =
      .finite .positive b.units b.scale hb.pos := by
  have lies : LiesAt ((m₁ * 2 ^ e₁ * (m₂ * 2 ^ e₂) : ℚ) / 2 ^ (e₁ + e₂)) (m₁ * m₂) .exact := by
    simp only [LiesAt]
    rw [zpow_add₀ two_ne_zero]
    push_cast
    field_simp
  have fine : e₁ + e₂ ≤ max ((m₁ * m₂).log2 + (e₁ + e₂) - 52) (-1074) := by
    have := (Nat.le_log2 (by omega)).mpr long
    omega
  rw [UnpackedFloat.mul]
  exact roundWithAccuracy_around h hb _ lies fine

end Gatehouse.Decimal
