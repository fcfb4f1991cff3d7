import Gatehouse.Proofs.Nearest

/-! The shortest decimal is around the magnitude that it was made for: whatever is found on a grid
    identifies the magnitude, and the comparisons that settle this are exact. So the number nearest
    to the shortest decimal is the number that it was made for. Nor does it have many digits, since
    seventeen digits are tried, and the exact value has fewer than are ever weighed. -/

namespace Gatehouse.Decimal

variable {b : Binary} {d : Magnitude}

/-! ### Exact comparison -/

theorem compare_congr {α β : Type} [LinearOrder α] [LinearOrder β] {a₁ a₂ : α} {b₁ b₂ : β}
    (less : a₁ < a₂ ↔ b₁ < b₂) (more : a₂ < a₁ ↔ b₂ < b₁) : compare a₁ a₂ = compare b₁ b₂ := by
  rcases lt_trichotomy a₁ a₂ with h | rfl | h
  · rw [compare_lt_iff_lt.mpr h, compare_lt_iff_lt.mpr (less.mp h)]
  · rw [compare_eq_iff_eq.mpr rfl, eq_comm, compare_eq_iff_eq]
    exact le_antisymm (not_lt.mp (mt more.mpr (lt_irrefl _)))
      (not_lt.mp (mt less.mpr (lt_irrefl _)))
  · rw [compare_gt_iff_gt.mpr h, compare_gt_iff_gt.mpr (more.mp h)]

theorem Magnitude.compareTo_eq (d : Magnitude) (n : ℕ) (j : ℤ) :
    d.compareTo n j = compare d.value (n * 2 ^ j) := by
  have power {base : ℚ} (pos : 0 < base) (k : ℤ) :
      base ^ k * base ^ (-k).toNat = base ^ k.toNat := by
    rw [← zpow_natCast, ← zpow_natCast, ← zpow_add₀ pos.ne']
    congr 1
    omega
  have scale : (0 : ℚ) < 2 ^ (-j).toNat * 10 ^ (-d.exponent).toNat := by positivity
  have left : ((d.digits * 10 ^ d.exponent.toNat * 2 ^ (-j).toNat : ℕ) : ℚ) =
      d.value * (2 ^ (-j).toNat * 10 ^ (-d.exponent).toNat) := by
    push_cast
    rw [value, ← power (by norm_num : (0 : ℚ) < 10) d.exponent]
    ring
  have right : ((n * 2 ^ j.toNat * 10 ^ (-d.exponent).toNat : ℕ) : ℚ) =
      n * 2 ^ j * (2 ^ (-j).toNat * 10 ^ (-d.exponent).toNat) := by
    push_cast
    rw [← power two_pos j]
    ring
  rw [compareTo]
  simp only [Nat.pow_eq]
  refine compare_congr ?_ ?_
  · rw [← Nat.cast_lt (α := ℚ), left, right, mul_lt_mul_iff_left₀ scale]
  · rw [← Nat.cast_lt (α := ℚ), left, right, mul_lt_mul_iff_left₀ scale]

/-- The decimals that identify a magnitude are those around it. -/
theorem Binary.identifiedBy_iff (pos : 0 < b.units) :
    b.identifiedBy d = true ↔ b.Around d.value := by
  have unit : (0 : ℚ) < 2 ^ b.scale := by positivity
  have quarters (n : ℕ) : ((n : ℚ) * 2 ^ (b.scale - 2)) / 2 ^ b.scale = n / 4 := by
    rw [zpow_sub₀ two_ne_zero]
    field_simp
    norm_num
  have scaled (n : ℕ) : compare d.value (n * 2 ^ (b.scale - 2)) =
      compare (d.value / 2 ^ b.scale) (n / 4 : ℚ) := by
    rw [← quarters]
    exact compare_congr (div_lt_div_iff_of_pos_right unit).symm
      (div_lt_div_iff_of_pos_right unit).symm
  have low : (((if b.narrowBelow then 4 * b.units - 1 else 4 * b.units - 2 : ℕ)) : ℚ) / 4 =
      if b.narrowBelow then (b.units : ℚ) - 1 / 4 else b.units - 1 / 2 := by
    split
    · rw [Nat.cast_sub (by omega)]
      push_cast
      ring
    · rw [Nat.cast_sub (by omega)]
      push_cast
      ring
  have high : ((4 * b.units + 2 : ℕ) : ℚ) / 4 = b.units + 1 / 2 := by
    push_cast
    ring
  rw [identifiedBy, Around]
  simp only [Magnitude.compareTo_eq, scaled, low, high, Bool.and_eq_true, Bool.or_eq_true,
    beq_iff_eq, compare_gt_iff_gt, compare_eq_iff_eq, compare_lt_iff_lt]
  rw [eq_comm (a := d.value / 2 ^ b.scale) (b := ite ..)]

/-! ### The shortest decimal -/

/-- What is found on a grid is around the magnitude. -/
theorem Binary.onGrid?_around {e : ℤ} (pos : 0 < b.units) (h : b.onGrid? e = some d) :
    b.Around d.value := by
  rw [← identifiedBy_iff pos]
  unfold onGrid? at h
  dsimp only at h
  split at h
  case h_1 => cases h
  case h_2 lower _ =>
    cases h
    exact lower
  case h_3 _ upper =>
    cases h
    exact upper
  case h_4 lower upper =>
    split at h <;> cases h
    · exact lower
    · exact upper
    · split
      · exact lower
      · exact upper

theorem Binary.onGrid?_digits {e : ℤ} (h : b.onGrid? e = some d) :
    d.digits ≤ b.quotient e + 1 := by
  unfold onGrid? at h
  dsimp only at h
  split at h
  · cases h
  · cases h
    exact Nat.le_succ _
  · cases h
    exact le_rfl
  · split at h <;> cases h
    · exact Nat.le_succ _
    · exact le_rfl
    · split
      · exact Nat.le_succ _
      · exact le_rfl

/-- Zeros that are moved into the exponent change nothing, and leave no more digits. -/
theorem Magnitude.strip_value (fuel : ℕ) (d : Magnitude) :
    (d.strip fuel).value = d.value ∧ (d.strip fuel).digits ≤ d.digits := by
  induction fuel generalizing d with
  | zero => exact ⟨rfl, le_rfl⟩
  | succ fuel ih =>
    rw [strip]
    split
    case isTrue zero =>
      obtain ⟨value, digits⟩ := ih ⟨d.digits / 10, d.exponent + 1⟩
      simp only [Bool.and_eq_true, decide_eq_true_eq] at zero
      have tens : (d.digits : ℚ) = ((d.digits / 10 : ℕ) : ℚ) * 10 := by
        exact_mod_cast (Nat.div_mul_cancel (Nat.dvd_of_mod_eq_zero zero.1)).symm
      refine ⟨?_, digits.trans (Nat.div_le_self _ _)⟩
      rw [value, Magnitude.value, Magnitude.value, tens, zpow_add₀ (by norm_num)]
      ring
    case isFalse => exact ⟨rfl, le_rfl⟩

theorem lt_digitCount (n : ℕ) : n < 10 ^ digitCount n := by
  rcases Nat.eq_zero_or_pos n with rfl | pos
  · decide
  · exact (digitCount_bounds pos).2.2

/-- A magnitude is below the power of ten of its places. -/
theorem Binary.lt_places (b : Binary) : (b.units * 2 ^ b.scale : ℚ) < 10 ^ b.places := by
  rw [places]
  split
  case isTrue natural =>
    obtain ⟨n, hn⟩ := Int.eq_ofNat_of_zero_le natural
    rw [hn, Int.toNat_natCast, zpow_natCast, zpow_natCast]
    exact_mod_cast lt_digitCount (b.units * 2 ^ n)
  case isFalse negative =>
    obtain ⟨n, hn⟩ := Int.eq_ofNat_of_zero_le (show 0 ≤ -b.scale by omega)
    obtain scale : b.scale = -n := by omega
    have below : b.units * 10 ^ n < 10 ^ digitCount (b.units * 10 ^ n / 2 ^ n) * 2 ^ n := by
      rw [← Nat.div_lt_iff_lt_mul (by positivity)]
      exact lt_digitCount _
    have cast : (b.units * 10 ^ n : ℚ) < 10 ^ digitCount (b.units * 10 ^ n / 2 ^ n) * 2 ^ n := by
      exact_mod_cast below
    simp only [Nat.pow_eq, scale, neg_neg, Int.toNat_natCast]
    rw [zpow_neg, zpow_natCast, zpow_sub₀ (by norm_num), zpow_natCast, zpow_natCast,
      lt_div_iff₀ (by positivity), mul_right_comm, ← div_eq_mul_inv,
      div_lt_iff₀ (by positivity)]
    exact cast

/-- The lower neighbour on a grid is not above the magnitude. -/
theorem Binary.quotient_le (b : Binary) (e : ℤ) :
    (b.quotient e : ℚ) ≤ b.units * 2 ^ b.scale / 10 ^ e := by
  have parts {base : ℚ} (pos : 0 < base) (k : ℤ) :
      base ^ k = base ^ k.toNat / base ^ (-k).toNat := by
    rw [eq_div_iff (by positivity), ← zpow_natCast, ← zpow_natCast, ← zpow_add₀ pos.ne']
    congr 1
    omega
  rw [quotient]
  refine Nat.cast_div_le.trans (le_of_eq ?_)
  rw [parts two_pos b.scale, parts (by norm_num : (0 : ℚ) < 10) e]
  simp only [Nat.pow_eq]
  push_cast
  field_simp

theorem Binary.exact_value (b : Binary) :
    (⟨b.units * 2 ^ b.scale.toNat * 5 ^ (-b.scale).toNat, min b.scale 0⟩ : Magnitude).value =
      b.units * 2 ^ b.scale := by
  rw [Magnitude.value]
  rcases le_or_gt 0 b.scale with natural | negative
  · obtain ⟨n, hn⟩ := Int.eq_ofNat_of_zero_le natural
    rw [min_eq_right natural, hn]
    simp
  · obtain ⟨n, hn⟩ := Int.eq_ofNat_of_zero_le (show 0 ≤ -b.scale by omega)
    obtain scale : b.scale = -n := by omega
    have ten : (10 : ℚ) ^ n = 2 ^ n * 5 ^ n := by
      rw [← mul_pow]
      norm_num
    rw [min_eq_left negative.le, scale]
    simp only [neg_neg, Int.toNat_natCast, Int.toNat_neg_natCast, zpow_neg, zpow_natCast, ten]
    push_cast
    field_simp

/-- The shortest decimal is around the magnitude. -/
theorem Binary.shortest_around (pos : 0 < b.units) : b.Around b.shortest.value := by
  rw [shortest, (Magnitude.strip_value _ _).1]
  simp only [Nat.pow_eq]
  cases found : (List.range 17).findSome? fun n : ℕ => b.onGrid? (b.places - (n + 1 : ℕ)) with
  | none =>
    rw [Option.getD_none, exact_value]
    exact b.around_self
  | some d =>
    obtain ⟨n, -, hn⟩ := List.exists_of_findSome?_eq_some found
    exact onGrid?_around pos hn

/-- A shortest decimal has no more digits than are weighed. -/
theorem Binary.shortest_digits (hb : b.IsCanonical) :
    b.shortest.digits < 10 ^ Numeral.weighedDigits := by
  rw [shortest]
  refine (Magnitude.strip_value _ _).2.trans_lt ?_
  simp only [Nat.pow_eq]
  cases found : (List.range 17).findSome? fun n : ℕ => b.onGrid? (b.places - (n + 1 : ℕ)) with
  | none =>
    rw [Option.getD_none]
    have twos : 2 ^ b.scale.toNat ≤ 2 ^ 971 :=
      pow_le_pow_right₀ one_le_two (Int.toNat_le.mpr hb.greatest)
    have fives : 5 ^ (-b.scale).toNat ≤ 5 ^ 1074 :=
      pow_le_pow_right₀ (by norm_num) (Int.toNat_le.mpr (by have := hb.least; omega))
    rcases le_or_gt 0 b.scale with natural | negative
    · have none : (-b.scale).toNat = 0 := by omega
      calc b.units * 2 ^ b.scale.toNat * 5 ^ (-b.scale).toNat
          ≤ 2 ^ 53 * 2 ^ 971 * 5 ^ 0 := by
            rw [none]
            gcongr
            exact hb.bound.le
        _ < 10 ^ Numeral.weighedDigits := by decide +kernel
    · have none : b.scale.toNat = 0 := by omega
      calc b.units * 2 ^ b.scale.toNat * 5 ^ (-b.scale).toNat
          ≤ 2 ^ 53 * 2 ^ 0 * 5 ^ 1074 := by
            rw [none]
            gcongr
            exact hb.bound.le
        _ < 10 ^ Numeral.weighedDigits := by decide +kernel
  | some d =>
    obtain ⟨n, hn, onGrid⟩ := List.exists_of_findSome?_eq_some found
    have few : n + 1 ≤ 17 := List.mem_range.mp hn
    have below : (b.quotient (b.places - (n + 1 : ℕ)) : ℚ) < 10 ^ (n + 1) := by
      calc (b.quotient (b.places - (n + 1 : ℕ)) : ℚ)
          ≤ b.units * 2 ^ b.scale / 10 ^ (b.places - (n + 1 : ℕ)) := b.quotient_le _
        _ < 10 ^ b.places / 10 ^ (b.places - (n + 1 : ℕ)) := by
          gcongr
          exact b.lt_places
        _ = 10 ^ (n + 1) := by
          rw [← zpow_sub₀ (by norm_num), ← zpow_natCast]
          congr 1
          omega
    have less : b.quotient (b.places - (n + 1 : ℕ)) < 10 ^ (n + 1) := by exact_mod_cast below
    calc d.digits ≤ b.quotient (b.places - (n + 1 : ℕ)) + 1 := onGrid?_digits onGrid
      _ ≤ 10 ^ (n + 1) := less
      _ ≤ 10 ^ 17 := Nat.pow_le_pow_right (by decide) few
      _ < 10 ^ Numeral.weighedDigits := pow_lt_pow_right₀ (by norm_num) (by decide)

end Gatehouse.Decimal
