import Gatehouse.Json.Reader
import Gatehouse.Proofs.Scanned
import Gatehouse.Proofs.Shortened

/-! Numbers are read back where they were written. Whatever the layout, the text of a finite number
    is taken apart into a numeral that writes the shortest decimal of the number: the point stands
    behind, between or before the digits, or there is an exponent. So the number that is read is the
    number that was written, to the last bit; and an integer is read back from its digits. -/

namespace Gatehouse.Decimal

variable {f : Layout} {d : Magnitude} {b : Binary} {x : Float}

/-! ### Digits -/

theorem natOf_digitsOf (n : ℕ) : natOf (digitsOf n) = n :=
  Nat.ofDigitChars_toDigits (by decide) (by decide)

theorem natOf_append (cs ds : List Char) :
    natOf (cs ++ ds) = natOf cs * 10 ^ ds.length + natOf ds := by
  have behind : natOf (cs ++ ds) = Nat.ofDigitChars 10 ds (natOf cs) := Nat.ofDigitChars_append 0
  rw [behind, Nat.ofDigitChars_eq_ofDigitChars_zero, mul_comm]
  rfl

theorem natOf_zeros (n : ℕ) : natOf (List.replicate n '0') = 0 := by
  have zeros : natOf (List.replicate n '0') = 10 ^ n * 0 := Nat.ofDigitChars_replicate_zero
  rw [zeros, mul_zero]

/-- The first digit of a number is not zero. -/
theorem digitsOf_head {n : ℕ} (pos : 0 < n) :
    ∃ c rest, digitsOf n = c :: rest ∧ c.isDigit = true ∧ c ≠ '0' := by
  induction n using Nat.strongRecOn with
  | ind n ih =>
    by_cases small : n < 10
    · refine ⟨_, [], Nat.toDigits_of_lt_base small, ?_⟩
      interval_cases n <;> decide
    · obtain ⟨c, rest, digits, first⟩ := ih (n / 10) (by omega) (by omega)
      refine ⟨c, rest ++ [(n % 10).digitChar], ?_, first⟩
      have last : digitsOf n = digitsOf (n / 10) ++ [(n % 10).digitChar] :=
        Nat.toDigits_of_base_le (by decide) (by omega)
      rw [last, digits, List.cons_append]

theorem dropWhile_zeros (n : ℕ) (cs : List Char) :
    (List.replicate n '0' ++ cs).dropWhile (· = '0') = cs.dropWhile (· = '0') := by
  refine List.dropWhile_append_of_pos fun c h => ?_
  rw [List.eq_of_mem_replicate h]
  rfl

/-! ### Numerals -/

/-- No digit follows. -/
def EndsDigits (cs : List Char) : Prop := ∀ c ∈ cs.head?, c.isDigit = false

/-- Digits are taken until no digit follows. -/
theorem span_digits {digits rest : List Char} (h : ∀ c ∈ digits, c.isDigit = true)
    (ends : EndsDigits rest) : (digits ++ rest).takeWhile Char.isDigit = digits ∧
      (digits ++ rest).dropWhile Char.isDigit = rest := by
  rw [List.takeWhile_append_of_pos h, List.dropWhile_append_of_pos h]
  cases rest with
  | nil => simp
  | cons c rest =>
    have notDigit : c.isDigit = false := ends c rfl
    simp [notDigit]

theorem takeSign_signed {c : Char} {rest : List Char} (negative : Bool) (digit : c.isDigit = true) :
    Numeral.takeSign (if negative then '-' :: c :: rest else c :: rest) =
      (if negative then some '-' else none, c :: rest) := by
  cases negative with
  | true => rfl
  | false =>
    have plus : c ≠ '+' := by
      rintro rfl
      cases digit
    have minus : c ≠ '-' := by
      rintro rfl
      cases digit
    simp only [Bool.false_eq_true, if_false]
    unfold Numeral.takeSign
    split
    · rename_i h
      exact absurd (List.cons.inj h).1 plus
    · rename_i h
      exact absurd (List.cons.inj h).1 minus
    · rfl

/-- Digits with a point and more digits are taken apart at the point. -/
theorem ofChars_point {c : Char} {whole fraction tail : List Char} {e : Option ℤ} (negative : Bool)
    (hw : ∀ d ∈ c :: whole, d.isDigit = true) (hf : ∀ d ∈ fraction, d.isDigit = true)
    (ends : EndsDigits tail) (he : Numeral.exponent? tail = some e) :
    Numeral.ofChars? (if negative then '-' :: (c :: whole ++ '.' :: (fraction ++ tail))
      else c :: whole ++ '.' :: (fraction ++ tail)) =
      some ⟨if negative then some '-' else none, c :: whole, some fraction, e⟩ := by
  have point : EndsDigits ('.' :: (fraction ++ tail)) := by
    rintro _ ⟨⟩
    rfl
  obtain ⟨front, behind⟩ := span_digits hw point
  obtain ⟨digits, rest⟩ := span_digits hf ends
  rw [Numeral.ofChars?, List.cons_append, takeSign_signed negative (hw c List.mem_cons_self)]
  rw [List.cons_append] at front behind
  simp only [front, behind, digits, rest, he, Option.map_some]

theorem ofChars_noPoint {c : Char} {whole tail : List Char} {e : Option ℤ} (negative : Bool)
    (hw : ∀ d ∈ c :: whole, d.isDigit = true) (ends : EndsDigits tail)
    (noPoint : tail.head? ≠ some '.') (he : Numeral.exponent? tail = some e) :
    Numeral.ofChars? (if negative then '-' :: (c :: whole ++ tail) else c :: whole ++ tail) =
      some ⟨if negative then some '-' else none, c :: whole, none, e⟩ := by
  obtain ⟨front, behind⟩ := span_digits hw ends
  rw [Numeral.ofChars?, List.cons_append, takeSign_signed negative (hw c List.mem_cons_self)]
  rw [List.cons_append] at front behind
  simp only [front, behind]
  split
  · exact absurd rfl noPoint
  · rw [he, Option.map_some]

/-- A numeral writes a decimal in plain JSON, with a point or an exponent, and with no more digits
    than are weighed. -/
structure Numeral.Writes (n : Numeral) (negative : Bool) (d : Magnitude) : Prop where
  sign : n.sign = if negative then some '-' else none
  plain : Json.isPlainNumeral n = true
  notWhole : n.isWhole = false
  value : (⟨natOf (n.whole ++ n.fraction.getD []),
    n.exponent.getD 0 - (n.fraction.getD []).length⟩ : Magnitude).value = d.value
  few : ((n.whole ++ n.fraction.getD []).dropWhile (· = '0')).length ≤ Numeral.weighedDigits

/-- The sign in front of an exponent, and its digits. -/
theorem exponent_written (f : Layout) (leading : ℤ) :
    Numeral.exponent? ('e' :: (if leading < 0 then '-' else '+') ::
      padded f.exponentWidth (digitsOf leading.natAbs)) = some (some leading) := by
  have digits : (padded f.exponentWidth (digitsOf leading.natAbs)).all Char.isDigit = true := by
    rw [List.all_eq_true, padded]
    refine List.forall_mem_append.mpr ⟨fun c h => ?_, Json.isDigit_digitsOf _⟩
    rw [List.eq_of_mem_replicate h]
    rfl
  have some : (padded f.exponentWidth (digitsOf leading.natAbs)).isEmpty = false := by
    rw [List.isEmpty_eq_false_iff, padded]
    exact List.append_ne_nil_of_right_ne_nil _ Nat.toDigits_ne_nil
  have number : natOf (padded f.exponentWidth (digitsOf leading.natAbs)) = leading.natAbs := by
    rw [padded, natOf_append, natOf_zeros, natOf_digitsOf, zero_mul, zero_add]
  by_cases negative : leading < 0
  · have below : -(leading.natAbs : ℤ) = leading := by omega
    simp only [Numeral.exponent?, negative, if_true, Numeral.takeSign, digits, some, number, below]
    rfl
  · have above : (leading.natAbs : ℤ) = leading := by omega
    simp only [Numeral.exponent?, negative, if_false, Numeral.takeSign, digits, some, number, above]
    rfl

/-- A digit that is not zero may open a numeral, and so may a zero that stands alone. -/
theorem isPlainNumeral_of {negative : Bool} {c : Char} {whole : List Char}
    {fraction : Option (List Char)} {e : Option ℤ} (first : c ≠ '0' ∨ whole = [])
    (nonempty : fraction ≠ some []) :
    Json.isPlainNumeral ⟨if negative then some '-' else none, c :: whole, fraction, e⟩ = true := by
  have sign : (if negative then some '-' else none) ≠ some '+' := by cases negative <;> decide
  simp only [Json.isPlainNumeral, decide_eq_true sign, decide_eq_true nonempty, Bool.true_and]
  rcases first with notZero | rfl
  · split
    case h_1 h => cases h
    case h_2 h => exact absurd (List.cons.inj h).1 notZero
    case h_3 => rfl
  · split
    case h_1 h => cases h
    case h_2 h => cases h
    case h_3 => rfl

/-- A text that is taken apart into what writes a decimal, with a sign in front or without. -/
def IsWritten (body : List Char) (d : Magnitude) : Prop :=
  ∀ negative : Bool, ∃ n,
    Numeral.ofChars? (if negative then '-' :: body else body) = some n ∧ n.Writes negative d

theorem isWritten_point {c : Char} {whole fraction tail : List Char} {e : Option ℤ}
    (digits : ∀ d ∈ c :: whole ++ fraction, d.isDigit = true) (ends : EndsDigits tail)
    (exponent : Numeral.exponent? tail = some e) (first : c ≠ '0' ∨ whole = [])
    (nonempty : fraction ≠ [])
    (value : (⟨natOf (c :: whole ++ fraction), e.getD 0 - fraction.length⟩ : Magnitude).value =
      d.value)
    (few : ((c :: whole ++ fraction).dropWhile (· = '0')).length ≤ Numeral.weighedDigits) :
    IsWritten (c :: whole ++ '.' :: (fraction ++ tail)) d := by
  intro negative
  obtain ⟨front, behind⟩ := List.forall_mem_append.mp digits
  exact ⟨_, ofChars_point negative front behind ends exponent, rfl,
    isPlainNumeral_of first (by simpa using nonempty), rfl, value, few⟩

theorem isWritten_exponent {c : Char} {whole tail : List Char} {e : ℤ}
    (digits : ∀ d ∈ c :: whole, d.isDigit = true) (ends : EndsDigits tail)
    (noPoint : tail.head? ≠ some '.') (exponent : Numeral.exponent? tail = some (some e))
    (first : c ≠ '0' ∨ whole = [])
    (value : (⟨natOf (c :: whole), e⟩ : Magnitude).value = d.value)
    (few : (c :: whole).length ≤ Numeral.weighedDigits) : IsWritten (c :: whole ++ tail) d := by
  intro negative
  refine ⟨_, ofChars_noPoint negative digits ends noPoint exponent, rfl,
    isPlainNumeral_of first (by simp), rfl, ?_, ?_⟩
  · simpa using value
  · rw [Option.getD_none, List.append_nil]
    exact (List.length_dropWhile_le _ _).trans few

theorem isWritten_zero (e : ℤ) : IsWritten ['0', '.', '0'] ⟨0, e⟩ := by
  have value : (⟨natOf ['0', '0'], -1⟩ : Magnitude).value = (⟨0, e⟩ : Magnitude).value := by
    have zero : natOf ['0', '0'] = 0 := rfl
    rw [Magnitude.value, Magnitude.value, zero, Nat.cast_zero, zero_mul, zero_mul]
  have ends : EndsDigits [] := by simp [EndsDigits]
  have digits : ∀ c ∈ '0' :: [] ++ ['0'], c.isDigit = true := by simp
  exact isWritten_point digits ends rfl (.inr rfl) (by simp) value (by decide)

theorem isWritten_after {n : ℕ} (pos : 0 < d.digits) (hn : d.exponent = n)
    (few : (digitsOf d.digits).length + n < Numeral.weighedDigits) :
    IsWritten (digitsOf d.digits ++ List.replicate n '0' ++ ['.', '0']) d := by
  have number := natOf_digitsOf d.digits
  have whole := Json.isDigit_digitsOf d.digits
  obtain ⟨c, rest, digits, -, notZero⟩ := digitsOf_head pos
  rw [digits] at number whole few ⊢
  have text : c :: rest ++ List.replicate n '0' ++ ['.', '0'] =
      c :: (rest ++ List.replicate n '0') ++ '.' :: (['0'] ++ []) := rfl
  rw [text]
  refine isWritten_point (e := none) ?_ (by simp [EndsDigits]) rfl (.inl notZero) (by simp) ?_ ?_
  · refine List.forall_mem_append.mpr ⟨List.forall_mem_append.mpr ⟨whole, fun d h => ?_⟩, by simp⟩
    rw [List.eq_of_mem_replicate h]
    rfl
  · have zero : natOf ['0'] = 0 := rfl
    rw [natOf_append, ← List.cons_append, natOf_append, natOf_zeros, number, zero, Magnitude.value,
      Magnitude.value, hn, zpow_natCast]
    simp only [List.length_replicate, List.length_singleton, Option.getD_none]
    push_cast
    norm_num
    ring
  · refine (List.length_dropWhile_le _ _).trans ?_
    simp only [List.length_cons, List.length_append, List.length_replicate, List.length_nil]
      at few ⊢
    omega

theorem isWritten_inside {n k : ℕ} (pos : 0 < d.digits)
    (few : (digitsOf d.digits).length ≤ Numeral.weighedDigits) (hk : d.exponent = -(k : ℤ))
    (some : 0 < k) (length : (digitsOf d.digits).length = n + 1 + k) :
    IsWritten ((digitsOf d.digits).take (n + 1) ++ '.' :: (digitsOf d.digits).drop (n + 1)) d := by
  have number := natOf_digitsOf d.digits
  have all := Json.isDigit_digitsOf d.digits
  obtain ⟨c, rest, digits, -, notZero⟩ := digitsOf_head pos
  rw [digits] at number all few length ⊢
  rw [List.take_succ_cons, List.drop_succ_cons]
  have left : (rest.drop n).length = k := by
    rw [List.length_cons] at length
    rw [List.length_drop]
    omega
  have parts : c :: rest.take n ++ rest.drop n = c :: rest := by
    rw [List.cons_append, List.take_append_drop]
  have text : c :: rest.take n ++ '.' :: rest.drop n =
      c :: rest.take n ++ '.' :: (rest.drop n ++ []) := by rw [List.append_nil]
  rw [text]
  refine isWritten_point (e := none) (parts ▸ all) (by simp [EndsDigits]) rfl (.inl notZero) ?_ ?_
    ?_
  · exact List.ne_nil_of_length_pos (left ▸ some)
  · rw [parts, number, left, Magnitude.value, Magnitude.value, hk, Option.getD_none, zero_sub]
  · rw [parts]
    exact (List.length_dropWhile_le _ _).trans few

/-- The point comes before the digits, and there may be zeros between. -/
theorem isWritten_before {n k : ℕ} (few : (digitsOf d.digits).length ≤ Numeral.weighedDigits)
    (hk : d.exponent = -(k : ℤ)) (length : k = n + (digitsOf d.digits).length) :
    IsWritten (['0', '.'] ++ List.replicate n '0' ++ digitsOf d.digits) d := by
  have text : ['0', '.'] ++ List.replicate n '0' ++ digitsOf d.digits =
      ['0'] ++ '.' :: (List.replicate n '0' ++ digitsOf d.digits ++ []) := by simp
  rw [text]
  refine isWritten_point (e := none) ?_ (by simp [EndsDigits]) rfl (.inr rfl) ?_ ?_ ?_
  · refine List.forall_mem_append.mpr ⟨by simp, List.forall_mem_append.mpr ⟨fun c h => ?_,
      Json.isDigit_digitsOf _⟩⟩
    rw [List.eq_of_mem_replicate h]
    rfl
  · exact List.append_ne_nil_of_right_ne_nil _ Nat.toDigits_ne_nil
  · have zero : natOf ['0'] = 0 := rfl
    rw [natOf_append, natOf_append, natOf_zeros, natOf_digitsOf, zero, Magnitude.value,
      Magnitude.value, hk, List.length_append, List.length_replicate, ← length, Option.getD_none]
    simp
  · have zeros : ['0'] ++ (List.replicate n '0' ++ digitsOf d.digits) =
        List.replicate (n + 1) '0' ++ digitsOf d.digits := by
      rw [List.replicate_succ, List.cons_append]
      rfl
    rw [zeros, dropWhile_zeros]
    exact (List.length_dropWhile_le _ _).trans few

/-- The point comes after the first digit, and an exponent at the end. -/
theorem isWritten_scientific (f : Layout) {leading : ℤ} (pos : 0 < d.digits)
    (few : (digitsOf d.digits).length ≤ Numeral.weighedDigits)
    (hl : leading = (digitsOf d.digits).length - 1 + d.exponent) :
    IsWritten ((match digitsOf d.digits with
        | first :: second :: rest => first :: '.' :: second :: rest
        | short => short) ++ ['e', if leading < 0 then '-' else '+'] ++
      padded f.exponentWidth (digitsOf leading.natAbs)) d := by
  have number := natOf_digitsOf d.digits
  have all := Json.isDigit_digitsOf d.digits
  obtain ⟨c, rest, digits, -, notZero⟩ := digitsOf_head pos
  have written := exponent_written f leading
  have ends : EndsDigits ('e' :: (if leading < 0 then '-' else '+') ::
      padded f.exponentWidth (digitsOf leading.natAbs)) := by
    rintro _ ⟨⟩
    rfl
  rw [digits] at number all few hl ⊢
  cases rest with
  | nil =>
    rw [List.append_assoc]
    refine isWritten_exponent all ends (by simp) written (.inl notZero) ?_ few
    rw [number, hl, Magnitude.value, Magnitude.value]
    simp
  | cons second rest =>
    have text : c :: '.' :: second :: rest ++ ['e', if leading < 0 then '-' else '+'] ++
          padded f.exponentWidth (digitsOf leading.natAbs) =
        [c] ++ '.' :: (second :: rest ++ ('e' :: (if leading < 0 then '-' else '+') ::
          padded f.exponentWidth (digitsOf leading.natAbs))) := by simp
    simp only [text]
    refine isWritten_point (e := some leading) all ends written (.inl notZero) (by simp) ?_
      ((List.length_dropWhile_le _ _).trans few)
    rw [List.singleton_append, number, hl, Magnitude.value, Magnitude.value]
    simp

/-- A magnitude is written by what it is laid out as, if not too many zeros are put behind it. -/
theorem isWritten_magnitude (hf : f.plainBelow < Numeral.weighedDigits) (pos : 0 < d.digits)
    (few : (digitsOf d.digits).length ≤ Numeral.weighedDigits) : IsWritten (f.magnitude d) d := by
  have some : 0 < (digitsOf d.digits).length := List.length_pos_of_ne_nil Nat.toDigits_ne_nil
  unfold Layout.magnitude
  simp only
  split
  case isTrue plain =>
    split
    case isTrue natural =>
      obtain ⟨n, hn⟩ := Int.eq_ofNat_of_zero_le natural
      rw [hn, Int.toNat_natCast]
      exact isWritten_after pos hn (by omega)
    case isFalse negative =>
      obtain ⟨k, hk⟩ := Int.eq_ofNat_of_zero_le (show 0 ≤ -d.exponent by omega)
      have exponent : d.exponent = -(k : ℤ) := by omega
      split
      case isTrue inside =>
        obtain ⟨n, hn⟩ := Int.eq_ofNat_of_zero_le inside
        rw [hn, show ((n : ℤ) + 1).toNat = n + 1 by omega]
        exact isWritten_inside pos few exponent (by omega) (by omega)
      case isFalse before =>
        exact isWritten_before few exponent (by omega)
  case isFalse scientific => exact isWritten_scientific f pos few rfl

/-! ### Numbers that are read back -/

/-- A numeral with few digits is weighed as a whole. -/
theorem Numeral.estimated_of_few {n : Numeral}
    (few : ((n.whole ++ n.fraction.getD []).dropWhile (· = '0')).length ≤ weighedDigits) :
    n.estimated = n.toFloat := by
  unfold estimated
  dsimp only
  rw [if_pos (by simp [few])]

theorem nearest_zero (h : d.value = 0) : nearest d = 0.0 := by
  have tens : (10 : ℚ) ^ d.exponent ≠ 0 := by positivity
  have none : d.digits = 0 := by exact_mod_cast (mul_eq_zero.mp h).resolve_right tens
  rw [nearest]
  simp [none]

/-- The decimal that a finite number is laid out as. -/
def Binary.laidOut (b : Binary) : Magnitude := if b.units = 0 then ⟨0, 0⟩ else b.shortest

/-- A finite number is read back from a numeral that writes what it is laid out as. -/
theorem Numeral.Writes.toFloat {n : Numeral} (h : Binary.ofFloat? x = some b)
    (hn : n.Writes (isNegative x) b.laidOut) : n.toFloat = x := by
  have negative : n.sign = some '-' ↔ isNegative x = true := by
    rw [hn.sign]
    cases isNegative x <;> decide
  obtain ⟨y, magnitude, hx⟩ : ∃ y, nearest ⟨natOf (n.whole ++ n.fraction.getD []),
      n.exponent.getD 0 - (n.fraction.getD []).length⟩ = y ∧
      x = if isNegative x then -y else y := by
    have value := hn.value
    rw [Binary.laidOut] at value
    split at value
    case isTrue zero =>
      refine ⟨0.0, nearest_zero ?_, eq_of_zero h zero⟩
      rw [value, Magnitude.value, Nat.cast_zero, zero_mul]
    case isFalse some =>
      obtain ⟨hb, hx⟩ := eq_of_canonical h some
      refine ⟨_, nearest_around hb ?_, hx⟩
      rw [value]
      exact Binary.shortest_around hb.pos
  rw [hx, Numeral.toFloat]
  simp only [magnitude, negative]

theorem isWritten_body (hf : f.plainBelow < Numeral.weighedDigits)
    (h : Binary.ofFloat? x = some b) :
    IsWritten (if b.units = 0 then ['0', '.', '0'] else f.magnitude b.shortest) b.laidOut := by
  rw [Binary.laidOut]
  split
  case isTrue => exact isWritten_zero 0
  case isFalse some =>
    obtain ⟨hb, -⟩ := eq_of_canonical h some
    have pos : 0 < b.shortest.digits := by
      by_contra none
      have zero : b.shortest.value = 0 := by
        rw [Magnitude.value, Nat.eq_zero_of_not_pos none, Nat.cast_zero, zero_mul]
      have positive := ((Binary.shortest_around hb.pos).range hb).1
      rw [zero] at positive
      exact absurd positive (not_le.mpr (by positivity))
    refine isWritten_magnitude hf pos ?_
    exact (Nat.length_toDigits_le_iff (by decide) (by decide)).mpr (Binary.shortest_digits hb)

end Gatehouse.Decimal

namespace Gatehouse.Json

open Decimal

variable {dialect : Dialect} {f : Layout} {b : Binary} {x : Float}

/-- A word that is taken apart into a numeral is read as a number. -/
theorem word_numeral {cs : List Char} {n : Numeral} (h : Numeral.ofChars? cs = some n)
    (plain : isPlainNumeral n = true) :
    dialect.word? cs = if n.isWhole then dialect.whole? n else dialect.fractional? n := by
  have apart (literal : List Char) (none : Numeral.ofChars? literal = none) : cs ≠ literal := by
    rintro rfl
    rw [none] at h
    cases h
  have null := apart "null".toList (by rfl)
  have true' := apart "true".toList (by rfl)
  have false' := apart "false".toList (by rfl)
  have nan := apart "NaN".toList (by rfl)
  have infinity := apart "Infinity".toList (by rfl)
  have minus := apart "-Infinity".toList (by rfl)
  simp only [Dialect.word?, null, true', false', nan, infinity, minus, if_false, decide_false,
    Bool.and_false, Bool.false_eq_true, h, Option.bind_eq_bind, Option.bind_some, plain, if_true]

/-- A finite number is read back where it was written. -/
theorem word_render (hf : f.plainBelow < Numeral.weighedDigits) (h : Binary.ofFloat? x = some b) :
    dialect.word? (f.render x).toList = some (.float x) := by
  obtain ⟨n, taken, writes⟩ := isWritten_body hf h (isNegative x)
  have text : (f.render x).toList = if isNegative x = true then
      '-' :: (if b.units = 0 then ['0', '.', '0'] else f.magnitude b.shortest)
      else if b.units = 0 then ['0', '.', '0'] else f.magnitude b.shortest := by
    simp only [Layout.render, h, String.toList_ofList]
  have number : dialect.toFloat n = x := by
    rw [Dialect.toFloat, Numeral.estimated_of_few writes.few, writes.toFloat h, ite_self]
  rw [text, word_numeral taken writes.plain, writes.notWhole, Dialect.fractional?, number,
    isInf_of_some h]
  rfl

/-- An integer is read back where it was written, if it has few enough digits and fits. -/
theorem word_int {n : ℤ} (few : dialect.integerDigits.all ((digitsOf n.natAbs).length ≤ ·) = true)
    (fits : dialect.machineIntegers = true → fitsMachine n = true) :
    dialect.word? (toString n).toList = some (.int n) := by
  have number := natOf_digitsOf n.natAbs
  have all := isDigit_digitsOf n.natAbs
  obtain ⟨c, rest, digits, first⟩ : ∃ c rest, digitsOf n.natAbs = c :: rest ∧
      (c ≠ '0' ∨ rest = []) := by
    rcases Nat.eq_zero_or_pos n.natAbs with zero | pos
    · rw [zero]
      exact ⟨'0', [], rfl, .inr rfl⟩
    · obtain ⟨c, rest, digits, -, notZero⟩ := digitsOf_head pos
      exact ⟨c, rest, digits, .inl notZero⟩
  have text := toString_int n
  rw [digits] at number all few text
  have ends : EndsDigits [] := by simp [EndsDigits]
  have taken := ofChars_noPoint (decide (n < 0)) all ends (by simp) rfl
  rw [List.append_nil] at taken
  simp only [decide_eq_true_eq] at taken
  have value : Numeral.toInt ⟨if n < 0 then some '-' else none, c :: rest, none, none⟩ = n := by
    rw [Numeral.toInt]
    by_cases negative : n < 0
    · simp only [negative, if_true, number]
      omega
    · simp only [negative, if_false, number]
      rw [if_neg (by decide)]
      omega
  have enough : dialect.integerDigits.any (· < (c :: rest).length) = false := by
    cases h : dialect.integerDigits with
    | none => rfl
    | some most =>
      rw [h] at few
      simpa using few
  have machine : (dialect.machineIntegers && !fitsMachine n) = false := by
    cases h : dialect.machineIntegers with
    | false => rfl
    | true => rw [fits h]; rfl
  have plain : isPlainNumeral ⟨if n < 0 then some '-' else none, c :: rest, none, none⟩ = true := by
    have signed := @isPlainNumeral_of (decide (n < 0)) c rest none none first (by simp)
    simpa only [decide_eq_true_eq] using signed
  have whole : Numeral.isWhole ⟨if n < 0 then some '-' else none, c :: rest, none, none⟩ = true :=
    rfl
  rw [text, word_numeral taken plain, whole, Dialect.whole?, enough, value, machine]
  rfl

end Gatehouse.Json
