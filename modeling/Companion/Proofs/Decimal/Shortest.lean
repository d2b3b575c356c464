import Companion.Decimal.Shortest
import Mathlib.Algebra.Order.Field.Power
import Mathlib.Data.Rat.Cast.Order
import Mathlib.Tactic.Linarith
import Mathlib.Tactic.Ring
import Mathlib.Tactic.NormNum

/-! The shortest decimal of a float rounds to that float, and to no other.

What rounds to a float is an interval of rationals around it. Some decimal of the search lies in
there, since the last grid that is searched is finer than half the interval; and the intervals of
different floats have no rational in common.
-/

set_option autoImplicit false

namespace Companion.Decimal

/-- The rational that is written. -/
def Scientific.value (s : Scientific) : ℚ := s.digits * (10 : ℚ) ^ s.exponent

namespace Binary

/-- A quarter of the last bit. -/
def unit (b : Binary) : ℚ := (2 : ℚ) ^ (b.exponent - 2)

theorem unit_pos (b : Binary) : 0 < b.unit := zpow_pos (by norm_num) _

/-- A rational rounds to the number. -/
def Holds (b : Binary) (r : ℚ) : Prop :=
  if b.significand % 2 = 0 then b.low * b.unit ≤ r ∧ r ≤ b.high * b.unit
  else b.low * b.unit < r ∧ r < b.high * b.unit

theorem Holds.low_le {b : Binary} {r : ℚ} (holds : b.Holds r) : b.low * b.unit ≤ r := by
  unfold Holds at holds
  split at holds
  · exact holds.1
  · exact holds.1.le

theorem Holds.le_high {b : Binary} {r : ℚ} (holds : b.Holds r) : r ≤ b.high * b.unit := by
  unfold Holds at holds
  split at holds
  · exact holds.2
  · exact holds.2.le

/-! ### Grids -/

theorem scale_pos (b : Binary) (e : Int) : 0 < (b.scale e).1 ∧ 0 < (b.scale e).2 :=
  ⟨Nat.mul_pos (Nat.pow_pos (by decide)) (Nat.pow_pos (by decide)),
    Nat.mul_pos (Nat.pow_pos (by decide)) (Nat.pow_pos (by decide))⟩

theorem pow_toNat_mul (base : ℚ) (positive : 0 < base) (e : Int) :
    base ^ e.toNat = base ^ e * base ^ (-e).toNat := by
  rcases Int.le_total 0 e with up | down
  · obtain ⟨n, rfl⟩ := Int.eq_ofNat_of_zero_le up
    simp
  · obtain ⟨n, rfl⟩ := Int.exists_eq_neg_ofNat down
    simp [positive.ne']

/-- Numerator and denominator of a quarter of the last bit over a power of ten. -/
theorem scale_spec (b : Binary) (e : Int) :
    ((b.scale e).1 : ℚ) * (10 : ℚ) ^ e = (b.scale e).2 * b.unit := by
  have two := pow_toNat_mul 2 (by norm_num) (b.exponent - 2)
  have ten := pow_toNat_mul 10 (by norm_num) e
  simp only [scale, unit, Nat.pow_eq, Nat.cast_mul, Nat.cast_pow, Nat.cast_ofNat]
  rw [two, ten]
  ring

theorem le_iff_of_scaled {a b : Nat} {t k x y : ℚ} (positive : 0 < t) (positive' : 0 < k)
    (left : a * t = k * x) (right : b * t = k * y) : a ≤ b ↔ x ≤ y := by
  rw [← Nat.cast_le (α := ℚ), ← mul_le_mul_iff_left₀ positive, left, right,
    mul_le_mul_iff_right₀ positive']

/-- Quarters and multiples of a power of ten are compared as the scale says. -/
theorem scaled_le_iff (b : Binary) (e : Int) (n d : Nat) :
    (n * (b.scale e).1 ≤ d * (b.scale e).2 ↔ (n : ℚ) * b.unit ≤ d * (10 : ℚ) ^ e) ∧
      (d * (b.scale e).2 ≤ n * (b.scale e).1 ↔ (d : ℚ) * (10 : ℚ) ^ e ≤ n * b.unit) := by
  have ten : (0 : ℚ) < 10 ^ e := zpow_pos (by norm_num) _
  have den : (0 : ℚ) < (b.scale e).2 := Nat.cast_pos.mpr (b.scale_pos e).2
  have quarters : ((n * (b.scale e).1 : Nat) : ℚ) * 10 ^ e = (b.scale e).2 * (n * b.unit) := by
    rw [Nat.cast_mul, mul_assoc, scale_spec]
    ring
  have decimal : ((d * (b.scale e).2 : Nat) : ℚ) * 10 ^ e = (b.scale e).2 * (d * 10 ^ e) := by
    push_cast
    ring
  exact ⟨le_iff_of_scaled ten den quarters decimal, le_iff_of_scaled ten den decimal quarters⟩

/-- What rounds to the number among the multiples of a power of ten. -/
theorem covers_iff (b : Binary) (e : Int) (d : Nat) :
    b.covers (b.scale e) d = true ↔ b.Holds (d * (10 : ℚ) ^ e) := by
  obtain ⟨low, low'⟩ := b.scaled_le_iff e b.low d
  obtain ⟨high', high⟩ := b.scaled_le_iff e b.high d
  unfold covers Holds
  simp only
  split
  · simp only [Bool.and_eq_true, decide_eq_true_eq, low, high]
  · simp only [Bool.and_eq_true, decide_eq_true_eq, ← not_le, low', high']

/-- What is found on a grid rounds to the number. -/
theorem holds_onGrid? {b : Binary} {tie : Tie} {e : Int} {s : Scientific}
    (found : b.onGrid? tie e = some s) : b.Holds s.value ∧ s.digits ≠ 0 := by
  unfold onGrid? at found
  simp only at found
  have covered (d : Nat) (covers : b.covers (b.scale e) d = true) :
      b.Holds (Scientific.value ⟨d, e⟩) := (b.covers_iff e d).mp covers
  split at found
  · next below above =>
    rw [Bool.and_eq_true, decide_eq_true_eq] at below
    cases found
    split
    · exact ⟨covered _ above, Nat.succ_ne_zero _⟩
    · exact ⟨covered _ below.1, below.2.ne'⟩
  · next below above =>
    rw [Bool.and_eq_true, decide_eq_true_eq] at below
    cases found
    exact ⟨covered _ below.1, below.2.ne'⟩
  · next below above =>
    cases found
    exact ⟨covered _ above, Nat.succ_ne_zero _⟩
  · cases found

theorem low_le_quarters (b : Binary) : (b.low : ℚ) * b.unit ≤ b.quarters * b.unit := by
  have less : b.low ≤ b.quarters := Nat.sub_le ..
  exact mul_le_mul_of_nonneg_right (by exact_mod_cast less) b.unit_pos.le

/-- On a grid that is finer than half the interval the next multiple above rounds to the number. -/
theorem exists_onGrid? (b : Binary) (tie : Tie) {e : Int} (fine : (10 : ℚ) ^ e < 2 * b.unit) :
    ∃ s, b.onGrid? tie e = some s := by
  set below := b.quarters * (b.scale e).1 / (b.scale e).2 with same
  have under : (below : ℚ) * 10 ^ e ≤ b.quarters * b.unit :=
    (b.scaled_le_iff e b.quarters below).2.mp (Nat.div_mul_le_self ..)
  have beyond : (b.quarters : ℚ) * b.unit < (below + 1 : Nat) * 10 ^ e := by
    rw [← not_le, ← (b.scaled_le_iff e b.quarters (below + 1)).2, not_le]
    exact Nat.lt_mul_of_div_lt (Nat.lt_succ_self _) (b.scale_pos e).2
  have above : b.covers (b.scale e) (below + 1) = true := by
    rw [covers_iff]
    have low := b.low_le_quarters
    have high : (b.high : ℚ) * b.unit = b.quarters * b.unit + 2 * b.unit := by
      rw [high]
      push_cast
      ring
    have upper : ((below + 1 : Nat) : ℚ) * 10 ^ e < b.high * b.unit := by
      rw [high]
      push_cast
      linarith
    unfold Holds
    split
    · exact ⟨low.trans beyond.le, upper.le⟩
    · exact ⟨low.trans_lt beyond, upper⟩
  unfold onGrid?
  simp only [← same, above]
  split <;> simp_all

/-! ### The search -/

theorem holds_searchFrom {b : Binary} {tie : Tie} {count : Nat} {e : Int} {s : Scientific}
    (found : b.searchFrom tie count e = some s) : b.Holds s.value ∧ s.digits ≠ 0 := by
  induction count generalizing e with
  | zero => cases found
  | succ count ih =>
    unfold searchFrom at found
    rcases Option.or_eq_some_iff.mp found with here | ⟨-, later⟩
    · exact holds_onGrid? here
    · exact ih later

theorem exists_searchFrom {b : Binary} (tie : Tie) {count : Nat} {e : Int}
    (fine : (10 : ℚ) ^ (e - count) < 2 * b.unit) :
    ∃ s, b.searchFrom tie (count + 1) e = some s := by
  induction count generalizing e with
  | zero =>
    obtain ⟨s, found⟩ := b.exists_onGrid? tie (by simpa using fine)
    exact ⟨s, by rw [searchFrom, found, Option.some_or]⟩
  | succ count ih =>
    obtain ⟨s, found⟩ := ih (e := e - 1) (by rwa [sub_sub, add_comm, ← Nat.cast_succ] )
    rw [searchFrom]
    cases b.onGrid? tie e with
    | none => exact ⟨s, by rw [Option.none_or, found]⟩
    | some s => exact ⟨s, rfl⟩

theorem stripZeros_spec (fuel : Nat) (s : Scientific) (some : s.digits ≠ 0) :
    (stripZeros fuel s).value = s.value ∧ (stripZeros fuel s).digits ≠ 0 := by
  induction fuel generalizing s with
  | zero => exact ⟨rfl, some⟩
  | succ fuel ih =>
    unfold stripZeros
    split
    · next strips =>
      obtain ⟨digits, whole⟩ : 10 ∣ s.digits := Nat.dvd_of_mod_eq_zero strips.1
      have shorter : s.digits / 10 = digits := by omega
      obtain ⟨same, kept⟩ := ih ⟨s.digits / 10, s.exponent + 1⟩ (by simp only; omega)
      refine ⟨same.trans ?_, kept⟩
      rw [Scientific.value, Scientific.value, shorter, whole, zpow_add_one₀ (by norm_num)]
      push_cast
      ring
    · exact ⟨rfl, some⟩

/-! ### Floats -/

/-- A number that is a float: it has at most 53 bits, and fewer only with the least exponent. -/
structure IsFloat (b : Binary) : Prop where
  positive : 0 < b.significand
  bits : b.significand < 2 ^ 53
  least : -1074 ≤ b.exponent
  greatest : b.exponent ≤ 971
  full : -1074 < b.exponent → 2 ^ 52 ≤ b.significand
  edge : b.isEdge = true ↔ b.significand = 2 ^ 52 ∧ -1074 < b.exponent

/-- Powers of ten and of two, by `10 ^ 3 ≤ 2 ^ 10` and `2 ^ 33 ≤ 10 ^ 10`. -/
theorem ten_zpow_lt {e q : Int} (up : 0 ≤ e → 10 * e < 3 * q) (down : e ≤ 0 → -33 * e > -10 * q) :
    (10 : ℚ) ^ e < 2 ^ q := by
  rcases Int.le_total 0 e with positive | negative
  · obtain ⟨n, rfl⟩ := Int.eq_ofNat_of_zero_le positive
    obtain ⟨m, rfl⟩ := Int.eq_ofNat_of_zero_le (show 0 ≤ q by omega)
    have cubes : ((10 : ℚ) ^ n) ^ 3 < ((2 : ℚ) ^ m) ^ 3 := calc
      ((10 : ℚ) ^ n) ^ 3 = (10 ^ 3) ^ n := pow_right_comm ..
      _ ≤ (2 ^ 10) ^ n := pow_le_pow_left₀ (by norm_num) (by norm_num) n
      _ = 2 ^ (10 * n) := (pow_mul ..).symm
      _ < 2 ^ (m * 3) := pow_lt_pow_right₀ (by norm_num) (by omega)
      _ = ((2 : ℚ) ^ m) ^ 3 := pow_mul ..
    exact_mod_cast lt_of_pow_lt_pow_left₀ 3 (by positivity) cubes
  · obtain ⟨n, rfl⟩ := Int.exists_eq_neg_ofNat negative
    have two : (0 : ℚ) < 2 ^ q := zpow_pos (by norm_num) q
    have product : 1 < ((2 : ℚ) ^ q * 10 ^ n) ^ 10 := calc
      (1 : ℚ) < 2 ^ (q * 10 + 33 * n) := one_lt_zpow₀ (by norm_num) (by omega)
      _ = (2 ^ q) ^ 10 * (2 ^ 33) ^ n := by
        rw [zpow_add₀ (by norm_num), zpow_mul, zpow_mul]
        norm_cast
      _ ≤ (2 ^ q) ^ 10 * (10 ^ 10) ^ n := by
        gcongr
        norm_num
      _ = ((2 : ℚ) ^ q * 10 ^ n) ^ 10 := by rw [mul_pow, pow_right_comm 10]
    have greater : 1 < (2 : ℚ) ^ q * 10 ^ n := by
      by_contra small
      exact absurd product (not_lt.mpr (pow_le_one₀ (by positivity) (not_lt.mp small)))
    rw [zpow_neg, zpow_natCast, inv_lt_iff_one_lt_mul₀ (by positivity)]
    exact greater

/-- The last grid that is searched is finer than half the interval. -/
theorem IsFloat.fine {b : Binary} (float : b.IsFloat) :
    (10 : ℚ) ^ (b.topExponent - (21 : Nat)) < 2 * b.unit := by
  have half : 2 * b.unit = 2 ^ (b.exponent - 1) := by
    rw [unit, ← zpow_one_add₀ (by norm_num)]
    congr 1
    ring
  have log : b.significand.log2 < 53 := (Nat.log2_lt float.positive.ne').mpr float.bits
  have least := float.least
  have greatest := float.greatest
  rw [half]
  unfold topExponent
  simp only [Int.ofNat_eq_natCast]
  split <;> apply ten_zpow_lt <;> omega

/-- The shortest decimal of a float rounds to it. -/
theorem IsFloat.holds_shortest {b : Binary} (float : b.IsFloat) (tie : Tie) :
    b.Holds (b.shortest tie).value ∧ (b.shortest tie).digits ≠ 0 := by
  obtain ⟨s, found⟩ := exists_searchFrom tie float.fine
  obtain ⟨holds, some⟩ := holds_searchFrom found
  obtain ⟨same, kept⟩ := stripZeros_spec 20 s some
  rw [shortest, found, Option.getD_some, same]
  exact ⟨holds, kept⟩

/-! ### Different floats -/

theorem IsFloat.low_eq {b : Binary} (float : b.IsFloat) :
    b.low = 4 * b.significand -
      (if b.significand = 2 ^ 52 ∧ -1074 < b.exponent then 1 else 2) := by
  rw [low, quarters]
  simp only [float.edge]

theorem unit_eq {b b' : Binary} {k : Nat} (apart : b'.exponent = b.exponent + k) :
    b'.unit = 2 ^ k * b.unit := by
  rw [unit, unit, apart, add_sub_right_comm, zpow_add₀ (by norm_num), zpow_natCast, mul_comm]

/-- The interval of a float ends before that of a greater one begins. Where the two meet, one of them
does not have its end. -/
theorem IsFloat.high_le {b b' : Binary} (float : b.IsFloat) (float' : b'.IsFloat) {k : Nat}
    (apart : b'.exponent = b.exponent + k) (less : k = 0 → b.significand < b'.significand) :
    b.high ≤ b'.low * 2 ^ k ∧
      (b.high = b'.low * 2 ^ k → b.significand % 2 = 1 ∨ b'.significand % 2 = 1) := by
  have bits := float.bits
  have full := float.full
  have full' := float'.full
  have least := float.least
  rw [float'.low_eq, high, quarters]
  cases k with
  | zero =>
    have less := less rfl
    split <;> omega
  | succ k =>
    -- The greater float has all its bits, so that it begins at half of them at least.
    have begins : 2 ^ 52 ≤ b'.significand := full' (by omega)
    have half : 2 ^ 54 - 1 ≤ 4 * b'.significand -
        (if b'.significand = 2 ^ 52 ∧ -1074 < b'.exponent then 1 else 2) := by
      split <;> omega
    have doubled := Nat.mul_le_mul half (show 2 ≤ 2 ^ (k + 1) from Nat.le_pow (Nat.succ_pos k))
    refine ⟨by omega, fun same => .inl ?_⟩
    omega

/-- No rational rounds to two floats. -/
theorem IsFloat.not_holds {b b' : Binary} (float : b.IsFloat) (float' : b'.IsFloat) {k : Nat}
    (apart : b'.exponent = b.exponent + k) (less : k = 0 → b.significand < b'.significand) {r : ℚ}
    (holds : b.Holds r) : ¬b'.Holds r := by
  intro holds'
  obtain ⟨ends, meets⟩ := float.high_le float' apart less
  have high := holds.le_high
  have low := holds'.low_le
  rw [unit_eq apart, ← mul_assoc] at low
  have same : b.high = b'.low * 2 ^ k := by
    refine le_antisymm ends ?_
    have together := le_of_mul_le_mul_right (low.trans high) b.unit_pos
    exact_mod_cast together
  have meeting : (b'.low : ℚ) * b'.unit = b.high * b.unit := by
    rw [unit_eq apart, ← mul_assoc, same]
    push_cast
    rfl
  rcases meets same with odd | odd
  · unfold Holds at holds
    rw [if_neg (by omega)] at holds
    exact absurd holds.2 (not_lt.mpr (meeting ▸ holds'.low_le))
  · unfold Holds at holds'
    rw [if_neg (by omega)] at holds'
    exact absurd holds'.1 (not_lt.mpr (meeting ▸ high))

theorem IsFloat.eq_of_holds {b b' : Binary} (float : b.IsFloat) (float' : b'.IsFloat) {r : ℚ}
    (holds : b.Holds r) (holds' : b'.Holds r) : b = b' := by
  have exponents : b.exponent = b'.exponent := by
    rcases lt_trichotomy b.exponent b'.exponent with lower | same | greater
    · exact absurd holds' (float.not_holds float' (k := (b'.exponent - b.exponent).toNat) (by omega)
        (by omega) holds)
    · exact same
    · exact absurd holds (float'.not_holds float (k := (b.exponent - b'.exponent).toNat) (by omega)
        (by omega) holds')
  have significands : b.significand = b'.significand := by
    rcases lt_trichotomy b.significand b'.significand with lower | same | greater
    · exact absurd holds' (float.not_holds float' (k := 0) (by omega) (fun _ => lower) holds)
    · exact same
    · exact absurd holds (float'.not_holds float (k := 0) (by omega) (fun _ => greater) holds')
  have edges : b.isEdge = b'.isEdge := by
    rw [Bool.eq_iff_iff, float.edge, float'.edge, significands, exponents]
  obtain ⟨significand, exponent, isEdge⟩ := b
  cases exponents
  cases significands
  cases edges
  rfl

/-- What rounds to a float is positive. -/
theorem IsFloat.pos_of_holds {b : Binary} (float : b.IsFloat) {r : ℚ} (holds : b.Holds r) : 0 < r := by
  have positive : 0 < b.low := by
    have any := float.positive
    rw [float.low_eq]
    split <;> omega
  exact lt_of_lt_of_le (mul_pos (by exact_mod_cast positive) b.unit_pos) holds.low_le

end Binary

end Companion.Decimal
