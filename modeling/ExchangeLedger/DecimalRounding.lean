import ExchangeLedger.Decimal
import Mathlib.Data.Int.Log
import Mathlib.Data.Rat.Floor
import Mathlib.Algebra.Order.Floor.Semifield

set_option autoImplicit false

/-! Arithmetic with a number of significant digits: each operation is the exact one, rounded. -/

namespace Decimal

/-- One unit of the `p`-th significant digit of `x`. -/
def digitUnit (p : Nat) (x : Rat) : Rat := (10 : Rat) ^ (Int.log 10 x + 1 - p)

/-- `x` in `p` significant digits, rounded half up. -/
def significant (p : Nat) (x : Rat) : Rat := ⌊x / digitUnit p x + 1 / 2⌋ * digitUnit p x

theorem digitUnit_pos (p : Nat) (x : Rat) : 0 < digitUnit p x := by
  unfold digitUnit
  positivity

@[simp] theorem significant_zero (p : Nat) : significant p 0 = 0 := by
  have hhalf : ⌊(2 : Rat)⁻¹⌋ = 0 := by norm_num
  simp [significant, hhalf]

theorem log_eq_of_bounds {x : Rat} {k : Int} (hle : (10 : Rat) ^ k ≤ x)
    (hlt : x < (10 : Rat) ^ (k + 1)) : Int.log 10 x = k := by
  have hpos : 0 < x := lt_of_lt_of_le (by positivity) hle
  have hlower := (Int.zpow_le_iff_le_log (b := 10) (by decide) hpos).mp (by exact_mod_cast hle)
  have hupper := (Int.lt_zpow_iff_log_lt (b := 10) (by decide) hpos).mp (by exact_mod_cast hlt)
  omega

theorem log_natCast_mul {n : Nat} (hn : 0 < n) (e : Int) :
    Int.log 10 ((n : Rat) * (10 : Rat) ^ e) = (Nat.toDigits 10 n).length - 1 + e := by
  have hlength := Nat.length_toDigits_pos (b := 10) (n := n)
  have hlt : (n : Rat) < (10 : Rat) ^ (Nat.toDigits 10 n).length := by
    exact_mod_cast lt_pow_length_toDigits n
  have hle : (10 : Rat) ^ ((Nat.toDigits 10 n).length - 1) ≤ n := by
    rcases Nat.eq_or_lt_of_le hlength with h1 | h1
    · rw [← h1]
      exact_mod_cast hn
    · have hnot : ¬ (Nat.toDigits 10 n).length ≤ (Nat.toDigits 10 n).length - 1 := by omega
      rw [Nat.length_toDigits_le_iff (by decide) (by omega)] at hnot
      exact_mod_cast Nat.le_of_not_lt hnot
  obtain ⟨l, hl⟩ : ∃ l, (Nat.toDigits 10 n).length = l + 1 :=
    ⟨(Nat.toDigits 10 n).length - 1, by omega⟩
  rw [hl] at hlt hle ⊢
  rw [Nat.add_sub_cancel] at hle
  apply log_eq_of_bounds
  · rw [show ((l + 1 : Nat) : Int) - 1 + e = (l : Int) + e by omega, zpow_add₀ (by norm_num),
      zpow_natCast]
    exact mul_le_mul_of_nonneg_right hle (by positivity)
  · rw [show ((l + 1 : Nat) : Int) - 1 + e + 1 = ((l + 1 : Nat) : Int) + e by omega,
      zpow_add₀ (by norm_num), zpow_natCast]
    exact mul_lt_mul_of_pos_right hlt (by positivity)

/-- A whole number of at most `p` digits, times a power of ten, is kept. -/
theorem significant_of_digits {p n : Nat} (hn : (Nat.toDigits 10 n).length ≤ p) (e : Int) :
    significant p ((n : Rat) * (10 : Rat) ^ e) = n * (10 : Rat) ^ e := by
  rcases Nat.eq_zero_or_pos n with rfl | hpos
  · simp
  obtain ⟨k, hk⟩ : ∃ k, p = (Nat.toDigits 10 n).length + k :=
    ⟨p - (Nat.toDigits 10 n).length, by omega⟩
  have hunit : digitUnit p ((n : Rat) * (10 : Rat) ^ e) = (10 : Rat) ^ (e - k) := by
    unfold digitUnit
    rw [log_natCast_mul hpos]
    congr 1
    omega
  have hquotient :
      (n : Rat) * (10 : Rat) ^ e / (10 : Rat) ^ (e - k) = ((n * 10 ^ k : Nat) : Rat) := by
    rw [zpow_sub₀ (by norm_num), zpow_natCast]
    field_simp
    push_cast
    ring
  have hhalf : ⌊(1 / 2 : Rat)⌋ = 0 := by norm_num
  unfold significant
  rw [hunit, hquotient, Int.floor_natCast_add, hhalf, add_zero, Int.cast_natCast, ← hquotient]
  field_simp

theorem significant_of_lt {p n : Nat} (hp : 0 < p) (hn : n < 10 ^ p) (e : Int) :
    significant p ((n : Rat) * (10 : Rat) ^ e) = n * (10 : Rat) ^ e :=
  significant_of_digits ((Nat.length_toDigits_le_iff (by decide) hp).mpr hn) e

/-- Half up, in whole numbers. -/
theorem floor_div_add_half (y : Rat) {k : Nat} (hk : 0 < k) :
    ⌊y / (10 : Rat) ^ k + 1 / 2⌋ = (⌊y⌋ + (10 ^ k / 2 : Nat)) / (10 ^ k : Nat) := by
  have heven : 10 ^ k / 2 * 2 = 10 ^ k := by
    obtain ⟨j, rfl⟩ : ∃ j, k = j + 1 := ⟨k - 1, by omega⟩
    rw [pow_succ]
    omega
  have hhalf : ((10 ^ k / 2 : Nat) : Rat) * 2 = (10 : Rat) ^ k := by exact_mod_cast heven
  have hsum : y / (10 : Rat) ^ k + 1 / 2 = (y + (10 ^ k / 2 : Nat)) / (10 ^ k : Nat) := by
    push_cast
    have hpos : (0 : Rat) < 10 ^ k := by positivity
    field_simp
    linarith
  rw [hsum, Int.floor_div_natCast, Int.floor_add_natCast]

/-- `roundSig` rounds the value. -/
theorem roundSig_value {p : Nat} (hp : 0 < p) (n : Nat) (e : Int) :
    (roundSig p ⟨n, e⟩).value = significant p ((n : Rat) * (10 : Rat) ^ e) := by
  unfold roundSig
  simp only [Int.natAbs_natCast]
  split
  · rename_i hshort
    rw [significant_of_digits hshort, value, Int.cast_natCast]
  · rename_i hlong
    have hpos : 0 < n := by
      rcases Nat.eq_zero_or_pos n with rfl | hpos
      · simp at hlong
        omega
      · exact hpos
    obtain ⟨k, hk⟩ : ∃ k, (Nat.toDigits 10 n).length = p + k :=
      ⟨(Nat.toDigits 10 n).length - p, by omega⟩
    have hunit : digitUnit p ((n : Rat) * (10 : Rat) ^ e) = (10 : Rat) ^ (e + k) := by
      unfold digitUnit
      rw [log_natCast_mul hpos]
      congr 1
      omega
    have hquotient : (n : Rat) * (10 : Rat) ^ e / (10 : Rat) ^ (e + k) = n / (10 : Rat) ^ k := by
      rw [zpow_add₀ (by norm_num), zpow_natCast]
      field_simp
    unfold significant
    rw [hunit, hquotient, floor_div_add_half _ (by omega), Int.floor_natCast, hk,
      Nat.add_sub_cancel_left, Int.sign_eq_one_of_pos (by omega), one_mul, value]
    push_cast
    rfl

theorem significant_nonneg (p : Nat) {x : Rat} (hx : 0 ≤ x) : 0 ≤ significant p x := by
  have hunit := digitUnit_pos p x
  have hfloor : 0 ≤ ⌊x / digitUnit p x + 1 / 2⌋ := Int.floor_nonneg.mpr (by positivity)
  exact mul_nonneg (by exact_mod_cast hfloor) hunit.le

theorem roundSig_natCast (p n : Nat) (e : Int) :
    ∃ (m : Nat) (f : Int), roundSig p ⟨n, e⟩ = ⟨m, f⟩ := by
  unfold roundSig
  simp only [Int.natAbs_natCast]
  split
  · exact ⟨n, e, rfl⟩
  · rcases Nat.eq_zero_or_pos n with rfl | hn
    · exact ⟨0, _, by rw [Nat.cast_zero, Int.sign_zero, zero_mul]⟩
    · exact ⟨_, _, by rw [Int.sign_eq_one_of_pos (by omega), one_mul]⟩

theorem mul_natCast (m n : Nat) (e f : Int) :
    ∃ (k : Nat) (g : Int), mul ⟨m, e⟩ ⟨n, f⟩ = ⟨k, g⟩ := by
  unfold mul
  exact_mod_cast roundSig_natCast precision (m * n) (e + f)

theorem mul_value (m n : Nat) (e f : Int) :
    (mul ⟨m, e⟩ ⟨n, f⟩).value =
      significant precision ((m : Rat) * (10 : Rat) ^ e * (n * (10 : Rat) ^ f)) := by
  have hround := roundSig_value (p := precision) (by decide) (m * n) (e + f)
  rw [Nat.cast_mul] at hround
  unfold mul
  rw [hround]
  congr 1
  rw [zpow_add₀ (by norm_num)]
  push_cast
  ring

theorem log_mul_zpow {x : Rat} (hx : 0 < x) (f : Int) :
    Int.log 10 (x * (10 : Rat) ^ f) = Int.log 10 x + f := by
  have hle : (10 : Rat) ^ Int.log 10 x ≤ x := by
    exact_mod_cast Int.zpow_log_le_self (b := 10) (by decide) hx
  have hlt : x < (10 : Rat) ^ (Int.log 10 x + 1) := by
    exact_mod_cast Int.lt_zpow_succ_log_self (b := 10) (by decide) x
  apply log_eq_of_bounds
  · rw [zpow_add₀ (by norm_num)]
    exact mul_le_mul_of_nonneg_right hle (by positivity)
  · rw [show Int.log 10 x + f + 1 = Int.log 10 x + 1 + f by ring, zpow_add₀ (by norm_num)]
    exact mul_lt_mul_of_pos_right hlt (by positivity)

/-- What is behind the point of a number of more than `p` digits does not count. -/
theorem significant_floor {p : Nat} {y : Rat} (hy : (10 : Rat) ^ p ≤ y) (f : Int) :
    significant p (⌊y⌋ * (10 : Rat) ^ f) = significant p (y * (10 : Rat) ^ f) := by
  have hpos : 0 < y := lt_of_lt_of_le (by positivity) hy
  have hlog : (p : Int) ≤ Int.log 10 y :=
    (Int.zpow_le_iff_le_log (b := 10) (by decide) hpos).mp (by exact_mod_cast hy)
  obtain ⟨l, hl⟩ : ∃ l : Nat, Int.log 10 y = l := ⟨(Int.log 10 y).toNat, by omega⟩
  obtain ⟨k, hk⟩ : ∃ k : Nat, l + 1 = p + k := ⟨l + 1 - p, by omega⟩
  have hfloor : Int.log 10 (⌊y⌋ : Rat) = l := by
    apply log_eq_of_bounds
    · have hle : ((10 ^ l : Int) : Rat) ≤ y := by
        have hself := Int.zpow_log_le_self (b := 10) (by decide) hpos
        rw [hl, zpow_natCast] at hself
        exact_mod_cast hself
      rw [zpow_natCast]
      exact_mod_cast Int.le_floor.mpr hle
    · have hlt := Int.lt_zpow_succ_log_self (b := 10) (by decide) y
      rw [hl] at hlt
      exact lt_of_le_of_lt (Int.floor_le y) (by exact_mod_cast hlt)
  have hfloorPos : 0 < (⌊y⌋ : Rat) := by
    have hone : (1 : Rat) ≤ y := le_trans (one_le_pow₀ (by norm_num)) hy
    exact_mod_cast Int.floor_pos.mpr hone
  have hunit : (10 : Rat) ^ ((l : Int) + f + 1 - p) = (10 : Rat) ^ k * (10 : Rat) ^ f := by
    rw [← zpow_natCast, ← zpow_add₀ (by norm_num)]
    congr 1
    omega
  have hquotient (x : Rat) : x * (10 : Rat) ^ f / ((10 : Rat) ^ k * (10 : Rat) ^ f) =
      x / (10 : Rat) ^ k := by
    field_simp
  unfold significant digitUnit
  rw [log_mul_zpow hfloorPos, log_mul_zpow hpos, hfloor, hl, hunit, hquotient, hquotient,
    floor_div_add_half _ (by omega), floor_div_add_half _ (by omega), Int.floor_intCast]

/-- The further digits decide the rounding as the whole quotient does. -/
theorem divNat_value (m : Nat) (e : Int) {n : Nat} (hn : 0 < n) (hle : n ≤ 10 ^ 20) :
    (divNat ⟨m, e⟩ n).value = significant precision ((m : Rat) * (10 : Rat) ^ e / n) := by
  have hround := roundSig_value (p := precision) (by decide) (m * 10 ^ 40 / n) (e - 40)
  have hmant : (m : Int) * 10 ^ 40 / n = ((m * 10 ^ 40 / n : Nat) : Int) := by push_cast; rfl
  unfold divNat
  rw [hmant, hround]
  rcases Nat.eq_zero_or_pos m with rfl | hm
  · simp
  have hn' : (0 : Rat) < n := by exact_mod_cast hn
  have hlarge : (10 : Rat) ^ precision ≤ (m * 10 ^ 40 : Nat) / n := by
    rw [le_div_iff₀ hn']
    have hprod : 10 ^ 20 * n ≤ m * 10 ^ 40 := by nlinarith
    exact_mod_cast hprod
  have hfloor : ((m * 10 ^ 40 / n : Nat) : Rat) = ⌊((m * 10 ^ 40 : Nat) : Rat) / n⌋ := by
    rw [Rat.floor_natCast_div_natCast]
    push_cast
    rfl
  rw [hfloor, significant_floor hlarge]
  congr 1
  have hshift : (10 : Rat) ^ (e - 40) = (10 : Rat) ^ e / (10 : Rat) ^ 40 := by
    rw [zpow_sub₀ (by norm_num)]
    norm_cast
  rw [hshift, Nat.cast_mul, Nat.cast_pow, Nat.cast_ofNat]
  field_simp

theorem floor_eq (x : Decimal) : x.floor = ⌊x.value⌋ := by
  unfold floor value
  split
  · rename_i hexp
    obtain ⟨k, hk⟩ := Int.eq_ofNat_of_zero_le hexp
    rw [hk, Int.toNat_natCast, zpow_natCast]
    exact_mod_cast (Int.floor_intCast (R := Rat) (x.mant * 10 ^ k)).symm
  · rename_i hexp
    obtain ⟨k, hk⟩ := Int.eq_ofNat_of_zero_le (by omega : 0 ≤ -x.exp)
    have hexp' : x.exp = -(k : Int) := by omega
    rw [hk, Int.toNat_natCast, hexp', zpow_neg, zpow_natCast, ← div_eq_mul_inv]
    exact_mod_cast (Rat.floor_intCast_div_natCast x.mant (10 ^ k)).symm

/-- The digit unit, or one where that is less. -/
def wholeUnit (p : Nat) (x : Rat) : Nat := 10 ^ (Int.log 10 x + 1 - p).toNat

/-- Where the unit is not above one, rounding adds half of it before the whole part is taken. -/
theorem floor_significant_of_le {p : Nat} {x : Rat} (hlog : Int.log 10 x + 1 ≤ p) :
    ⌊significant p x⌋ = ⌊x + digitUnit p x / 2⌋ := by
  obtain ⟨k, hk⟩ : ∃ k : Nat, Int.log 10 x + 1 - p = -(k : Int) :=
    ⟨(p - (Int.log 10 x + 1)).toNat, by omega⟩
  have hpos : (0 : Rat) < 10 ^ k := by positivity
  have hunit : digitUnit p x = 1 / ((10 ^ k : Nat) : Rat) := by
    unfold digitUnit
    rw [hk, zpow_neg, zpow_natCast]
    push_cast
    rw [one_div]
  unfold significant
  rw [hunit, mul_one_div, Int.floor_div_natCast, Int.floor_intCast, ← Int.floor_div_natCast]
  congr 1
  push_cast
  field_simp

theorem floor_significant_of_ge {p : Nat} {x : Rat} (hlog : p ≤ Int.log 10 x + 1) (k : Nat) :
    ⌊significant p x⌋ = k ↔ wholeUnit p x ∣ k ∧ (k : Rat) ≤ x + digitUnit p x / 2 ∧
      x + digitUnit p x / 2 < k + wholeUnit p x := by
  have hunit : digitUnit p x = (wholeUnit p x : Rat) := by
    unfold digitUnit wholeUnit
    push_cast
    rw [← zpow_natCast, Int.toNat_of_nonneg (by omega)]
  have hpos : (0 : Rat) < wholeUnit p x := hunit ▸ digitUnit_pos p x
  unfold significant
  rw [hunit]
  generalize wholeUnit p x = w at hpos
  have hshift (j : Int) : x / w + 1 / 2 < j ↔ x + w / 2 < j * w := by
    rw [← div_lt_iff₀ hpos, add_div, div_div_cancel_left' hpos.ne']
    norm_num
  have hfloor (j : Int) : ⌊x / w + 1 / 2⌋ = j ↔ j * w ≤ x + w / 2 ∧ x + w / 2 < j * w + w := by
    rw [Int.floor_eq_iff, ← not_lt, hshift, not_lt]
    have hnext := hshift (j + 1)
    push_cast at hnext
    rw [hnext, add_mul, one_mul]
  have hinteger : ⌊(⌊x / w + 1 / 2⌋ : Rat) * w⌋ = ⌊x / w + 1 / 2⌋ * w := by
    exact_mod_cast Int.floor_intCast (R := Rat) (⌊x / w + 1 / 2⌋ * w)
  rw [hinteger]
  constructor
  · intro hk
    obtain ⟨hle, hlt⟩ := (hfloor _).mp rfl
    have hcast : ((⌊x / w + 1 / 2⌋ : Int) : Rat) * w = k := by exact_mod_cast hk
    rw [hcast] at hle hlt
    exact ⟨Int.natCast_dvd_natCast.mp ⟨_, by rw [← hk, mul_comm]⟩, hle, hlt⟩
  · rintro ⟨⟨j, rfl⟩, hle, hlt⟩
    have hj : ⌊x / w + 1 / 2⌋ = j := by
      apply (hfloor j).mpr
      push_cast at hle hlt ⊢
      rw [mul_comm (j : Rat)]
      exact ⟨hle, hlt⟩
    rw [hj]
    push_cast
    ring

/-- The whole part of a rounded number: the number and half its unit lie between that whole part
and the next. -/
theorem floor_significant_iff (p : Nat) (x : Rat) (k : Nat) :
    ⌊significant p x⌋ = k ↔ wholeUnit p x ∣ k ∧ (k : Rat) ≤ x + digitUnit p x / 2 ∧
      x + digitUnit p x / 2 < k + wholeUnit p x := by
  rcases le_total (p : Int) (Int.log 10 x + 1) with hge | hle
  · exact floor_significant_of_ge hge k
  · have hone : wholeUnit p x = 1 := by
      unfold wholeUnit
      rw [Int.toNat_of_nonpos (by omega), pow_zero]
    rw [floor_significant_of_le hle, hone, Int.floor_eq_iff]
    simp

/-- Rounding keeps the whole part of a fraction whose denominator is small for its size. -/
theorem floor_significant_div {p i n d : Nat} (hlt : n < d * 10 ^ i) (hd : d * 10 ^ i ≤ 10 ^ p) :
    ⌊significant p ((n : Rat) / d)⌋ = ((n / d : Nat) : Int) := by
  have hdpos : 0 < d := Nat.pos_of_ne_zero (by rintro rfl; simp at hlt)
  have hd' : (0 : Rat) < d := by exact_mod_cast hdpos
  rcases Nat.eq_zero_or_pos n with rfl | hn
  · simp
  have hpos : (0 : Rat) < (n : Rat) / d := by positivity
  have hsmall : (n : Rat) / d < (10 : Rat) ^ (i : Int) := by
    rw [div_lt_iff₀ hd', zpow_natCast, mul_comm]
    exact_mod_cast hlt
  have hlog : Int.log 10 ((n : Rat) / d) < i :=
    (Int.lt_zpow_iff_log_lt (b := 10) (by decide) hpos).mp (by exact_mod_cast hsmall)
  have hip : i ≤ p := by
    have hle : 10 ^ i ≤ 10 ^ p := le_trans (Nat.le_mul_of_pos_left _ hdpos) hd
    exact (Nat.pow_le_pow_iff_right (by decide)).mp hle
  have hunit : digitUnit p ((n : Rat) / d) * d ≤ 1 := by
    have hmono : digitUnit p ((n : Rat) / d) ≤ (10 : Rat) ^ ((i : Int) - p) :=
      zpow_le_zpow_right₀ (by norm_num) (by omega)
    have hpow : (10 : Rat) ^ ((i : Int) - p) * d ≤ 1 := by
      rw [zpow_sub₀ (by norm_num), zpow_natCast, zpow_natCast, div_mul_eq_mul_div,
        div_le_one (by positivity), mul_comm]
      exact_mod_cast hd
    exact le_trans (mul_le_mul_of_nonneg_right hmono hd'.le) hpow
  have hunitPos := digitUnit_pos p ((n : Rat) / d)
  rw [floor_significant_of_le (by omega), Int.floor_eq_iff]
  generalize digitUnit p ((n : Rat) / d) = u at hunit hunitPos
  have hle : ((n / d : Nat) : Rat) ≤ (n : Rat) / d := by
    rw [le_div_iff₀ hd']
    exact_mod_cast Nat.div_mul_le_self n d
  -- the fraction is short of the next whole number by at least one part in `d`
  have hnext : (n : Rat) / d + 1 / d ≤ ((n / d : Nat) : Rat) + 1 := by
    rw [← add_div, div_le_iff₀ hd']
    have hsucc : n + 1 ≤ (n / d + 1) * d := by
      have hmod := Nat.div_add_mod n d
      have hrem := Nat.mod_lt n hdpos
      rw [Nat.add_mul, Nat.mul_comm (n / d)]
      omega
    exact_mod_cast hsucc
  have hhalf : u ≤ 1 / d := by rwa [le_div_iff₀ hd']
  rw [Int.cast_natCast]
  constructor
  · linarith
  · linarith

/-! ### The error of one rounding -/

theorem digitUnit_le {p : Nat} (hp : 0 < p) {x : Rat} (hx : 0 < x) : digitUnit p x ≤ x := by
  have hlog : (10 : Rat) ^ Int.log 10 x ≤ x := by
    exact_mod_cast Int.zpow_log_le_self (b := 10) (by decide) hx
  exact le_trans (zpow_le_zpow_right₀ (by norm_num) (by omega)) hlog

theorem significant_bounds (p : Nat) (x : Rat) :
    x - digitUnit p x / 2 ≤ significant p x ∧ significant p x ≤ x + digitUnit p x / 2 := by
  have hunit := digitUnit_pos p x
  have hfloor := Int.floor_le (x / digitUnit p x + 1 / 2)
  have hnext := Int.lt_floor_add_one (x / digitUnit p x + 1 / 2)
  have hx : x / digitUnit p x * digitUnit p x = x := div_mul_cancel₀ x hunit.ne'
  unfold significant
  generalize (⌊x / digitUnit p x + 1 / 2⌋ : Rat) = m at hfloor hnext
  generalize x / digitUnit p x = y at hfloor hnext hx
  constructor
  · nlinarith
  · nlinarith

theorem half_le_significant {p : Nat} (hp : 0 < p) {x : Rat} (hx : 0 < x) :
    x / 2 ≤ significant p x := by
  have hunit := digitUnit_le hp hx
  have hbounds := (significant_bounds p x).1
  linarith

theorem significant_le_twice {p : Nat} (hp : 0 < p) {x : Rat} (hx : 0 < x) :
    significant p x ≤ 2 * x := by
  have hunit := digitUnit_le hp hx
  have hbounds := (significant_bounds p x).2
  linarith

theorem digitUnit_le_mul (p : Nat) {x : Rat} (hx : 0 < x) :
    digitUnit p x ≤ x * (10 : Rat) ^ (1 - (p : Int)) := by
  have hlog : (10 : Rat) ^ Int.log 10 x ≤ x := by
    exact_mod_cast Int.zpow_log_le_self (b := 10) (by decide) hx
  rw [digitUnit, add_sub_assoc, zpow_add₀ (by norm_num)]
  exact mul_le_mul_of_nonneg_right hlog (by positivity)

theorem abs_significant_sub_le (p : Nat) {x : Rat} (hx : 0 < x) :
    |significant p x - x| ≤ x * (10 : Rat) ^ (1 - (p : Int)) / 2 := by
  obtain ⟨hlower, hupper⟩ := significant_bounds p x
  have hunit := digitUnit_le_mul p hx
  rw [abs_le]
  constructor
  · linarith
  · linarith

/-- Rounding commutes with a move of the point. -/
theorem significant_mul_zpow (p : Nat) {x : Rat} (hx : 0 ≤ x) (f : Int) :
    significant p (x * (10 : Rat) ^ f) = significant p x * (10 : Rat) ^ f := by
  rcases hx.eq_or_lt with rfl | hpos
  · rw [zero_mul, significant_zero, zero_mul]
  have hunit : digitUnit p (x * (10 : Rat) ^ f) = digitUnit p x * (10 : Rat) ^ f := by
    unfold digitUnit
    rw [log_mul_zpow hpos, ← zpow_add₀ (by norm_num)]
    congr 1
    ring
  have hshift : (10 : Rat) ^ f ≠ 0 := by positivity
  unfold significant
  rw [hunit, mul_div_mul_right _ _ hshift, mul_assoc]

/-- A rounded number is kept. -/
theorem significant_significant {p : Nat} (hp : 0 < p) {x : Rat} (hx : 0 ≤ x) :
    significant p (significant p x) = significant p x := by
  rcases hx.eq_or_lt with rfl | hpos
  · rw [significant_zero, significant_zero]
  have hunit := digitUnit_pos p x
  have hfloor : 0 ≤ ⌊x / digitUnit p x + 1 / 2⌋ := Int.floor_nonneg.mpr (by positivity)
  obtain ⟨n, hn⟩ := Int.eq_ofNat_of_zero_le hfloor
  have hvalue : significant p x = n * (10 : Rat) ^ (Int.log 10 x + 1 - p) := by
    rw [significant, hn, Int.cast_natCast, digitUnit]
  -- carrying into a further digit gives a power of ten
  have hlt : x / digitUnit p x < 10 ^ p := by
    have hlog := Int.lt_zpow_succ_log_self (b := 10) (by decide) x
    rw [div_lt_iff₀ hunit, digitUnit, ← zpow_natCast, ← zpow_add₀ (by norm_num),
      add_sub_cancel]
    exact_mod_cast hlog
  have hle : n ≤ 10 ^ p := by
    have hn' : (n : Rat) ≤ x / digitUnit p x + 1 / 2 := by
      have hself := Int.floor_le (x / digitUnit p x + 1 / 2)
      rwa [hn, Int.cast_natCast] at hself
    have hstrict : (n : Rat) < (10 ^ p + 1 : Nat) := by
      push_cast
      linarith
    exact Nat.le_of_lt_succ (by exact_mod_cast hstrict)
  rw [hvalue]
  rcases hle.eq_or_lt with rfl | hdigits
  · have hone := significant_of_lt (n := 1) hp (Nat.one_lt_pow hp.ne' (by decide))
      (p + (Int.log 10 x + 1 - p))
    rw [zpow_add₀ (by norm_num), zpow_natCast, Nat.cast_one, one_mul] at hone
    exact_mod_cast hone
  · exact significant_of_lt hp hdigits _

/-! ### Results of operations on numbers that are not negative -/

/-- The sum, at the smaller of the two exponents. -/
def addExact (x y : Decimal) : Decimal :=
  let e := min x.exp y.exp
  ⟨x.mant * 10 ^ (x.exp - e).toNat + y.mant * 10 ^ (y.exp - e).toNat, e⟩

def add (x y : Decimal) : Decimal := roundSig precision (addExact x y)

def sub (x y : Decimal) : Decimal := add x ⟨-y.mant, y.exp⟩

/-- `x` is not negative, and `v` is its value. -/
structure Denotes (x : Decimal) (v : Rat) : Prop where
  mant_nonneg : 0 ≤ x.mant
  value_eq : x.value = v

theorem Denotes.nonneg {x : Decimal} {v : Rat} (h : Denotes x v) : 0 ≤ v := by
  rw [← h.value_eq]
  exact mul_nonneg (by exact_mod_cast h.mant_nonneg) (by positivity)

/-- A number whose value is not negative has no sign. -/
theorem denotes_of_value {x : Decimal} {v : Rat} (hx : x.value = v) (hv : 0 ≤ v) : Denotes x v := by
  constructor
  · by_contra hneg
    have hmant : (x.mant : Rat) < 0 := by exact_mod_cast not_le.mp hneg
    have hpos : (0 : Rat) < (10 : Rat) ^ x.exp := by positivity
    have hvalue : x.value < 0 := mul_neg_of_neg_of_pos hmant hpos
    linarith
  · exact hx

theorem mant_pos_of_value {x : Decimal} (hx : 0 < x.value) : 0 < x.mant := by
  by_contra hneg
  have hmant : (x.mant : Rat) ≤ 0 := by exact_mod_cast not_lt.mp hneg
  have hpow : (0 : Rat) ≤ (10 : Rat) ^ x.exp := by positivity
  have hvalue : x.value ≤ 0 := mul_nonpos_of_nonpos_of_nonneg hmant hpow
  linarith

theorem Denotes.roundSig {p : Nat} (hp : 0 < p) {x : Decimal} {v : Rat} (h : Denotes x v) :
    Denotes (roundSig p x) (significant p v) := by
  obtain ⟨n, hn⟩ : ∃ n : Nat, x.mant = n :=
    ⟨x.mant.toNat, (Int.toNat_of_nonneg h.mant_nonneg).symm⟩
  have hx : x = ⟨n, x.exp⟩ := by rw [← hn]
  have hvalue : v = (n : Rat) * (10 : Rat) ^ x.exp := by
    rw [← h.value_eq, value, hn, Int.cast_natCast]
  rw [hx, hvalue]
  exact denotes_of_value (roundSig_value hp n x.exp)
    (significant_nonneg p (by positivity))

theorem Denotes.mul {x y : Decimal} {v w : Rat} (hx : Denotes x v) (hy : Denotes y w) :
    Denotes (mul x y) (significant precision (v * w)) := by
  have hexact : Denotes ⟨x.mant * y.mant, x.exp + y.exp⟩ (v * w) := by
    constructor
    · exact mul_nonneg hx.mant_nonneg hy.mant_nonneg
    · rw [← hx.value_eq, ← hy.value_eq, value, value, value, zpow_add₀ (by norm_num)]
      push_cast
      ring
  exact hexact.roundSig (by decide)

/-- `z` at an exponent that is not above its own. -/
theorem shifted_value (z : Decimal) {e : Int} (he : e ≤ z.exp) :
    ((z.mant * 10 ^ (z.exp - e).toNat : Int) : Rat) * (10 : Rat) ^ e = z.value := by
  have hexp : ((z.exp - e).toNat : Int) = z.exp - e := by omega
  rw [value]
  push_cast
  rw [← zpow_natCast, hexp, mul_assoc, ← zpow_add₀ (by norm_num), sub_add_cancel]

theorem addExact_value (x y : Decimal) : (addExact x y).value = x.value + y.value := by
  rw [← shifted_value x (min_le_left x.exp y.exp), ← shifted_value y (min_le_right x.exp y.exp),
    ← add_mul, value, addExact]
  push_cast
  rfl

theorem lte_iff (x y : Decimal) : x.lte y = true ↔ x.value ≤ y.value := by
  have hpos : (0 : Rat) < (10 : Rat) ^ min x.exp y.exp := by positivity
  rw [← shifted_value x (min_le_left x.exp y.exp), ← shifted_value y (min_le_right x.exp y.exp),
    mul_le_mul_iff_left₀ hpos, Int.cast_le, lte, decide_eq_true_eq]

theorem Denotes.add {x y : Decimal} {v w : Rat} (hx : Denotes x v) (hy : Denotes y w) :
    Denotes (add x y) (significant precision (v + w)) := by
  have hvalue : (addExact x y).value = v + w := by
    rw [addExact_value, hx.value_eq, hy.value_eq]
  exact (denotes_of_value hvalue (add_nonneg hx.nonneg hy.nonneg)).roundSig (by decide)

theorem Denotes.sub {x y : Decimal} {v w : Rat} (hx : Denotes x v) (hy : Denotes y w)
    (hle : w ≤ v) : Denotes (sub x y) (significant precision (v - w)) := by
  have hneg : Decimal.value ⟨-y.mant, y.exp⟩ = -w := by
    rw [← hy.value_eq, value, value]
    push_cast
    ring
  have hvalue : (addExact x ⟨-y.mant, y.exp⟩).value = v - w := by
    rw [addExact_value, hx.value_eq, hneg, sub_eq_add_neg]
  exact (denotes_of_value hvalue (sub_nonneg.mpr hle)).roundSig (by decide)

theorem Denotes.divNat {x : Decimal} {v : Rat} (hx : Denotes x v) {n : Nat} (hn : 0 < n)
    (hle : n ≤ 10 ^ 20) : Denotes (divNat x n) (significant precision (v / n)) := by
  obtain ⟨m, hm⟩ : ∃ m : Nat, x.mant = m :=
    ⟨x.mant.toNat, (Int.toNat_of_nonneg hx.mant_nonneg).symm⟩
  have hx' : x = ⟨m, x.exp⟩ := by rw [← hm]
  have hvalue : v = (m : Rat) * (10 : Rat) ^ x.exp := by
    rw [← hx.value_eq, value, hm, Int.cast_natCast]
  rw [hx', hvalue]
  exact denotes_of_value (divNat_value m x.exp hn hle)
    (significant_nonneg _ (div_nonneg (by positivity) (by positivity)))

/-- The digits that a quotient is rounded from decide the rounding as the whole of it does. -/
theorem Denotes.div {x y : Decimal} {v w : Rat} (hx : Denotes x v) (hy : Denotes y w)
    (hw : 0 < w) : Denotes (div x y) (significant precision (v / w)) := by
  obtain ⟨m, hm⟩ : ∃ m : Nat, x.mant = m :=
    ⟨x.mant.toNat, (Int.toNat_of_nonneg hx.mant_nonneg).symm⟩
  obtain ⟨n, hn⟩ : ∃ n : Nat, y.mant = n :=
    ⟨y.mant.toNat, (Int.toNat_of_nonneg hy.mant_nonneg).symm⟩
  have hv : v = (m : Rat) * (10 : Rat) ^ x.exp := by
    rw [← hx.value_eq, value, hm, Int.cast_natCast]
  have hw' : w = (n : Rat) * (10 : Rat) ^ y.exp := by
    rw [← hy.value_eq, value, hn, Int.cast_natCast]
  have hnpos : 0 < n := by
    rcases Nat.eq_zero_or_pos n with rfl | hpos
    · simp [hw'] at hw
    · exact hpos
  generalize hk : 40 + (Nat.toDigits 10 n).length = k
  have hdiv : Decimal.div x y =
      Decimal.roundSig precision ⟨(m * 10 ^ k / n : Nat), x.exp - y.exp - k⟩ := by
    unfold Decimal.div
    rw [hm, hn, Int.natAbs_natCast, hk]
    push_cast
    rfl
  have hround := roundSig_value (p := precision) (by decide) (m * 10 ^ k / n) (x.exp - y.exp - k)
  rw [hdiv]
  apply denotes_of_value _ (significant_nonneg _ (div_nonneg hx.nonneg hw.le))
  rw [hround]
  rcases Nat.eq_zero_or_pos m with rfl | hmpos
  · simp [hv]
  have hlarge : (10 : Rat) ^ precision ≤ (m * 10 ^ k : Nat) / n := by
    have hdigits : n < 10 ^ (Nat.toDigits 10 n).length := lt_pow_length_toDigits n
    have hprod : 10 ^ precision * n ≤ m * 10 ^ k := by
      calc 10 ^ precision * n ≤ 10 ^ 40 * 10 ^ (Nat.toDigits 10 n).length :=
            Nat.mul_le_mul (by decide) hdigits.le
        _ = 10 ^ k := by rw [← pow_add, hk]
        _ ≤ m * 10 ^ k := Nat.le_mul_of_pos_left _ hmpos
    rw [le_div_iff₀ (by exact_mod_cast hnpos)]
    exact_mod_cast hprod
  have hfloor : ((m * 10 ^ k / n : Nat) : Rat) = ⌊((m * 10 ^ k : Nat) : Rat) / n⌋ := by
    rw [Rat.floor_natCast_div_natCast]
    push_cast
    rfl
  have hexp : (10 : Rat) ^ (x.exp - y.exp - k) =
      (10 : Rat) ^ x.exp / (10 : Rat) ^ y.exp / (10 : Rat) ^ k := by
    rw [zpow_sub₀ (by norm_num), zpow_sub₀ (by norm_num), zpow_natCast]
  rw [hfloor, significant_floor hlarge, hexp, hv, hw']
  congr 1
  push_cast
  field_simp

end Decimal
