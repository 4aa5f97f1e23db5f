import Mathlib.Data.Int.Log
import Mathlib.Data.Rat.Floor
import Mathlib.Algebra.Order.Field.Power
import Mathlib.Algebra.Order.Floor.Semifield
import Mathlib.Tactic.Linarith
import Mathlib.Tactic.FieldSimp

set_option autoImplicit false

/-! Numbers in double precision: rounding to the nearest one, half to even. -/

namespace Binary64

/-- The nearest whole number, and the even one of two. -/
def roundEven (x : Rat) : Int :=
  let rest := x - ⌊x⌋
  if rest < 1 / 2 ∨ rest = 1 / 2 ∧ ⌊x⌋ % 2 = 0 then ⌊x⌋ else ⌊x⌋ + 1

/-- The last of the 53 digits of `x`, or the smallest number there is. -/
def unit (x : Rat) : Rat := (2 : Rat) ^ max (Int.log 2 |x| - 52) (-1074)

def round (x : Rat) : Rat := roundEven (x / unit x) * unit x

/-- A number that is rounded to infinity. -/
def overflows (x : Rat) : Bool := (2 : Rat) ^ 1024 ≤ |round x|

theorem unit_pos (x : Rat) : 0 < unit x := by
  unfold unit
  positivity

theorem unit_eq {x : Rat} {e : Int} (hle : (2 : Rat) ^ e ≤ |x|) (hlt : |x| < (2 : Rat) ^ (e + 1))
    (he : -1022 ≤ e) : unit x = (2 : Rat) ^ (e - 52) := by
  have hpos : 0 < |x| := lt_of_lt_of_le (by positivity) hle
  have hlower : e ≤ Int.log 2 |x| :=
    (Int.zpow_le_iff_le_log (by decide) hpos).mp (by exact_mod_cast hle)
  have hupper : Int.log 2 |x| < e + 1 :=
    (Int.lt_zpow_iff_log_lt (by decide) hpos).mp (by exact_mod_cast hlt)
  have hlog : Int.log 2 |x| = e := by omega
  unfold unit
  rw [hlog, max_eq_left (by omega)]

theorem le_roundEven {x : Rat} {n : Int} (h : n ≤ x) : n ≤ roundEven x := by
  have hfloor : n ≤ ⌊x⌋ := Int.le_floor.mpr h
  unfold roundEven
  dsimp only
  split
  · exact hfloor
  · omega

theorem roundEven_le {x : Rat} {n : Int} (h : x ≤ n) : roundEven x ≤ n := by
  have hfloor : ⌊x⌋ ≤ n := by exact_mod_cast (Int.floor_le x).trans h
  unfold roundEven
  dsimp only
  split
  · exact hfloor
  · rename_i hrest
    push Not at hrest
    rcases hfloor.eq_or_lt with heq | hlt
    · have hle : x - ⌊x⌋ ≤ 0 := by
        rw [heq]
        linarith
      linarith [hrest.1]
    · omega

/-- The whole numbers of 53 digits are whole numbers of units. -/
theorem exists_units {x : Rat} {n : Int} (hx : |x| ≤ n) (hn : n < 2 ^ 53) (m : Int) :
    ∃ k : Int, (m : Rat) = k * unit x := by
  have hlog : Int.log 2 |x| ≤ 52 := by
    rcases (abs_nonneg x).eq_or_lt with hzero | hpos
    · rw [← hzero, Int.log_zero_right]
      decide
    · have hlt : |x| < ((2 : Nat) : Rat) ^ (53 : Int) := by
        have hn' : (n : Rat) < 2 ^ 53 := by exact_mod_cast hn
        exact_mod_cast lt_of_le_of_lt hx hn'
      have hbound := (Int.lt_zpow_iff_log_lt (by decide) hpos).mp hlt
      omega
  obtain ⟨k, hk⟩ : ∃ k : Nat, max (Int.log 2 |x| - 52) (-1074) = -(k : Int) :=
    ⟨(-max (Int.log 2 |x| - 52) (-1074)).toNat, by omega⟩
  refine ⟨m * 2 ^ k, ?_⟩
  unfold unit
  rw [hk, zpow_neg, zpow_natCast]
  push_cast
  field_simp

theorem le_round {x : Rat} {n m : Int} (hx : |x| ≤ n) (hn : n < 2 ^ 53) (h : m ≤ x) :
    m ≤ round x := by
  obtain ⟨k, hk⟩ := exists_units hx hn m
  have hunit := unit_pos x
  have hle : k ≤ roundEven (x / unit x) := by
    apply le_roundEven
    rwa [le_div_iff₀ hunit, ← hk]
  rw [hk]
  exact mul_le_mul_of_nonneg_right (by exact_mod_cast hle) hunit.le

theorem round_le {x : Rat} {n m : Int} (hx : |x| ≤ n) (hn : n < 2 ^ 53) (h : x ≤ m) :
    round x ≤ m := by
  obtain ⟨k, hk⟩ := exists_units hx hn m
  have hunit := unit_pos x
  have hle : roundEven (x / unit x) ≤ k := by
    apply roundEven_le
    rwa [div_le_iff₀ hunit, ← hk]
  rw [hk]
  exact mul_le_mul_of_nonneg_right (by exact_mod_cast hle) hunit.le

/-- The whole numbers of 53 digits are numbers of double precision. -/
theorem round_intCast {n : Int} (h : |n| < 2 ^ 53) : round n = n := by
  have habs : |(n : Rat)| ≤ (|n| : Int) := by rw [Int.cast_abs]
  exact le_antisymm (round_le habs h le_rfl) (le_round habs h le_rfl)

end Binary64
