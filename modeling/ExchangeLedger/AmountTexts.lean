import ExchangeLedger.Conversions
import ExchangeLedger.DecimalRounding

set_option autoImplicit false

/-! Which amount texts `toBase` accepts, by the numbers that they denote. -/

namespace ExchangeLedger

namespace ConvertCurrency

/-- The largest exponent of decimal.js; a number beyond it is read as `Infinity`. -/
def maxE : Int := 9000000000000000

def readsInfinity (s : Text) : Bool :=
  (Decimal.splitExponent s).isSome &&
    (Decimal.parse s).any (fun x => !x.isZero && decide (maxE < x.leadExp))

/-- `toBase` with the decimals at hand. The text of `Infinity` is not an amount. -/
def toBaseText (decimals : Nat) (amount : Text) : Except String Int :=
  if readsInfinity (trim amount) then .error "Invalid amount format"
  else toBaseUnits decimals amount

/-- The text is accepted where its number is a whole number of base units, and read as that. -/
def ReadsExactly (decimals : Nat) (amount : Text) (x : Rat) : Prop :=
  ∀ v : Int, toBaseText decimals amount = .ok v ↔ x * 10 ^ decimals = v

/-- The number is a whole number of base units. -/
def Whole (decimals : Nat) (x : Rat) : Prop := ∃ v : Int, x * 10 ^ decimals = v

/-- The number is not further than half a unit of the tenth extra digit from `k` base units. -/
def RoundsTo (decimals : Nat) (x : Rat) (k : Nat) : Prop :=
  (k : Rat) - 1 / (2 * 10 ^ 10) ≤ |x| * 10 ^ decimals ∧
    |x| * 10 ^ decimals < k + 1 / (2 * 10 ^ 10)

def unsigned : Text → Text
  | '-' :: s => s
  | s => s

/-- `-?\d+(\.\d+)?` with no more fraction digits than the currency has. -/
def Fits (decimals : Nat) (s : Text) : Prop :=
  ∃ w f, Decimal.splitPoint (unsigned s) = some (w, f) ∧ f.length ≤ decimals

/-- A plain text of a whole number of base units has no digit too many; a scientific one is within
decimal.js's range, and one of another number is not rounded to a whole number of units. -/
structure Convertible (decimals : Nat) (amount : Text) (x : Rat) : Prop where
  plain : IsPlain amount → Whole decimals x → Fits decimals (trim amount)
  inRange : ¬ IsPlain amount → Whole decimals x → |x| < (10 : Rat) ^ (maxE + 1)
  apart : ¬ IsPlain amount → ¬ Whole decimals x → |x| < (10 : Rat) ^ (maxE + 1) →
    ∀ k, ¬ RoundsTo decimals x k

theorem abs_value (x : Decimal) : |x.value| = x.mant.natAbs * (10 : Rat) ^ x.exp := by
  have hpos : (0 : Rat) < (10 : Rat) ^ x.exp := by positivity
  rw [Decimal.value, abs_mul, abs_of_pos hpos, Nat.cast_natAbs, Int.cast_abs]

theorem unitsAt_eq_floor (dp : Nat) (x : Decimal) :
    (Decimal.unitsAt dp x : Int) = ⌊|x.value| * 10 ^ dp + 1 / 2⌋ := by
  have habs := abs_value x
  have hscaled : |x.value| * 10 ^ dp = x.mant.natAbs * (10 : Rat) ^ (x.exp + dp) := by
    rw [habs, mul_assoc, zpow_add₀ (by norm_num), zpow_natCast]
  rw [hscaled]
  unfold Decimal.unitsAt
  split
  · rename_i hexp
    obtain ⟨k, hk⟩ := Int.eq_ofNat_of_zero_le hexp
    have hhalf : ⌊(1 / 2 : Rat)⌋ = 0 := by norm_num
    rw [hk, Int.toNat_natCast, zpow_natCast]
    have hcast : (x.mant.natAbs : Rat) * 10 ^ k = ((x.mant.natAbs * 10 ^ k : Nat) : Rat) := by
      push_cast
      rfl
    rw [hcast, Int.floor_natCast_add, hhalf, add_zero]
  · rename_i hexp
    obtain ⟨k, hk⟩ : ∃ k : Nat, x.exp + dp = -(k : Int) := ⟨(-(x.exp + dp)).toNat, by omega⟩
    have hnat : (-(x.exp + dp)).toNat = k := by omega
    rw [hnat, hk, zpow_neg, zpow_natCast, ← div_eq_mul_inv,
      Decimal.floor_div_add_half _ (by omega), Int.floor_natCast]
    push_cast
    rfl

theorem unitsAt_eq_iff (decimals k : Nat) (x : Decimal) :
    Decimal.unitsAt (decimals + 10) x = 10 ^ 10 * k ↔ RoundsTo decimals x.value k := by
  have hfloor := unitsAt_eq_floor (decimals + 10) x
  have hcast : Decimal.unitsAt (decimals + 10) x = 10 ^ 10 * k ↔
      ⌊|x.value| * 10 ^ (decimals + 10) + 1 / 2⌋ = ((10 ^ 10 * k : Nat) : Int) := by
    rw [← hfloor]
    exact Int.natCast_inj.symm
  rw [hcast, Int.floor_eq_iff, pow_add, ← mul_assoc]
  unfold RoundsTo
  push_cast
  constructor
  · rintro ⟨hle, hlt⟩
    constructor
    · linarith
    · linarith
  · rintro ⟨hle, hlt⟩
    constructor
    · linarith
    · linarith

/-- A number that is read as `Infinity` is one from the range's bound on. -/
theorem readsInfinity_iff {s : Text} {x : Decimal} (hx : Decimal.parse s = some x) :
    readsInfinity s = true ↔
      Decimal.splitExponent s ≠ none ∧ (10 : Rat) ^ (maxE + 1) ≤ |x.value| := by
  have hlead : Decimal.leadExp ⟨x.mant.natAbs, x.exp⟩ = x.leadExp := by
    simp only [Decimal.leadExp, Decimal.normalMant, Decimal.normalExp, Int.natAbs_natCast]
  have hvalue : Decimal.value ⟨x.mant.natAbs, x.exp⟩ = |x.value| := by
    rw [abs_value, Decimal.value, Int.cast_natCast]
  have hbound : (x.isZero = false ∧ maxE < x.leadExp) ↔ (10 : Rat) ^ (maxE + 1) ≤ |x.value| := by
    have hlt := Decimal.value_lt_of_leadExp (x := ⟨x.mant.natAbs, x.exp⟩) (Int.natCast_nonneg _)
    rw [hlead, hvalue] at hlt
    constructor
    · rintro ⟨hzero, hbig⟩
      have hpos : 0 < (x.mant.natAbs : Int) := by
        simp only [Decimal.isZero, decide_eq_false_iff_not] at hzero
        omega
      have hle := Decimal.le_value_of_leadExp (x := ⟨x.mant.natAbs, x.exp⟩) hpos
      rw [hlead, hvalue] at hle
      exact le_trans (zpow_le_zpow_right₀ (by norm_num) (by omega)) hle
    · intro hle
      constructor
      · simp only [Decimal.isZero, decide_eq_false_iff_not]
        intro hzero
        have hpos : (0 : Rat) < (10 : Rat) ^ (maxE + 1) := by positivity
        rw [Decimal.value, hzero] at hle
        simp only [Int.cast_zero, zero_mul, abs_zero] at hle
        linarith
      · have hexp := (zpow_lt_zpow_iff_right₀ (by norm_num : (1 : Rat) < 10)).mp
          (lt_of_le_of_lt hle hlt)
        omega
  rw [← hbound]
  unfold readsInfinity
  rw [hx]
  cases Decimal.splitExponent s <;> simp

/-! ### Plain texts -/

theorem plain_accepted_iff {decimals : Nat} {amount : Text} (hplain : IsPlain amount) :
    (∃ v, toBaseUnits decimals amount = .ok v) ↔ Fits decimals (trim amount) := by
  have hn : normalize decimals amount = .ok (trim amount) := by
    unfold normalize
    rw [hplain]
  have hread (s : Text) : (∃ n, unsignedToBase decimals s = .ok n) ↔
      ∃ w f, Decimal.splitPoint s = some (w, f) ∧ f.length ≤ decimals := by
    unfold unsignedToBase
    cases Decimal.splitPoint s with
    | none => simp
    | some p =>
      obtain ⟨w, f⟩ := p
      by_cases hf : decimals < f.length
      · simp [hf]
      · simp [hf, not_lt.mp hf]
  unfold Fits
  rw [← hread]
  by_cases hsign : ∃ t, trim amount = '-' :: t
  · obtain ⟨t, ht⟩ := hsign
    rw [toBaseUnits_of_negative (ht ▸ hn), ht]
    show _ ↔ ∃ n, unsignedToBase decimals t = .ok n
    cases unsignedToBase decimals t <;> simp [Except.map]
  · have hunsigned : unsigned (trim amount) = trim amount := by
      unfold unsigned
      split
      · rename_i t ht
        exact absurd ⟨t, ht⟩ hsign
      · rfl
    rw [toBaseUnits_of_nonnegative hn fun t ht => hsign ⟨t, ht⟩, hunsigned]
    cases unsignedToBase decimals (trim amount) <;> simp [Except.map]

theorem plain_reads_iff {decimals : Nat} {amount : Text} {x : Rat} (hplain : IsPlain amount)
    (hx : numberOf (trim amount) = some x) :
    ReadsExactly decimals amount x ↔ (Whole decimals x → Fits decimals (trim amount)) := by
  have hfinite : readsInfinity (trim amount) = false := by
    unfold readsInfinity
    rw [hplain]
    rfl
  have hsound {v : Int} (hv : toBaseUnits decimals amount = .ok v) : x * 10 ^ decimals = v := by
    have hnumber := numberOf_of_toBaseUnits hplain hv
    rw [hx] at hnumber
    rw [Option.some.inj hnumber]
    have hpos : (0 : Rat) < 10 ^ decimals := by positivity
    exact div_mul_cancel₀ _ hpos.ne'
  unfold ReadsExactly toBaseText
  simp only [hfinite, Bool.false_eq_true, if_false]
  rw [← plain_accepted_iff hplain]
  constructor
  · rintro hreads ⟨v, hv⟩
    exact ⟨v, (hreads v).mpr hv⟩
  · intro haccepts v
    constructor
    · exact hsound
    · intro hv
      obtain ⟨w, hw⟩ := haccepts ⟨v, hv⟩
      have hequal : (w : Rat) = v := (hsound hw).symm.trans hv
      rw [hw, Int.cast_injective hequal]

/-! ### Scientific texts -/

/-- `k` with the sign of `x`. -/
def signedUnits (x : Rat) (k : Nat) : Int := if x < 0 then -(k : Int) else k

theorem mant_neg_iff (x : Decimal) : x.mant < 0 ↔ x.value < 0 := by
  have hpos : (0 : Rat) < (10 : Rat) ^ x.exp := by positivity
  rw [Decimal.value, mul_neg_iff]
  constructor
  · intro hneg
    exact .inr ⟨by exact_mod_cast hneg, hpos⟩
  · rintro (⟨-, hneg⟩ | ⟨hneg, -⟩)
    · exact absurd hneg (not_lt.mpr hpos.le)
    · exact_mod_cast hneg

theorem scientific_accepted_iff {decimals : Nat} {amount : Text} {x : Decimal}
    (hscientific : ¬ IsPlain amount) (hx : Decimal.parse (trim amount) = some x) (v : Int) :
    toBaseUnits decimals amount = .ok v ↔
      ∃ k, RoundsTo decimals x.value k ∧ signedUnits x.value k = v := by
  rw [toBaseUnits_scientific hscientific hx]
  have hsign (k : Nat) :
      (if x.mant < 0 then -(k : Int) else (k : Int)) = signedUnits x.value k := by
    unfold signedUnits
    simp only [mant_neg_iff]
  constructor
  · intro h
    split at h
    · rename_i hdvd
      obtain ⟨k, hk⟩ := hdvd
      rw [hk, Nat.mul_div_cancel_left _ (by decide), hsign] at h
      exact ⟨k, (unitsAt_eq_iff decimals k x).mp hk, Except.ok.inj h⟩
    · cases h
  · rintro ⟨k, hk, rfl⟩
    have hunits := (unitsAt_eq_iff decimals k x).mpr hk
    rw [if_pos ⟨k, hunits⟩, hunits, Nat.mul_div_cancel_left _ (by decide), hsign]

theorem whole_rounds_iff {decimals : Nat} {x : Rat} {v : Int} (hv : x * 10 ^ decimals = v)
    (w : Int) : (∃ k, RoundsTo decimals x k ∧ signedUnits x k = w) ↔ w = v := by
  have hpos : (0 : Rat) < 10 ^ decimals := by positivity
  have habs : |x| * 10 ^ decimals = (v.natAbs : Rat) := by
    rw [← abs_of_pos hpos, ← abs_mul, hv, Nat.cast_natAbs, Int.cast_abs]
  have hsign : signedUnits x v.natAbs = v := by
    unfold signedUnits
    split
    · rename_i hneg
      have hv' : (v : Rat) < 0 := hv ▸ mul_neg_of_neg_of_pos hneg hpos
      have hneg' : v < 0 := by exact_mod_cast hv'
      omega
    · rename_i hneg
      have hv' : (0 : Rat) ≤ v := hv ▸ mul_nonneg (not_lt.mp hneg) hpos.le
      have hneg' : 0 ≤ v := by exact_mod_cast hv'
      omega
  constructor
  · rintro ⟨k, ⟨hle, hlt⟩, rfl⟩
    rw [habs] at hle hlt
    have hupper : (k : Rat) < v.natAbs + 1 := by linarith
    have hlower : (v.natAbs : Rat) < k + 1 := by linarith
    have hupper' : k < v.natAbs + 1 := by exact_mod_cast hupper
    have hlower' : v.natAbs < k + 1 := by exact_mod_cast hlower
    rw [show k = v.natAbs by omega, hsign]
  · rintro rfl
    refine ⟨w.natAbs, ⟨?_, ?_⟩, hsign⟩
    · rw [habs]
      norm_num
    · rw [habs]
      norm_num

theorem scientific_reads_iff {decimals : Nat} {amount : Text} {x : Rat}
    (hscientific : ¬ IsPlain amount) (hx : numberOf (trim amount) = some x) :
    ReadsExactly decimals amount x ↔ (Whole decimals x → |x| < (10 : Rat) ^ (maxE + 1)) ∧
      (¬ Whole decimals x → |x| < (10 : Rat) ^ (maxE + 1) → ∀ k, ¬ RoundsTo decimals x k) := by
  obtain ⟨y, hy, rfl⟩ := Option.map_eq_some_iff.mp hx
  have hinfinity := readsInfinity_iff hy
  unfold ReadsExactly toBaseText
  by_cases hbig : (10 : Rat) ^ (maxE + 1) ≤ |y.value|
  · rw [if_pos (hinfinity.mpr ⟨hscientific, hbig⟩)]
    constructor
    · intro hreads
      refine ⟨fun hwhole => ?_, fun _ hsmall => absurd hbig (not_le.mpr hsmall)⟩
      obtain ⟨v, hv⟩ := hwhole
      cases (hreads v).mpr hv
    · rintro ⟨hrange, -⟩ v
      constructor
      · intro h
        cases h
      · intro hv
        exact absurd hbig (not_le.mpr (hrange ⟨v, hv⟩))
  · rw [if_neg fun hinf => hbig (hinfinity.mp hinf).2]
    simp only [scientific_accepted_iff hscientific hy]
    have hsmall : |y.value| < (10 : Rat) ^ (maxE + 1) := not_le.mp hbig
    constructor
    · intro hreads
      refine ⟨fun _ => hsmall, fun hwhole _ k hk => ?_⟩
      exact hwhole ⟨_, (hreads _).mp ⟨k, hk, rfl⟩⟩
    · rintro ⟨-, hapart⟩ v
      by_cases hwhole : Whole decimals y.value
      · obtain ⟨w, hw⟩ := hwhole
        rw [whole_rounds_iff hw, hw]
        exact ⟨fun hvw => by rw [hvw], fun hvw => (Int.cast_injective hvw).symm⟩
      · constructor
        · rintro ⟨k, hk, -⟩
          exact absurd hk (hapart hwhole hsmall k)
        · intro hv
          exact absurd ⟨v, hv⟩ hwhole

/-- For every text of a finite decimal number: it is accepted exactly where the number is a whole
number of base units, and then read as that number, exactly where the text is convertible. -/
theorem reads_exactly_iff (decimals : Nat) (amount : Text) (x : Rat)
    (hx : numberOf (trim amount) = some x) :
    ReadsExactly decimals amount x ↔ Convertible decimals amount x := by
  by_cases hplain : IsPlain amount
  · rw [plain_reads_iff hplain hx]
    constructor
    · intro hfits
      exact ⟨fun _ => hfits, fun h => absurd hplain h, fun h => absurd hplain h⟩
    · intro h
      exact h.plain hplain
  · rw [scientific_reads_iff hplain hx]
    constructor
    · rintro ⟨hrange, hapart⟩
      exact ⟨fun h => absurd h hplain, fun _ => hrange, fun _ => hapart⟩
    · intro h
      exact ⟨h.inRange hplain, h.apart hplain⟩

theorem notations_agree {decimals : Nat} {s t : Text} {x : Rat}
    (hs : numberOf (trim s) = some x) (ht : numberOf (trim t) = some x)
    (hsConvertible : Convertible decimals s x) (htConvertible : Convertible decimals t x)
      (v : Int) :
    toBaseText decimals s = .ok v ↔ toBaseText decimals t = .ok v := by
  have hsReads := (reads_exactly_iff decimals s x hs).mpr hsConvertible
  have htReads := (reads_exactly_iff decimals t x ht).mpr htConvertible
  rw [hsReads v, htReads v]

def twelveAndAHalf : Text := ['1', '.', '2', '5', 'e', '1']

/-- `1.25e1` with two decimals. -/
theorem twelve_and_a_half_reads : ReadsExactly 2 twelveAndAHalf (25 / 2) := by
  have hparse : Decimal.parse (trim twelveAndAHalf) = some ⟨125, -1⟩ := by decide
  have hx : numberOf (trim twelveAndAHalf) = some (25 / 2) := by
    rw [numberOf, hparse]
    norm_num [Decimal.value]
  have hscientific : ¬ IsPlain twelveAndAHalf := by
    unfold IsPlain
    decide
  have hrange : |(25 / 2 : Rat)| < (10 : Rat) ^ (maxE + 1) := by
    have hsmall : |(25 / 2 : Rat)| < (10 : Rat) ^ (2 : Int) := by norm_num [abs_of_pos]
    exact lt_of_lt_of_le hsmall (zpow_le_zpow_right₀ (by norm_num) (by decide))
  have hwhole : Whole 2 (25 / 2) := ⟨1250, by norm_num⟩
  apply (reads_exactly_iff 2 twelveAndAHalf (25 / 2) hx).mpr
  exact ⟨fun hplain => absurd hplain hscientific, fun _ _ => hrange,
    fun _ hnot => absurd hwhole hnot⟩

def tinyText : Text := ['1', 'e', '-', '3', '0']

/-- `1e-30` is accepted for eight decimals, as nothing. -/
theorem tiny_amount_accepted :
    ¬ ∀ (decimals : Nat) (amount : Text) (x : Rat), numberOf (trim amount) = some x →
      ReadsExactly decimals amount x := by
  intro h
  have hparse : Decimal.parse (trim tinyText) = some ⟨1, -30⟩ := by decide
  have hx : numberOf (trim tinyText) = some ((10 : Rat) ^ (-30 : Int)) := by
    rw [numberOf, hparse]
    norm_num [Decimal.value]
  have haccepted : toBaseText 8 tinyText = .ok 0 := by decide +kernel
  have hzero := (h 8 tinyText _ hx 0).mp haccepted
  have hpos : (0 : Rat) < (10 : Rat) ^ (-30 : Int) * 10 ^ 8 := by positivity
  rw [hzero] at hpos
  exact absurd hpos (by decide)

end ConvertCurrency

end ExchangeLedger
