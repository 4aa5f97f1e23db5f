import ExchangeLedger.AmountTexts
import ExchangeLedger.DefaultNetworks
import ExchangeLedger.OrderDone

set_option autoImplicit false

/-! Amounts that are worked out in decimals, printed, and read back: as decimals, and as base
units. -/

namespace ExchangeLedger

namespace ConvertCurrency

open Decimal (Denotes significant)

/-- The numbers that are printed in plain notation. -/
def PlainRange (x : Rat) : Prop := (10 : Rat) ^ (-6 : Int) ≤ x ∧ x < (10 : Rat) ^ (21 : Int)

instance (x : Rat) : Decidable (PlainRange x) := inferInstanceAs (Decidable (_ ∧ _))

/-- The text of `x` is read as `v` base units: exactly, in plain notation, and within half a unit of
the tenth extra digit in exponential notation. -/
def Reads (decimals : Nat) (x : Rat) (v : Int) : Prop :=
  if PlainRange x then x * 10 ^ decimals = v else ∃ k : Nat, RoundsTo decimals x k ∧ (k : Int) = v

/-- The text of `x` is accepted. -/
def Readable (decimals : Nat) (x : Rat) : Prop := ∃ v, Reads decimals x v

theorem not_plainRange_zero : ¬ PlainRange 0 := by
  rintro ⟨hle, -⟩
  have hpos : (0 : Rat) < (10 : Rat) ^ (-6 : Int) := by positivity
  linarith

section Text

variable {x : Decimal} (hx : 0 < x.mant)

include hx

theorem plainRange_iff : PlainRange x.value ↔ ¬ (x.leadExp ≤ -7 ∨ 21 ≤ x.leadExp) := by
  have hlt := Decimal.value_lt_of_leadExp hx.le
  have hle := Decimal.le_value_of_leadExp hx
  have hmono {a b : Int} (h : (10 : Rat) ^ a < (10 : Rat) ^ b) : a < b :=
    (zpow_lt_zpow_iff_right₀ (by norm_num)).mp h
  constructor
  · rintro ⟨hlow, hhigh⟩
    have h1 := hmono (lt_of_le_of_lt hlow hlt)
    have h2 := hmono (lt_of_le_of_lt hle hhigh)
    omega
  · intro h
    constructor
    · exact le_trans (zpow_le_zpow_right₀ (by norm_num) (by omega)) hle
    · exact lt_of_lt_of_le hlt (zpow_le_zpow_right₀ (by norm_num) (by omega))

theorem toText_plain (h : PlainRange x.value) :
    x.toText = Decimal.pointText (x.normalMant * 10 ^ x.normalExp.toNat) (-x.normalExp).toNat := by
  have hneg : ¬ x.mant < 0 := by omega
  rw [plainRange_iff hx] at h
  simp only [Decimal.toText, hx.ne', if_false, h, Decimal.signed, hneg,
    Decimal.plainText_eq_pointText]

theorem toText_scientific (h : ¬ PlainRange x.value) :
    x.toText = Decimal.mantissaText (Nat.toDigits 10 x.normalMant) ++
      Decimal.exponentText x.leadExp := by
  have hneg : ¬ x.mant < 0 := by omega
  rw [plainRange_iff hx, not_not] at h
  simp only [Decimal.toText, hx.ne', if_false, h, if_true, Decimal.signed, hneg]

theorem isPlain_toText (h : PlainRange x.value) : trim x.toText = x.toText ∧ IsPlain x.toText := by
  have htrim : trim x.toText = x.toText := by
    rw [toText_plain hx h]
    exact trim_eq_self fun c hc => pointText_not_space hc
  refine ⟨htrim, ?_⟩
  rw [IsPlain, htrim, toText_plain hx h]
  exact Decimal.splitExponent_pointText _ _

theorem not_isPlain_toText (h : ¬ PlainRange x.value) :
    trim x.toText = x.toText ∧ ¬ IsPlain x.toText := by
  have htrim : trim x.toText = x.toText := by
    rw [toText_scientific hx h]
    exact trim_eq_self fun c hc => exponential_not_space hc
  refine ⟨htrim, ?_⟩
  rw [IsPlain, htrim, toText_scientific hx h, Decimal.splitExponent_exponentText]
  exact Option.some_ne_none _

theorem parse_toText_of_pos : ∃ y, Decimal.parse x.toText = some y ∧ y.value = x.value := by
  have hvalue := Decimal.value_eq_normal hx.le
  by_cases h : PlainRange x.value
  · obtain ⟨w, f, hsplit, hlen, hread⟩ := Decimal.splitPoint_pointText
      (x.normalMant * 10 ^ x.normalExp.toNat) (-x.normalExp).toNat
    rw [toText_plain hx h]
    refine ⟨_, Decimal.parse_plain hsplit, ?_⟩
    rw [Decimal.value, Decimal.readNat_append, hlen, hread, hvalue]
    rcases le_total 0 x.normalExp with hexp | hexp
    · obtain ⟨k, hk⟩ := Int.eq_ofNat_of_zero_le hexp
      rw [hk, Int.toNat_natCast, Int.toNat_of_nonpos (by omega), zpow_natCast]
      push_cast
      rw [mul_one]
    · rw [Int.toNat_of_nonpos hexp, Int.toNat_of_nonneg (by omega), neg_neg]
      push_cast
      rw [mul_one]
  · rw [toText_scientific hx h]
    refine ⟨_, Decimal.parse_exponential _ _, ?_⟩
    have hl := Nat.length_toDigits_pos (b := 10) (n := x.normalMant)
    have hexp : x.leadExp - ((Nat.toDigits 10 x.normalMant).length - 1 : Nat) = x.normalExp := by
      unfold Decimal.leadExp
      omega
    rw [Decimal.value, hexp, hvalue, Int.cast_natCast]

end Text

theorem toText_of_zero {x : Decimal} (hx : x.mant = 0) : x.toText = ['0'] := by
  simp [Decimal.toText, hx]

theorem value_of_zero {x : Decimal} (hx : x.mant = 0) : x.value = 0 := by
  simp [Decimal.value, hx]

theorem newDecimal_toText {x : Decimal} {v : Rat} (h : Denotes x v) :
    ∃ y, OrderDone.newDecimal x.toText = .ok y ∧ Denotes y v := by
  unfold OrderDone.newDecimal
  rcases h.mant_nonneg.eq_or_lt with hzero | hpos
  · have hparse : Decimal.parse ['0'] = some ⟨0, 0⟩ := by decide
    rw [toText_of_zero hzero.symm, hparse]
    refine ⟨_, rfl, le_rfl, ?_⟩
    rw [← h.value_eq, value_of_zero hzero.symm, value_of_zero rfl]
  · obtain ⟨y, hy, hvalue⟩ := parse_toText_of_pos hpos
    rw [hy]
    exact ⟨y, rfl, Decimal.denotes_of_value (hvalue.trans h.value_eq) h.nonneg⟩

theorem fromBase_reads {cache : DefaultNetworkCache} {currency : Currency} {decimals : Nat}
    (h : getDecimals cache currency = .ok decimals) (a : Int) :
    ∃ t x, fromBase cache a currency none = .ok t ∧ OrderDone.newDecimal t = .ok x ∧
      x.value = a / (10 : Rat) ^ decimals := by
  have hprinted : fromBase cache a currency none =
      .ok (fromBaseUnits decimals (FIAT_DECIMALS currency).isSome a) := by
    unfold getDecimals at h
    unfold fromBase
    rw [Option.none_or, h]
    rfl
  have hnumber := numberOf_fromBaseUnits (fiat_decimals_le h) a
  obtain ⟨x, hx, hvalue⟩ := Option.map_eq_some_iff.mp hnumber
  refine ⟨_, x, hprinted, ?_, hvalue⟩
  unfold OrderDone.newDecimal
  rw [hx]

theorem signedUnits_of_nonneg {x : Rat} (hx : 0 ≤ x) (k : Nat) : signedUnits x k = k :=
  if_neg (not_lt.mpr hx)

theorem toBaseUnits_toText {x : Decimal} {v : Rat} (h : Denotes x v) (decimals : Nat) (a : Int) :
    toBaseUnits decimals x.toText = .ok a ↔ Reads decimals v a := by
  rcases h.mant_nonneg.eq_or_lt with hzero | hpos
  · have hv : v = 0 := by rw [← h.value_eq, value_of_zero hzero.symm]
    have hwhole := whole_rounds_iff (show (0 : Rat) * 10 ^ decimals = (0 : Int) by simp) a
    simp only [signedUnits_of_nonneg le_rfl] at hwhole
    rw [toText_of_zero hzero.symm, toBaseUnits_zero, hv, Reads, if_neg not_plainRange_zero, hwhole,
      Except.ok.injEq, eq_comm]
  · obtain ⟨y, hparse, hy⟩ := parse_toText_of_pos hpos
    have hvalue := h.value_eq
    have hnonneg := h.nonneg
    rw [← hvalue] at hnonneg ⊢
    clear hvalue h
    unfold Reads
    by_cases hrange : PlainRange x.value
    · obtain ⟨htrim, hplain⟩ := isPlain_toText hpos hrange
      have hnumber : numberOf (trim x.toText) = some x.value := by
        rw [htrim, numberOf, hparse, Option.map_some, hy]
      have hsound {b : Int} (hb : toBaseUnits decimals x.toText = .ok b) :
          x.value * 10 ^ decimals = b := by
        have hread := numberOf_of_toBaseUnits hplain hb
        rw [hnumber, Option.some_inj] at hread
        rw [hread]
        exact div_mul_cancel₀ _ (by positivity)
      rw [if_pos hrange]
      constructor
      · exact hsound
      · intro ha
        have haccepted := toBaseUnits_toText_iff hpos decimals
        rw [if_neg ((plainRange_iff hpos).mp hrange),
          ← Decimal.units_iff_normalExp hpos] at haccepted
        have hunits : ∃ k : Nat, x.value = k / (10 : Rat) ^ decimals := by
          refine ⟨a.toNat, ?_⟩
          have hcast : ((a.toNat : Int) : Rat) = a := by
            have ha' : (0 : Rat) ≤ a := ha ▸ mul_nonneg hnonneg (by positivity)
            rw [Int.toNat_of_nonneg (by exact_mod_cast ha')]
          rw [eq_div_iff (by positivity), ha, ← hcast, Int.cast_natCast]
        obtain ⟨b, hb⟩ := haccepted.mpr hunits
        have hequal : (b : Rat) = a := (hsound hb).symm.trans ha
        rw [hb, Int.cast_injective hequal]
    · obtain ⟨htrim, hscientific⟩ := not_isPlain_toText hpos hrange
      rw [if_neg hrange, scientific_accepted_iff hscientific (by rw [htrim, hparse]), hy]
      simp only [signedUnits_of_nonneg hnonneg]

theorem toBase_of_decimals {cache : DefaultNetworkCache} {currency : Currency}
    {decimals : Nat} (h : getDecimals cache currency = .ok decimals) (amount : Text) :
    toBase cache amount currency = toBaseUnits decimals amount := by
  unfold toBase
  rw [h]
  rfl

theorem toBase_ngn (cache : DefaultNetworkCache) (amount : Text) :
    toBase cache amount .ngn = toBaseUnits 2 amount :=
  toBase_of_decimals rfl amount

theorem toBaseUnits_ok_iff {x : Decimal} {v : Rat} (h : Denotes x v) (decimals : Nat) :
    (∃ a, toBaseUnits decimals x.toText = .ok a) ↔ Readable decimals v :=
  exists_congr (toBaseUnits_toText h decimals)

/-- A positive number, as a provider writes it. -/
structure Price where
  text : Text
  decimal : Decimal
  parse_eq : OrderDone.newDecimal text = .ok decimal
  pos : 0 < decimal.value

def Price.value (p : Price) : Rat := p.decimal.value

theorem numberOf_of_newDecimal {text : Text} {x : Decimal} {v : Rat}
    (hx : OrderDone.newDecimal text = .ok x) (hv : Denotes x v) : numberOf text = some v := by
  unfold OrderDone.newDecimal at hx
  split at hx
  · rename_i y hy
    cases hx
    rw [numberOf, hy, Option.map_some, hv.value_eq]
  · cases hx

theorem Price.denotes (p : Price) : Denotes p.decimal p.value :=
  Decimal.denotes_of_value rfl p.pos.le

theorem Price.mant_pos (p : Price) : 0 < p.decimal.mant := Decimal.mant_pos_of_value p.pos

/-! ### Which rounded results are accepted -/

theorem reads_of_whole {decimals : Nat} {x : Rat} {v : Int} (hx : 0 ≤ x)
    (hv : x * 10 ^ decimals = v) : Reads decimals x v := by
  unfold Reads
  split
  · exact hv
  · have hrounds := (whole_rounds_iff hv v).mpr rfl
    simpa only [signedUnits_of_nonneg hx] using hrounds

theorem readable_of_whole {decimals : Nat} {x : Rat} (hx : 0 ≤ x) (hwhole : Whole decimals x) :
    Readable decimals x := by
  obtain ⟨v, hv⟩ := hwhole
  exact ⟨v, reads_of_whole hx hv⟩

theorem Whole.add {decimals : Nat} {x y : Rat} (hx : Whole decimals x) (hy : Whole decimals y) :
    Whole decimals (x + y) := by
  obtain ⟨v, hv⟩ := hx
  obtain ⟨w, hw⟩ := hy
  refine ⟨v + w, ?_⟩
  rw [add_mul, hv, hw, Int.cast_add]

theorem Whole.significant {decimals p : Nat} {x : Rat} (hwhole : Whole decimals x) :
    Whole decimals (significant p x) := by
  obtain ⟨v, hv⟩ := hwhole
  rcases le_total (-(decimals : Int)) (Int.log 10 x + 1 - p) with hcoarse | hfine
  · obtain ⟨k, hk⟩ := Int.eq_ofNat_of_zero_le (sub_nonneg.mpr hcoarse)
    have hunit : Decimal.digitUnit p x * 10 ^ decimals = 10 ^ k := by
      rw [Decimal.digitUnit, ← zpow_natCast, ← zpow_natCast, ← zpow_add₀ (by norm_num)]
      congr 1
      omega
    refine ⟨⌊x / Decimal.digitUnit p x + 1 / 2⌋ * 10 ^ k, ?_⟩
    rw [Decimal.significant, mul_assoc, hunit]
    push_cast
    rfl
  · obtain ⟨k, hk⟩ := Int.eq_ofNat_of_zero_le (sub_nonneg.mpr hfine)
    have hunit : (10 : Rat) ^ decimals = 10 ^ (-(Int.log 10 x + 1 - p)) / 10 ^ k := by
      rw [eq_div_iff (by positivity), ← zpow_natCast, ← zpow_natCast, ← zpow_add₀ (by norm_num)]
      congr 1
      omega
    have hquotient : x / Decimal.digitUnit p x = ((v * 10 ^ k : Int) : Rat) := by
      have hpos : (0 : Rat) < 10 ^ k := by positivity
      rw [Decimal.digitUnit, div_eq_mul_inv, ← zpow_neg]
      rw [hunit, ← mul_div_assoc, div_eq_iff hpos.ne'] at hv
      rw [hv]
      push_cast
      rfl
    have hhalf : ⌊(1 / 2 : Rat)⌋ = 0 := by norm_num
    refine ⟨v, ?_⟩
    rw [Decimal.significant, hquotient, Int.floor_intCast_add, hhalf, add_zero, ← hquotient,
      div_mul_cancel₀ _ (Decimal.digitUnit_pos p x).ne', hv]

theorem whole_significant_of_large {p : Nat} {x : Rat} (hx : (10 : Rat) ^ p ≤ x) (decimals : Nat) :
    Whole decimals (significant p x) := by
  have hpos : 0 < x := lt_of_lt_of_le (by positivity) hx
  have hlog : (p : Int) ≤ Int.log 10 x :=
    (Int.zpow_le_iff_le_log (b := 10) (by decide) hpos).mp (by exact_mod_cast hx)
  obtain ⟨k, hk⟩ := Int.eq_ofNat_of_zero_le (by omega : 0 ≤ Int.log 10 x + 1 - p)
  refine ⟨⌊x / Decimal.digitUnit p x + 1 / 2⌋ * 10 ^ k * 10 ^ decimals, ?_⟩
  rw [Decimal.significant, Decimal.digitUnit, hk]
  push_cast
  rfl

/-- `y` is `x` after a rounding or two. -/
structure Rounded (y x : Rat) : Prop where
  pos : 0 < y
  close : |y - x| ≤ y / 10 ^ 18
  large : (10 : Rat) ^ (21 : Int) ≤ y → ∀ decimals, Whole decimals y

theorem rounded_significant {x : Rat} (hx : 0 < x) :
    Rounded (significant Decimal.precision x) x := by
  have hhalf := Decimal.half_le_significant (p := Decimal.precision) (by decide) hx
  constructor
  · linarith
  · have herror := Decimal.abs_significant_sub_le Decimal.precision hx
    norm_num [Decimal.precision] at herror hhalf ⊢
    linarith
  · intro hlarge decimals
    apply whole_significant_of_large
    have hle := Decimal.significant_le_twice (p := Decimal.precision) (by decide) hx
    have hpow : (2 : Rat) * 10 ^ Decimal.precision ≤ (10 : Rat) ^ (21 : Int) := by
      norm_num [Decimal.precision]
    linarith

theorem rounded_mul {t r : Rat} (ht : 0 < t) (hr : 0 < r) :
    Rounded (significant Decimal.precision (significant Decimal.precision t * r)) (t * r) := by
  have hfactor := (rounded_significant ht).pos
  have hproduct : 0 < significant Decimal.precision t * r := mul_pos hfactor hr
  have hrounded := rounded_significant hproduct
  refine ⟨hrounded.pos, ?_, hrounded.large⟩
  have hhalf := Decimal.half_le_significant (p := Decimal.precision) (by decide) hproduct
  have hhalf' := mul_le_mul_of_nonneg_right
    (Decimal.half_le_significant (p := Decimal.precision) (by decide) ht) hr.le
  have herror := Decimal.abs_significant_sub_le Decimal.precision hproduct
  have herror' : |significant Decimal.precision t * r - t * r| ≤
      t * r * (10 : Rat) ^ (1 - (Decimal.precision : Int)) / 2 := by
    rw [← sub_mul, abs_mul, abs_of_pos hr]
    have h := mul_le_mul_of_nonneg_right (Decimal.abs_significant_sub_le Decimal.precision ht) hr.le
    linarith
  have hsum := abs_sub_le (significant Decimal.precision (significant Decimal.precision t * r))
    (significant Decimal.precision t * r) (t * r)
  norm_num [Decimal.precision] at hproduct herror herror' hsum hhalf hhalf' ⊢
  linarith

theorem Rounded.readable_iff {x y : Rat} (h : Rounded y x) (decimals : Nat)
    (hy : (10 : Rat) ^ (-6 : Int) ≤ y) : Readable decimals y ↔ Whole decimals y := by
  refine ⟨?_, readable_of_whole h.pos.le⟩
  rintro ⟨v, hv⟩
  by_cases hrange : PlainRange y
  · rw [Reads, if_pos hrange] at hv
    exact ⟨v, hv⟩
  · have hlarge : (10 : Rat) ^ (21 : Int) ≤ y := by
      by_contra hlt
      exact hrange ⟨hy, not_le.mp hlt⟩
    exact h.large hlarge decimals

/-! ### What the text of a rounded result loses -/

/-- `a` base units are `x`, up to one of them. -/
def WithinUnit (decimals : Nat) (a : Int) (x : Rat) : Prop := |(a : Rat) - x * 10 ^ decimals| ≤ 1

theorem currency_precision_le (currency : Currency) :
    ∀ p ∈ CURRENCY_PRECISION currency, p.2 ≤ 18 := by
  cases currency <;> decide

theorem getDecimals_le {cache : DefaultNetworkCache} {currency : Currency} {decimals : Nat}
    (h : getDecimals cache currency = .ok decimals) : decimals ≤ 18 := by
  unfold getDecimals getCurrencyDecimals at h
  split at h
  · rename_i d hd
    cases h
    cases currency <;> first | (cases hd; decide) | cases hd
  · split at h
    · split at h
      · rename_i d hd
        cases h
        cases currency <;> first | (cases hd; decide) | cases hd
      · cases h
    · split at h
      · cases h
      · split at h
        · rename_i p hp
          cases h
          exact currency_precision_le currency p (List.mem_of_find?_eq_some hp)
        · cases h

theorem Reads.exact_or_small {decimals : Nat} {y : Rat} {a : Int} (h : Reads decimals y a)
    (hy : 0 ≤ y) (hlarge : (10 : Rat) ^ (21 : Int) ≤ y → Whole decimals y) :
    y * 10 ^ decimals = a ∨
      (y < (10 : Rat) ^ (-6 : Int) ∧ |(a : Rat) - y * 10 ^ decimals| ≤ 1 / (2 * 10 ^ 10)) := by
  unfold Reads at h
  split at h
  · exact .inl h
  · rename_i hrange
    obtain ⟨k, hk, rfl⟩ := h
    rcases lt_or_ge y ((10 : Rat) ^ (-6 : Int)) with hsmall | hlow
    · obtain ⟨hle, hlt⟩ := hk
      rw [abs_of_nonneg hy] at hle hlt
      refine .inr ⟨hsmall, ?_⟩
      rw [Int.cast_natCast, abs_le]
      constructor
      · linarith
      · linarith
    · have hhigh : (10 : Rat) ^ (21 : Int) ≤ y := by
        by_contra hlt
        exact hrange ⟨hlow, not_le.mp hlt⟩
      obtain ⟨v, hv⟩ := hlarge hhigh
      have hunique := (whole_rounds_iff hv k).mp ⟨k, hk, signedUnits_of_nonneg hy k⟩
      rw [hv, hunique]
      exact .inl rfl

/-- A rounded result loses no more than a base unit in its text exactly when it is readable and has
not lost more than that by rounding. -/
theorem Rounded.reads_within_iff {x y : Rat} (h : Rounded y x) {decimals : Nat}
    (hdecimals : decimals ≤ 18) :
    (∃ a, Reads decimals y a ∧ WithinUnit decimals a x) ↔
      Readable decimals y ∧ |y - x| * 10 ^ decimals ≤ 1 := by
  have hpos : (0 : Rat) < 10 ^ decimals := by positivity
  have hscaled : |y * 10 ^ decimals - x * 10 ^ decimals| = |y - x| * 10 ^ decimals := by
    rw [← sub_mul, abs_mul, abs_of_pos hpos]
  have hwithin {a : Int} (ha : Reads decimals y a) :
      WithinUnit decimals a x ↔ |y - x| * 10 ^ decimals ≤ 1 := by
    unfold WithinUnit
    rcases ha.exact_or_small h.pos.le (fun hlarge => h.large hlarge decimals)
        with hexact | ⟨hsmall, herror⟩
    · rw [← hexact, hscaled]
    · have hdigits : (10 : Rat) ^ decimals ≤ 10 ^ 18 := pow_le_pow_right₀ (by norm_num) hdecimals
      have hlost : |y - x| * 10 ^ decimals ≤ 1 / 10 ^ 6 := by
        calc |y - x| * 10 ^ decimals ≤ y / 10 ^ 18 * 10 ^ 18 :=
              mul_le_mul h.close hdigits hpos.le (div_nonneg h.pos.le (by positivity))
          _ = y := by field_simp
          _ ≤ 1 / 10 ^ 6 := by
            norm_num at hsmall ⊢
            exact hsmall.le
      have hsum : |(a : Rat) - x * 10 ^ decimals| ≤
          |(a : Rat) - y * 10 ^ decimals| + |y - x| * 10 ^ decimals := by
        rw [← hscaled]
        exact abs_sub_le _ _ _
      norm_num at herror hlost
      constructor
      · intro
        linarith
      · intro
        linarith
  constructor
  · rintro ⟨a, ha, hunit⟩
    exact ⟨⟨a, ha⟩, (hwithin ha).mp hunit⟩
  · rintro ⟨⟨a, ha⟩, hlost⟩
    exact ⟨a, ha, (hwithin ha).mpr hlost⟩

end ConvertCurrency

end ExchangeLedger
