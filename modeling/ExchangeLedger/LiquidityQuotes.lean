import ExchangeLedger.CollateralSales
import ExchangeLedger.PrintedAmounts

set_option autoImplicit false

/-! The amounts of an urgent-liquidity loan, from its quote to the row that `confirm` stores: each
is printed in full and must fit the decimals of its currency. -/

namespace ExchangeLedger

namespace LiquidityQuotes

open CollateralSales
open ConvertCurrency (Whole Readable toBase_ngn toBase_of_decimals toBaseUnits_ok_iff)
open Decimal (Denotes significant precision)

structure LoanAmounts where
  interestAmount : Int
  interestAmountOriginal : Text
  totalRepayable : Int
  totalRepayableOriginal : Text
  liquidityValue : Int
  liquidityValueOriginal : Text
  deriving DecidableEq, Repr

/-- What `confirm` works out for the new row. -/
def confirmAmounts (cache : ConvertCurrency.DefaultNetworkCache) (q : Quote)
    (loanFeePercent : Decimal) : Except String LoanAmounts := do
  let interestAmount := (Decimal.mul q.loanAmount loanFeePercent).divNat 100
  let totalRepayable := Decimal.add q.loanAmount interestAmount
  let interestAmountBase ← ConvertCurrency.toBase cache interestAmount.toText .ngn
  let totalRepayableBase ← ConvertCurrency.toBase cache totalRepayable.toText .ngn
  let collateral ← OrderDone.newDecimal q.collateralAmountOriginal
  let rate ← OrderDone.newDecimal q.tickerRate
  let liquidityValue := Decimal.mul collateral rate
  let liquidityValueBase ← ConvertCurrency.toBase cache liquidityValue.toText .ngn
  return {
    interestAmount := interestAmountBase
    interestAmountOriginal := interestAmount.toFixed 2
    totalRepayable := totalRepayableBase
    totalRepayableOriginal := totalRepayable.toFixed 2
    liquidityValue := liquidityValueBase
    liquidityValueOriginal := liquidityValue.toFixed 2 }

section Request

variable (cache : ConvertCurrency.DefaultNetworkCache) (L : Ledger) (userId : UserId)
  (asset : Currency) (loanAmount : Decimal) (price : Option Text)

/-- Quote and confirmation get through all their conversions. -/
def Completes (loanFeePercent : Decimal) : Prop :=
  ∃ q amounts, quote cache L userId asset loanAmount price = .ok (.quoted q) ∧
    confirmAmounts cache q loanFeePercent = .ok amounts

/-- A loan in whole kobo that is within 50 percent of the collateral, which is sold at `rate`. -/
structure Covered (rate : Decimal) (decimals : Nat) : Prop where
  minimum : 1 ≤ loanAmount.value
  kobo : Whole 2 loanAmount.value
  rate_eq : ∃ text, tickerRate asset price = some text ∧ OrderDone.newDecimal text = .ok rate
  rate_pos : 0 < rate.value
  decimals_eq : ConvertCurrency.getDecimals cache asset = .ok decimals
  within : ∃ w text balance, L.walletByCurrencyId userId asset = some w ∧
    ConvertCurrency.fromBase cache w.baseBalance asset none = .ok text ∧
    OrderDone.newDecimal text = .ok balance ∧
    loanAmount.lte (Decimal.mul (Decimal.mul balance rate) ⟨5, -1⟩) = true

end Request

/-- The collateral is within the decimals of its asset, or printed in exponential notation and then
rounded to them; a percent of the interest is whole; the loan value of the collateral is in whole
kobo. -/
structure Representable (decimals : Nat) (loan rate feePercent : Rat) : Prop where
  collateral : Readable decimals (significant precision (loan / rate))
  interest : Whole 0 (significant precision (loan * feePercent))
  value : Whole 2 (significant precision (significant precision (loan / rate) * rate))

section Amounts

variable {cache : ConvertCurrency.DefaultNetworkCache} {L : Ledger} {userId : UserId}
  {asset : Currency} {loanAmount : Decimal} {price : Option Text} {rate : Decimal} {decimals : Nat}

theorem quote_covered (h : Covered cache L userId asset loanAmount price rate decimals) :
    (∀ base, ConvertCurrency.toBaseUnits decimals (Decimal.div loanAmount rate).toText = .ok base →
      ∃ q, quote cache L userId asset loanAmount price = .ok (.quoted q) ∧
        q.loanAmount = loanAmount ∧
        q.collateralAmountOriginal = (Decimal.div loanAmount rate).toText ∧
        q.tickerRate = rate.toText) ∧
    ∀ message,
      ConvertCurrency.toBaseUnits decimals (Decimal.div loanAmount rate).toText = .error message →
        quote cache L userId asset loanAmount price = .error message := by
  obtain ⟨text, htext, hrate⟩ := h.rate_eq
  obtain ⟨w, balanceText, balance, hw, hfrom, hbalance, hlte⟩ := h.within
  have hone : Decimal.lte ⟨1, 0⟩ loanAmount = true := by
    rw [Decimal.lte_iff]
    simpa [Decimal.value] using h.minimum
  have hpos : ¬ rate.mant ≤ 0 := not_le.mpr (Decimal.mant_pos_of_value h.rate_pos)
  have hloan : Denotes loanAmount loanAmount.value :=
    Decimal.denotes_of_value rfl (le_trans zero_le_one h.minimum)
  obtain ⟨base, hbase⟩ := (toBaseUnits_ok_iff hloan 2).mpr
    (ConvertCurrency.readable_of_whole hloan.nonneg h.kobo)
  unfold quote
  simp only [hone, htext, hrate, hw, hfrom, hbalance, hlte, hpos, toBase_ngn, hbase,
    toBase_of_decimals h.decimals_eq, bind, Except.bind, pure, Except.pure]
  constructor
  · intro collateral hcollateral
    simp [hcollateral]
  · intro message hcollateral
    simp [hcollateral]

theorem significant_div_hundred {x : Rat} (hx : 0 ≤ x) :
    significant precision (x / 100) = significant precision x / 100 := by
  have hshift (y : Rat) : y / 100 = y * (10 : Rat) ^ (-2 : Int) := by
    norm_num
    ring
  rw [hshift, hshift, Decimal.significant_mul_zpow _ hx]

theorem interest_value {x : Rat} (hx : 0 ≤ x) :
    significant precision (significant precision x / 100) = significant precision (x / 100) := by
  rw [significant_div_hundred (Decimal.significant_nonneg _ hx), significant_div_hundred hx,
    Decimal.significant_significant (by decide) hx]

theorem interest_whole_iff {x : Rat} (hx : 0 ≤ x) :
    Whole 2 (significant precision (x / 100)) ↔ Whole 0 (significant precision x) := by
  rw [significant_div_hundred hx]
  unfold Whole
  norm_num

/-- The conversions of `confirm`, one after the other. -/
theorem confirmAmounts_ok_iff (cache : ConvertCurrency.DefaultNetworkCache) {q : Quote}
    {loan collateral rate fee : Rat} {c r loanFeePercent : Decimal}
    (hloan : Denotes q.loanAmount loan) (hfee : Denotes loanFeePercent fee)
    (hc : OrderDone.newDecimal q.collateralAmountOriginal = .ok c)
    (hcollateral : Denotes c collateral)
    (hr : OrderDone.newDecimal q.tickerRate = .ok r) (hrate : Denotes r rate) :
    (∃ amounts, confirmAmounts cache q loanFeePercent = .ok amounts) ↔
      Readable 2 (significant precision (loan * fee / 100)) ∧
      Readable 2 (significant precision
        (loan + significant precision (loan * fee / 100))) ∧
      Readable 2 (significant precision (collateral * rate)) := by
  have hinterest : Denotes ((Decimal.mul q.loanAmount loanFeePercent).divNat 100)
      (significant precision (loan * fee / 100)) := by
    have hdiv := (hloan.mul hfee).divNat (n := 100) (by decide) (by decide)
    rw [Nat.cast_ofNat, interest_value (mul_nonneg hloan.nonneg hfee.nonneg)] at hdiv
    exact hdiv
  have htotal := hloan.add hinterest
  have hvalue := hcollateral.mul hrate
  rw [← toBaseUnits_ok_iff hinterest, ← toBaseUnits_ok_iff htotal, ← toBaseUnits_ok_iff hvalue]
  unfold confirmAmounts
  simp only [toBase_ngn, hc, hr, bind, Except.bind, pure, Except.pure]
  cases ConvertCurrency.toBaseUnits 2
      ((Decimal.mul q.loanAmount loanFeePercent).divNat 100).toText with
  | error message => simp
  | ok interest =>
    cases ConvertCurrency.toBaseUnits 2 (Decimal.add q.loanAmount
        ((Decimal.mul q.loanAmount loanFeePercent).divNat 100)).toText with
    | error message => simp
    | ok total =>
      cases ConvertCurrency.toBaseUnits 2 (Decimal.mul c r).toText with
      | error message => simp
      | ok value => simp

/-- The fee is a number of hundredths of a percent, so that interest is not too small to print
plainly. -/
theorem interest_readable_iff {loan : Rat} (hloan : 1 ≤ loan) (hundredths : Nat) :
    Readable 2 (significant precision (loan * (hundredths / 100) / 100)) ↔
      Whole 0 (significant precision (loan * (hundredths / 100))) := by
  rcases Nat.eq_zero_or_pos hundredths with rfl | hpos
  · have hwhole (decimals : Nat) : Whole decimals 0 := ⟨0, by simp⟩
    have hreadable := ConvertCurrency.readable_of_whole le_rfl (hwhole 2)
    simp [hwhole, hreadable]
  · have hone : (1 : Rat) ≤ hundredths := by exact_mod_cast hpos
    have hlarge : 1 / 10 ^ 4 ≤ loan * (hundredths / 100) / 100 := by
      have hproduct : (1 : Rat) ≤ loan * hundredths := by nlinarith
      norm_num
      linarith
    have hrate : 0 < loan * (hundredths / 100) / 100 := lt_of_lt_of_le (by norm_num) hlarge
    have hhalf := Decimal.half_le_significant (p := precision) (by decide) hrate
    have hplain : (10 : Rat) ^ (-6 : Int) ≤
        significant precision (loan * (hundredths / 100) / 100) := by
      norm_num at hlarge ⊢
      linarith
    rw [(ConvertCurrency.rounded_significant hrate).readable_iff 2 hplain,
      interest_whole_iff (by positivity)]

theorem Covered.value_pos (h : Covered cache L userId asset loanAmount price rate decimals) :
    (10 : Rat) ^ (-6 : Int) ≤
      significant precision
        (significant precision (loanAmount.value / rate.value) * rate.value) := by
  have hloan := h.minimum
  have hrate := h.rate_pos
  have hquotient : 0 < loanAmount.value / rate.value := by positivity
  have hcollateral := Decimal.half_le_significant (p := precision) (by decide) hquotient
  -- each rounding keeps at least one half
  have hproduct : loanAmount.value / 2 ≤
      significant precision (loanAmount.value / rate.value) * rate.value := by
    calc loanAmount.value / 2 = loanAmount.value / rate.value / 2 * rate.value := by field_simp
      _ ≤ _ := mul_le_mul_of_nonneg_right hcollateral hrate.le
  have hvalue := Decimal.half_le_significant (p := precision) (by decide)
    (lt_of_lt_of_le (by linarith) hproduct)
  have hsmall : (10 : Rat) ^ (-6 : Int) ≤ 1 / 4 := by norm_num
  linarith

theorem Covered.confirm_iff (h : Covered cache L userId asset loanAmount price rate decimals)
    (hundredths : Nat) {q : Quote} (hloan : q.loanAmount = loanAmount)
    (hcollateral : q.collateralAmountOriginal = (Decimal.div loanAmount rate).toText)
    (hrate : q.tickerRate = rate.toText) :
    (∃ amounts, confirmAmounts cache q ⟨hundredths, -2⟩ = .ok amounts) ↔
      Whole 0 (significant precision (loanAmount.value * (hundredths / 100))) ∧
      Whole 2 (significant precision
        (significant precision (loanAmount.value / rate.value) * rate.value)) := by
  have hloanValue : Denotes loanAmount loanAmount.value :=
    Decimal.denotes_of_value rfl (le_trans zero_le_one h.minimum)
  have hrateValue : Denotes rate rate.value := Decimal.denotes_of_value rfl h.rate_pos.le
  have hfee : Denotes ⟨hundredths, -2⟩ ((hundredths : Rat) / 100) := by
    refine ⟨by positivity, ?_⟩
    norm_num [Decimal.value]
    ring
  obtain ⟨c, hc, hc'⟩ := ConvertCurrency.newDecimal_toText (hloanValue.div hrateValue h.rate_pos)
  obtain ⟨r, hr, hr'⟩ := ConvertCurrency.newDecimal_toText hrateValue
  rw [← hcollateral] at hc
  rw [← hrate] at hr
  rw [← hloan] at hloanValue
  have hvaluePos : 0 < significant precision (loanAmount.value / rate.value) * rate.value := by
    have hquotient : 0 < loanAmount.value / rate.value :=
      div_pos (lt_of_lt_of_le zero_lt_one h.minimum) h.rate_pos
    have hhalf := Decimal.half_le_significant (p := precision) (by decide) hquotient
    exact mul_pos (by linarith) h.rate_pos
  have hinterest := interest_readable_iff h.minimum hundredths
  rw [confirmAmounts_ok_iff cache hloanValue hfee hc hc' hr hr', hloan, hinterest,
    (ConvertCurrency.rounded_significant hvaluePos).readable_iff 2 h.value_pos]
  refine and_congr_right fun hwhole => and_iff_right ?_
  have hloanNonneg : 0 ≤ loanAmount.value := le_trans zero_le_one h.minimum
  have hinterestNonneg : 0 ≤ loanAmount.value * (hundredths / 100) := by positivity
  apply ConvertCurrency.readable_of_whole
  · exact Decimal.significant_nonneg _ (add_nonneg hloanNonneg
      (Decimal.significant_nonneg _ (by positivity)))
  · apply Whole.significant
    exact Whole.add h.kobo ((interest_whole_iff hinterestNonneg).mpr hwhole)

/-- The computations of a covered loan complete exactly when its amounts are representable. -/
theorem computations_complete_iff
    (h : Covered cache L userId asset loanAmount price rate decimals) (hundredths : Nat) :
    Completes cache L userId asset loanAmount price ⟨hundredths, -2⟩ ↔
      Representable decimals loanAmount.value rate.value (hundredths / 100) := by
  have hloan : Denotes loanAmount loanAmount.value :=
    Decimal.denotes_of_value rfl (le_trans zero_le_one h.minimum)
  have hrate : Denotes rate rate.value := Decimal.denotes_of_value rfl h.rate_pos.le
  have hconverts := toBaseUnits_ok_iff (hloan.div hrate h.rate_pos) decimals
  obtain ⟨hquoted, hrefused⟩ := quote_covered h
  cases hbase : ConvertCurrency.toBaseUnits decimals (Decimal.div loanAmount rate).toText with
  | error message =>
    rw [hbase] at hconverts
    constructor
    · rintro ⟨q, amounts, hq, -⟩
      rw [hrefused message hbase] at hq
      cases hq
    · intro hrepresentable
      obtain ⟨a, ha⟩ := hconverts.mpr hrepresentable.collateral
      cases ha
  | ok base =>
    rw [hbase] at hconverts
    obtain ⟨q, hq, hqloan, hqcollateral, hqrate⟩ := hquoted base hbase
    have hconfirm := h.confirm_iff hundredths hqloan hqcollateral hqrate
    constructor
    · rintro ⟨q', amounts, hq', hamounts⟩
      rw [hq] at hq'
      cases hq'
      obtain ⟨hinterest, hvalue⟩ := hconfirm.mp ⟨amounts, hamounts⟩
      exact ⟨hconverts.mp ⟨base, rfl⟩, hinterest, hvalue⟩
    · intro hrepresentable
      obtain ⟨amounts, hamounts⟩ :=
        hconfirm.mpr ⟨hrepresentable.interest, hrepresentable.value⟩
      exact ⟨q, amounts, hq, hamounts⟩

end Amounts

theorem half_collateral_covered :
    Covered (fun _ => none) borrower.ledger 1 .btc ⟨50000, 0⟩
      (some ['1', '0', '0', '0', '0', '0', '0', '0', '0']) ⟨100000000, 0⟩ 8 where
  minimum := by norm_num [Decimal.value]
  kobo := ⟨5000000, by norm_num [Decimal.value]⟩
  rate_eq := ⟨_, rfl, rfl⟩
  rate_pos := by norm_num [Decimal.value]
  decimals_eq := rfl
  within := ⟨_, ['0', '.', '0', '0', '2'], ⟨2, -3⟩, rfl, by decide +kernel, by decide +kernel,
    by decide +kernel⟩

/-- A loan of 50000 NGN for 0.0005 BTC, with interest of 2500 NGN. -/
theorem round_price_completes :
    Completes (fun _ => none) borrower.ledger 1 .btc ⟨50000, 0⟩
      (some ['1', '0', '0', '0', '0', '0', '0', '0', '0']) ⟨500, -2⟩ := by
  have hcollateral : significant precision (50000 / 100000000) = 1 / 2000 := by
    have h := Decimal.significant_of_lt (p := precision) (n := 5) (by decide) (by decide) (-4)
    norm_num at h ⊢
    exact h
  have hinterest : significant precision 250000 = 250000 := by
    simpa using Decimal.significant_of_lt (p := precision) (n := 250000) (by decide) (by decide) 0
  have hvalue : significant precision 50000 = 50000 := by
    simpa using Decimal.significant_of_lt (p := precision) (n := 50000) (by decide) (by decide) 0
  refine (computations_complete_iff half_collateral_covered 500).mpr ⟨?_, ?_, ?_⟩
  · norm_num [Decimal.value] at hcollateral ⊢
    rw [hcollateral]
    exact ConvertCurrency.readable_of_whole (by norm_num) ⟨50000, by norm_num⟩
  · norm_num [Decimal.value]
    rw [hinterest]
    exact ⟨250000, by norm_num⟩
  · norm_num [Decimal.value] at hcollateral ⊢
    rw [hcollateral]
    norm_num
    rw [hvalue]
    exact ⟨5000000, by norm_num⟩

/-- The same BTC at 150000000 NGN: a loan of 100000 NGN is a third below its bound, and its
collateral is no whole number of satoshis. -/
theorem third_of_price_throws :
    Covered (fun _ => none) borrower.ledger 1 .btc ⟨100000, 0⟩
      (some ['1', '5', '0', '0', '0', '0', '0', '0', '0']) ⟨150000000, 0⟩ 8 ∧
    ¬ Completes (fun _ => none) borrower.ledger 1 .btc ⟨100000, 0⟩
      (some ['1', '5', '0', '0', '0', '0', '0', '0', '0']) ⟨500, -2⟩ := by
  constructor
  · exact {
      minimum := by norm_num [Decimal.value]
      kobo := ⟨10000000, by norm_num [Decimal.value]⟩
      rate_eq := ⟨_, rfl, rfl⟩
      rate_pos := by norm_num [Decimal.value]
      decimals_eq := rfl
      within := ⟨_, ['0', '.', '0', '0', '2'], ⟨2, -3⟩, rfl, by decide +kernel, by decide +kernel,
        by decide +kernel⟩ }
  · rintro ⟨q, amounts, hq, -⟩
    have hthrows : (quote (fun _ => none) borrower.ledger 1 .btc ⟨100000, 0⟩
        (some ['1', '5', '0', '0', '0', '0', '0', '0', '0'])).isOk = false := by decide +kernel
    rw [hq] at hthrows
    cases hthrows

end LiquidityQuotes

end ExchangeLedger
