import ExchangeLedger.PrintedAmounts
import ExchangeLedger.Run
import ExchangeLedger.StackPeriods

set_option autoImplicit false

/-! The amounts of an autostack, from its quote through all its executions: products and quotients
of decimals are printed in full and read as base units. -/

namespace ExchangeLedger

namespace StackAmounts

open ConvertCurrency (Readable Rounded WithinUnit Price numberOf numberOf_of_newDecimal
  toBase_of_decimals)
open Decimal (Denotes significant precision)
open StackPeriods (PaymentType)

/-! ### The service -/

section Service

variable (cache : ConvertCurrency.DefaultNetworkCache)

def toUsdtBase (amount : Decimal) : Except String Int :=
  ConvertCurrency.toBase cache amount.toText .usdt

def toNgnBase (amount : Decimal) : Except String Int :=
  ConvertCurrency.toBase cache amount.toText .ngn

structure Quote where
  asset : Currency
  amount : Decimal
  amountInUsdt : Text
  amountInUsdtBase : Int
  rate : Text
  deriving DecidableEq, Repr

/-- `assetSymbol === 'USDT' ? '1' : await this.tickerService.getPrice(pair)`. -/
def tickerRate (asset : Currency) (price : Option Text) : Option Text :=
  if asset = .usdt then some ['1'] else price.filter (· ≠ [])

def quote (asset : Currency) (amount : Decimal) (price : Option Text) : Except String Quote :=
  match tickerRate asset price with
  | none => .error ("Unable to fetch conversion rate for " ++ asset.code)
  | some rate => do
    let conversionRate ← OrderDone.newDecimal rate
    if conversionRate.mant ≤ 0 then .error ("Invalid conversion rate for " ++ asset.code)
    else do
      let amountInUsdt := Decimal.mul amount conversionRate
      let amountInUsdtBase ← toUsdtBase cache amountInUsdt
      return {
        asset := asset
        amount := amount
        amountInUsdt := amountInUsdt.toText
        amountInUsdtBase := amountInUsdtBase
        rate := conversionRate.toText }

/-- What the metadata of the configuration say of the amounts, whether the stack is still PENDING,
that is, has had no execution settled, and whether the transaction still has the description that
`initiateAutoStack` finds it by. -/
structure Configuration where
  paymentType : PaymentType
  sourceAsset : Currency
  principalUsdtAmount : Text
  principalUsdtAmountBase : Int
  transactionFeeBase : Int
  pending : Bool
  described : Bool
  deriving DecidableEq, Repr

/-- Its executions swap what the wallet pays. -/
def Configuration.swaps (s : Configuration) : Bool :=
  s.paymentType = .CRYPTO_WALLET ∧ s.sourceAsset ≠ .usdt

/-- The fee is a column without decimals. The amount that a wallet pays first is the quoted one. -/
def confirm (q : Quote) (paymentType : PaymentType) (feeAmount : Nat) :
    Except String Configuration := do
  let principalUsdt ← OrderDone.newDecimal q.amountInUsdt
  let transactionFeeMinor ← toUsdtBase cache ⟨feeAmount, 0⟩
  return {
    paymentType := paymentType
    sourceAsset := if paymentType = .CRYPTO_WALLET then q.asset else .usdt
    principalUsdtAmount := principalUsdt.toText
    principalUsdtAmountBase := q.amountInUsdtBase
    transactionFeeBase := transactionFeeMinor
    pending := true
    described := true }

structure ChargeAmounts where
  companyLiquidityAmountBase : Int
  ngnAmountBase : Int
  ngnAmountOriginal : Text
  totalUsdtCharge : Text
  deriving DecidableEq, Repr

/-- The charge of a card, in `initiatePendingAutoStack`. -/
def chargeAmounts (s : Configuration) (usdtNgnRate : Text) : Except String ChargeAmounts := do
  let principal ← OrderDone.newDecimal s.principalUsdtAmount
  let transactionFee ← ConvertCurrency.fromBase cache s.transactionFeeBase .usdt none
  let fee ← OrderDone.newDecimal transactionFee
  let totalUsdtCharge := Decimal.add principal fee
  let rate ← OrderDone.newDecimal usdtNgnRate
  let companyLiquidityAmountBase ← toNgnBase cache (Decimal.mul principal rate)
  let ngnAmountBase ← toNgnBase cache (Decimal.mul totalUsdtCharge rate)
  let ngnAmountOriginal ← ConvertCurrency.fromBase cache ngnAmountBase .ngn none
  return {
    companyLiquidityAmountBase := companyLiquidityAmountBase
    ngnAmountBase := ngnAmountBase
    ngnAmountOriginal := ngnAmountOriginal
    totalUsdtCharge := totalUsdtCharge.toText }

structure SourceAmount where
  original : Text
  base : Int
  deriving DecidableEq, Repr

/-- The amount of a periodic execution, in `getOrCreateAutoStackExecutionTransaction`. -/
def sourceAmount (s : Configuration) (currentRate : Text) : Except String SourceAmount :=
  if s.sourceAsset = .usdt then .ok ⟨s.principalUsdtAmount, s.principalUsdtAmountBase⟩
  else do
    let principal ← OrderDone.newDecimal s.principalUsdtAmount
    let rate ← OrderDone.newDecimal currentRate
    let sourceAmount := Decimal.div principal rate
    let sourceAmountBase ← ConvertCurrency.toBase cache sourceAmount.toText s.sourceAsset
    return ⟨sourceAmount.toText, sourceAmountBase⟩

end Service

/-! ### Runs -/

inductive Event where
  /-- The amounts of an execution are worked out, at the USDT/NGN rate for a card and at the source
  asset's USDT rate for a wallet. -/
  | execute (rate : Price)
  /-- An execution is settled. The first one's principal becomes what was received; the others keep
  it in a transaction of their own. -/
  | settle (received : Price) (receivedBase : Int)

def step : Event → Configuration → Configuration
  | .execute _, s => s
  | .settle received receivedBase, s =>
    if s.pending then
      { s with
        principalUsdtAmount := received.text
        principalUsdtAmountBase := receivedBase
        pending := false
        -- the swap handler writes a description of its own
        described := ! s.swaps }
    else s

section Runs

variable (cache : ConvertCurrency.DefaultNetworkCache)

/-- The conversions of the execution go through, and each loses no more than one base unit. Without
its configuration an execution returns before it converts anything. -/
def ConvertsAt (feeAmount : Nat) (s : Configuration) : Event → Prop
  | .execute rate => s.described = true →
    match s.paymentType with
    | .CARD => ∃ p a, numberOf s.principalUsdtAmount = some p ∧
        chargeAmounts cache s rate.text = .ok a ∧
        WithinUnit 2 a.companyLiquidityAmountBase (p * rate.value) ∧
        WithinUnit 2 a.ngnAmountBase ((p + feeAmount) * rate.value)
    | .CRYPTO_WALLET => s.pending = false → ∃ p a, numberOf s.principalUsdtAmount = some p ∧
        sourceAmount cache s rate.text = .ok a ∧
        (s.sourceAsset ≠ .usdt → ∃ d, ConvertCurrency.getDecimals cache s.sourceAsset = .ok d ∧
          WithinUnit d a.base (p / rate.value))
  | .settle _ _ => True

/-- The amounts of the quote, the confirmation and all executions complete, with no more than a base
unit lost. -/
def Completes (asset : Currency) (amount : Decimal) (price : Option Text) (rate : Price)
    (paymentType : PaymentType) (feeAmount : Nat) (events : List Event) : Prop :=
  ∃ q s d, quote cache asset amount price = .ok q ∧
    ConvertCurrency.getDecimals cache .usdt = .ok d ∧
    WithinUnit d q.amountInUsdtBase (amount.value * rate.value) ∧
    confirm cache q paymentType feeAmount = .ok s ∧
    Run.Along step (ConvertsAt cache feeAmount) s events

end Runs

/-! ### The same in numbers -/

/-- The principal of the configuration. -/
structure Principal where
  amount : Rat
  pending : Bool

def Principal.step : Event → Principal → Principal
  | .execute _, s => s
  | .settle received _, s => if s.pending then ⟨received.value, false⟩ else s

section Conditions

variable (cache : ConvertCurrency.DefaultNetworkCache)

/-- `x`, rounded to `y`, is readable in the currency's decimals, and rounding has not cost more than
one base unit. -/
def Fits (currency : Currency) (y x : Rat) : Prop :=
  ∃ d, ConvertCurrency.getDecimals cache currency = .ok d ∧ Readable d y ∧
    |y - x| * 10 ^ d ≤ 1

/-- Only cards are charged a product. A wallet pays what is written down, and where that would have
to be divided by a rate, the first settlement has put an end to the executions. -/
def Meets (paymentType : PaymentType) (fee : Rat) (s : Principal) : Event → Prop
  | .execute rate => paymentType = .CARD →
      Fits cache .ngn (significant precision (s.amount * rate.value)) (s.amount * rate.value) ∧
      Fits cache .ngn (significant precision (significant precision (s.amount + fee) * rate.value))
        ((s.amount + fee) * rate.value)
  | .settle _ _ => True

end Conditions

/-! ### Conversions -/

section Conversions

variable {cache : ConvertCurrency.DefaultNetworkCache}

theorem converts_iff (cache : ConvertCurrency.DefaultNetworkCache) (currency : Currency)
    {z : Decimal} {y x : Rat} (hz : Denotes z y) (hrounded : Rounded y x) :
    (∃ d a, ConvertCurrency.getDecimals cache currency = .ok d ∧
      ConvertCurrency.toBase cache z.toText currency = .ok a ∧ WithinUnit d a x) ↔
        Fits cache currency y x := by
  unfold Fits
  refine exists_congr fun d => ?_
  rw [exists_and_left]
  refine and_congr_right fun hd => ?_
  rw [← hrounded.reads_within_iff (ConvertCurrency.getDecimals_le hd), toBase_of_decimals hd]
  simp only [ConvertCurrency.toBaseUnits_toText hz]

theorem converts_ngn_iff (cache : ConvertCurrency.DefaultNetworkCache) {z : Decimal} {y x : Rat}
    (hz : Denotes z y) (hrounded : Rounded y x) :
    (∃ a, toNgnBase cache z = .ok a ∧ WithinUnit 2 a x) ↔ Fits cache .ngn y x := by
  have hd : ConvertCurrency.getDecimals cache .ngn = .ok 2 := rfl
  rw [← converts_iff cache .ngn hz hrounded]
  constructor
  · rintro ⟨a, ha, hunit⟩
    exact ⟨2, a, hd, ha, hunit⟩
  · rintro ⟨d, a, hd', ha, hunit⟩
    rw [hd] at hd'
    cases hd'
    exact ⟨a, ha, hunit⟩

theorem fee_reads {d : Nat} (hd : ConvertCurrency.getDecimals cache .usdt = .ok d)
    (feeAmount : Nat) :
    toUsdtBase cache ⟨feeAmount, 0⟩ = .ok (feeAmount * 10 ^ d) ∧
      ∃ t x, ConvertCurrency.fromBase cache (feeAmount * 10 ^ d) .usdt none = .ok t ∧
        OrderDone.newDecimal t = .ok x ∧ Denotes x feeAmount := by
  have hfee : Denotes ⟨feeAmount, 0⟩ (feeAmount : Rat) := by
    refine ⟨by positivity, ?_⟩
    simp [Decimal.value]
  constructor
  · unfold toUsdtBase
    rw [toBase_of_decimals hd, ConvertCurrency.toBaseUnits_toText hfee]
    exact ConvertCurrency.reads_of_whole hfee.nonneg (by push_cast; rfl)
  · obtain ⟨t, x, ht, hx, hvalue⟩ := ConvertCurrency.fromBase_reads hd (feeAmount * 10 ^ d)
    refine ⟨t, x, ht, hx, Decimal.denotes_of_value ?_ hfee.nonneg⟩
    rw [hvalue]
    push_cast
    field_simp

/-! ### One execution -/

/-- The configuration has the principal of `t` and the fee in base units, and is found until a swap
is settled. -/
structure Represents (cache : ConvertCurrency.DefaultNetworkCache) (paymentType : PaymentType)
    (feeAmount : Nat) (s : Configuration) (t : Principal) : Prop where
  paymentType_eq : s.paymentType = paymentType
  pending_eq : s.pending = t.pending
  described_eq : s.described = (s.pending || ! s.swaps)
  principal : ∃ x, OrderDone.newDecimal s.principalUsdtAmount = .ok x ∧ Denotes x t.amount
  principal_pos : 0 < t.amount
  fee : ∃ d, ConvertCurrency.getDecimals cache .usdt = .ok d ∧
    s.transactionFeeBase = feeAmount * 10 ^ d

variable {paymentType : PaymentType} {feeAmount : Nat}

theorem Represents.step {s : Configuration} {t : Principal}
    (h : Represents cache paymentType feeAmount s t) (e : Event) :
    Represents cache paymentType feeAmount (step e s) (t.step e) := by
  cases e with
  | execute rate => exact h
  | settle received receivedBase =>
    have hpending := h.pending_eq
    unfold StackAmounts.step Principal.step
    cases ht : t.pending with
    | false =>
      rw [ht] at hpending
      simpa [hpending, ht] using h
    | true =>
      rw [ht] at hpending
      simp only [hpending, ht, if_true]
      exact {
        paymentType_eq := h.paymentType_eq
        pending_eq := rfl
        described_eq := rfl
        principal := ⟨received.decimal, received.parse_eq, received.denotes⟩
        principal_pos := received.pos
        fee := h.fee }

theorem Represents.charge_iff {s : Configuration} {t : Principal}
    (h : Represents cache paymentType feeAmount s t) (rate : Price) :
    (∃ a, chargeAmounts cache s rate.text = .ok a ∧
      WithinUnit 2 a.companyLiquidityAmountBase (t.amount * rate.value) ∧
      WithinUnit 2 a.ngnAmountBase ((t.amount + feeAmount) * rate.value)) ↔
    Fits cache .ngn (significant precision (t.amount * rate.value)) (t.amount * rate.value) ∧
      Fits cache .ngn
        (significant precision (significant precision (t.amount + feeAmount) * rate.value))
        ((t.amount + feeAmount) * rate.value) := by
  obtain ⟨x, hx, hprincipal⟩ := h.principal
  obtain ⟨d, hd, hfeeBase⟩ := h.fee
  obtain ⟨-, text, y, htext, hy, hfee⟩ := fee_reads hd feeAmount
  have hrate : 0 < rate.value := rate.pos
  have hamount := h.principal_pos
  have htotal : 0 < t.amount + feeAmount := by positivity
  have hcompany := converts_ngn_iff cache (hprincipal.mul rate.denotes)
    (ConvertCurrency.rounded_significant (mul_pos hamount hrate))
  have hcharged := converts_ngn_iff cache
    ((hprincipal.add hfee).mul rate.denotes) (ConvertCurrency.rounded_mul htotal hrate)
  rw [← hcompany, ← hcharged]
  unfold chargeAmounts
  rw [← hfeeBase] at htext
  simp only [hx, htext, hy, rate.parse_eq, bind, Except.bind, pure, Except.pure]
  cases toNgnBase cache (Decimal.mul x rate.decimal) with
  | error message => simp
  | ok company =>
    cases toNgnBase cache (Decimal.mul (Decimal.add x y) rate.decimal) with
    | error message => simp
    | ok charged =>
      have hngn : ConvertCurrency.getDecimals cache .ngn = .ok 2 := rfl
      obtain ⟨u, -, hu, -⟩ := ConvertCurrency.fromBase_reads hngn charged
      simp [hu]

theorem Represents.pays_usdt {s : Configuration} {t : Principal}
    (h : Represents cache .CRYPTO_WALLET feeAmount s t) (hdescribed : s.described = true)
    (hpending : s.pending = false) : s.sourceAsset = .usdt := by
  have hswaps := h.described_eq
  rw [hdescribed, hpending] at hswaps
  simpa [Configuration.swaps, h.paymentType_eq] using hswaps

theorem Represents.convertsAt_iff {s : Configuration} {t : Principal}
    (h : Represents cache paymentType feeAmount s t) (e : Event) :
    ConvertsAt cache feeAmount s e ↔ Meets cache paymentType feeAmount t e := by
  obtain ⟨x, hx, hprincipal⟩ := h.principal
  have hnumber := numberOf_of_newDecimal hx hprincipal
  cases e with
  | settle received receivedBase => exact Iff.rfl
  | execute rate =>
    unfold ConvertsAt Meets
    rw [h.paymentType_eq]
    cases paymentType with
    | CARD =>
      have hdescribed : s.described = true := by
        rw [h.described_eq]
        simp [Configuration.swaps, h.paymentType_eq]
      simp only [hdescribed, forall_true_left, hnumber, Option.some.injEq, exists_and_left,
        exists_eq_left']
      exact h.charge_iff rate
    | CRYPTO_WALLET =>
      refine iff_of_true ?_ nofun
      intro hdescribed hpending
      have husdt := h.pays_usdt hdescribed hpending
      exact ⟨t.amount, _, hnumber, if_pos husdt, fun hother => absurd husdt hother⟩

/-! ### From the quote on -/

theorem quote_ok_iff {asset : Currency} {amount : Decimal} {price : Option Text} {rate : Price}
    (hrate : tickerRate asset price = some rate.text) (q : Quote) :
    quote cache asset amount price = .ok q ↔
      ∃ base, toUsdtBase cache (Decimal.mul amount rate.decimal) = .ok base ∧
        q = ⟨asset, amount, (Decimal.mul amount rate.decimal).toText, base,
          rate.decimal.toText⟩ := by
  have hpos : ¬ rate.decimal.mant ≤ 0 := not_le.mpr rate.mant_pos
  unfold quote
  simp only [hrate, rate.parse_eq, hpos, if_false, bind, Except.bind, pure, Except.pure]
  cases toUsdtBase cache (Decimal.mul amount rate.decimal) with
  | error message => simp
  | ok base => simp [eq_comm]

theorem confirm_represents {q : Quote} {x : Decimal} {v : Rat} {d : Nat}
    (hq : q.amountInUsdt = x.toText) (hx : Denotes x v) (hv : 0 < v)
    (hd : ConvertCurrency.getDecimals cache .usdt = .ok d) (paymentType : PaymentType)
    (feeAmount : Nat) :
    ∃ s, confirm cache q paymentType feeAmount = .ok s ∧
      Represents cache paymentType feeAmount s ⟨v, true⟩ := by
  obtain ⟨y, hy, hyv⟩ := ConvertCurrency.newDecimal_toText hx
  obtain ⟨hfee, -⟩ := fee_reads hd feeAmount
  unfold confirm
  rw [hq, hy, hfee]
  exact ⟨_, rfl, {
    paymentType_eq := rfl
    pending_eq := rfl
    described_eq := rfl
    principal := ConvertCurrency.newDecimal_toText hyv
    principal_pos := hv
    fee := ⟨d, hd, rfl⟩ }⟩

/-- The amounts of an autostack complete exactly when its USDT value fits and both products of each
charge of its card fit, at the rate and the principal that it is worked out with. -/
theorem amounts_complete_iff {asset : Currency} {amount : Decimal} (hamount : 0 < amount.value)
    {price : Option Text} {rate : Price} (hrate : tickerRate asset price = some rate.text)
    (paymentType : PaymentType) (feeAmount : Nat) (events : List Event) :
    Completes cache asset amount price rate paymentType feeAmount events ↔
      Fits cache .usdt (significant precision (amount.value * rate.value))
        (amount.value * rate.value) ∧
      Run.Along Principal.step (Meets cache paymentType feeAmount)
        ⟨significant precision (amount.value * rate.value), true⟩ events := by
  have hproduct : 0 < amount.value * rate.value := mul_pos hamount rate.pos
  have hrounded := ConvertCurrency.rounded_significant hproduct
  have hvalue := (Decimal.denotes_of_value rfl hamount.le : Denotes amount amount.value).mul
    rate.denotes
  have hconverts := converts_iff cache .usdt hvalue hrounded
  have hruns {s : Configuration} (hs : Represents cache paymentType feeAmount s
      ⟨significant precision (amount.value * rate.value), true⟩) :
      Run.Along step (ConvertsAt cache feeAmount) s events ↔
        Run.Along Principal.step (Meets cache paymentType feeAmount)
          ⟨significant precision (amount.value * rate.value), true⟩ events :=
    Run.along_simulated (fun _ _ e h => h.step e) (fun _ _ e h => h.convertsAt_iff e) hs
  have hconfirmed (q : Quote)
      (htext : q.amountInUsdt = (Decimal.mul amount rate.decimal).toText) {d : Nat}
      (hd : ConvertCurrency.getDecimals cache .usdt = .ok d) :=
    confirm_represents htext hvalue hrounded.pos hd paymentType feeAmount
  rw [← hconverts]
  constructor
  · rintro ⟨q, s, d, hq, hd, hunit, hconfirm, hevents⟩
    obtain ⟨base, hbase, hquoted⟩ := (quote_ok_iff hrate q).mp hq
    obtain ⟨s', hs', hrepresents⟩ := hconfirmed q (by rw [hquoted]) hd
    rw [hs'] at hconfirm
    cases hconfirm
    rw [hquoted] at hunit
    exact ⟨⟨d, base, hd, hbase, hunit⟩, (hruns hrepresents).mp hevents⟩
  · rintro ⟨⟨d, base, hd, hbase, hunit⟩, hevents⟩
    obtain ⟨s, hs, hrepresents⟩ := hconfirmed
      ⟨asset, amount, (Decimal.mul amount rate.decimal).toText, base, rate.decimal.toText⟩
      rfl hd
    exact ⟨_, s, d, (quote_ok_iff hrate _).mpr ⟨base, hbase, rfl⟩, hd, hunit, hs,
      (hruns hrepresents).mpr hevents⟩

end Conversions

theorem fits_of_whole {cache : ConvertCurrency.DefaultNetworkCache} {currency : Currency} {d : Nat}
    (hd : ConvertCurrency.getDecimals cache currency = .ok d) {y x : Rat} (hx : 0 ≤ x)
    (hwhole : ConvertCurrency.Whole d x) (hy : y = x) : Fits cache currency y x := by
  subst hy
  refine ⟨d, hd, ConvertCurrency.readable_of_whole hx hwhole, ?_⟩
  rw [sub_self, abs_zero, zero_mul]
  exact zero_le_one

def btcPrice : Price where
  text := ['6', '0', '0', '0', '0']
  decimal := ⟨60000, 0⟩
  parse_eq := by decide +kernel
  pos := by norm_num [Decimal.value]

def ngnPrice : Price where
  text := ['1', '5', '0', '0', '.', '5']
  decimal := ⟨15005, -1⟩
  parse_eq := by decide +kernel
  pos := by norm_num [Decimal.value]

/-- 0.001 BTC is 60 USDT, and a card is charged 91530.50 NGN for it, with the fee of 1 USDT. -/
theorem round_rates_complete :
    Completes (fun _ => none) .btc ⟨1, -3⟩ (some btcPrice.text) btcPrice .CARD 1
      [.execute ngnPrice] := by
  have hexact {n : Nat} (hn : n < 10 ^ precision) (e : Int) :=
    Decimal.significant_of_lt (p := precision) (by decide) hn e
  have husdt : significant precision 60 = 60 := by simpa using hexact (n := 60) (by decide) 0
  have htotal : significant precision (60 + 1) = 61 := by
    norm_num
    simpa using hexact (n := 61) (by decide) 0
  have hprincipal : significant precision 90030 = 90030 := by
    simpa using hexact (n := 90030) (by decide) 0
  have hcharged : significant precision (183061 / 2) = 183061 / 2 := by
    have h := hexact (n := 915305) (by decide) (-1)
    norm_num at h ⊢
    exact h
  have hvalue : Decimal.value ⟨1, -3⟩ * btcPrice.value = 60 := by
    norm_num [Price.value, btcPrice, Decimal.value]
  have hngn : ngnPrice.value = 3001 / 2 := by norm_num [Price.value, ngnPrice, Decimal.value]
  refine (amounts_complete_iff (by norm_num [Decimal.value]) rfl .CARD 1
    [.execute ngnPrice]).mpr ?_
  rw [hvalue, husdt]
  refine ⟨?_, ?_, trivial⟩
  · exact fits_of_whole (d := 18) rfl (by norm_num) ⟨60 * 10 ^ 18, by norm_num⟩ rfl
  · intro _
    rw [hngn, Nat.cast_one, htotal]
    norm_num
    constructor
    · exact fits_of_whole (d := 2) rfl (by norm_num) ⟨9003000, by norm_num⟩ hprincipal
    · exact fits_of_whole (d := 2) rfl (by norm_num) ⟨9153050, by norm_num⟩ hcharged

def lowerBtcPrice : Price where
  text := ['5', '9', '9', '7', '0']
  decimal := ⟨59970, 0⟩
  parse_eq := by decide +kernel
  pos := by norm_num [Decimal.value]

/-- At 59970 it is 59.97 USDT, and their 89984.985 NGN are not read. -/
theorem card_charge_throws :
    ¬ Completes (fun _ => none) .btc ⟨1, -3⟩ (some lowerBtcPrice.text) lowerBtcPrice .CARD 1
      [.execute ngnPrice] := by
  rintro ⟨q, s, d, hq, -, -, hs, hexecute, -⟩
  have hquote : quote (fun _ => none) .btc ⟨1, -3⟩ (some lowerBtcPrice.text) =
      .ok ⟨.btc, ⟨1, -3⟩, ['5', '9', '.', '9', '7'], 5997 * 10 ^ 16,
        ['5', '9', '9', '7', '0']⟩ := by
    decide +kernel
  rw [hquote] at hq
  cases hq
  have hconfirm : confirm (fun _ => none)
      ⟨.btc, ⟨1, -3⟩, ['5', '9', '.', '9', '7'], 5997 * 10 ^ 16, ['5', '9', '9', '7', '0']⟩
      .CARD 1 =
      .ok ⟨.CARD, .usdt, ['5', '9', '.', '9', '7'], 5997 * 10 ^ 16, 10 ^ 18, true, true⟩ := by
    decide +kernel
  rw [hconfirm] at hs
  cases hs
  obtain ⟨p, a, -, ha, -⟩ := hexecute rfl
  have hthrows : (chargeAmounts (fun _ => none)
      ⟨.CARD, .usdt, ['5', '9', '.', '9', '7'], 5997 * 10 ^ 16, 10 ^ 18, true, true⟩
      ['1', '5', '0', '0', '.', '5']).isOk = false := by decide +kernel
  have hok := hthrows.symm.trans (congrArg Except.isOk ha)
  cases hok

end StackAmounts

end ExchangeLedger
