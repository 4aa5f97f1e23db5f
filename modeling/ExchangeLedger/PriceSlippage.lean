import ExchangeLedger.Balances
import ExchangeLedger.BufferLookups
import ExchangeLedger.PrintedAmounts

set_option autoImplicit false

/-! The rates that buy, sell and swap quotes guarantee, and the checks of the market price against
them when the quotes are confirmed. -/

namespace ExchangeLedger

namespace PriceSlippage

open BufferLookups (CachedCryptoCurrency effectiveHundredths getCryptoBySymbol)
open ConvertCurrency (DefaultNetworkCache Price getDecimals)
open Decimal (Denotes significant precision)
open OrderDone (newDecimal)

/-- The percents lie between 0 and 100, in hundredths. -/
structure PercentsInRange (crypto : CachedCryptoCurrency) : Prop where
  default : ∀ p ∈ crypto.defaultBufferPercent, 0 ≤ p ∧ p ≤ 10000
  max : ∀ p ∈ crypto.maxBufferPercent, 0 ≤ p ∧ p ≤ 10000
  tiers : ∀ t ∈ crypto.tiers, ∀ p ∈ t.bufferPercent, 0 ≤ p ∧ p ≤ 10000

/-- What the quotes read. -/
structure Market where
  cache : DefaultNetworkCache
  getBySymbol : Currency → Option CachedCryptoCurrency
  percents : ∀ c crypto, getBySymbol c = some crypto → PercentsInRange crypto
  /-- `tickerService.getPrice`, by pair. -/
  getPrice : Text → Option Text
  /-- The `quoted_price` of `createInstantSwapRequest`. -/
  swapPrice : (from_currency to_currency : Currency) → (from_amount : Text) → Option Text

def PLATFORM_SPREAD : Decimal := ⟨5, -3⟩

def MIN_TRANSACTION_USDT : Decimal := ⟨2, 0⟩

/-- `price && parseFloat(price) > 0`. -/
def validPrice (price : Option Text) : Option Text :=
  price.filter fun text => (Decimal.parse text).any fun x => 0 < x.mant

def ngnPair (crypto : Currency) : Text := crypto.symbol ++ Currency.symbol .ngn

def usdtPair (crypto : Currency) : Text := crypto.symbol ++ Currency.symbol .usdt

/-! ### Quotes -/

section Quotes

variable (m : Market)

def bufferHundredths (crypto : Currency) (orderType : OrderType) (amountMinor : Int) :
    Except String Int := do
  let normalized ← getCryptoBySymbol crypto.code.toList (m.getBySymbol crypto)
  effectiveHundredths crypto.code.toList orderType amountMinor normalized

/-- `getEffectiveBufferPercent`, whose last step is `bufferPercent.div(100)`. -/
def getEffectiveBufferPercent (crypto : Currency) (orderType : OrderType) (amountMinor : Int) :
    Except String Decimal := do
  let hundredths ← bufferHundredths m crypto orderType amountMinor
  return Decimal.divNat ⟨hundredths, -2⟩ 100

/-- The text of the result is held as its number. -/
def toMinorString (value : Decimal) (currency : Currency) : Except String Int := do
  let decimals ← getDecimals m.cache currency
  ConvertCurrency.toBase m.cache (value.toFixed decimals) currency

def usdtNgnPrice : Except String Decimal :=
  match validPrice (m.getPrice (ngnPair .usdt)) with
  | some price => newDecimal price
  | none => .error "No valid USDT/NGN price available"

def validateMinimumAmount (fiatValue : Decimal) (crypto : Currency)
    (cryptoAmount : Option Decimal) : Except String Unit := do
  let price ← usdtNgnPrice m
  if crypto = .usdt ∧ cryptoAmount.any (Decimal.lte MIN_TRANSACTION_USDT) then .ok ()
  else if (Decimal.mul price MIN_TRANSACTION_USDT).lte fiatValue then .ok ()
  else .error ("Minimum transaction amount is 2 USDT (₦" ++
    String.ofList ((Decimal.mul price MIN_TRANSACTION_USDT).toFixed 2) ++ ")")

/-- The value in USDT, at the asset's own rate or else through NGN. -/
def usdtValue (amount : Decimal) (fromSymbol : Currency) : Except String Decimal :=
  if fromSymbol = .usdt then .ok amount
  else match validPrice (m.getPrice (usdtPair fromSymbol)) with
    | some usdtPrice => do
      let price ← newDecimal usdtPrice
      return Decimal.mul amount price
    | none =>
      match validPrice (m.getPrice (ngnPair fromSymbol)),
          validPrice (m.getPrice (ngnPair .usdt)) with
      | some ngnPrice, some usdtNgnPrice => do
        let price ← newDecimal ngnPrice
        let usdtNgn ← newDecimal usdtNgnPrice
        return Decimal.div (Decimal.mul amount price) usdtNgn
      | _, _ => .error "Unable to determine price for minimum amount validation"

def validateSwapMinimumAmount (amount : Decimal) (fromSymbol : Currency) : Except String Unit := do
  let value ← usdtValue m amount fromSymbol
  if MIN_TRANSACTION_USDT.lte value then .ok ()
  else .error "Minimum swap amount is 2 USDT equivalent"

def marketPrice (crypto : Currency) : Except String Decimal :=
  match validPrice (m.getPrice (ngnPair crypto)) with
  | some price => newDecimal price
  | none => .error ("No valid price for " ++ String.ofList (ngnPair crypto))

structure BuyQuote where
  crypto : Currency
  volumeCryptoMinor : Int
  marketPriceMinor : Int
  bufferedPriceMinor : Int
  bufferSpreadMinor : Int
  platformFeeMinor : Int
  totalFiatMinor : Int
  bufferPercent : Text
  deriving DecidableEq, Repr

def getBuyQuote (crypto : Currency) (amount : Decimal) : Except String BuyQuote := do
  let volumeCryptoMinor ← toMinorString m amount crypto
  let marketPriceDec ← marketPrice m crypto
  let bufferFactor ← getEffectiveBufferPercent m crypto .BUY volumeCryptoMinor
  let bufferedPriceDec := Decimal.mul marketPriceDec (Decimal.add ⟨1, 0⟩ bufferFactor)
  let bufferSpreadDec := Decimal.sub bufferedPriceDec marketPriceDec
  let baseFiatDec := Decimal.mul amount bufferedPriceDec
  let platformFeeDec := Decimal.mul baseFiatDec PLATFORM_SPREAD
  let totalFiatDec := Decimal.add baseFiatDec platformFeeDec
  let _ ← validateMinimumAmount m baseFiatDec crypto none
  let marketPriceMinor ← toMinorString m marketPriceDec .ngn
  let bufferedPriceMinor ← toMinorString m bufferedPriceDec .ngn
  let bufferSpreadMinor ← toMinorString m bufferSpreadDec .ngn
  let platformFeeMinor ← toMinorString m platformFeeDec .ngn
  let totalFiatMinor ← toMinorString m totalFiatDec .ngn
  return {
    crypto, volumeCryptoMinor, marketPriceMinor, bufferedPriceMinor, bufferSpreadMinor,
    platformFeeMinor, totalFiatMinor
    bufferPercent := (Decimal.mul bufferFactor ⟨100, 0⟩).toFixed 2 }

structure SellQuote where
  crypto : Currency
  exactCryptoMinor : Int
  marketPriceMinor : Int
  bufferedPriceMinor : Int
  bufferSpreadMinor : Int
  grossFiatMinor : Int
  platformFeeMinor : Int
  netFiatMinor : Int
  bufferPercent : Text
  deriving DecidableEq, Repr

def getSellQuote (crypto : Currency) (amount : Decimal) : Except String SellQuote := do
  let exactCryptoMinor ← toMinorString m amount crypto
  let marketPriceDec ← marketPrice m crypto
  let bufferFactor ← getEffectiveBufferPercent m crypto .SELL exactCryptoMinor
  let bufferedPriceDec := Decimal.mul marketPriceDec (Decimal.sub ⟨1, 0⟩ bufferFactor)
  let bufferSpreadDec := Decimal.sub marketPriceDec bufferedPriceDec
  let grossFiatDec := Decimal.mul amount bufferedPriceDec
  let platformFeeCryptoDec := Decimal.mul amount PLATFORM_SPREAD
  let _ ← validateMinimumAmount m grossFiatDec crypto (some amount)
  let marketPriceMinor ← toMinorString m marketPriceDec .ngn
  let bufferedPriceMinor ← toMinorString m bufferedPriceDec .ngn
  let bufferSpreadMinor ← toMinorString m bufferSpreadDec .ngn
  let grossFiatMinor ← toMinorString m grossFiatDec .ngn
  let platformFeeMinor ← toMinorString m platformFeeCryptoDec crypto
  let netFiatMinor ← toMinorString m grossFiatDec .ngn
  return {
    crypto, exactCryptoMinor, marketPriceMinor, bufferedPriceMinor, bufferSpreadMinor,
    grossFiatMinor, platformFeeMinor, netFiatMinor
    bufferPercent := (Decimal.mul bufferFactor ⟨100, 0⟩).toFixed 2 }

structure SwapQuote where
  fromSymbol : Currency
  toSymbol : Currency
  toDecimals : Nat
  exactFromMinor : Int
  platformFeeMinor : Int
  estimatedOutMinor : Int
  marketRateMinor : Int
  protectedRateMinor : Int
  bufferSpreadMinor : Int
  bufferPercent : Text
  totalBufferPercent : Text
  deriving DecidableEq, Repr

def swapMarketRate (fromSymbol toSymbol : Currency) (amount : Decimal) :
    Except String Decimal := do
  let fromDecimals ← getDecimals m.cache fromSymbol
  match validPrice (m.swapPrice fromSymbol toSymbol (amount.toFixed fromDecimals)) with
  | some pairPrice => newDecimal pairPrice
  | none => .error "Swap not available at the moment"

def getSwapQuote (fromSymbol toSymbol : Currency) (amount : Decimal) :
    Except String SwapQuote := do
  let toDecimals ← getDecimals m.cache toSymbol
  let exactFromMinor ← toMinorString m amount fromSymbol
  let marketRateDec ← swapMarketRate m fromSymbol toSymbol amount
  let platformFeeDec := Decimal.mul amount PLATFORM_SPREAD
  let _ ← validateSwapMinimumAmount m amount fromSymbol
  let sellBufferFactor ← getEffectiveBufferPercent m fromSymbol .SELL exactFromMinor
  let estimatedOutAtMarketDec := Decimal.mul amount marketRateDec
  let estimatedOutAtMarketMinor ← toMinorString m estimatedOutAtMarketDec toSymbol
  let buyBufferFactor ← getEffectiveBufferPercent m toSymbol .BUY estimatedOutAtMarketMinor
  let combinedBufferMultiplier :=
    Decimal.mul (Decimal.sub ⟨1, 0⟩ sellBufferFactor) (Decimal.sub ⟨1, 0⟩ buyBufferFactor)
  let protectedRateDec := Decimal.mul marketRateDec combinedBufferMultiplier
  let bufferSpreadDec := Decimal.sub marketRateDec protectedRateDec
  let totalBufferPercent :=
    Decimal.mul (Decimal.sub ⟨1, 0⟩ (Decimal.div protectedRateDec marketRateDec)) ⟨100, 0⟩
  let estimatedOutDec := Decimal.mul amount protectedRateDec
  let platformFeeMinor ← toMinorString m platformFeeDec fromSymbol
  let estimatedOutMinor ← toMinorString m estimatedOutDec toSymbol
  let marketRateMinor ← toMinorString m marketRateDec toSymbol
  let protectedRateMinor ← toMinorString m protectedRateDec toSymbol
  let bufferSpreadMinor ← toMinorString m bufferSpreadDec toSymbol
  return {
    fromSymbol, toSymbol, toDecimals, exactFromMinor, platformFeeMinor, estimatedOutMinor,
    marketRateMinor, protectedRateMinor, bufferSpreadMinor
    bufferPercent := (Decimal.mul sellBufferFactor ⟨100, 0⟩).toFixed 2
    totalBufferPercent := totalBufferPercent.toFixed 2 }

inductive Request where
  | buy (crypto : Currency) (amount : Decimal)
  | sell (crypto : Currency) (amount : Decimal)
  | swap (fromSymbol toSymbol : Currency) (amount : Decimal)
  deriving DecidableEq, Repr

inductive Quote where
  | buy (q : BuyQuote)
  | sell (q : SellQuote)
  | swap (q : SwapQuote)
  deriving DecidableEq, Repr

def getQuote : Request → Except String Quote
  | .buy crypto amount => (getBuyQuote m crypto amount).map .buy
  | .sell crypto amount => (getSellQuote m crypto amount).map .sell
  | .swap fromSymbol toSymbol amount => (getSwapQuote m fromSymbol toSymbol amount).map .swap

end Quotes

/-! ### Confirmations -/

/-- What the checks of a confirmation read: the tickers, and the refreshed swap quotation's
`quoted_price`. -/
structure Tickers where
  fetchSingleTicker : Text → Option Text
  getPrice : Text → Option Text
  refreshedPrice : Text

def currentPrice (now : Tickers) (pair : Text) : Except String Text :=
  match (now.fetchSingleTicker pair).filter (· ≠ []) with
  | some currentPriceStr => .ok currentPriceStr
  | none => match validPrice (now.getPrice pair) with
    | some price => .ok price
    | none => .error "Unable to fetch current market price for slippage protection"

def checkPriceSlippage (now : Tickers) (pair quotedPrice : Text) (isBuy : Bool) :
    Except String Unit := do
  let currentPriceStr ← currentPrice now pair
  let currentPriceDec ← newDecimal currentPriceStr
  let quotedPriceDec ← newDecimal quotedPrice
  if isBuy then
    if currentPriceDec.lte quotedPriceDec then .ok ()
    else .error ("Price has slipped beyond the guaranteed rate. Current price: " ++
      String.ofList currentPriceStr ++ ", guaranteed rate: " ++ String.ofList quotedPrice ++
      ". Please request a new quote.")
  else if quotedPriceDec.lte currentPriceDec then .ok ()
  else .error ("Price has slipped below the guaranteed rate. Current price: " ++
    String.ofList currentPriceStr ++ ", guaranteed rate: " ++ String.ofList quotedPrice ++
    ". Please request a new quote.")

/-- The rate guard of `confirmSwap`. -/
def checkSwapRate (cache : DefaultNetworkCache) (now : Tickers) (q : SwapQuote) :
    Except String Unit := do
  let quotedPriceDec ← newDecimal now.refreshedPrice
  let protectedRate ← ConvertCurrency.fromBase cache q.protectedRateMinor q.toSymbol none
  let protectedRateDec ← newDecimal protectedRate
  if protectedRateDec.lte quotedPriceDec then .ok ()
  else .error ("Swap rate slipped. Quoted: " ++
    String.ofList (quotedPriceDec.toFixed q.toDecimals) ++ " < Protected: " ++
    String.ofList (protectedRateDec.toFixed q.toDecimals) ++ ".")

/-- What confirming a quote checks of the price. -/
def checkPrice (cache : DefaultNetworkCache) (now : Tickers) : Quote → Except String Unit
  | .buy q => do
    let bufferedPrice ← ConvertCurrency.fromBase cache q.bufferedPriceMinor .ngn none
    checkPriceSlippage now (ngnPair q.crypto) bufferedPrice true
  | .sell q => do
    let bufferedPrice ← ConvertCurrency.fromBase cache q.bufferedPriceMinor .ngn none
    checkPriceSlippage now (ngnPair q.crypto) bufferedPrice false
  | .swap q => checkSwapRate cache now q

/-- The market price of a request is `price` at its quote and still is when it is confirmed. -/
def Unchanged (m : Market) (now : Tickers) (price : Text) : Request → Prop
  | .buy crypto _ | .sell crypto _ =>
    m.getPrice (ngnPair crypto) = some price ∧ currentPrice now (ngnPair crypto) = .ok price
  | .swap fromSymbol toSymbol amount =>
    (∃ d, getDecimals m.cache fromSymbol = .ok d ∧
      m.swapPrice fromSymbol toSymbol (amount.toFixed d) = some price) ∧
    now.refreshedPrice = price

/-! ### When an unchanged price passes -/

/-- What the market price of a request is multiplied by. -/
def bufferMultiplier (m : Market) (price : Decimal) : Request → Except String Rat
  | .buy crypto amount => do
    let volumeCryptoMinor ← toMinorString m amount crypto
    let hundredths ← bufferHundredths m crypto .BUY volumeCryptoMinor
    return 1 + hundredths / 10 ^ 4
  | .sell crypto amount => do
    let exactCryptoMinor ← toMinorString m amount crypto
    let hundredths ← bufferHundredths m crypto .SELL exactCryptoMinor
    return 1 - hundredths / 10 ^ 4
  | .swap fromSymbol toSymbol amount => do
    let exactFromMinor ← toMinorString m amount fromSymbol
    let sold ← bufferHundredths m fromSymbol .SELL exactFromMinor
    let estimatedOutMinor ← toMinorString m (Decimal.mul amount price) toSymbol
    let bought ← bufferHundredths m toSymbol .BUY estimatedOutMinor
    return (1 - sold / 10 ^ 4) * (1 - bought / 10 ^ 4)

/-- The decimals of the rate. -/
def rateDecimals (m : Market) : Request → Except String Nat
  | .buy _ _ | .sell _ _ => getDecimals m.cache .ngn
  | .swap _ toSymbol _ => getDecimals m.cache toSymbol

/-- In minor units, the rate of a buy is rounded to no less than the price, and any other to no
more. -/
def StaysGuaranteed (r : Request) (decimals : Nat) (price rate : Rat) : Prop :=
  match r with
  | .buy _ _ => (⌈price * 10 ^ decimals⌉ : Rat) ≤ rate * 10 ^ decimals + 1 / 2
  | .sell _ _ | .swap _ _ _ => (⌊rate * 10 ^ decimals + 1 / 2⌋ : Rat) ≤ price * 10 ^ decimals

theorem bind_ok_iff {α β : Type} {x : Except String α} {f : α → Except String β} {b : β} :
    (x >>= f) = .ok b ↔ ∃ a, x = .ok a ∧ f a = .ok b := by
  cases x with
  | error message => simp [bind, Except.bind]
  | ok a => simp [bind, Except.bind]

theorem map_ok_iff {α β : Type} {x : Except String α} {f : α → β} {b : β} :
    x.map f = .ok b ↔ ∃ a, x = .ok a ∧ f a = b := by
  cases x with
  | error message => simp [Except.map]
  | ok a => simp [Except.map]

theorem pure_ok_iff {α : Type} {a b : α} : (pure a : Except String α) = .ok b ↔ a = b :=
  Except.ok.injEq a b ▸ Iff.rfl

section Rates

variable {m : Market}

theorem toMinorString_eq {currency : Currency} {d : Nat}
    (hd : getDecimals m.cache currency = .ok d) {value : Decimal} {v : Rat}
    (hv : Denotes value v) :
    toMinorString m value currency = .ok ⌊v * 10 ^ d + 1 / 2⌋ := by
  have hneg : ¬ value.mant < 0 := not_lt.mpr hv.mant_nonneg
  have hunits := ConvertCurrency.unitsAt_eq_floor d value
  rw [hv.value_eq, abs_of_nonneg hv.nonneg] at hunits
  unfold toMinorString
  rw [bind_ok_iff]
  refine ⟨d, hd, ?_⟩
  rw [ConvertCurrency.toBase_of_decimals hd, Decimal.toFixed, Decimal.signed, if_neg hneg,
    ConvertCurrency.toBaseUnits_pointText, if_pos le_rfl, Nat.sub_self, pow_zero, mul_one, hunits]

theorem capped_bounds {max percent : Int} (hmax : max ≤ 10000) (h : 0 ≤ percent ∧ percent ≤ 10000) :
    0 ≤ BufferLookups.capped max percent ∧ BufferLookups.capped max percent ≤ 10000 := by
  unfold BufferLookups.capped
  split <;> omega

theorem effectiveHundredths_bounds {crypto : CachedCryptoCurrency}
    (hcrypto : PercentsInRange crypto)
    {symbol : Text} {orderType : OrderType} {amountMinor h : Int}
    (hh : effectiveHundredths symbol orderType amountMinor
      (BufferLookups.normalizeCryptoFromCache crypto) = .ok h) : 0 ≤ h ∧ h ≤ 10000 := by
  have hgetD {percent : Option Int} (hp : ∀ p ∈ percent, 0 ≤ p ∧ p ≤ 10000) :
      0 ≤ percent.getD 0 ∧ percent.getD 0 ≤ 10000 := by
    cases percent with
    | none => simp
    | some p => exact hp p rfl
  have hdefault := hgetD hcrypto.default
  have hmax := (hgetD hcrypto.max).2
  cases hfound : crypto.tiers.find? (BufferLookups.matchesTier orderType amountMinor) with
  | some tier =>
    rw [BufferLookups.effectiveHundredths_found hfound] at hh
    cases hh
    exact capped_bounds hmax (hgetD (hcrypto.tiers tier (List.mem_of_find?_eq_some hfound)))
  | none =>
    rw [BufferLookups.effectiveHundredths_missing hfound] at hh
    split at hh
    · cases hh
      exact capped_bounds hmax hdefault
    · split at hh
      · cases hh
      · cases hh
        simp

theorem bufferHundredths_bounds {crypto : Currency} {orderType : OrderType} {amountMinor h : Int}
    (hh : bufferHundredths m crypto orderType amountMinor = .ok h) : 0 ≤ h ∧ h ≤ 10000 := by
  unfold bufferHundredths at hh
  cases hcached : m.getBySymbol crypto with
  | none =>
    rw [hcached] at hh
    cases hh
  | some cached =>
    rw [hcached] at hh
    exact effectiveHundredths_bounds (m.percents crypto cached hcached) hh

theorem significant_fraction {n : Nat} (hn : n < 10 ^ precision) (k : Nat) :
    significant precision ((n : Rat) / 10 ^ k) = n / 10 ^ k := by
  have h := Decimal.significant_of_lt (p := precision) (by decide) hn (-(k : Int))
  rwa [zpow_neg, zpow_natCast, ← div_eq_mul_inv] at h

/-- The exact factor of a buffer of `h` hundredths of a percent, up and down. -/
theorem multipliers_denote {h : Int} (hh : 0 ≤ h ∧ h ≤ 10000) :
    Denotes (Decimal.add ⟨1, 0⟩ (Decimal.divNat ⟨h, -2⟩ 100)) (1 + h / 10 ^ 4) ∧
      Denotes (Decimal.sub ⟨1, 0⟩ (Decimal.divNat ⟨h, -2⟩ 100)) (1 - h / 10 ^ 4) := by
  obtain ⟨n, rfl⟩ := Int.eq_ofNat_of_zero_le hh.1
  have hle : n ≤ 10000 := by omega
  have hone : Denotes ⟨1, 0⟩ 1 := by
    refine ⟨by decide, ?_⟩
    norm_num [Decimal.value]
  have hpercent : Denotes ⟨n, -2⟩ ((n : Rat) / 10 ^ 2) := by
    refine ⟨by positivity, ?_⟩
    norm_num [Decimal.value]
    ring
  have hfactor : Denotes (Decimal.divNat ⟨n, -2⟩ 100) ((n : Rat) / 10 ^ 4) := by
    have hdiv := hpercent.divNat (n := 100) (by decide) (by decide)
    rw [show (n : Rat) / 10 ^ 2 / (100 : Nat) = n / 10 ^ 4 by push_cast; ring,
      significant_fraction (by rw [show precision = 20 from rfl]; omega)] at hdiv
    exact hdiv
  have hsmall : (n : Rat) / 10 ^ 4 ≤ 1 := by
    rw [div_le_one (by norm_num)]
    exact_mod_cast hle
  rw [Int.cast_natCast]
  constructor
  · have hsum := hone.add hfactor
    rw [show (1 : Rat) + n / 10 ^ 4 = ((10000 + n : Nat) : Rat) / 10 ^ 4 by push_cast; ring,
      significant_fraction (by rw [show precision = 20 from rfl]; omega)] at hsum
    rw [show (1 : Rat) + n / 10 ^ 4 = ((10000 + n : Nat) : Rat) / 10 ^ 4 by push_cast; ring]
    exact hsum
  · have hdiff := hone.sub hfactor hsmall
    have hcast : (1 : Rat) - n / 10 ^ 4 = ((10000 - n : Nat) : Rat) / 10 ^ 4 := by
      rw [Nat.cast_sub hle]
      push_cast
      ring
    rw [hcast, significant_fraction (by rw [show precision = 20 from rfl]; omega)] at hdiff
    rw [hcast]
    exact hdiff

theorem getEffectiveBufferPercent_ok_iff {crypto : Currency} {orderType : OrderType}
    {amountMinor : Int} {factor : Decimal} :
    getEffectiveBufferPercent m crypto orderType amountMinor = .ok factor ↔
      ∃ h, bufferHundredths m crypto orderType amountMinor = .ok h ∧
        Decimal.divNat ⟨h, -2⟩ 100 = factor := by
  unfold getEffectiveBufferPercent
  simp only [bind_ok_iff, pure_ok_iff]

theorem validPrice_text (price : Price) : validPrice (some price.text) = some price.text := by
  have hparse := price.parse_eq
  unfold newDecimal at hparse
  split at hparse
  · rename_i x hx
    cases hparse
    simp [validPrice, Option.filter, hx, price.mant_pos]
  · cases hparse

theorem marketPrice_eq {crypto : Currency} {price : Price}
    (h : m.getPrice (ngnPair crypto) = some price.text) :
    marketPrice m crypto = .ok price.decimal := by
  unfold marketPrice
  rw [h, validPrice_text]
  exact price.parse_eq

theorem getBuyQuote_rate {crypto : Currency} {amount : Decimal} {q : BuyQuote} {price : Price}
    (hq : getBuyQuote m crypto amount = .ok q)
    (hprice : m.getPrice (ngnPair crypto) = some price.text) :
    ∃ f, bufferMultiplier m price.decimal (.buy crypto amount) = .ok f ∧ q.crypto = crypto ∧
      q.bufferedPriceMinor =
        ⌊significant precision (price.value * f) * 10 ^ 2 + 1 / 2⌋ := by
  unfold getBuyQuote at hq
  simp only [bind_ok_iff, pure_ok_iff, marketPrice_eq hprice, Except.ok.injEq, exists_eq_left',
    getEffectiveBufferPercent_ok_iff] at hq
  obtain ⟨volume, hvolume, _, ⟨h, hh, rfl⟩, _, -, _, -, minor, hminor, _, -, _, -, _, -, rfl⟩ := hq
  have hmultiplier := (multipliers_denote (bufferHundredths_bounds hh)).1
  rw [toMinorString_eq rfl (price.denotes.mul hmultiplier), Except.ok.injEq] at hminor
  refine ⟨1 + h / 10 ^ 4, ?_, rfl, hminor.symm⟩
  unfold bufferMultiplier
  simp only [bind_ok_iff, pure_ok_iff]
  exact ⟨volume, hvolume, h, hh, rfl⟩

theorem getSellQuote_rate {crypto : Currency} {amount : Decimal} {q : SellQuote} {price : Price}
    (hq : getSellQuote m crypto amount = .ok q)
    (hprice : m.getPrice (ngnPair crypto) = some price.text) :
    ∃ f, bufferMultiplier m price.decimal (.sell crypto amount) = .ok f ∧ q.crypto = crypto ∧
      q.bufferedPriceMinor =
        ⌊significant precision (price.value * f) * 10 ^ 2 + 1 / 2⌋ := by
  unfold getSellQuote at hq
  simp only [bind_ok_iff, pure_ok_iff, marketPrice_eq hprice, Except.ok.injEq, exists_eq_left',
    getEffectiveBufferPercent_ok_iff] at hq
  obtain ⟨exactCrypto, hexact, _, ⟨h, hh, rfl⟩, _, -, _, -, minor, hminor, _, -, _, -, _, -, _, -,
    rfl⟩ := hq
  have hmultiplier := (multipliers_denote (bufferHundredths_bounds hh)).2
  rw [toMinorString_eq rfl (price.denotes.mul hmultiplier), Except.ok.injEq] at hminor
  refine ⟨1 - h / 10 ^ 4, ?_, rfl, hminor.symm⟩
  unfold bufferMultiplier
  simp only [bind_ok_iff, pure_ok_iff]
  exact ⟨exactCrypto, hexact, h, hh, rfl⟩

theorem swapMarketRate_eq {fromSymbol toSymbol : Currency} {amount : Decimal} {price : Price}
    {d : Nat} (hd : getDecimals m.cache fromSymbol = .ok d)
    (h : m.swapPrice fromSymbol toSymbol (amount.toFixed d) = some price.text) :
    swapMarketRate m fromSymbol toSymbol amount = .ok price.decimal := by
  unfold swapMarketRate
  rw [bind_ok_iff]
  refine ⟨d, hd, ?_⟩
  rw [h, validPrice_text]
  exact price.parse_eq

theorem combined_denotes {sold bought : Int} (hsold : 0 ≤ sold ∧ sold ≤ 10000)
    (hbought : 0 ≤ bought ∧ bought ≤ 10000) :
    Denotes (Decimal.mul (Decimal.sub ⟨1, 0⟩ (Decimal.divNat ⟨sold, -2⟩ 100))
        (Decimal.sub ⟨1, 0⟩ (Decimal.divNat ⟨bought, -2⟩ 100)))
      ((1 - sold / 10 ^ 4) * (1 - bought / 10 ^ 4)) := by
  have hproduct := (multipliers_denote hsold).2.mul (multipliers_denote hbought).2
  obtain ⟨i, hi⟩ := Int.eq_ofNat_of_zero_le (sub_nonneg.mpr hsold.2)
  obtain ⟨j, hj⟩ := Int.eq_ofNat_of_zero_le (sub_nonneg.mpr hbought.2)
  have hcast : (1 - (sold : Rat) / 10 ^ 4) * (1 - bought / 10 ^ 4) =
      ((i * j : Nat) : Rat) / 10 ^ 8 := by
    have hi' : (i : Rat) = 10000 - sold := by exact_mod_cast hi.symm
    have hj' : (j : Rat) = 10000 - bought := by exact_mod_cast hj.symm
    push_cast
    rw [hi', hj']
    ring
  have hlt : i * j < 10 ^ precision := by
    have hle : i * j ≤ 10000 * 10000 := Nat.mul_le_mul (by omega) (by omega)
    rw [show precision = 20 from rfl]
    omega
  rw [hcast, significant_fraction hlt] at hproduct
  rw [hcast]
  exact hproduct

theorem getSwapQuote_rate {fromSymbol toSymbol : Currency} {amount : Decimal} {q : SwapQuote}
    {price : Price} (hq : getSwapQuote m fromSymbol toSymbol amount = .ok q)
    (hprice : ∃ d, getDecimals m.cache fromSymbol = .ok d ∧
      m.swapPrice fromSymbol toSymbol (amount.toFixed d) = some price.text) :
    ∃ f d, bufferMultiplier m price.decimal (.swap fromSymbol toSymbol amount) = .ok f ∧
      getDecimals m.cache toSymbol = .ok d ∧ q.toSymbol = toSymbol ∧
      q.protectedRateMinor =
        ⌊significant precision (price.value * f) * 10 ^ d + 1 / 2⌋ := by
  obtain ⟨_, hfrom, hswap⟩ := hprice
  unfold getSwapQuote at hq
  simp only [bind_ok_iff, pure_ok_iff, swapMarketRate_eq hfrom hswap, Except.ok.injEq,
    exists_eq_left', getEffectiveBufferPercent_ok_iff] at hq
  obtain ⟨d, hd, exactFrom, hexact, _, -, _, ⟨sold, hsold, rfl⟩, estimated, hestimated, _,
    ⟨bought, hbought, rfl⟩, _, -, _, -, _, -, minor, hminor, _, -, rfl⟩ := hq
  have hmultiplier := combined_denotes (bufferHundredths_bounds hsold)
    (bufferHundredths_bounds hbought)
  rw [toMinorString_eq hd (price.denotes.mul hmultiplier), Except.ok.injEq] at hminor
  refine ⟨(1 - sold / 10 ^ 4) * (1 - bought / 10 ^ 4), d, ?_, hd, rfl, hminor.symm⟩
  unfold bufferMultiplier
  simp only [bind_ok_iff, pure_ok_iff]
  exact ⟨exactFrom, hexact, sold, hsold, estimated, hestimated, bought, hbought, rfl⟩

/-! ### The checks -/

theorem le_minor_iff (price rate : Rat) (d : Nat) :
    price ≤ (⌊rate * 10 ^ d + 1 / 2⌋ : Rat) / 10 ^ d ↔
      (⌈price * 10 ^ d⌉ : Rat) ≤ rate * 10 ^ d + 1 / 2 := by
  rw [le_div_iff₀ (by positivity), ← Int.le_floor, Int.ceil_le]

theorem minor_le_iff (price rate : Rat) (d : Nat) :
    (⌊rate * 10 ^ d + 1 / 2⌋ : Rat) / 10 ^ d ≤ price ↔
      (⌊rate * 10 ^ d + 1 / 2⌋ : Rat) ≤ price * 10 ^ d :=
  div_le_iff₀ (by positivity)

theorem checkPriceSlippage_iff {now : Tickers} {pair quotedPrice : Text} {price : Price}
    {x : Decimal} (hcurrent : currentPrice now pair = .ok price.text)
    (hx : newDecimal quotedPrice = .ok x) (isBuy : Bool) :
    checkPriceSlippage now pair quotedPrice isBuy = .ok () ↔
      if isBuy then price.value ≤ x.value else x.value ≤ price.value := by
  unfold checkPriceSlippage
  simp only [hcurrent, price.parse_eq, hx, bind, Except.bind]
  cases isBuy with
  | true =>
    have hlte := Decimal.lte_iff price.decimal x
    simp only [if_true]
    split <;> simp_all [Price.value]
  | false =>
    have hlte := Decimal.lte_iff x price.decimal
    simp only [Bool.false_eq_true, if_false]
    split <;> simp_all [Price.value]

theorem checkSwapRate_iff {now : Tickers} {q : SwapQuote} {price : Price} {d : Nat}
    (hd : getDecimals m.cache q.toSymbol = .ok d) (hprice : now.refreshedPrice = price.text) :
    checkSwapRate m.cache now q = .ok () ↔
      (q.protectedRateMinor : Rat) / 10 ^ d ≤ price.value := by
  obtain ⟨t, x, ht, hx, hvalue⟩ := ConvertCurrency.fromBase_reads hd q.protectedRateMinor
  have hlte := Decimal.lte_iff x price.decimal
  rw [← hvalue]
  unfold checkSwapRate
  simp only [hprice, price.parse_eq, ht, hx, bind, Except.bind]
  split <;> simp_all [Price.value]

theorem checkBuffered_iff {now : Tickers} {pair : Text} {price : Price}
    (hcurrent : currentPrice now pair = .ok price.text) {rate : Rat} {minor : Int}
    (hminor : minor = ⌊rate * 10 ^ 2 + 1 / 2⌋) (isBuy : Bool) :
    (ConvertCurrency.fromBase m.cache minor .ngn none >>= fun bufferedPrice =>
      checkPriceSlippage now pair bufferedPrice isBuy) = .ok () ↔
        if isBuy then (⌈price.value * 10 ^ 2⌉ : Rat) ≤ rate * 10 ^ 2 + 1 / 2
        else (⌊rate * 10 ^ 2 + 1 / 2⌋ : Rat) ≤ price.value * 10 ^ 2 := by
  have hngn : getDecimals m.cache .ngn = .ok 2 := rfl
  obtain ⟨t, x, ht, hx, hvalue⟩ := ConvertCurrency.fromBase_reads hngn minor
  have hcheck := checkPriceSlippage_iff hcurrent hx isBuy
  rw [hvalue, hminor, le_minor_iff, minor_le_iff] at hcheck
  rw [← hcheck, ht]
  rfl

/-- An unchanged price passes the check of a confirmation exactly when rounding to minor units
leaves the guaranteed rate on its side of the price. -/
theorem unchanged_price_passes_iff {now : Tickers} {r : Request} {q : Quote} {price : Price}
    (hq : getQuote m r = .ok q) (hsame : Unchanged m now price.text r) :
    checkPrice m.cache now q = .ok () ↔
      ∃ f d, bufferMultiplier m price.decimal r = .ok f ∧ rateDecimals m r = .ok d ∧
        StaysGuaranteed r d price.value (significant precision (price.value * f)) := by
  have hngn : getDecimals m.cache .ngn = .ok 2 := rfl
  cases r with
  | buy crypto amount =>
    obtain ⟨hprice, hcurrent⟩ := hsame
    obtain ⟨buy, hbuy, rfl⟩ := map_ok_iff.mp hq
    obtain ⟨f, hf, hcrypto, hrate⟩ := getBuyQuote_rate hbuy hprice
    rw [← hcrypto] at hcurrent
    have hcheck := checkBuffered_iff (m := m) hcurrent hrate true
    simp only [checkPrice, hcheck, hf, rateDecimals, hngn, Except.ok.injEq, exists_and_left,
      exists_eq_left', StaysGuaranteed, if_true]
  | sell crypto amount =>
    obtain ⟨hprice, hcurrent⟩ := hsame
    obtain ⟨sell, hsell, rfl⟩ := map_ok_iff.mp hq
    obtain ⟨f, hf, hcrypto, hrate⟩ := getSellQuote_rate hsell hprice
    rw [← hcrypto] at hcurrent
    have hcheck := checkBuffered_iff (m := m) hcurrent hrate false
    simp only [checkPrice, hcheck, hf, rateDecimals, hngn, Except.ok.injEq, exists_and_left,
      exists_eq_left', StaysGuaranteed, Bool.false_eq_true, if_false]
  | swap fromSymbol toSymbol amount =>
    obtain ⟨hprice, hrefreshed⟩ := hsame
    obtain ⟨swap, hswap, rfl⟩ := map_ok_iff.mp hq
    obtain ⟨f, d, hf, hd, hto, hrate⟩ := getSwapQuote_rate hswap hprice
    have hcheck := checkSwapRate_iff (m := m) (hto ▸ hd) hrefreshed
    rw [hrate, minor_le_iff] at hcheck
    simp only [checkPrice, hcheck, hf, rateDecimals, hd, Except.ok.injEq, exists_and_left,
      exists_eq_left', StaysGuaranteed]

end Rates

/-- One tier for all amounts and orders. -/
def oneTier (percent : Int) : CachedCryptoCurrency where
  defaultBufferPercent := some 0
  maxBufferPercent := some 0
  buffer_tiers := some [⟨none, some 0, some (10 ^ 30), some percent⟩]

/-- A market where USDT costs 1500.004 NGN. -/
def usdtMarket (percent : Int) (h : 0 ≤ percent ∧ percent ≤ 10000) : Market where
  cache := fun _ => none
  getBySymbol := fun _ => some (oneTier percent)
  percents := by
    rintro _ _ ⟨rfl⟩
    constructor
    · simp [oneTier]
    · simp [oneTier]
    · simpa [oneTier, CachedCryptoCurrency.tiers] using h
  getPrice := fun _ => some ['1', '5', '0', '0', '.', '0', '0', '4']
  swapPrice := fun _ _ _ => none

def usdtTickers : Tickers where
  fetchSingleTicker := fun _ => some ['1', '5', '0', '0', '.', '0', '0', '4']
  getPrice := fun _ => none
  refreshedPrice := []

def usdtPrice : Price where
  text := ['1', '5', '0', '0', '.', '0', '0', '4']
  decimal := ⟨1500004, -3⟩
  parse_eq := by decide +kernel
  pos := by norm_num [Decimal.value]

/-- With a buffer of one percent, buying 10 USDT is still within the guaranteed 1515.00 NGN. -/
theorem one_percent_passes :
    checkPrice (fun _ => none) usdtTickers (.buy
      { crypto := .usdt, volumeCryptoMinor := 10 * 10 ^ 18, marketPriceMinor := 150000
        bufferedPriceMinor := 151500, bufferSpreadMinor := 1500, platformFeeMinor := 7575
        totalFiatMinor := 1522579, bufferPercent := ['1', '.', '0', '0'] }) = .ok () := by
  have hsame : Unchanged (usdtMarket 100 (by decide)) usdtTickers usdtPrice.text
      (.buy .usdt ⟨10, 0⟩) := ⟨rfl, by decide +kernel⟩
  refine (unchanged_price_passes_iff (by decide +kernel) hsame).mpr
    ⟨1 + ((100 : Int) : Rat) / 10 ^ 4, 2, ?_, rfl, ?_⟩
  · unfold bufferMultiplier
    simp only [bind_ok_iff, pure_ok_iff]
    exact ⟨10 * 10 ^ 18, by decide +kernel, 100, by decide +kernel, rfl⟩
  · have hrate := significant_fraction (n := 151500404) (by decide) 5
    have hceil : ⌈(1500004 : Rat) / 1000 * 10 ^ 2⌉ = 150001 := by
      rw [Int.ceil_eq_iff]
      norm_num
    have hvalue : usdtPrice.value = 1500004 / 1000 := by
      norm_num [Price.value, usdtPrice, Decimal.value]
    unfold StaysGuaranteed
    rw [hvalue, hceil]
    norm_num at hrate ⊢
    rw [hrate]
    norm_num

/-- Without a buffer, the guaranteed rate is rounded to 1500.00 NGN, below the price it was made
from. -/
theorem zero_buffer_slips :
    (getQuote (usdtMarket 0 (by decide)) (.buy .usdt ⟨10, 0⟩)).isOk = true ∧
      Unchanged (usdtMarket 0 (by decide)) usdtTickers usdtPrice.text (.buy .usdt ⟨10, 0⟩) ∧
      ∀ q, getQuote (usdtMarket 0 (by decide)) (.buy .usdt ⟨10, 0⟩) = .ok q →
        checkPrice (usdtMarket 0 (by decide)).cache usdtTickers q ≠ .ok () := by
  refine ⟨by decide +kernel, ⟨rfl, by decide +kernel⟩, ?_⟩
  intro q hq hcheck
  have hslips : (getQuote (usdtMarket 0 (by decide)) (.buy .usdt ⟨10, 0⟩) >>=
      checkPrice (usdtMarket 0 (by decide)).cache usdtTickers).isOk = false := by decide +kernel
  have hpasses := bind_ok_iff.mpr ⟨q, hq, hcheck⟩
  rw [hpasses] at hslips
  cases hslips

end PriceSlippage

end ExchangeLedger
