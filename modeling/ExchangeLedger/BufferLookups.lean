import ExchangeLedger.BufferTiers

set_option autoImplicit false

/-! The two lookups of a buffer percent in the cached cryptocurrencies: the quotes' and the
vaults'. -/

namespace ExchangeLedger

namespace BufferLookups

open ConvertCurrency (toLowerCase)

/-- A tier with its percent as `π`. -/
structure Tier (π : Type) where
  orderType : Option Text
  minAmount : Option Int
  maxAmount : Option Int
  bufferPercent : π
  deriving DecidableEq, Repr

/-- A cached cryptocurrency as far as the lookups read it: `none` is `null`. JSON has the numbers as
texts, so that zero is truthy. The percents are `Decimal(5, 2)`, held in hundredths. -/
structure CachedCryptoCurrency where
  defaultBufferPercent : Option Int
  maxBufferPercent : Option Int
  buffer_tiers : Option (List (Tier (Option Int)))
  deriving DecidableEq, Repr

def CachedCryptoCurrency.tiers (currency : CachedCryptoCurrency) : List (Tier (Option Int)) :=
  currency.buffer_tiers.getD []

/-- The argument `orderType: 'buy' | 'sell'`. -/
def orderTypeText : OrderType → Text
  | .BUY => ['b', 'u', 'y']
  | .SELL => ['s', 'e', 'l', 'l']

/-- The test of a tier, the same in both. -/
def matchesTier {π : Type} (orderType : OrderType) (amountMinor : Int) (tier : Tier π) : Bool :=
  (tier.orderType.all fun t => t = [] ∨ toLowerCase t = orderTypeText orderType) &&
    (tier.minAmount.any fun min => min ≤ amountMinor) &&
    (tier.maxAmount.any fun max => amountMinor ≤ max)

/-! ### The lookup of the quotes -/

structure NormalizedCrypto where
  defaultBufferPercent : Int
  maxBufferPercent : Int
  buffer_tiers : List (Tier Int)
  deriving DecidableEq, Repr

def normalizeCryptoFromCache (crypto : CachedCryptoCurrency) : NormalizedCrypto where
  defaultBufferPercent := crypto.defaultBufferPercent.getD 0
  maxBufferPercent := crypto.maxBufferPercent.getD 0
  buffer_tiers := crypto.tiers.map fun t => { t with bufferPercent := t.bufferPercent.getD 0 }

def getCryptoBySymbol (symbol : Text) (cached : Option CachedCryptoCurrency) :
    Except String NormalizedCrypto :=
  match cached with
  | some crypto => .ok (normalizeCryptoFromCache crypto)
  | none => .error ("Cryptocurrency " ++ String.ofList symbol ++ " not found")

/-- A percent, or the maximum where that is set and less. -/
def capped (maxBufferPercent bufferPercent : Int) : Int :=
  if 0 < maxBufferPercent ∧ maxBufferPercent < bufferPercent then maxBufferPercent
  else bufferPercent

def noConfiguration (cryptoSymbol : Text) (orderType : OrderType) : String :=
  "No buffer configuration for " ++ String.ofList cryptoSymbol ++ ". Cannot place " ++
    String.ofList (orderTypeText orderType) ++ " order."

/-- `QuotationService.getEffectiveBufferPercent`, in hundredths of a percent. -/
def effectiveHundredths (cryptoSymbol : Text) (orderType : OrderType) (amountMinor : Int)
    (crypto : NormalizedCrypto) : Except String Int :=
  let bufferPercent := match crypto.buffer_tiers.find? (matchesTier orderType amountMinor) with
    | some matchingTier => matchingTier.bufferPercent
    | none => if 0 < crypto.defaultBufferPercent then crypto.defaultBufferPercent else 0
  if bufferPercent = 0 ∧ crypto.buffer_tiers = [] ∧ ¬ 0 < crypto.defaultBufferPercent then
    .error (noConfiguration cryptoSymbol orderType)
  else .ok (capped crypto.maxBufferPercent bufferPercent)

/-- The percent as a fraction: `bufferPercent.div(100)`. -/
def getEffectiveBufferPercent (cryptoSymbol : Text) (orderType : OrderType) (amountMinor : Int)
    (cached : Option CachedCryptoCurrency) : Except String Rat := do
  let crypto ← getCryptoBySymbol cryptoSymbol cached
  let hundredths ← effectiveHundredths cryptoSymbol orderType amountMinor crypto
  return (hundredths : Rat) / 100 / 100

/-! ### The lookup of the vaults -/

/-- A stored percent is a finite number; what remains of the test is `percent.gte(0)`. -/
def normalizeBufferPercent (value : Option Int) : Option Int :=
  value.filter fun percent => 0 ≤ percent

def notConfigured (symbol : Text) : String :=
  "Buffer not configured for " ++ String.ofList symbol ++ ". Cannot create vault quote."

/-- `VaultService.getCurrencyBufferPercent`, in hundredths of a percent. A `Decimal` is truthy,
zero as any other, so that only `null` goes on to the default and to the error. -/
def currencyHundredths (symbol : Text) (orderType : OrderType) (amountMinor : Int)
    (currency : CachedCryptoCurrency) : Except String Int :=
  let bufferTiers := currency.tiers.map fun t =>
    { t with bufferPercent := normalizeBufferPercent t.bufferPercent }
  let matchingTier := bufferTiers.find? (matchesTier orderType amountMinor)
  match (matchingTier.bind Tier.bufferPercent).or
      (normalizeBufferPercent currency.defaultBufferPercent) with
  | none => .error (notConfigured symbol)
  | some bufferPercent =>
    .ok (capped ((normalizeBufferPercent currency.maxBufferPercent).getD 0) bufferPercent)

/-- `refreshed` is what the cache answers once the entry is refreshed. -/
def getCurrencyBufferPercent (symbol : Text) (orderType : OrderType) (amountMinor : Int)
    (cached refreshed : Option CachedCryptoCurrency) : Except String Rat := do
  let currency ← match cached.or refreshed with
    | some currency => pure currency
    | none => throw (notConfigured symbol)
  let hundredths ← currencyHundredths symbol orderType amountMinor currency
  return (hundredths : Rat) / 100

/-! ### When they agree -/

/-- The fraction of the one is the percentage of the other, or both reject. -/
def Agree : Except String Rat → Except String Rat → Prop
  | .ok fraction, .ok percent => fraction * 100 = percent
  | .error _, .error _ => True
  | _, _ => False

/-- A tier that is found has a percent that is not negative, or no percent where the default is
zero. Where none is found, the default is positive, or it is zero and there are tiers, or it is
neither and there are none. -/
def SameFallback (orderType : OrderType) (amountMinor : Int) (currency : CachedCryptoCurrency) :
    Prop :=
  match currency.tiers.find? (matchesTier orderType amountMinor) with
  | some tier => tier.bufferPercent.elim (currency.defaultBufferPercent = some 0) (0 ≤ ·)
  | none => currency.defaultBufferPercent.elim (currency.tiers = []) fun percent =>
    0 < percent ∨ percent = 0 ∧ currency.tiers ≠ [] ∨ percent < 0 ∧ currency.tiers = []

/-- The same percent, or an error on both sides. -/
def SameHundredths : Except String Int → Except String Int → Prop
  | .ok quoted, .ok charged => quoted = charged
  | .error _, .error _ => True
  | _, _ => False

theorem agree_iff (symbol : Text) (orderType : OrderType) (amountMinor : Int)
    (currency : CachedCryptoCurrency) (refreshed : Option CachedCryptoCurrency) :
    Agree (getEffectiveBufferPercent symbol orderType amountMinor (some currency))
        (getCurrencyBufferPercent symbol orderType amountMinor (some currency) refreshed) ↔
      SameHundredths
        (effectiveHundredths symbol orderType amountMinor (normalizeCryptoFromCache currency))
        (currencyHundredths symbol orderType amountMinor currency) := by
  have hcancel (m n : Int) : (m : Rat) / 100 / 100 * 100 = (n : Rat) / 100 ↔ m = n := by
    rw [div_mul_cancel₀ _ (by norm_num), div_left_inj' (by norm_num), Int.cast_inj]
  simp only [getEffectiveBufferPercent, getCurrencyBufferPercent, getCryptoBySymbol,
    Option.some_or, bind, Except.bind, pure, Except.pure]
  cases effectiveHundredths symbol orderType amountMinor (normalizeCryptoFromCache currency) with
  | error message => cases currencyHundredths symbol orderType amountMinor currency <;> rfl
  | ok quoted =>
    cases currencyHundredths symbol orderType amountMinor currency with
    | error message => rfl
    | ok charged => exact hcancel quoted charged

theorem find?_normalized {π ρ : Type} (f : π → ρ) (orderType : OrderType) (amountMinor : Int)
    (tiers : List (Tier π)) :
    ((tiers.map fun t => { t with bufferPercent := f t.bufferPercent }).find?
        (matchesTier orderType amountMinor)).map Tier.bufferPercent =
      (tiers.find? (matchesTier orderType amountMinor)).map fun t => f t.bufferPercent := by
  rw [List.find?_map, Option.map_map]
  rfl

theorem capped_normalized (max : Option Int) (percent : Int) :
    capped ((normalizeBufferPercent max).getD 0) percent = capped (max.getD 0) percent := by
  cases max with
  | none => rfl
  | some max =>
    by_cases hmax : 0 ≤ max
    · simp [normalizeBufferPercent, Option.filter, hmax]
    · simp only [normalizeBufferPercent, Option.filter, hmax, decide_false, Bool.false_eq_true,
        if_false, Option.getD_none, Option.getD_some, capped]
      rw [if_neg (by omega), if_neg (by omega)]

@[simp] theorem normalized_default (crypto : CachedCryptoCurrency) :
    (normalizeCryptoFromCache crypto).defaultBufferPercent = crypto.defaultBufferPercent.getD 0 :=
  rfl

@[simp] theorem normalized_max (crypto : CachedCryptoCurrency) :
    (normalizeCryptoFromCache crypto).maxBufferPercent = crypto.maxBufferPercent.getD 0 := rfl

section Lookup

variable {symbol : Text} {orderType : OrderType} {amountMinor : Int}
  {currency : CachedCryptoCurrency}

/-- Where a tier is found, a quote takes its percent, and zero for `null`. -/
theorem effectiveHundredths_found {tier : Tier (Option Int)}
    (h : currency.tiers.find? (matchesTier orderType amountMinor) = some tier) :
    effectiveHundredths symbol orderType amountMinor (normalizeCryptoFromCache currency) =
      .ok (capped (currency.maxBufferPercent.getD 0) (tier.bufferPercent.getD 0)) := by
  have hfound := find?_normalized (·.getD 0) orderType amountMinor currency.tiers
  rw [h] at hfound
  obtain ⟨t, ht, hpercent⟩ := Option.map_eq_some_iff.mp hfound
  have htiers : (normalizeCryptoFromCache currency).buffer_tiers ≠ [] := by
    intro hnil
    have hmem := List.mem_of_find?_eq_some ht
    change t ∈ (normalizeCryptoFromCache currency).buffer_tiers at hmem
    simp [hnil] at hmem
  change (normalizeCryptoFromCache currency).buffer_tiers.find? _ = some t at ht
  simp only [effectiveHundredths, ht, hpercent]
  rw [if_neg fun hnone => htiers hnone.2.1]
  rfl

theorem effectiveHundredths_missing
    (h : currency.tiers.find? (matchesTier orderType amountMinor) = none) :
    effectiveHundredths symbol orderType amountMinor (normalizeCryptoFromCache currency) =
      if 0 < currency.defaultBufferPercent.getD 0 then
        .ok (capped (currency.maxBufferPercent.getD 0) (currency.defaultBufferPercent.getD 0))
      else if currency.tiers = [] then .error (noConfiguration symbol orderType)
      else .ok 0 := by
  have hfound := find?_normalized (·.getD 0) orderType amountMinor currency.tiers
  rw [h] at hfound
  have hmissing := Option.map_eq_none_iff.mp hfound
  change (normalizeCryptoFromCache currency).buffer_tiers.find? _ = none at hmissing
  have htiers : (normalizeCryptoFromCache currency).buffer_tiers = [] ↔ currency.tiers = [] :=
    List.map_eq_nil_iff
  simp only [effectiveHundredths, hmissing, htiers, normalized_default, normalized_max]
  by_cases hdefault : 0 < currency.defaultBufferPercent.getD 0
  · simp [hdefault]
  · have hzero : capped (currency.maxBufferPercent.getD 0) 0 = 0 := if_neg (by omega)
    simp [hdefault, hzero]

theorem currencyHundredths_eq :
    currencyHundredths symbol orderType amountMinor currency =
      match (((currency.tiers.find? (matchesTier orderType amountMinor)).bind
          Tier.bufferPercent).filter fun percent => 0 ≤ percent).or
        (currency.defaultBufferPercent.filter fun percent => 0 ≤ percent) with
      | none => .error (notConfigured symbol)
      | some percent => .ok (capped (currency.maxBufferPercent.getD 0) percent) := by
  have hfound := find?_normalized normalizeBufferPercent orderType amountMinor currency.tiers
  have hbind {α β : Type} (o : Option α) (f : α → Option β) : o.bind f = (o.map f).join := by
    cases o <;> rfl
  simp only [currencyHundredths, hbind, hfound, capped_normalized]
  cases currency.tiers.find? (matchesTier orderType amountMinor) <;> rfl

end Lookup

@[simp] theorem zero_eq_capped {max percent : Int} : 0 = capped max percent ↔ percent = 0 := by
  unfold capped
  split <;> omega

theorem capped_ne_of_neg (max : Int) {percent fallback : Int} (hneg : percent < 0)
    (h : 0 ≤ fallback) :
    capped max percent ≠ capped max fallback := by
  unfold capped
  split <;> split <;> omega

theorem fallback_agrees_iff (max : Int) (fallback : Option Int) (message : String) {percent : Int}
    (hpercent : percent ≤ 0) :
    SameHundredths (.ok (capped max percent))
        (match fallback.filter fun p => 0 ≤ p with
        | none => .error message
        | some p => .ok (capped max p)) ↔ percent = 0 ∧ fallback = some 0 := by
  cases fallback with
  | none => simp [SameHundredths]
  | some p =>
    by_cases hsign : 0 ≤ p
    · simp only [Option.filter, hsign, decide_true, if_true, SameHundredths, Option.some.injEq]
      by_cases hzero : percent = 0
      · have hcapped : capped max 0 = 0 := if_neg (by omega)
        rw [hzero, hcapped, zero_eq_capped]
        simp
      · simp [hzero, capped_ne_of_neg max (show percent < 0 by omega) hsign]
    · have hne : p ≠ 0 := by omega
      simp [Option.filter, hsign, SameHundredths, hne]

/-- The lookups of the quotes and of the vaults agree, in what they reject too, exactly where what
is found, or the default in its place, is the same for both. -/
theorem lookups_agree_iff (symbol : Text) (orderType : OrderType) (amountMinor : Int)
    (currency : CachedCryptoCurrency) (refreshed : Option CachedCryptoCurrency) :
    Agree (getEffectiveBufferPercent symbol orderType amountMinor (some currency))
        (getCurrencyBufferPercent symbol orderType amountMinor (some currency) refreshed) ↔
      SameFallback orderType amountMinor currency := by
  rw [agree_iff, currencyHundredths_eq]
  unfold SameFallback
  cases hfound : currency.tiers.find? (matchesTier orderType amountMinor) with
  | some tier =>
    rw [effectiveHundredths_found hfound]
    cases hpercent : tier.bufferPercent with
    | none =>
      have hfallback := fallback_agrees_iff (currency.maxBufferPercent.getD 0)
        currency.defaultBufferPercent (notConfigured symbol) le_rfl
      simpa [hpercent] using hfallback
    | some percent =>
      by_cases hsign : 0 ≤ percent
      · simp [SameHundredths, hpercent, Option.filter, hsign]
      · have hfallback := fallback_agrees_iff (currency.maxBufferPercent.getD 0)
          currency.defaultBufferPercent (notConfigured symbol) (show percent ≤ 0 by omega)
        have hne : percent ≠ 0 := by omega
        simpa [hpercent, Option.filter, hsign, hne] using hfallback
  | none =>
    rw [effectiveHundredths_missing hfound]
    cases hdefault : currency.defaultBufferPercent with
    | none =>
      by_cases htiers : currency.tiers = []
      · simp [SameHundredths, htiers]
      · simp [SameHundredths, htiers]
    | some percent =>
      rcases lt_trichotomy percent 0 with hsign | rfl | hsign
      · have hneg : ¬ 0 ≤ percent := by omega
        have hpos : ¬ 0 < percent := by omega
        by_cases htiers : currency.tiers = []
        · simp [SameHundredths, Option.filter, hneg, hpos, hsign.ne', htiers]
        · simp [SameHundredths, Option.filter, hneg, hpos, hsign.ne, htiers]
      · by_cases htiers : currency.tiers = []
        · simp [SameHundredths, Option.filter, htiers]
        · simp [SameHundredths, Option.filter, htiers]
      · simp [SameHundredths, Option.filter, hsign, hsign.le]

/-- A currency as it is added: the default and the maximum are zero, and there are no tiers. -/
def unconfigured : CachedCryptoCurrency := ⟨some 0, some 0, some []⟩

/-- No quote is given for it, and a vault goes without a buffer. -/
theorem unconfigured_disagrees :
    ¬ ∀ (symbol : Text) (orderType : OrderType) (amountMinor : Int)
      (currency : CachedCryptoCurrency) (refreshed : Option CachedCryptoCurrency),
      Agree (getEffectiveBufferPercent symbol orderType amountMinor (some currency))
        (getCurrencyBufferPercent symbol orderType amountMinor (some currency) refreshed) := by
  intro h
  have hquote : getEffectiveBufferPercent [] .SELL 0 (some unconfigured) =
      .error (noConfiguration [] .SELL) := rfl
  have hvault : getCurrencyBufferPercent [] .SELL 0 (some unconfigured) none =
      .ok (((0 : Int) : Rat) / 100) := rfl
  have hagree := h [] .SELL 0 unconfigured none
  rw [hquote, hvault] at hagree
  exact hagree

/-! ### The rows of the database -/

/-- The column `orderType` of a tier. -/
def storedOrderType : OrderType → Text
  | .BUY => ['B', 'U', 'Y']
  | .SELL => ['S', 'E', 'L', 'L']

def cachedTier (tier : BufferTier) : Tier (Option Int) where
  orderType := tier.orderType.map storedOrderType
  minAmount := some tier.minAmount
  maxAmount := some tier.maxAmount
  bufferPercent := some tier.bufferPercent

def cachedOf (crypto : CryptoCurrency) (tiers : List BufferTier) : CachedCryptoCurrency where
  defaultBufferPercent := some crypto.defaultBufferPercent
  maxBufferPercent := some crypto.maxBufferPercent
  buffer_tiers := some (tiers.map cachedTier)

section Stored

variable (crypto : CryptoCurrency) (tiers : List BufferTier)

@[simp] theorem cachedOf_default :
    (cachedOf crypto tiers).defaultBufferPercent = some crypto.defaultBufferPercent := rfl

@[simp] theorem cachedOf_max :
    (cachedOf crypto tiers).maxBufferPercent = some crypto.maxBufferPercent := rfl

@[simp] theorem cachedOf_tiers_eq_nil : (cachedOf crypto tiers).tiers = [] ↔ tiers = [] :=
  List.map_eq_nil_iff

end Stored

theorem matchesTier_cached (orderType : OrderType) (amountMinor : Int) (tier : BufferTier) :
    matchesTier orderType amountMinor (cachedTier tier) =
      decide (CryptoBuffer.Matches orderType amountMinor tier) := by
  have htype : ((tier.orderType.map storedOrderType).all fun t =>
      t = [] ∨ toLowerCase t = orderTypeText orderType) = true ↔
        tier.orderType = none ∨ tier.orderType = some orderType := by
    cases tier.orderType with
    | none => simp
    | some stored => cases stored <;> cases orderType <;> decide
  rw [Bool.eq_iff_iff, decide_eq_true_iff]
  unfold matchesTier CryptoBuffer.Matches
  rw [Bool.and_eq_true, Bool.and_eq_true, and_assoc, ← htype]
  simp [cachedTier]

theorem find?_cached (crypto : CryptoCurrency) (tiers : List BufferTier) (orderType : OrderType)
    (amountMinor : Int) :
    (cachedOf crypto tiers).tiers.find? (matchesTier orderType amountMinor) =
      (tiers.find? (CryptoBuffer.Matches orderType amountMinor)).map cachedTier := by
  change (tiers.map cachedTier).find? _ = _
  rw [List.find?_map]
  congr 2
  funext tier
  exact matchesTier_cached orderType amountMinor tier

theorem fraction_capped (max percent : Int) :
    (if 0 < max ∧ max < percent then .ok ((max : Rat) / 100 / 100)
      else .ok ((percent : Rat) / 100 / 100) : Except String Rat) =
        .ok ((capped max percent : Rat) / 100 / 100) := by
  unfold capped
  split_ifs <;> rfl

theorem getEffectiveBufferPercent_stored (symbol : Text) (crypto : CryptoCurrency)
    (tiers : List BufferTier) (orderType : OrderType) (amountMinor : Int) :
    (getEffectiveBufferPercent symbol orderType amountMinor
        (some (cachedOf crypto tiers))).toOption =
      (CryptoBuffer.getEffectiveBufferPercent crypto tiers orderType amountMinor).toOption := by
  have hfind := find?_cached crypto tiers orderType amountMinor
  simp only [getEffectiveBufferPercent, getCryptoBySymbol, bind, Except.bind, pure, Except.pure]
  unfold CryptoBuffer.getEffectiveBufferPercent
  cases hfound : tiers.find? (CryptoBuffer.Matches orderType amountMinor) with
  | some tier =>
    rw [hfound] at hfind
    have hne : tiers ≠ [] := List.ne_nil_of_mem (List.mem_of_find?_eq_some hfound)
    rw [effectiveHundredths_found hfind]
    simp only [hne, false_and, and_false, if_false, fraction_capped, cachedOf_max,
      Option.getD_some]
    rfl
  | none =>
    rw [hfound] at hfind
    rw [effectiveHundredths_missing hfind]
    by_cases hdefault : 0 < crypto.defaultBufferPercent
    · simp only [hdefault, if_true, not_true_eq_false, and_false, if_false, fraction_capped]
      simp [hdefault]
    · have hzero : capped crypto.maxBufferPercent 0 = 0 := if_neg (by omega)
      by_cases htiers : tiers = []
      · simp [hdefault, htiers]
        rfl
      · simp only [hdefault, if_false, htiers, false_and, and_false, fraction_capped, hzero]
        simp [hdefault, htiers]

/-- For percents that the admin service stores, which are not negative, the lookups agree exactly
where a tier is found, or the default is positive, or there are tiers at all. -/
theorem stored_lookups_agree_iff (symbol : Text) (crypto : CryptoCurrency)
    (tiers : List BufferTier) (orderType : OrderType) (amountMinor : Int)
    (refreshed : Option CachedCryptoCurrency) (hdefault : 0 ≤ crypto.defaultBufferPercent)
    (htiers : ∀ tier ∈ tiers, 0 ≤ tier.bufferPercent) :
    Agree (getEffectiveBufferPercent symbol orderType amountMinor
          (some (cachedOf crypto tiers)))
        (getCurrencyBufferPercent symbol orderType amountMinor (some (cachedOf crypto tiers))
          refreshed) ↔ 0 < crypto.defaultBufferPercent ∨ tiers ≠ [] := by
  rw [lookups_agree_iff]
  unfold SameFallback
  rw [find?_cached]
  cases hfound : tiers.find? (CryptoBuffer.Matches orderType amountMinor) with
  | some tier =>
    have hmem := List.mem_of_find?_eq_some hfound
    have hne : tiers ≠ [] := List.ne_nil_of_mem hmem
    simp [cachedTier, htiers tier hmem, hne]
  | none =>
    rcases hdefault.eq_or_lt with hzero | hpos
    · simp [← hzero]
    · simp [hpos]

end BufferLookups

end ExchangeLedger
