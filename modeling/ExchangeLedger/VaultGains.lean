import ExchangeLedger.DecimalRounding
import ExchangeLedger.Vault

set_option autoImplicit false

/-! The interest on a vault: what the preview works out and a stablecoin vault keeps, and what the
swap of a BTC vault works out again. -/

namespace ExchangeLedger

/-- `updateCryptoCurrencyRate`: the yearly rate in hundredths of a percent, rounded up. -/
def lockedFundsRatePercent (percent : Decimal) : Except String Nat :=
  if percent.value < 0 ∨ 100 < percent.value then
    .error "lockedFundsInterestRatePercent must be between 0 and 100"
  else .ok (-(Decimal.floor ⟨-percent.mant, percent.exp + 2⟩)).toNat

/-- A rate that interest is paid at, with two digits after the point. -/
structure AnnualRate where
  hundredths : Nat
  pos : 0 < hundredths
  le : hundredths ≤ 10000
  deriving DecidableEq, Repr

namespace AnnualRate

/-- `lockedFundsInterestRatePercent` and `interestRatePerAnum`. -/
def percent (rate : AnnualRate) : Decimal := ⟨rate.hundredths, -2⟩

end AnnualRate

theorem lockedFundsRatePercent_iff (n : Nat) :
    (∃ percent, lockedFundsRatePercent percent = .ok n) ↔ n ≤ 10000 := by
  have hceil (percent : Decimal) : -(Decimal.floor ⟨-percent.mant, percent.exp + 2⟩) =
      ⌈percent.value * 100⌉ := by
    rw [Decimal.floor_eq, ← Int.ceil_neg]
    congr 1
    simp only [Decimal.value]
    rw [zpow_add₀ (by norm_num)]
    push_cast
    ring
  constructor
  · rintro ⟨percent, h⟩
    unfold lockedFundsRatePercent at h
    split at h
    · cases h
    · rename_i hrange
      push Not at hrange
      rw [hceil] at h
      cases h
      have hle : ⌈percent.value * 100⌉ ≤ 10000 := by
        rw [Int.ceil_le]
        push_cast
        linarith [hrange.2]
      omega
  · intro hn
    refine ⟨⟨n, -2⟩, ?_⟩
    have hvalue : Decimal.value ⟨n, -2⟩ = n / 100 := by
      simp only [Decimal.value]
      norm_num
      ring
    have hn' : (n : Rat) ≤ 10000 := by exact_mod_cast hn
    have hscaled : (n : Rat) / 100 * 100 = n := by ring
    have hrange : ¬ ((n : Rat) / 100 < 0 ∨ 100 < (n : Rat) / 100) := by
      rw [not_or]
      constructor
      · have hpos : (0 : Rat) ≤ n := by positivity
        linarith
      · linarith
    unfold lockedFundsRatePercent
    rw [hceil, hvalue, if_neg hrange, hscaled]
    simp

namespace VaultService

/-- `expectedInterestMinor` of `getVaultPreview`: the rate is cut to a whole number first. -/
def expectedInterestMinor (principal : Nat) (rate : AnnualRate) (durationDays : Nat) : Nat :=
  principal * (rate.hundredths / 100) * durationDays / 36500

/-- `durationDays` of the swap's completion, from times in milliseconds. -/
def durationDays (maturityDate requestedAt : Nat) : Nat :=
  max 1 ((maturityDate - requestedAt + 86399999) / 86400000)

/-- The interest that the rate earns, rounded down. -/
def exactGain (principal : Nat) (rate : AnnualRate) (days : Nat) : Nat :=
  principal * rate.hundredths * days / 3650000

theorem durationDays_eq {days quotedAt requestedAt : Nat} (hdays : 0 < days)
    (hquoted : quotedAt ≤ requestedAt) (hrequested : requestedAt < quotedAt + 86400000) :
    durationDays (quotedAt + days * 86400000) requestedAt = days := by
  unfold durationDays
  omega

/-- The roundings to twenty significant digits leave the quotient, with half a unit of its last
digit, between the interest and the next whole number. -/
def RoundsToGain (principal percent days : Nat) : Prop :=
  let gain := principal * percent * days / 36500
  let quotient : Rat := Decimal.significant 20
    (Decimal.significant 20 ((principal * percent : Nat) : Rat) * days) / 36500
  Decimal.wholeUnit 20 quotient ∣ gain ∧
    (gain : Rat) ≤ quotient + Decimal.digitUnit 20 quotient / 2 ∧
    quotient + Decimal.digitUnit 20 quotient / 2 < gain + Decimal.wholeUnit 20 quotient

/-- A rate with a fraction: what the fraction earns is lost without a trace in the whole number.
A whole rate: the roundings do not reach the whole number. -/
def GainsAgree (principal : Nat) (rate : AnnualRate) (days : Nat) : Prop :=
  if rate.hundredths % 100 = 0 then RoundsToGain principal (rate.hundredths / 100) days
  else principal * days * (rate.hundredths / 100 * 100) % 3650000 +
    principal * days * (rate.hundredths % 100) < 3650000

theorem gain_eq (principal : Nat) (rate : AnnualRate) (days : Nat) :
    (Vault.gain principal rate.percent days : Int) =
      ⌊Decimal.significant 20 (Decimal.significant 20 (Decimal.significant 20
        ((principal : Rat) * ((rate.hundredths : Rat) / 100)) * days) / 36500)⌋ := by
  obtain ⟨m, e, hm⟩ := Decimal.mul_natCast principal rate.hundredths 0 (-2)
  obtain ⟨n, f, hn⟩ := Decimal.mul_natCast m days e 0
  have hfirst := Decimal.mul_value principal rate.hundredths 0 (-2)
  have hsecond := Decimal.mul_value m days e 0
  have hthird := Decimal.divNat_value n f (show 0 < 36500 by decide) (by decide)
  have hpercent : (principal : Rat) * (10 : Rat) ^ (0 : Int) *
      (rate.hundredths * (10 : Rat) ^ (-2 : Int)) =
        principal * ((rate.hundredths : Rat) / 100) := by
    rw [show (10 : Rat) ^ (-2 : Int) = 1 / 100 by norm_num, zpow_zero]
    ring
  have hdays : (days : Rat) * (10 : Rat) ^ (0 : Int) = days := by norm_num
  rw [hm, hpercent] at hfirst
  rw [hn, hdays] at hsecond
  simp only [Decimal.value, Int.cast_natCast, Decimal.precision] at hfirst hsecond hthird
  rw [hfirst] at hsecond
  rw [hsecond] at hthird
  unfold Vault.gain AnnualRate.percent
  rw [hm, hn, Decimal.floor_eq, Decimal.value, hthird]
  apply Int.toNat_of_nonneg
  apply Int.floor_nonneg.mpr
  apply Decimal.significant_nonneg
  apply div_nonneg _ (by norm_num)
  rw [← hsecond]
  positivity

/-- Interest of less than `10 ^ 13` units is not reached by the roundings. -/
theorem gain_of_lt {principal : Nat} {rate : AnnualRate} {days : Nat} (hdays : 0 < days)
    (hlt : principal * rate.hundredths * days < 3650000 * 10 ^ 13) :
    Vault.gain principal rate.percent days = exactGain principal rate days := by
  have hproduct : principal * rate.hundredths ≤ principal * rate.hundredths * days :=
    Nat.le_mul_of_pos_right _ hdays
  have hdigits {n : Nat} (hn : n < 3650000 * 10 ^ 13) : (Nat.toDigits 10 n).length ≤ 20 :=
    Decimal.length_toDigits_le (by decide) (by omega)
  have hcents (n : Nat) : (n : Rat) / 100 = n * (10 : Rat) ^ (-2 : Int) := by
    rw [show (10 : Rat) ^ (-2 : Int) = 1 / 100 by norm_num]
    ring
  have hfirst : Decimal.significant 20 ((principal : Rat) * ((rate.hundredths : Rat) / 100)) =
      ((principal * rate.hundredths : Nat) : Rat) / 100 := by
    have hexact : (principal : Rat) * ((rate.hundredths : Rat) / 100) =
        ((principal * rate.hundredths : Nat) : Rat) / 100 := by
      push_cast
      ring
    rw [hexact, hcents, Decimal.significant_of_digits (hdigits (by omega))]
  have hsecond : Decimal.significant 20 (((principal * rate.hundredths : Nat) : Rat) / 100 * days) =
      ((principal * rate.hundredths * days : Nat) : Rat) / 100 := by
    have hexact : ((principal * rate.hundredths : Nat) : Rat) / 100 * days =
        ((principal * rate.hundredths * days : Nat) : Rat) / 100 := by
      push_cast
      ring
    rw [hexact, hcents, Decimal.significant_of_digits (hdigits hlt)]
  have hthird : ((principal * rate.hundredths * days : Nat) : Rat) / 100 / 36500 =
      ((principal * rate.hundredths * days : Nat) : Rat) / (3650000 : Nat) := by
    rw [div_div]
    norm_num
  have hgain := gain_eq principal rate days
  rw [hfirst, hsecond, hthird, Decimal.floor_significant_div hlt (by decide)] at hgain
  exact_mod_cast hgain

theorem whole_rate {rate : AnnualRate} (hwhole : rate.hundredths % 100 = 0) (principal days : Nat) :
    exactGain principal rate days = principal * (rate.hundredths / 100) * days / 36500 := by
  unfold exactGain
  obtain ⟨percent, hpercent⟩ : ∃ percent, rate.hundredths = 100 * percent :=
    ⟨rate.hundredths / 100, by omega⟩
  rw [hpercent, Nat.mul_div_cancel_left _ (by decide),
    show principal * (100 * percent) * days = 100 * (principal * percent * days) by ring,
    show 3650000 = 100 * 36500 by rfl, Nat.mul_div_mul_left _ _ (by decide)]

theorem gain_whole_iff {rate : AnnualRate} (hwhole : rate.hundredths % 100 = 0)
    (principal days : Nat) :
    Vault.gain principal rate.percent days = exactGain principal rate days ↔
      RoundsToGain principal (rate.hundredths / 100) days := by
  have hpercent : (principal : Rat) * ((rate.hundredths : Rat) / 100) =
      ((principal * (rate.hundredths / 100) : Nat) : Rat) := by
    have hcast : (rate.hundredths : Rat) = ((rate.hundredths / 100 : Nat) : Rat) * 100 := by
      have hmul : rate.hundredths = rate.hundredths / 100 * 100 := by omega
      exact_mod_cast hmul
    rw [hcast]
    push_cast
    ring
  rw [whole_rate hwhole]
  unfold RoundsToGain
  rw [← Decimal.floor_significant_iff, ← hpercent, ← gain_eq]
  exact Int.natCast_inj.symm

theorem preview_iff (principal : Nat) (rate : AnnualRate) (days : Nat) :
    expectedInterestMinor principal rate days = exactGain principal rate days ↔
      principal * days * (rate.hundredths / 100 * 100) % 3650000 +
        principal * days * (rate.hundredths % 100) < 3650000 := by
  unfold expectedInterestMinor exactGain
  have hsplit : principal * rate.hundredths * days =
      principal * days * (rate.hundredths / 100 * 100) +
        principal * days * (rate.hundredths % 100) := by
    rw [← Nat.mul_add, Nat.div_add_mod']
    ring
  have hwhole : principal * (rate.hundredths / 100) * days / 36500 =
      principal * days * (rate.hundredths / 100 * 100) / 3650000 := by
    rw [show principal * days * (rate.hundredths / 100 * 100) =
        100 * (principal * (rate.hundredths / 100) * days) by ring,
      show 3650000 = 100 * 36500 by rfl, Nat.mul_div_mul_left _ _ (by decide)]
  rw [hsplit, hwhole]
  omega

/-- At a whole rate, interest of less than `10 ^ 15` units is not reached by the roundings. -/
theorem roundsToGain_of_lt {principal percent days : Nat} (hdays : 0 < days)
    (hlt : principal * percent * days < 36500 * 10 ^ 15) : RoundsToGain principal percent days := by
  have hproduct : principal * percent ≤ principal * percent * days :=
    Nat.le_mul_of_pos_right _ hdays
  have hdigits {n : Nat} (hn : n < 36500 * 10 ^ 15) : Decimal.significant 20 (n : Rat) = n := by
    have hlength : (Nat.toDigits 10 n).length ≤ 20 :=
      Decimal.length_toDigits_le (by decide) (by omega)
    simpa using Decimal.significant_of_digits hlength 0
  have hfloor := Decimal.floor_significant_div hlt (show 36500 * 10 ^ 15 ≤ 10 ^ 20 by decide)
  unfold RoundsToGain
  rw [← Decimal.floor_significant_iff, hdigits (by omega), ← Nat.cast_mul, hdigits hlt]
  exact_mod_cast hfloor

/-- The interest that the preview shows, and stablecoin vaults keep, and the interest that the swap
of a BTC vault works out for the same principal, rate and days are both the exact one rounded down
exactly where the fraction of the rate and the roundings leave no trace. -/
theorem gains_agree_iff (principal : Nat) (rate : AnnualRate) (days quotedAt requestedAt : Nat)
    (hdays : 0 < days) (hquoted : quotedAt ≤ requestedAt)
    (hrequested : requestedAt < quotedAt + 86400000) :
    (expectedInterestMinor principal rate days = exactGain principal rate days ∧
      Vault.gain principal rate.percent
          (durationDays (quotedAt + days * 86400000) requestedAt) =
        exactGain principal rate days) ↔ GainsAgree principal rate days := by
  rw [durationDays_eq hdays hquoted hrequested]
  unfold GainsAgree
  split
  · rename_i hwhole
    have hpreview : expectedInterestMinor principal rate days = exactGain principal rate days := by
      rw [preview_iff, hwhole]
      omega
    rw [gain_whole_iff hwhole, and_iff_right hpreview]
  · rename_i hfraction
    rw [preview_iff, and_iff_left_iff_imp]
    intro hcarry
    apply gain_of_lt hdays
    have hsmall : principal * days < 3650000 := by
      have hle : principal * days ≤ principal * days * (rate.hundredths % 100) :=
        Nat.le_mul_of_pos_right _ (by omega)
      omega
    calc principal * rate.hundredths * days = principal * days * rate.hundredths := by ring
      _ ≤ principal * days * 10000 := Nat.mul_le_mul_left _ rate.le
      _ < 3650000 * 10 ^ 13 := by omega

def tenPercent : AnnualRate := ⟨1000, by decide, by decide⟩

def fiveAndAHalfPercent : AnnualRate := ⟨550, by decide, by decide⟩

/-- A year at ten percent, asked for five minutes after the quote. -/
theorem ten_percent_agrees :
    expectedInterestMinor 1000000 tenPercent 365 = exactGain 1000000 tenPercent 365 ∧
      Vault.gain 1000000 tenPercent.percent (durationDays (0 + 365 * 86400000) 300000) =
        exactGain 1000000 tenPercent 365 := by
  have hagree : GainsAgree 1000000 tenPercent 365 := by
    unfold GainsAgree
    rw [if_pos (by decide)]
    exact roundsToGain_of_lt (by decide) (by decide)
  exact (gains_agree_iff 1000000 tenPercent 365 0 300000 (by decide) (by decide)
    (by decide)).mpr hagree

/-- A year at five and a half percent is previewed at five. -/
theorem fraction_of_rate_lost :
    ¬ ∀ (principal : Nat) (rate : AnnualRate) (days quotedAt requestedAt : Nat), 0 < days →
      quotedAt ≤ requestedAt → requestedAt < quotedAt + 86400000 →
      expectedInterestMinor principal rate days = exactGain principal rate days ∧
        Vault.gain principal rate.percent
            (durationDays (quotedAt + days * 86400000) requestedAt) =
          exactGain principal rate days := by
  intro h
  obtain ⟨hpreview, -⟩ := h 1000000 fiveAndAHalfPercent 365 0 300000 (by decide) (by decide)
    (by decide)
  have hcut : expectedInterestMinor 1000000 fiveAndAHalfPercent 365 = 50000 := by decide
  have hexact : exactGain 1000000 fiveAndAHalfPercent 365 = 55000 := by decide
  rw [hcut, hexact] at hpreview
  exact absurd hpreview (by decide)

end VaultService

end ExchangeLedger
