import ExchangeLedger.Binary64
import ExchangeLedger.TransferLimits
import ExchangeLedger.VaultGains

set_option autoImplicit false

/-! What a vault pays at maturity, after the configured fee, and what it pays when it is terminated
early. -/

namespace ExchangeLedger

namespace VaultPayouts

open TransferLimits (JsNumber)
open VaultService (expectedInterestMinor durationDays)

/-- `parseFloat(process.env.VAULT_TRANSACTION_FEE) || 100`. A variable that is not set is read as
`NaN`. -/
def VAULT_TRANSACTION_FEE (parsed : JsNumber) : JsNumber :=
  if parsed = .nan ∨ parsed = .finite 0 then .finite 100 else parsed

/-- `BigInt(Math.floor(VAULT_TRANSACTION_FEE * 10000))`, which throws where there is no number. -/
def feeUnits : JsNumber → Except String Int
  | .finite fee =>
    if Binary64.overflows (fee * 10000) then .error "RangeError"
    else .ok ⌊Binary64.round (fee * 10000)⌋
  | _ => .error "RangeError"

/-- The amounts of a vault that is opened. -/
structure Amounts where
  amountLocked : Nat
  totalGain : Nat
  transactionFee : Int
  amountToReceive : Int
  deriving DecidableEq, Repr

/-- The fee of a payout. The division of two `bigint`s cuts towards zero. -/
def transactionFeeMinor (units : Int) (totalPayoutBeforeFee : Nat) : Int :=
  (totalPayoutBeforeFee * units).tdiv 1000000

def amounts (fee : JsNumber) (principal gain : Nat) : Except String Amounts := do
  let units ← feeUnits fee
  let transactionFee := transactionFeeMinor units (principal + gain)
  return ⟨principal, gain, transactionFee, (principal + gain : Nat) - transactionFee⟩

/-- How a vault comes to its amounts: those of a stablecoin vault are worked out by its preview, and
those of a BTC vault once its swap into `expectedUsdtMinor` is done. -/
inductive Opening where
  | previewed (principalMinor : Nat) (rate : AnnualRate) (durationDays : Nat)
  | swapped (expectedUsdtMinor : Nat) (rate : AnnualRate) (maturityDate requestedAt : Nat)
  deriving DecidableEq, Repr

namespace Opening

def principal : Opening → Nat
  | .previewed principalMinor _ _ => principalMinor
  | .swapped expectedUsdtMinor _ _ _ => expectedUsdtMinor

def gain : Opening → Nat
  | .previewed principalMinor rate days => expectedInterestMinor principalMinor rate days
  | .swapped expectedUsdtMinor rate maturityDate requestedAt =>
    Vault.gain expectedUsdtMinor rate.percent (durationDays maturityDate requestedAt)

def opened (fee : JsNumber) (o : Opening) : Except String Amounts :=
  amounts fee o.principal o.gain

end Opening

def earlyTerminationPenalty (v : Amounts) : Nat := v.amountLocked * 5 / 100

/-- `returnedAmount` of `unlock`. -/
def returnedAmount (v : Amounts) (isEarlyTermination : Bool) : Int :=
  if isEarlyTermination then v.amountLocked - earlyTerminationPenalty v else v.amountToReceive

/-- A row with these amounts is paid out so. -/
theorem returnedAmount_eq_payout {v : Amounts} {row : Vault}
    (hlocked : row.amountLocked = v.amountLocked)
    (hreceive : (row.amountToReceive : Int) = v.amountToReceive) (early : Bool) :
    (row.payout early : Int) = returnedAmount v early := by
  unfold Vault.payout Vault.earlyTerminationPenalty returnedAmount earlyTerminationPenalty
  rw [hlocked]
  cases early with
  | true => simp; omega
  | false => simpa using hreceive

/-- Maturity pays as much as an early termination, and no more than principal and gain. -/
structure Ordered (v : Amounts) : Prop where
  early : returnedAmount v true ≤ returnedAmount v false
  total : returnedAmount v false ≤ (v.amountLocked + v.totalGain : Nat)

/-- The fee is not negative once it is cut, and the gain and the penalty cover it. -/
def Covered (units : Int) (principal gain : Nat) : Prop :=
  -1000000 < ((principal + gain : Nat) : Int) * units ∧
    ((principal + gain : Nat) : Int) * units < 1000000 * (gain + (principal * 5 / 100 : Nat) + 1)

theorem tdiv_bounds (x : Int) (bound : Nat) :
    (0 ≤ x.tdiv 1000000 ↔ -1000000 < x) ∧
      (x.tdiv 1000000 ≤ bound ↔ x < 1000000 * (bound + 1)) := by
  rcases Int.le_total 0 x with hpos | hneg
  · rw [Int.tdiv_eq_ediv_of_nonneg hpos]
    omega
  · obtain ⟨y, rfl⟩ : ∃ y, x = -y := ⟨-x, by omega⟩
    rw [Int.neg_tdiv, Int.tdiv_eq_ediv_of_nonneg (by omega)]
    omega

theorem ordered_iff (units : Int) (principal gain : Nat) :
    Ordered ⟨principal, gain, transactionFeeMinor units (principal + gain),
        (principal + gain : Nat) - transactionFeeMinor units (principal + gain)⟩ ↔
      Covered units principal gain := by
  obtain ⟨hnonneg, hle⟩ := tdiv_bounds (((principal + gain : Nat) : Int) * units)
    (gain + principal * 5 / 100)
  unfold Covered
  rw [← hnonneg]
  push_cast at hle ⊢
  rw [← hle]
  unfold transactionFeeMinor
  push_cast
  generalize (((principal : Int) + gain) * units).tdiv 1000000 = fee
  constructor
  · rintro ⟨hearly, htotal⟩
    simp only [returnedAmount, earlyTerminationPenalty, if_true, Bool.false_eq_true, if_false]
      at hearly htotal
    omega
  · rintro ⟨hfee, hcovered⟩
    constructor
    · simp only [returnedAmount, earlyTerminationPenalty, if_true, Bool.false_eq_true, if_false]
      omega
    · simp only [returnedAmount, Bool.false_eq_true, if_false]
      omega

/-- For every value that the configuration can have and every vault that is opened with it: maturity
pays at least what an early termination pays, and at most principal and gain, exactly where gain and
penalty cover the fee. -/
theorem payouts_ordered_iff (parsed : JsNumber) (o : Opening) :
    (∀ v, o.opened (VAULT_TRANSACTION_FEE parsed) = .ok v → Ordered v) ↔
      ∀ units, feeUnits (VAULT_TRANSACTION_FEE parsed) = .ok units →
        Covered units o.principal o.gain := by
  unfold Opening.opened amounts
  cases feeUnits (VAULT_TRANSACTION_FEE parsed) with
  | error message => simp [bind, Except.bind]
  | ok units =>
    simp only [bind, Except.bind, pure, Except.pure, Except.ok.injEq, forall_eq']
    exact ordered_iff units o.principal o.gain

theorem every_vault_ordered_iff (parsed : JsNumber) :
    (∀ (o : Opening) (v : Amounts),
        o.opened (VAULT_TRANSACTION_FEE parsed) = .ok v → Ordered v) ↔
      ∀ units, feeUnits (VAULT_TRANSACTION_FEE parsed) = .ok units →
        0 ≤ units ∧ units ≤ 50000 := by
  simp only [payouts_ordered_iff]
  constructor
  · intro h units hunits
    -- a million at a rate that is cut to nothing
    have hcovered := h (.previewed 1000000 ⟨1, by decide, by decide⟩ 1) units hunits
    have hgain : Opening.gain (.previewed 1000000 ⟨1, by decide, by decide⟩ 1) = 0 := by decide
    simp only [hgain, Opening.principal] at hcovered
    unfold Covered at hcovered
    omega
  · intro h o units hunits
    obtain ⟨hnonneg, hle⟩ := h units hunits
    generalize o.principal = principal
    generalize o.gain = gain
    unfold Covered
    have hlower : 0 ≤ ((principal + gain : Nat) : Int) * units := by positivity
    have hupper : ((principal + gain : Nat) : Int) * units ≤ (principal + gain : Nat) * 50000 :=
      mul_le_mul_of_nonneg_left hle (by positivity)
    omega

theorem five_percent_covered {fee : Rat} (hpos : 0 < fee) (hle : fee ≤ 5) (units : Int)
    (hunits : feeUnits (VAULT_TRANSACTION_FEE (.finite fee)) = .ok units) :
    0 ≤ units ∧ units ≤ 50000 := by
  have hfee : VAULT_TRANSACTION_FEE (.finite fee) = .finite fee := by
    simp [VAULT_TRANSACTION_FEE, hpos.ne']
  have habs : |fee * 10000| ≤ ((50000 : Int) : Rat) := by
    rw [abs_of_pos (by positivity)]
    push_cast
    linarith
  have hlower := Binary64.le_round (m := 0) habs (by decide) (by push_cast; positivity)
  have hupper := Binary64.round_le (m := 50000) habs (by decide) (by push_cast; linarith)
  rw [hfee] at hunits
  simp only [feeUnits] at hunits
  split at hunits
  · cases hunits
  · rw [← Except.ok.inj hunits]
    constructor
    · exact Int.le_floor.mpr hlower
    · exact_mod_cast (Int.floor_le _).trans hupper

theorem feeUnits_hundred : feeUnits (.finite 100) = .ok 1000000 := by
  have hround : Binary64.round (100 * 10000) = ((1000000 : Int) : Rat) := by
    have hexact := Binary64.round_intCast (n := 1000000) (by decide)
    norm_num at hexact ⊢
    exact hexact
  have hfinite : Binary64.overflows (100 * 10000) = false := by
    have hpow : (2 : Rat) ^ 20 ≤ 2 ^ 1024 := pow_le_pow_right₀ (by norm_num) (by decide)
    unfold Binary64.overflows
    rw [hround, decide_eq_false_iff_not, not_le]
    exact lt_of_lt_of_le (by norm_num) hpow
  simp only [feeUnits, hfinite, Bool.false_eq_true, if_false, hround, Int.floor_intCast]

theorem opened_fallback {parsed : JsNumber} (h : parsed = .nan ∨ parsed = .finite 0)
    (o : Opening) :
    o.opened (VAULT_TRANSACTION_FEE parsed) =
      .ok ⟨o.principal, o.gain, (o.principal + o.gain : Nat), 0⟩ := by
  have hfee : transactionFeeMinor 1000000 (o.principal + o.gain) = (o.principal + o.gain : Nat) :=
    Int.mul_tdiv_cancel _ (by decide)
  unfold Opening.opened amounts VAULT_TRANSACTION_FEE
  rw [if_pos h, feeUnits_hundred]
  simp only [bind, Except.bind, pure, Except.pure, hfee, sub_self]

/-- With the fee set to zero a vault of a million for a year at ten percent pays nothing. -/
theorem zero_fee_pays_nothing :
    ¬ ∀ (parsed : JsNumber) (o : Opening) (v : Amounts),
      o.opened (VAULT_TRANSACTION_FEE parsed) = .ok v → Ordered v := by
  intro h
  have hordered := h (.finite 0) (.previewed 1000000 VaultService.tenPercent 365) _
    (opened_fallback (.inr rfl) _)
  have hearly := hordered.early
  have hpenalty : returnedAmount ⟨1000000, 100000, 1100000, 0⟩ true = 950000 := by decide
  have hmatured : returnedAmount ⟨1000000, 100000, 1100000, 0⟩ false = 0 := by decide
  change returnedAmount ⟨1000000, 100000, 1100000, 0⟩ true ≤
    returnedAmount ⟨1000000, 100000, 1100000, 0⟩ false at hearly
  rw [hpenalty, hmatured] at hearly
  exact absurd hearly (by decide)

end VaultPayouts

end ExchangeLedger
