import ExchangeLedger.Swap

set_option autoImplicit false

/-! Autostacks: the blocks of `AutoStackService` and of the interest scheduler. -/

namespace ExchangeLedger

open Block

def updateAutoStack (id : AutoStackId) (f : AutoStack → AutoStack) : LedgerBlock Unit :=
  update (fun L => { L with autoStacks := L.autoStacks.modify id f })

namespace AutoStackService

/-- One execution of a stack: its transaction and the amounts worked out for it. -/
structure Execution where
  userId : UserId
  autoStackId : AutoStackId
  id : TransactionId
  reference : Reference
  sourceAsset : Currency
  sourceAmount : Nat
  principalUsdt : Nat
  transactionFee : Nat
  cryptoWalletPayment : Bool
  deriving DecidableEq, Repr

namespace Execution

/-- The fee in the source asset, rounded up. -/
def sourceFee (x : Execution) : Nat :=
  if 0 < x.principalUsdt then
    (x.sourceAmount * x.transactionFee + x.principalUsdt - 1) / x.principalUsdt
  else 0

/-- `totalSourceWalletDeductionBase`. -/
def totalSource (x : Execution) : Nat := x.sourceAmount + x.sourceFee

/-- `liquidityReservationCurrency`: card payments reserve the NGN of the buy order. -/
def reservationCurrency (x : Execution) : Currency :=
  if x.cryptoWalletPayment then x.sourceAsset else BASE_CURRENCY

end Execution

def reserved (metadata : PaymentMetadata) (amount : Nat) : PaymentMetadata :=
  { metadata with
    liquidityReservationStatus := some .RESERVED, liquidityReservationAmount := some amount }

/-- The metadata already record a reservation of this amount. -/
def alreadyReserved (metadata : PaymentMetadata) (amount : Nat) : Bool :=
  metadata.liquidityReservationStatus = some .RESERVED ∧
    metadata.liquidityReservationAmount = some amount

/-- The company's part of an execution's reservation. -/
def reserveCompany (currency : Currency) (amount : Nat) : LedgerBlock Unit := do
  let reservedLiquidity ← reserveLiquidity currency amount
  require (reservedLiquidity = true) (.thrown "Insufficient company liquidity for autostack")

/-- Funds of another wallet than USDT are reserved until the swap is done. -/
def reserveBlock (x : Execution) (metadata : PaymentMetadata) : LedgerBlock Unit := do
  onlyIf (alreadyReserved metadata x.sourceAmount = false) (do
    reserveBalance x.userId x.sourceAsset x.totalSource none
    reserveCompany x.sourceAsset x.sourceAmount)
  updateTransaction x.id (fun t => { t with
    cryptoAmountBase := some x.sourceAmount
    platformFeeBase := some x.sourceFee
    totalAmountSentBase := some x.totalSource
    fiatAmountBase := x.principalUsdt
    paymentMetadata := reserved metadata x.sourceAmount })

/-- The NGN of a card payment is reserved before the card is charged. -/
def reserveCardBlock (x : Execution) (metadata : PaymentMetadata)
    (companyLiquidityAmount ngnAmount : Nat) : LedgerBlock Unit := do
  onlyIf (alreadyReserved metadata companyLiquidityAmount = false)
    (reserveCompany BASE_CURRENCY companyLiquidityAmount)
  updateTransaction x.id (fun t => { t with
    currency := .usdt
    cryptoAmountBase := some x.principalUsdt
    fiatAmountBase := ngnAmount
    paymentMetadata := reserved metadata companyLiquidityAmount })

/-- `where: { userId, OR: [{ currencyId: usdt.id }, { currency: 'USDT' }] }`. -/
def usdtStackWallet (userId : UserId) (L : Ledger) : Option Wallet :=
  (L.wallets.lookup (userId, .usdt)).filter
    (fun w => w.currencyId = some .usdt ∨ w.letterCase = .upper)

/-- A stack funded from the USDT wallet is settled at once; `initial` is whether its status was
PENDING when it was read. -/
def executeUsdtBlock (cache : ConvertCurrency.DefaultNetworkCache) (x : Execution)
    (metadata : PaymentMetadata) (initial : Bool) : LedgerBlock Unit := do
  let wallet ← read (usdtStackWallet x.userId)
  require (wallet.isSome = true) (.thrown "USDT wallet not found for autostack")
  spendWallet (x.userId, .usdt) (x.sourceAmount + x.transactionFee)
    (.thrown "Insufficient USDT balance for autostack")
  holdWallet (x.userId, .usdt) .stackedAmount x.sourceAmount (.thrown "USDT wallet not found")
  restateOriginalBalance cache (x.userId, .usdt) none
  let _ ← shiftCompany .usdt .totalAmountStacked x.sourceAmount
  updateAutoStack x.autoStackId (fun s => { s with
    amount := if initial then x.sourceAmount else s.amount + x.sourceAmount, status := .ACTIVE })
  updateTransaction x.id (fun t => { t with
    status := .COMPLETED
    isProcessed := true
    platformFeeBase := some x.transactionFee
    totalAmountSentBase := some (x.sourceAmount + x.transactionFee)
    paymentMetadata := metadata })

/-- The provider took the swap of an execution. -/
def submitBlock (x : Execution) (swapRecordId : SwapRecordId) (swapId : Reference) :
    LedgerBlock Unit :=
  createSwap swapRecordId {
    userId := x.userId
    fromCurrency := x.sourceAsset
    toCurrency := .usdt
    quoteId := some x.reference
    swapId := some swapId
    toAmountOriginal := none
    status := .PENDING
    vaultId := none }

/-- The catch of an execution: what the fresh metadata call reserved is released, and a release
that throws is ignored. -/
def failBlock (x : Execution) : LedgerBlock Unit := do
  let metadata ← read (fun L =>
    ((L.transactions.lookup x.id).map Transaction.paymentMetadata).getD PaymentMetadata.empty)
  onlyIf (metadata.liquidityReservationStatus = some .RESERVED)
    (releaseLiquidity x.reservationCurrency (metadata.liquidityReservationAmount.getD 0)).swallow
  onlyIf (x.cryptoWalletPayment = true ∧ metadata.liquidityReservationStatus = some .RESERVED)
    (releaseBalance x.userId x.sourceAsset x.totalSource none).swallow
  updateTransaction x.id (fun t => t.withMetadata { metadata with
    liquidityReservationStatus :=
      if metadata.liquidityReservationStatus = some .RESERVED then some .RELEASED
      else metadata.liquidityReservationStatus })

/-- The block of `cancelPending`, with the metadata as read before. -/
def cancelBlock (x : Execution) (metadata : PaymentMetadata) : LedgerBlock Unit := do
  onlyIf (metadata.liquidityReservationStatus = some .RESERVED)
    (releaseLiquidity x.reservationCurrency (metadata.liquidityReservationAmount.getD 0))
  onlyIf (x.cryptoWalletPayment = true ∧ metadata.liquidityReservationStatus = some .RESERVED)
    (releaseBalance x.userId x.sourceAsset x.sourceAmount none)
  updateTransaction x.id (fun t => t.withMetadata { metadata with
    liquidityReservationStatus :=
      if metadata.liquidityReservationStatus = some .RESERVED then some .RELEASED
      else metadata.liquidityReservationStatus })
  updateAutoStack x.autoStackId (fun s => { s with status := .ENDED })

def penalty (stack : AutoStack) : Nat := stack.amount * 5 / 100

def payout (stack : AutoStack) (early : Bool) : Nat :=
  if early then stack.amount - penalty stack else stack.amount + stack.accruedInterest

/-- The block of `unlock`, with the stack as read before; it returns the wallet as it found it. -/
def unlockBlock (cache : ConvertCurrency.DefaultNetworkCache) (id : AutoStackId)
    (stack : AutoStack) (early : Bool) : LedgerBlock Wallet := do
  let found ← read (usdtStackWallet stack.userId)
  let wallet ← demand found (.thrown "USDT wallet not found")
  creditWallet (stack.userId, .usdt) (payout stack early) (.thrown "USDT wallet not found")
  holdWallet (stack.userId, .usdt) .stackedAmount (dropTo wallet.stackedAmount stack.amount)
    (.thrown "USDT wallet not found")
  holdWallet (stack.userId, .usdt) .totalStackedInterest
    (dropTo wallet.totalStackedInterest stack.accruedInterest) (.thrown "USDT wallet not found")
  restateOriginalBalance cache (stack.userId, .usdt) none
  updateAutoStack id (fun s => { s with status := .ENDED })
  let _ ← lowerCompany .usdt .totalAmountStacked stack.amount
  let _ ← lowerCompany .usdt .totalAccruedLockedInterest stack.accruedInterest
  let _ ← shiftCompany .usdt .totalLockedInterestPaid (if early then 0 else stack.accruedInterest)
  return wallet

inductive Frequency where
  | DAILY | WEEKLY | MONTHLY
  deriving DecidableEq, Repr

/-- The days of a period that interest is paid for. -/
def Frequency.days : Frequency → Nat
  | .DAILY => 1
  | .WEEKLY => 7
  | .MONTHLY => 30

/-- Times are counted in seconds. -/
def isExecutionDue (nextExecutionAt now : Nat) : Bool := nextExecutionAt ≤ now

def getInterestDate (frequency : Frequency) (start : Nat) : Nat := start + frequency.days * 86400

def isLeapYear (year : Nat) : Bool := year % 4 = 0 ∧ (year % 100 ≠ 0 ∨ year % 400 = 0)

/-- The days of the month that begins `m` months after January 1970 does. -/
def daysInMonth (m : Nat) : Nat :=
  if m % 12 = 1 then (if isLeapYear (1970 + m / 12) then 29 else 28)
  else if m % 12 ∈ [3, 5, 8, 10] then 30 else 31

/-- The month of the day that comes `rest` days after the first of month `m`; as many steps as
days are enough. -/
def monthAt : Nat → Nat → Nat → Nat
  | 0, m, _ => m
  | steps + 1, m, rest =>
    if rest < daysInMonth m then m else monthAt steps (m + 1) (rest - daysInMonth m)

/-- `setUTCMonth(getUTCMonth() + 1)` moves a time on by the days of its month: where the next month
has no such day, the date runs over. -/
def getNextExecutionAt (frequency : Frequency) (start : Nat) : Nat :=
  match frequency with
  | .DAILY => start + 86400
  | .WEEKLY => start + 7 * 86400
  | .MONTHLY => start + daysInMonth (monthAt (start / 86400) 0 (start / 86400)) * 86400

theorem daysInMonth_pos (m : Nat) : 0 < daysInMonth m := by
  unfold daysInMonth
  split
  · split <;> omega
  · split <;> omega

theorem getNextExecutionAt_later (frequency : Frequency) (start : Nat) :
    start < getNextExecutionAt frequency start := by
  cases frequency with
  | DAILY => simp only [getNextExecutionAt]; omega
  | WEEKLY => simp only [getNextExecutionAt]; omega
  | MONTHLY =>
    have hdays := daysInMonth_pos (monthAt (start / 86400) 0 (start / 86400))
    simp only [getNextExecutionAt]
    omega

/-- From January 31, 2023 to March 3. -/
example : getNextExecutionAt .MONTHLY 1675123200 = 1677801600 := by decide +kernel

/-- The interest of one period: `mul(dailyRate).div(100).mul(days)`, rounded half up. -/
def interest (principal : Nat) (dailyRate : Decimal) (days : Nat) : Nat :=
  Decimal.unitsAt 0
    (Decimal.mul ((Decimal.mul ⟨principal, 0⟩ dailyRate).divNat 100) ⟨days, 0⟩)

/-- The block of `executeCharge` that accrues interest, when it is `due`: the interest, and
whether there was a wallet spelled `USDT` to record it in. -/
def accrueBlock (id : AutoStackId) (userId : UserId) (due : Bool) (dailyRate : Decimal)
    (days : Nat) : LedgerBlock (Option (Nat × Bool)) := do
  let row ← read (fun L => L.autoStacks.lookup id)
  match row.filter (fun _ => due) with
  | none => return none
  | some fresh =>
    updateAutoStack id (fun s => { s with
      accruedInterest := s.accruedInterest + interest fresh.amount dailyRate days })
    let wallet ← read (usdtWallet userId)
    if wallet.isSome then
      holdWallet (userId, .usdt) .totalStackedInterest (interest fresh.amount dailyRate days)
        (.thrown "wallet not found")
      let _ ← shiftCompany .usdt .totalAccruedLockedInterest
        (interest fresh.amount dailyRate days)
      return some (interest fresh.amount dailyRate days, true)
    else
      let _ ← shiftCompany .usdt .totalAccruedLockedInterest
        (interest fresh.amount dailyRate days)
      return some (interest fresh.amount dailyRate days, false)

/-! ### Movements -/

theorem reserveCompany_neutral (currency : Currency) (amount : Nat) :
    PostsNeutral (reserveCompany currency amount) := by
  refine posts_nothing_bind (reserveLiquidity_neutral _ _) fun _ => ?_
  exact nothing_require

theorem reserveBlock_neutral (x : Execution) (metadata : PaymentMetadata) :
    PostsNeutral (reserveBlock x metadata) := by
  refine posts_nothing_bind (nothing_onlyIf ?_) fun _ => ?_
  · refine posts_nothing_bind (reserveBalance_neutral _ _ _ _) fun _ => ?_
    exact reserveCompany_neutral _ _
  · exact nothing_update fun _ => rfl

theorem reserveCardBlock_neutral (x : Execution) (metadata : PaymentMetadata)
    (companyLiquidityAmount ngnAmount : Nat) :
    PostsNeutral (reserveCardBlock x metadata companyLiquidityAmount ngnAmount) := by
  refine posts_nothing_bind (nothing_onlyIf (reserveCompany_neutral _ _)) fun _ => ?_
  exact nothing_update fun _ => rfl

def executeUsdtMovements (x : Execution) : List Movement :=
  [.spend (x.userId, .usdt) (x.sourceAmount + x.transactionFee),
    .hold (x.userId, .usdt) .stackedAmount x.sourceAmount]

theorem executeUsdtBlock_moves (cache : ConvertCurrency.DefaultNetworkCache) (x : Execution)
    (metadata : PaymentMetadata) (initial : Bool) :
    PostsMovements (executeUsdtBlock cache x metadata initial)
      (fun _ ms => ms = executeUsdtMovements x) := by
  refine posts_read_bind fun L => ?_
  refine posts_nothing_bind nothing_require fun _ => ?_
  refine posts_entry_bind rfl (fun _ _ _ => spendWallet_moves) fun _ => ?_
  refine posts_entry_bind rfl (fun _ _ _ => holdWallet_moves) fun _ => ?_
  refine posts_nothing_bind (restateOriginalBalance_neutral _ _ _) fun _ => ?_
  refine posts_nothing_bind (shiftCompany_neutral (by decide) _ _) fun _ => ?_
  refine posts_nothing_bind (nothing_update fun _ => rfl) fun _ => ?_
  exact posts_last (nothing_update fun _ => rfl) fun _ => rfl

theorem submitBlock_neutral (x : Execution) (swapRecordId : SwapRecordId) (swapId : Reference) :
    PostsNeutral (submitBlock x swapRecordId swapId) := createSwap_neutral _ _

theorem failBlock_neutral (x : Execution) : PostsNeutral (failBlock x) := by
  refine posts_nothing_bind nothing_read fun _ => ?_
  refine posts_nothing_bind (nothing_onlyIf (nothing_swallow (releaseLiquidity_neutral _ _)))
    fun _ => ?_
  refine posts_nothing_bind (nothing_onlyIf (nothing_swallow (releaseBalance_neutral _ _ _ _)))
    fun _ => ?_
  exact nothing_update fun _ => rfl

theorem cancelBlock_neutral (x : Execution) (metadata : PaymentMetadata) :
    PostsNeutral (cancelBlock x metadata) := by
  refine posts_nothing_bind (nothing_onlyIf (releaseLiquidity_neutral _ _)) fun _ => ?_
  refine posts_nothing_bind (nothing_onlyIf (releaseBalance_neutral _ _ _ _)) fun _ => ?_
  refine posts_nothing_bind (nothing_update fun _ => rfl) fun _ => ?_
  exact nothing_update fun _ => rfl

def unlockMovements (stack : AutoStack) (early : Bool) (w : Wallet) : List Movement :=
  [.credit (stack.userId, .usdt) (payout stack early),
    .hold (stack.userId, .usdt) .stackedAmount (dropTo w.stackedAmount stack.amount),
    .hold (stack.userId, .usdt) .totalStackedInterest
      (dropTo w.totalStackedInterest stack.accruedInterest)]

theorem unlockBlock_moves (cache : ConvertCurrency.DefaultNetworkCache) (id : AutoStackId)
    (stack : AutoStack) (early : Bool) :
    PostsMovements (unlockBlock cache id stack early)
      (fun w ms => ms = unlockMovements stack early w) := by
  refine posts_read_bind fun L => ?_
  refine posts_demand_bind fun wallet _ => ?_
  refine posts_entry_bind rfl (fun _ _ _ => creditWallet_moves) fun _ => ?_
  refine posts_entry_bind rfl (fun _ _ _ => holdWallet_moves) fun _ => ?_
  refine posts_entry_bind rfl (fun _ _ _ => holdWallet_moves) fun _ => ?_
  refine posts_nothing_bind (restateOriginalBalance_neutral _ _ _) fun _ => ?_
  refine posts_nothing_bind (nothing_update fun _ => rfl) fun _ => ?_
  refine posts_nothing_bind (lowerCompany_neutral (by decide) _ _) fun _ => ?_
  refine posts_nothing_bind (lowerCompany_neutral (by decide) _ _) fun _ => ?_
  refine posts_nothing_bind (shiftCompany_neutral (by decide) _ _) fun _ => ?_
  exact posts_pure rfl

def accrueMovements (userId : UserId) : Option (Nat × Bool) → List Movement
  | some (interest, true) => [.hold (userId, .usdt) .totalStackedInterest interest]
  | some (_, false) | none => []

theorem accrueBlock_moves (id : AutoStackId) (userId : UserId) (due : Bool) (dailyRate : Decimal)
    (days : Nat) :
    PostsMovements (accrueBlock id userId due dailyRate days)
      (fun r ms => ms = accrueMovements userId r) := by
  refine posts_read_bind fun L => ?_
  split
  · exact posts_pure rfl
  · refine posts_nothing_bind (nothing_update fun _ => rfl) fun _ => ?_
    refine posts_read_bind fun M => ?_
    refine posts_ite (fun _ => ?_) fun _ => ?_
    · refine posts_entry_bind rfl (fun _ _ _ => holdWallet_moves) fun _ => ?_
      refine posts_nothing_bind (shiftCompany_neutral (by decide) _ _) fun _ => ?_
      exact posts_pure rfl
    · refine posts_nothing_bind (shiftCompany_neutral (by decide) _ _) fun _ => ?_
      exact posts_pure rfl

end AutoStackService

end ExchangeLedger
