import ExchangeLedger.Sell

set_option autoImplicit false

/-! The database blocks of the `order.done` handler for buy and sell orders. A block gets the
transaction row as it was read before the block began. -/

namespace ExchangeLedger

open Block

namespace Transaction

def reservedLiquidityAmount (t : Transaction) : Nat :=
  t.paymentMetadata.liquidityReservationAmount.getD t.fiatAmountBase

def liquidityReservationStatus (t : Transaction) : LiquidityReservationStatus :=
  t.paymentMetadata.liquidityReservationStatus.getD .RESERVED

/-- Whether the handler takes the company's reservation for still open. -/
def holdsReservation (t : Transaction) : Bool :=
  0 < t.reservedLiquidityAmount ∧ t.liquidityReservationStatus = .RESERVED

/-- What a failed sell order gives back: the stored total, or amount plus fee without one. -/
def sentTotal (t : Transaction) : Option Nat :=
  t.cryptoAmountBase.map (fun c => t.totalAmountSentBase.getD (c + t.platformFeeBase.getD 0))

def withMetadata (t : Transaction) (m : PaymentMetadata) : Transaction :=
  { t with paymentMetadata := m }

end Transaction

/-- `releaseBalance(...).catch(() => undefined)` for the amount of a sell. -/
def releaseSold (transaction : Transaction) (crypto : Currency) : LedgerBlock Unit :=
  match transaction.sentTotal with
  | some totalSent => (releaseBalance transaction.userId crypto totalSent none).swallow
  | none => pure ()

theorem releaseSold_neutral (transaction : Transaction) (crypto : Currency) :
    PostsNeutral (releaseSold transaction crypto) := by
  unfold releaseSold
  split
  · exact nothing_swallow (releaseBalance_neutral _ _ _ _)
  · exact nothing_pure

/-- The re-check that a block makes of the transaction's status. -/
def Ledger.alreadyProcessed (L : Ledger) (id : TransactionId) : Bool :=
  (L.transactions.lookup id).any (fun t => t.status.isFinal)

namespace OrderDone

/-- The provider reports the order as cancelled, rejected or failed. -/
def failOrderBlock (isBuy : Bool) (crypto fiat : Currency) (id : TransactionId)
    (transaction : Transaction) : LedgerBlock Bool := do
  let processed ← read (fun L => L.alreadyProcessed id)
  if processed then return false
  else
    updateTransaction id (fun t => { t with status := .FAILED, isProcessed := true })
    updateOrder id (fun o => { o with status := .FAILED, paymentStatus := .FAILED })
    onlyIf (isBuy = false) (releaseSold transaction crypto)
    if transaction.holdsReservation then
      releaseLiquidity fiat transaction.reservedLiquidityAmount
      updateTransaction id (fun t => t.withMetadata { transaction.paymentMetadata with
        liquidityReservationStatus := some .RELEASED })
      return true
    else return true

/-- The NGN that a settled buy spends at the provider. -/
def consumeForBuy (fiat : Currency) (id : TransactionId) (transaction : Transaction) :
    LedgerBlock Unit :=
  if transaction.holdsReservation then do
    let consumed ← consumeReservedLiquidity fiat transaction.reservedLiquidityAmount
    require (consumed = true) (.thrown "company liquidity consumption failed for order")
    updateTransaction id (fun t => t.withMetadata { transaction.paymentMetadata with
      liquidityReservationStatus := some .CONSUMED })
  else pure ()

/-- The stack that a recurring buy belongs to takes up the bought amount. -/
def growAutoStack (autoStackId : Option AutoStackId) (amount : Nat) : LedgerBlock Unit :=
  match autoStackId with
  | some a => update (fun L => { L with autoStacks := L.autoStacks.modify a (fun s => { s with
      amount := if s.status = .PENDING then amount else s.amount + amount, status := .ACTIVE }) })
  | none => pure ()

/-- A buy order settled; true when this block did it. The receiving wallet is the user's wallet
of the bought currency, by its address or by user and currency. -/
def buyBlock (cache : ConvertCurrency.DefaultNetworkCache) (crypto fiat : Currency)
    (id : TransactionId) (transaction : Transaction) (executedCrypto executedFiat : Nat) :
    LedgerBlock Bool := do
  let processed ← read (fun L => L.alreadyProcessed id)
  if processed then return false
  else
    updateTransaction id (fun t => { t with
      status := .COMPLETED, isProcessed := true
      executedCryptoAmountBase := some executedCrypto
      executedFiatAmountBase := some executedFiat })
    updateOrder id (fun o => { o with status := .COMPLETED, paymentStatus := .PAID })
    consumeForBuy fiat id transaction
    if transaction.transactionContext = .AUTOSTACK then
      holdWallet (transaction.userId, crypto) .stackedAmount executedCrypto
        (.thrown "wallet not found — cannot credit")
      growAutoStack transaction.paymentMetadata.autoStackId executedCrypto
      addInternalBalance crypto executedCrypto
      let _ ← shiftCompany crypto .totalAmountStacked executedCrypto
      return true
    else
      creditWallet (transaction.userId, crypto) executedCrypto
        (.thrown "wallet not found — cannot credit")
      restateOriginalBalance cache (transaction.userId, crypto) none
      addInternalBalance crypto executedCrypto
      return true

/-- The handler of a buy settlement that threw. -/
def buyFailureBlock (fiat : Currency) (id : TransactionId) (transaction : Transaction) :
    LedgerBlock Unit := do
  updateOrder id (fun o => { o with status := .FAILED, paymentStatus := .FAILED })
  updateTransaction id (fun t => { t.withMetadata transaction.paymentMetadata with
    status := .FAILED, isProcessed := true })
  onlyIf (transaction.holdsReservation = true)
    (releaseLiquidity fiat transaction.reservedLiquidityAmount)

/-- A filled sell order without payout bank details. -/
def missingBankDetailsBlock (crypto fiat : Currency) (id : TransactionId)
    (transaction : Transaction) : LedgerBlock Unit := do
  updateOrder id (fun o => { o with status := .FAILED, paymentStatus := .FAILED })
  updateTransaction id (fun t => { t with status := .FAILED, isProcessed := true })
  onlyIf (transaction.holdsReservation = true)
    (releaseLiquidity fiat transaction.reservedLiquidityAmount)
  releaseSold transaction crypto

/-- The proceeds of a filled sell order join the company's balance once. -/
def proceedsBlock (fiat : Currency) (id : TransactionId) (amounts : ExecutedAmounts) :
    LedgerBlock PaymentMetadata := do
  let current ← read (fun L =>
    ((L.transactions.lookup id).map Transaction.paymentMetadata).getD PaymentMetadata.empty)
  if current.sellProceedsAdded then return current
  else
    addLiquidity fiat amounts.fiatAmountBase
    updateTransaction id (fun t => { t with
      executedCryptoAmountBase := some amounts.cryptoAmountBase
      executedFiatAmountBase := some amounts.fiatAmountBase
      paymentMetadata := { current with sellProceedsAdded := true } })
    return { current with sellProceedsAdded := true }

/-- The payout transfer was accepted under `payoutReference`. -/
def payoutInitiatedBlock (id : TransactionId) (amounts : ExecutedAmounts)
    (sellPaymentMetadata : PaymentMetadata) (payoutReference : Reference) : LedgerBlock Unit := do
  updateTransaction id (fun t => { t with
    isProcessed := false
    executedCryptoAmountBase := some amounts.cryptoAmountBase
    executedFiatAmountBase := some amounts.fiatAmountBase
    paymentMetadata := { sellPaymentMetadata with
      payoutStatus := some .initiated, payoutReference := some payoutReference } })
  updateOrder id (fun o => { o with
    status := .PROCESSING, paymentStatus := .PENDING, paymentReference := some payoutReference })

/-- The catch of a payout that threw anywhere. -/
def payoutFailedBlock (id : TransactionId) (sellPaymentMetadata : PaymentMetadata) :
    LedgerBlock Unit := do
  updateOrder id (fun o => { o with status := .PROCESSING, paymentStatus := .PENDING })
  updateTransaction id (fun t => { t with
    status := .PENDING
    isProcessed := false
    paymentMetadata := { sellPaymentMetadata with
      payoutStatus := some .failed_retry_required, liquidityReservationStatus := some .RESERVED } })

/-! ### Movements -/

theorem failOrderBlock_neutral (isBuy : Bool) (crypto fiat : Currency) (id : TransactionId)
    (transaction : Transaction) :
    PostsNeutral (failOrderBlock isBuy crypto fiat id transaction) := by
  refine posts_nothing_bind nothing_read fun _ => ?_
  refine nothing_ite nothing_pure ?_
  refine posts_nothing_bind (nothing_update fun _ => rfl) fun _ => ?_
  refine posts_nothing_bind (nothing_update fun _ => rfl) fun _ => ?_
  refine posts_nothing_bind (nothing_onlyIf (releaseSold_neutral _ _)) fun _ => ?_
  refine nothing_ite ?_ nothing_pure
  refine posts_nothing_bind (releaseLiquidity_neutral _ _) fun _ => ?_
  exact posts_nothing_bind (nothing_update fun _ => rfl) fun _ => nothing_pure

theorem consumeForBuy_neutral (fiat : Currency) (id : TransactionId) (transaction : Transaction) :
    PostsNeutral (consumeForBuy fiat id transaction) := by
  refine nothing_ite ?_ nothing_pure
  refine posts_nothing_bind (consumeReservedLiquidity_neutral _ _) fun _ => ?_
  refine posts_nothing_bind nothing_require fun _ => ?_
  exact nothing_update fun _ => rfl

theorem buyFailureBlock_neutral (fiat : Currency) (id : TransactionId)
    (transaction : Transaction) : PostsNeutral (buyFailureBlock fiat id transaction) := by
  refine posts_nothing_bind (nothing_update fun _ => rfl) fun _ => ?_
  refine posts_nothing_bind (nothing_update fun _ => rfl) fun _ => ?_
  exact nothing_onlyIf (releaseLiquidity_neutral _ _)

theorem missingBankDetailsBlock_neutral (crypto fiat : Currency) (id : TransactionId)
    (transaction : Transaction) :
    PostsNeutral (missingBankDetailsBlock crypto fiat id transaction) := by
  refine posts_nothing_bind (nothing_update fun _ => rfl) fun _ => ?_
  refine posts_nothing_bind (nothing_update fun _ => rfl) fun _ => ?_
  refine posts_nothing_bind (nothing_onlyIf (releaseLiquidity_neutral _ _)) fun _ => ?_
  exact releaseSold_neutral _ _

theorem proceedsBlock_neutral (fiat : Currency) (id : TransactionId) (amounts : ExecutedAmounts) :
    PostsNeutral (proceedsBlock fiat id amounts) := by
  refine posts_nothing_bind nothing_read fun _ => ?_
  refine nothing_ite nothing_pure ?_
  refine posts_nothing_bind (addLiquidity_neutral _ _) fun _ => ?_
  exact posts_nothing_bind (nothing_update fun _ => rfl) fun _ => nothing_pure

theorem payoutInitiatedBlock_neutral (id : TransactionId) (amounts : ExecutedAmounts)
    (metadata : PaymentMetadata) (payoutReference : Reference) :
    PostsNeutral (payoutInitiatedBlock id amounts metadata payoutReference) := by
  refine posts_nothing_bind (nothing_update fun _ => rfl) fun _ => ?_
  exact nothing_update fun _ => rfl

theorem payoutFailedBlock_neutral (id : TransactionId) (metadata : PaymentMetadata) :
    PostsNeutral (payoutFailedBlock id metadata) := by
  refine posts_nothing_bind (nothing_update fun _ => rfl) fun _ => ?_
  exact nothing_update fun _ => rfl

theorem growAutoStack_neutral (autoStackId : Option AutoStackId) (amount : Nat) :
    PostsNeutral (growAutoStack autoStackId amount) := by
  unfold growAutoStack
  split
  · exact nothing_update fun _ => rfl
  · exact nothing_pure

theorem growAutoStack_keeps {I : Ledger → Prop}
    (hI : ∀ L autoStacks, I L → I { L with autoStacks := autoStacks })
    (autoStackId : Option AutoStackId) (amount : Nat) :
    Preserves I (growAutoStack autoStackId amount) := by
  cases autoStackId with
  | none => exact preserves_pure ()
  | some a => exact preserves_update fun L hL => hI L _ hL

/-- What a buy settlement moves. -/
def buyMovements (k : WalletKey) (context : TransactionContext) (executedCrypto : Nat) :
    List Movement :=
  if context = .AUTOSTACK then [.hold k .stackedAmount executedCrypto,
    .company k.2 .internalBalance executedCrypto]
  else [.credit k executedCrypto, .company k.2 .internalBalance executedCrypto]

theorem buyBlock_moves (cache : ConvertCurrency.DefaultNetworkCache) (crypto fiat : Currency)
    (id : TransactionId) (transaction : Transaction) (executedCrypto executedFiat : Nat) :
    PostsMovements (buyBlock cache crypto fiat id transaction executedCrypto executedFiat)
      (fun done ms => ms = if done then buyMovements (transaction.userId, crypto)
        transaction.transactionContext executedCrypto else []) := by
  refine posts_read_bind fun L => ?_
  refine posts_ite (fun _ => posts_pure rfl) fun _ => ?_
  refine posts_nothing_bind (nothing_update fun _ => rfl) fun _ => ?_
  refine posts_nothing_bind (nothing_update fun _ => rfl) fun _ => ?_
  refine posts_nothing_bind (consumeForBuy_neutral _ _ _) fun _ => ?_
  refine posts_ite (fun hc => ?_) fun hc => ?_
  · refine posts_entry_bind rfl (fun _ _ _ => holdWallet_moves) fun _ => ?_
    refine posts_nothing_bind (growAutoStack_neutral _ _) fun _ => ?_
    refine posts_entry_bind rfl (fun _ _ _ => addInternalBalance_moves) fun _ => ?_
    refine posts_nothing_bind (shiftCompany_neutral (by decide) _ _) fun _ => ?_
    exact posts_pure (by simp [buyMovements, hc])
  · refine posts_entry_bind rfl (fun _ _ _ => creditWallet_moves) fun _ => ?_
    refine posts_nothing_bind (restateOriginalBalance_neutral _ _ _) fun _ => ?_
    refine posts_entry_bind rfl (fun _ _ _ => addInternalBalance_moves) fun _ => ?_
    exact posts_pure (by simp [buyMovements, hc])

end OrderDone

end ExchangeLedger
