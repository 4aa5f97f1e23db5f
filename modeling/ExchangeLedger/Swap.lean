import ExchangeLedger.OrderSettlement

set_option autoImplicit false

/-! Swaps: the blocks of `SwapService.confirmSwap` and of the swap webhook for regular and
autostack swaps. -/

namespace ExchangeLedger

open Block

def updateSwap (id : SwapRecordId) (f : SwapTransaction → SwapTransaction) : LedgerBlock Unit :=
  update (fun L => { L with swaps := L.swaps.modify id f })

def createSwap (id : SwapRecordId) (row : SwapTransaction) : LedgerBlock Unit := do
  let existing ← read (fun L => L.swaps.lookup id)
  require (existing = none) (.database false)
  update (fun L => { L with swaps := L.swaps.insert id row })

def SwapStatus.isTerminal : SwapStatus → Bool
  | .COMPLETED | .FAILED | .reversed => true
  | .PENDING | .processing => false

/-- A wallet compared by the spelling of its currency: `where: { userId, currency: 'USDT' }`. -/
def usdtWallet (userId : UserId) (L : Ledger) : Option Wallet :=
  (L.wallets.lookup (userId, .usdt)).filter (fun w => w.letterCase = .upper)

theorem createSwap_neutral (id : SwapRecordId) (row : SwapTransaction) :
    PostsNeutral (createSwap id row) := by
  refine posts_nothing_bind nothing_read fun _ => ?_
  refine posts_nothing_bind nothing_require fun _ => ?_
  exact nothing_update fun _ => rfl

namespace SwapService

structure Confirm where
  userId : UserId
  fromCurrency : Currency
  toCurrency : Currency
  quoteId : Reference
  exactFrom : Nat
  platformFee : Nat
  walletDefaultNetwork : Option CryptoNetwork
  usdtDecimals : Nat
  deriving DecidableEq, Repr

/-- `reservedAmount`. -/
def Confirm.reserved (q : Confirm) : Nat := q.exactFrom + q.platformFee

def Confirm.transaction (q : Confirm) : CreateTransactionParams where
  userId := q.userId
  transactionUniqueId := q.quoteId
  network := q.walletDefaultNetwork
  currency := q.fromCurrency
  letterCase := .upper
  cryptoAmountBase := some q.exactFrom
  fiatAmountBase := 0
  platformFeeBase := some q.platformFee
  totalAmountSentBase := some q.reserved
  transactionContext := .SWAP
  paymentMetadata := PaymentMetadata.empty

/-- The block that reserves the funds; false when the swap is queued for liquidity. -/
def confirmBlock (q : Confirm) (id : TransactionId) : LedgerBlock Bool := do
  requireMinimum q.usdtDecimals q.fromCurrency q.exactFrom
    "Minimum swap amount is 2 USDT equivalent"
  createTransaction id q.transaction
  reserveBalance q.userId q.fromCurrency q.reserved (some q.walletDefaultNetwork)
  let companyLiquidityReserved ← reserveLiquidity q.fromCurrency q.exactFrom
  if companyLiquidityReserved then return true
  else
    createFailedCompanyLiquidity id q.fromCurrency q.exactFrom
    return false

/-- The catch around the provider's confirmation. -/
def releaseBlock (q : Confirm) (id : TransactionId) : LedgerBlock Unit := do
  releaseBalance q.userId q.fromCurrency q.reserved (some q.walletDefaultNetwork)
  releaseLiquidity q.fromCurrency q.exactFrom
  updateTransaction id (fun t => { t with status := .FAILED, isProcessed := true })

def Confirm.swap (q : Confirm) (swapId : Reference) (received : Nat) : SwapTransaction where
  userId := q.userId
  fromCurrency := q.fromCurrency
  toCurrency := q.toCurrency
  quoteId := some q.quoteId
  swapId := some swapId
  toAmountOriginal := some received
  status := .PENDING
  vaultId := none

/-- The records of a swap that the provider confirmed. -/
def recordBlock (q : Confirm) (id : TransactionId) (swapRecordId : SwapRecordId)
    (swapId : Reference) (received : Nat) : LedgerBlock Unit := do
  updateTransaction id (fun t => { t with
    transactionUniqueId := swapId, executedCryptoAmountBase := some q.exactFrom })
  createSwap swapRecordId (q.swap swapId received)

theorem confirmBlock_neutral (q : Confirm) (id : TransactionId) :
    PostsNeutral (confirmBlock q id) := by
  refine posts_nothing_bind nothing_require fun _ => ?_
  refine posts_nothing_bind (insertTransaction_neutral _ _) fun _ => ?_
  refine posts_nothing_bind (reserveBalance_neutral _ _ _ _) fun _ => ?_
  refine posts_nothing_bind (reserveLiquidity_neutral _ _) fun _ => ?_
  refine nothing_ite nothing_pure ?_
  exact posts_nothing_bind (createFailedCompanyLiquidity_neutral _ _ _) fun _ => nothing_pure

theorem releaseBlock_neutral (q : Confirm) (id : TransactionId) :
    PostsNeutral (releaseBlock q id) := by
  refine posts_nothing_bind (releaseBalance_neutral _ _ _ _) fun _ => ?_
  refine posts_nothing_bind (releaseLiquidity_neutral _ _) fun _ => ?_
  exact nothing_update fun _ => rfl

theorem recordBlock_neutral (q : Confirm) (id : TransactionId) (swapRecordId : SwapRecordId)
    (swapId : Reference) (received : Nat) :
    PostsNeutral (recordBlock q id swapRecordId swapId received) := by
  refine posts_nothing_bind (nothing_update fun _ => rfl) fun _ => ?_
  exact createSwap_neutral _ _

end SwapService

namespace SwapWebhook

/-- A completed or failed swap with the transaction linked to it as read before the block. -/
structure Event where
  swapRecordId : SwapRecordId
  swap : SwapTransaction
  linkedTx : Option (TransactionId × Transaction)
  fromAmount : Nat

namespace Event

def fromKey (e : Event) : WalletKey := (e.swap.userId, e.swap.fromCurrency)

def toKey (e : Event) : WalletKey := (e.swap.userId, e.swap.toCurrency)

def exactFromBooked (e : Event) : Nat :=
  e.linkedTx.elim e.fromAmount (fun l => l.2.cryptoAmountBase.getD 0)

def reservedAmount (e : Event) : Nat :=
  e.linkedTx.elim e.fromAmount
    (fun l => l.2.cryptoAmountBase.getD 0 + l.2.platformFeeBase.getD 0)

def autoStackId (e : Event) : Option AutoStackId :=
  e.linkedTx.bind (fun l => l.2.paymentMetadata.autoStackId)

def isAutoStackSwap (e : Event) : Bool :=
  e.autoStackId.isSome && e.linkedTx.any (fun l =>
    l.2.transactionContext = .AUTOSTACK ∧ l.2.paymentMetadata.cryptoWalletPayment = true)

def alreadySettled (e : Event) : Bool :=
  e.linkedTx.any (fun l => l.2.paymentMetadata.autostackSettled = true ∨
    l.2.paymentMetadata.liquidityReservationStatus = some .RELEASED)

/-- What the locked re-reads of a block find: whether this event still has work to do. -/
def stillOpen (e : Event) (L : Ledger) : Bool :=
  (L.swaps.lookup e.swapRecordId).any (fun s => !s.status.isTerminal) &&
    e.linkedTx.all (fun l => !L.alreadyProcessed l.1) && !(e.isAutoStackSwap && e.alreadySettled)

end Event

def updateLinked (e : Event) (f : Transaction → Transaction) : LedgerBlock Unit :=
  match e.linkedTx with
  | some (id, _) => updateTransaction id f
  | none => pure ()

inductive Completion where
  | skipped | swapped | stacked | unstacked
  deriving DecidableEq, Repr

/-- The part of an autostack swap that activates the stack; nothing happens when the stack or the
USDT wallet is not found. -/
def stackReceived (e : Event) (confirmedTo : Nat) : LedgerBlock Completion := do
  let autoStack ← read (fun L => e.autoStackId.bind (fun a => L.autoStacks.lookup a))
  let wallet ← read (usdtWallet e.swap.userId)
  if autoStack.isSome ∧ wallet.isSome then
    holdWallet (e.swap.userId, .usdt) .stackedAmount confirmedTo (.thrown "wallet not found")
    OrderDone.growAutoStack e.autoStackId confirmedTo
    addInternalBalance e.swap.toCurrency confirmedTo
    let _ ← shiftCompany e.swap.toCurrency .totalAmountStacked confirmedTo
    let consumed ← consumeReservedLiquidity e.swap.fromCurrency e.exactFromBooked
    require (consumed = true) (.thrown "unable to consume reserved liquidity")
    updateLinked e (fun t => { t with paymentMetadata := { t.paymentMetadata with
      liquidityReservationStatus := some .CONSUMED, autostackSettled := true } })
    return .stacked
  else return .unstacked

def Event.creditTransaction (e : Event) (confirmedTo : Nat) (creditReference : Reference)
    (toNetwork : Option CryptoNetwork) : Transaction where
  userId := e.swap.userId
  transactionContext := .SWAP
  transactionUniqueId := creditReference
  currency := e.swap.toCurrency
  letterCase := .upper
  network := toNetwork
  cryptoAmountBase := some confirmedTo
  fiatAmountBase := 0
  platformFeeBase := none
  totalAmountSentBase := none
  executedCryptoAmountBase := some confirmedTo
  executedFiatAmountBase := none
  status := .COMPLETED
  isProcessed := true
  paymentMetadata := PaymentMetadata.empty

/-- The credit side of a swap is recorded once. -/
def recordCredit (id : TransactionId) (row : Transaction) : LedgerBlock Unit := do
  let existingCredit ← read (fun L => L.transactionByUniqueId row.transactionUniqueId)
  onlyIf (existingCredit = none) (insertTransaction id row)

/-- The ledger block of a completed swap. -/
def completeBlock (cache : ConvertCurrency.DefaultNetworkCache) (e : Event)
    (confirmedFrom confirmedTo : Nat) (creditId : TransactionId) (creditReference : Reference)
    (toNetwork : Option CryptoNetwork) : LedgerBlock Completion := do
  let isOpen ← read e.stillOpen
  if isOpen = false then return .skipped
  else
    debitReserved e.fromKey e.reservedAmount (.thrown "insufficient reserved balance to finalize")
    restateOriginalBalance cache e.fromKey none
    subtractInternalBalance e.swap.fromCurrency confirmedFrom
    if e.isAutoStackSwap then
      updateLinked e (fun t => { t with
        status := .COMPLETED, isProcessed := true, cryptoAmountBase := some confirmedFrom
        executedCryptoAmountBase := some confirmedFrom })
      let completion ← stackReceived e confirmedTo
      updateSwap e.swapRecordId (fun s => { s with status := .COMPLETED })
      return completion
    else
      creditWallet e.toKey confirmedTo (.thrown "wallet not found")
      restateOriginalBalance cache e.toKey none
      addInternalBalance e.swap.toCurrency confirmedTo
      updateLinked e (fun t => { t with
        status := .COMPLETED, isProcessed := true, cryptoAmountBase := some confirmedFrom
        executedCryptoAmountBase := some confirmedFrom })
      updateSwap e.swapRecordId (fun s => { s with status := .COMPLETED })
      recordCredit creditId (e.creditTransaction confirmedTo creditReference toNetwork)
      releaseLiquidity e.swap.fromCurrency e.exactFromBooked
      return .swapped

/-- `handleFailureOrReversal`. -/
def failureBlock (e : Event) (isReversal : Bool) : LedgerBlock Unit := do
  releaseBalance e.swap.userId e.swap.fromCurrency e.reservedAmount none
  updateSwap e.swapRecordId (fun s => { s with
    status := if isReversal then .reversed else .FAILED })
  updateLinked e (fun t => { t with
    status := .FAILED
    isProcessed := true
    paymentMetadata := if t.transactionContext = .AUTOSTACK then
        { t.paymentMetadata with liquidityReservationStatus := some .RELEASED }
      else t.paymentMetadata })
  releaseLiquidity e.swap.fromCurrency e.exactFromBooked

/-! ### Movements -/

def completeMovements (e : Event) (confirmedFrom confirmedTo : Nat) : Completion → List Movement
  | .skipped => []
  | .swapped => [.settle e.fromKey e.reservedAmount,
      .company e.swap.fromCurrency .internalBalance (-confirmedFrom),
      .credit e.toKey confirmedTo, .company e.swap.toCurrency .internalBalance confirmedTo]
  | .stacked => [.settle e.fromKey e.reservedAmount,
      .company e.swap.fromCurrency .internalBalance (-confirmedFrom),
      .hold (e.swap.userId, .usdt) .stackedAmount confirmedTo,
      .company e.swap.toCurrency .internalBalance confirmedTo]
  | .unstacked => [.settle e.fromKey e.reservedAmount,
      .company e.swap.fromCurrency .internalBalance (-confirmedFrom)]

theorem updateLinked_neutral (e : Event) (f : Transaction → Transaction) :
    PostsNeutral (updateLinked e f) := by
  unfold updateLinked
  split
  · exact nothing_update fun _ => rfl
  · exact nothing_pure

theorem recordCredit_neutral (id : TransactionId) (row : Transaction) :
    PostsNeutral (recordCredit id row) := by
  refine posts_nothing_bind nothing_read fun _ => ?_
  exact nothing_onlyIf (insertTransaction_neutral _ _)

theorem stackReceived_moves (e : Event) (confirmedTo : Nat) :
    PostsMovements (stackReceived e confirmedTo) (fun done ms =>
      (done = .stacked ∧ ms = [.hold (e.swap.userId, .usdt) .stackedAmount confirmedTo,
        .company e.swap.toCurrency .internalBalance confirmedTo]) ∨
      (done = .unstacked ∧ ms = [])) := by
  refine posts_read_bind fun L => ?_
  refine posts_read_bind fun M => ?_
  refine posts_ite (fun _ => ?_) fun _ => posts_pure (.inr ⟨rfl, rfl⟩)
  refine posts_entry_bind rfl (fun _ _ _ => holdWallet_moves) fun _ => ?_
  refine posts_nothing_bind (OrderDone.growAutoStack_neutral _ _) fun _ => ?_
  refine posts_entry_bind rfl (fun _ _ _ => addInternalBalance_moves) fun _ => ?_
  refine posts_nothing_bind (shiftCompany_neutral (by decide) _ _) fun _ => ?_
  refine posts_nothing_bind (consumeReservedLiquidity_neutral _ _) fun _ => ?_
  refine posts_nothing_bind nothing_require fun _ => ?_
  refine posts_nothing_bind (updateLinked_neutral _ _) fun _ => ?_
  exact posts_pure (.inl ⟨rfl, rfl⟩)

theorem completeBlock_moves (cache : ConvertCurrency.DefaultNetworkCache) (e : Event)
    (confirmedFrom confirmedTo : Nat) (creditId : TransactionId) (creditReference : Reference)
    (toNetwork : Option CryptoNetwork) :
    PostsMovements
      (completeBlock cache e confirmedFrom confirmedTo creditId creditReference toNetwork)
      (fun done ms => ms = completeMovements e confirmedFrom confirmedTo done) := by
  refine posts_read_bind fun L => ?_
  refine posts_ite (fun _ => posts_pure rfl) fun _ => ?_
  refine posts_entry_bind rfl (fun _ _ _ => debitReserved_moves) fun _ => ?_
  refine posts_nothing_bind (restateOriginalBalance_neutral _ _ _) fun _ => ?_
  refine posts_entry_bind rfl (fun _ _ _ => subtractInternalBalance_moves) fun _ => ?_
  refine posts_ite (fun _ => ?_) fun _ => ?_
  · refine posts_nothing_bind (updateLinked_neutral _ _) fun _ => ?_
    refine posts_bind (stackReceived_moves _ _) fun done ms hms => ?_
    refine posts_nothing_bind (nothing_update fun _ => rfl) fun _ => ?_
    rcases hms with ⟨rfl, rfl⟩ | ⟨rfl, rfl⟩
    · exact posts_pure rfl
    · exact posts_pure rfl
  · refine posts_entry_bind rfl (fun _ _ _ => creditWallet_moves) fun _ => ?_
    refine posts_nothing_bind (restateOriginalBalance_neutral _ _ _) fun _ => ?_
    refine posts_entry_bind rfl (fun _ _ _ => addInternalBalance_moves) fun _ => ?_
    refine posts_nothing_bind (updateLinked_neutral _ _) fun _ => ?_
    refine posts_nothing_bind (nothing_update fun _ => rfl) fun _ => ?_
    refine posts_nothing_bind (recordCredit_neutral _ _) fun _ => ?_
    refine posts_nothing_bind (releaseLiquidity_neutral _ _) fun _ => ?_
    exact posts_pure rfl

theorem failureBlock_neutral (e : Event) (isReversal : Bool) :
    PostsNeutral (failureBlock e isReversal) := by
  refine posts_nothing_bind (releaseBalance_neutral _ _ _ _) fun _ => ?_
  refine posts_nothing_bind (nothing_update fun _ => rfl) fun _ => ?_
  refine posts_nothing_bind (updateLinked_neutral _ _) fun _ => ?_
  exact releaseLiquidity_neutral _ _

/-! ### What the events leave alone -/

/-- What the blocks of an event do not look at, but for the transactions they write. -/
structure Untouched (e : Event) (I : Ledger → Prop) : Prop where
  balances : ∀ L, I L.records ↔ I L
  swaps : ∀ L swaps, I L → I { L with swaps := swaps }
  growing : e.isAutoStackSwap = true → ∀ amount,
    Preserves I (OrderDone.growAutoStack e.autoStackId amount)
  linked : ∀ f, Preserves I (updateLinked e f)
  credit : ∀ k row, Preserves I (insertTransaction k row)

section Reports

variable {e : Event} {I : Ledger → Prop} (hI : Untouched e I)

include hI

theorem updateSwap_keeps (k : SwapRecordId) (f : SwapTransaction → SwapTransaction) :
    Preserves I (updateSwap k f) := preserves_update fun L hL => hI.swaps L _ hL

theorem failureBlock_keeps (isReversal : Bool) : Preserves I (failureBlock e isReversal) := by
  refine preserves_bind ((releaseBalance_onBalances _ _ _ _).preserves hI.balances) fun _ => ?_
  refine preserves_bind (updateSwap_keeps hI _ _) fun _ => ?_
  refine preserves_bind (hI.linked _) fun _ => ?_
  exact (releaseLiquidity_onBalances _ _).preserves hI.balances

theorem stackReceived_keeps (hstack : e.isAutoStackSwap = true) (confirmedTo : Nat) :
    Preserves I (stackReceived e confirmedTo) := by
  refine preserves_bind (preserves_read _) fun _ => ?_
  refine preserves_bind (preserves_read _) fun _ => preserves_ite ?_ (preserves_pure _)
  refine preserves_bind ((mustUpdateWallet_onBalances _ _ _ _).preserves hI.balances) fun _ => ?_
  refine preserves_bind (hI.growing hstack _) fun _ => ?_
  refine preserves_bind ((addInternalBalance_onBalances _ _).preserves hI.balances) fun _ => ?_
  refine preserves_bind ((updateCompany_onBalances _ _ _).preserves hI.balances) fun _ => ?_
  refine preserves_bind ((updateCompany_onBalances _ _ _).preserves hI.balances) fun _ => ?_
  refine preserves_bind (preserves_require _ _) fun _ => ?_
  exact preserves_bind (hI.linked _) fun _ => preserves_pure _

theorem recordCredit_keeps (k : TransactionId) (row : Transaction) :
    Preserves I (recordCredit k row) :=
  preserves_bind (preserves_read _) fun _ => preserves_onlyIf (hI.credit k row)

theorem completeBlock_keeps (cache : ConvertCurrency.DefaultNetworkCache)
    (confirmedFrom confirmedTo : Nat) (creditId : TransactionId) (creditReference : Reference)
    (toNetwork : Option CryptoNetwork) :
    Preserves I
      (completeBlock cache e confirmedFrom confirmedTo creditId creditReference toNetwork) := by
  have hbalances {α : Type} {x : LedgerBlock α} (hx : OnBalances x) : Preserves I x :=
    hx.preserves hI.balances
  refine preserves_bind (preserves_read _) fun _ => preserves_ite (preserves_pure _) ?_
  refine preserves_bind (hbalances (mustUpdateWallet_onBalances _ _ _ _)) fun _ => ?_
  refine preserves_bind (hbalances (restateOriginalBalance_onBalances _ _ _)) fun _ => ?_
  refine preserves_bind (hbalances (subtractInternalBalance_onBalances _ _)) fun _ => ?_
  by_cases hstack : e.isAutoStackSwap = true
  · rw [if_pos hstack]
    refine preserves_bind (hI.linked _) fun _ => ?_
    refine preserves_bind (stackReceived_keeps hI hstack _) fun _ => ?_
    exact preserves_bind (updateSwap_keeps hI _ _) fun _ => preserves_pure _
  · rw [if_neg hstack]
    refine preserves_bind (hbalances (mustUpdateWallet_onBalances _ _ _ _)) fun _ => ?_
    refine preserves_bind (hbalances (restateOriginalBalance_onBalances _ _ _)) fun _ => ?_
    refine preserves_bind (hbalances (addInternalBalance_onBalances _ _)) fun _ => ?_
    refine preserves_bind (hI.linked _) fun _ => ?_
    refine preserves_bind (updateSwap_keeps hI _ _) fun _ => ?_
    refine preserves_bind (recordCredit_keeps hI _ _) fun _ => ?_
    exact preserves_bind (hbalances (releaseLiquidity_onBalances _ _)) fun _ => preserves_pure _

end Reports

end SwapWebhook

end ExchangeLedger
