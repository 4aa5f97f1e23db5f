import ExchangeLedger.Balances
import ExchangeLedger.OrderDone

set_option autoImplicit false

/-! `SellService.confirmSell` in production: the database blocks of a sell confirmation. -/

namespace ExchangeLedger

open Block

/-- `transaction.findFirst({ where: { transactionUniqueId } })`. -/
def Ledger.transactionByUniqueId (L : Ledger) (reference : Reference) : Option TransactionId :=
  (L.transactions.entries.find? (fun e => e.2.transactionUniqueId = reference)).map (fun e => e.1)

def updateTransaction (id : TransactionId) (f : Transaction → Transaction) : LedgerBlock Unit :=
  update (fun L => { L with transactions := L.transactions.modify id f })

def updateOrder (id : TransactionId) (f : Order → Order) : LedgerBlock Unit :=
  update (fun L => { L with orders := L.orders.modify id f })

/-- `toBigInt(totalAmountSentBase)`. -/
def Transaction.sentBase (t : Transaction) : Nat := t.totalAmountSentBase.getD 0

structure CreateTransactionParams where
  userId : UserId
  transactionUniqueId : Reference
  network : Option CryptoNetwork
  currency : Currency
  letterCase : LetterCase
  cryptoAmountBase : Option Nat
  fiatAmountBase : Nat
  platformFeeBase : Option Nat
  totalAmountSentBase : Option Nat
  transactionContext : TransactionContext
  paymentMetadata : PaymentMetadata

/-- The row that `createTransaction` stores: `totalAmountSentBase` is not among its columns. -/
def CreateTransactionParams.row (params : CreateTransactionParams) : Transaction where
  userId := params.userId
  transactionContext := params.transactionContext
  transactionUniqueId := params.transactionUniqueId
  currency := params.currency
  letterCase := params.letterCase
  network := params.network
  cryptoAmountBase := params.cryptoAmountBase
  fiatAmountBase := params.fiatAmountBase
  platformFeeBase := params.platformFeeBase
  totalAmountSentBase := none
  executedCryptoAmountBase := none
  executedFiatAmountBase := none
  status := .PENDING
  isProcessed := false
  paymentMetadata := params.paymentMetadata

/-- Insert a row under a new id; the id and the unique reference must not be taken. -/
def insertTransaction (id : TransactionId) (row : Transaction) : LedgerBlock Unit := do
  let taken ← read (fun L => (L.transactions.lookup id).isSome ||
    (L.transactionByUniqueId row.transactionUniqueId).isSome)
  require (taken = false) (.database false)
  update (fun L => { L with transactions := L.transactions.insert id row })

def createTransaction (id : TransactionId) (params : CreateTransactionParams) :
    LedgerBlock Unit := insertTransaction id params.row

def createOrder (id : TransactionId) (order : Order) : LedgerBlock Unit :=
  update (fun L => { L with orders := L.orders.insert id order })

def upsertFailedCompanyLiquidity (id : TransactionId) (currency : Currency) (amountBase : Nat) :
    LedgerBlock Unit :=
  update (fun L => { L with
    failedCompanyLiquidity := L.failedCompanyLiquidity.insert id ⟨currency, amountBase⟩ })

/-- `failedCompanyLiquidityTransaction.create`; there is one record at most per transaction. -/
def createFailedCompanyLiquidity (id : TransactionId) (currency : Currency) (amountBase : Nat) :
    LedgerBlock Unit := do
  let existing ← read (fun L => L.failedCompanyLiquidity.lookup id)
  require (existing = none) (.database false)
  upsertFailedCompanyLiquidity id currency amountBase

theorem insertTransaction_commits {id : TransactionId} {row : Transaction} {L M : Ledger}
    {u : Unit} :
    (insertTransaction id row).Commits L u M ↔ L.transactions.lookup id = none ∧
      L.transactionByUniqueId row.transactionUniqueId = none ∧
      { L with transactions := L.transactions.insert id row } = M := by
  simp [insertTransaction, and_assoc]

theorem insertTransaction_neutral (id : TransactionId) (row : Transaction) :
    PostsNeutral (insertTransaction id row) := by
  refine posts_nothing_bind nothing_read fun _ => ?_
  refine posts_nothing_bind nothing_require fun _ => ?_
  exact nothing_update fun _ => rfl

theorem createFailedCompanyLiquidity_neutral (id : TransactionId) (currency : Currency)
    (amountBase : Nat) : PostsNeutral (createFailedCompanyLiquidity id currency amountBase) := by
  refine posts_nothing_bind nothing_read fun _ => ?_
  refine posts_nothing_bind nothing_require fun _ => ?_
  exact nothing_update fun _ => rfl

namespace SellService

/-- What a confirmed quote carries into the block, with the wallet's network as read before. -/
structure Confirm where
  userId : UserId
  crypto : Currency
  previewId : Reference
  exactCrypto : Nat
  platformFee : Nat
  netFiat : Nat
  network : Option CryptoNetwork
  walletDefaultNetwork : Option CryptoNetwork
  usdtDecimals : Nat

/-- `totalUserDebitBase`. -/
def Confirm.total (q : Confirm) : Nat := q.exactCrypto + q.platformFee

inductive ConfirmResult where
  | duplicate | queued | reserved
  deriving DecidableEq, Repr

def Confirm.transaction (q : Confirm) (hasLiquidity : Bool) : CreateTransactionParams where
  userId := q.userId
  transactionUniqueId := q.previewId
  network := q.network
  currency := q.crypto
  letterCase := .upper
  cryptoAmountBase := some q.exactCrypto
  fiatAmountBase := q.netFiat
  platformFeeBase := some q.platformFee
  totalAmountSentBase := some q.total
  transactionContext := .SELL
  paymentMetadata := { PaymentMetadata.empty with
    payoutBankDetails := true
    liquidityReservationStatus := some (if hasLiquidity then .RESERVED else .INSUFFICIENT) }

def Confirm.order (q : Confirm) (hasLiquidity : Bool) : Order where
  userId := q.userId
  type := .SELL
  fiatAmountBase := q.netFiat
  status := if hasLiquidity then .PENDING else .FAILED
  referenceNo := some q.previewId
  paymentStatus := .PENDING
  paymentReference := none

def setReservationStatus (s : LiquidityReservationStatus) (t : Transaction) : Transaction :=
  { t with paymentMetadata := { t.paymentMetadata with liquidityReservationStatus := some s } }

/-- The block that reserves the funds and creates the transaction and its order. -/
def confirmBlock (q : Confirm) (id : TransactionId) : LedgerBlock ConfirmResult := do
  requireMinimum q.usdtDecimals q.crypto q.exactCrypto "Minimum transaction amount is 2 USDT"
  let existingTx ← read (fun L => L.transactionByUniqueId q.previewId)
  if existingTx.isSome then return .duplicate
  else
    reserveBalance q.userId q.crypto q.total (some q.walletDefaultNetwork)
    let availableLiquidity ← read (fun L => getAvailableLiquidity L BASE_CURRENCY)
    let hasLiquidity := decide ((q.netFiat : Int) ≤ availableLiquidity)
    createTransaction id (q.transaction hasLiquidity)
    createOrder id (q.order hasLiquidity)
    if hasLiquidity then
      let reserved ← reserveLiquidity BASE_CURRENCY q.netFiat
      if reserved then
        updateTransaction id (setReservationStatus .RESERVED)
        return .reserved
      else
        createFailedCompanyLiquidity id BASE_CURRENCY q.netFiat
        return .queued
    else
      createFailedCompanyLiquidity id BASE_CURRENCY q.netFiat
      return .queued

/-- Paystack cannot fund the payout: the company's part is released and the order queued. -/
def paystackShortBlock (q : Confirm) (id : TransactionId) : LedgerBlock Unit := do
  releaseLiquidity BASE_CURRENCY q.netFiat
  upsertFailedCompanyLiquidity id BASE_CURRENCY q.netFiat
  updateTransaction id (setReservationStatus .INSUFFICIENT)

/-- The provider answered with an error. -/
def rejectedBlock (q : Confirm) (id : TransactionId) : LedgerBlock Unit := do
  releaseBalance q.userId q.crypto q.total none
  releaseLiquidity BASE_CURRENCY q.netFiat
  updateTransaction id (fun t => { setReservationStatus .RELEASED t with
    status := .FAILED, isProcessed := true })
  updateOrder id (fun o => { o with status := .FAILED, paymentStatus := .FAILED })

/-- The provider took the order; without a reference in its answer the column is left alone. -/
def recordBlock (id : TransactionId) (providerReference : Option Reference) : LedgerBlock Unit :=
  updateOrder id (fun o => { o with referenceNo := providerReference.or o.referenceNo })

/-! ### Movements -/

theorem confirmBlock_neutral (q : Confirm) (id : TransactionId) :
    PostsNeutral (confirmBlock q id) := by
  refine posts_nothing_bind nothing_require fun _ => ?_
  refine posts_nothing_bind nothing_read fun existingTx => ?_
  refine nothing_ite nothing_pure ?_
  refine posts_nothing_bind (reserveBalance_neutral _ _ _ _) fun _ => ?_
  refine posts_nothing_bind nothing_read fun available => ?_
  refine posts_nothing_bind (insertTransaction_neutral _ _) fun _ => ?_
  refine posts_nothing_bind (nothing_update fun _ => rfl) fun _ => ?_
  refine nothing_ite ?_ ?_
  · refine posts_nothing_bind (reserveLiquidity_neutral _ _) fun reserved => ?_
    refine nothing_ite ?_ ?_
    · exact posts_nothing_bind (nothing_update fun _ => rfl) fun _ => nothing_pure
    · exact posts_nothing_bind (createFailedCompanyLiquidity_neutral _ _ _) fun _ => nothing_pure
  · exact posts_nothing_bind (createFailedCompanyLiquidity_neutral _ _ _) fun _ => nothing_pure

theorem paystackShortBlock_neutral (q : Confirm) (id : TransactionId) :
    PostsNeutral (paystackShortBlock q id) := by
  refine posts_nothing_bind (releaseLiquidity_neutral _ _) fun _ => ?_
  refine posts_nothing_bind (nothing_update fun _ => rfl) fun _ => ?_
  exact nothing_update fun _ => rfl

theorem rejectedBlock_neutral (q : Confirm) (id : TransactionId) :
    PostsNeutral (rejectedBlock q id) := by
  refine posts_nothing_bind (releaseBalance_neutral _ _ _ _) fun _ => ?_
  refine posts_nothing_bind (releaseLiquidity_neutral _ _) fun _ => ?_
  refine posts_nothing_bind (nothing_update fun _ => rfl) fun _ => ?_
  exact nothing_update fun _ => rfl

end SellService

end ExchangeLedger
