import ExchangeLedger.PayoutStatus
import ExchangeLedger.Withdrawal

set_option autoImplicit false

/-! `FailedCompanyLiquidityService`: expiry and retries of requests that were queued because the
company was short of liquidity. -/

namespace ExchangeLedger

open Block

namespace FailedCompanyLiquidity

def isRetryable (t : Transaction) : Bool := t.status = .PENDING ∧ t.isProcessed = false

/-- `getUserReservedBalanceRelease`; the currency is the transaction's own. -/
def userReservedBalanceRelease (t : Transaction) : Option Nat :=
  if t.transactionContext ∈ [.SELL, .SWAP, .WITHDRAWAL] ∧ 0 < t.totalSentBase then
    some t.totalSentBase
  else none

/-- `failedCompanyLiquidityTransaction.delete`, which throws when there is no record. -/
def deleteRecord (id : TransactionId) : LedgerBlock Unit := do
  let record ← read (fun L => L.failedCompanyLiquidity.lookup id)
  require (record.isSome = true) (.database false)
  update (fun L => { L with failedCompanyLiquidity := L.failedCompanyLiquidity.erase id })

def releaseReserved (transaction : Transaction) : LedgerBlock Unit :=
  match userReservedBalanceRelease transaction with
  | some amount => releaseBalance transaction.userId transaction.currency amount none
  | none => pure ()

/-- The block of `expireStaleFailedRecords` for one record. -/
def expireBlock (id : TransactionId) (transaction : Transaction) : LedgerBlock Unit := do
  releaseReserved transaction
  updateTransaction id (fun t => { t with status := .FAILED, isProcessed := true })
  deleteRecord id

/-- The block of `resumeSell` after the provider took the order. -/
def resumeSellBlock (id : TransactionId) (providerReference : Reference) : LedgerBlock Unit := do
  updateOrder id (fun o => { o with
    referenceNo := some providerReference, status := .PROCESSING, paymentStatus := .PENDING })
  updateTransaction id (fun t => { t with
    transactionUniqueId := providerReference, status := .PENDING })

/-- The update of `resumeSwap` after the provider took the swap. -/
def resumeSwapBlock (swapRecordId : SwapRecordId) (swapId : Reference) : LedgerBlock Unit :=
  update (fun L => { L with swaps := L.swaps.modify swapRecordId (fun s => { s with
    swapId := some swapId, status := .processing }) })

/-- The block of `resumeWithdrawal` after the provider took the withdrawal. -/
def resumeWithdrawalBlock (id : TransactionId) (withdrawalId : WithdrawalId)
    (providerWithdrawalId : Reference) : LedgerBlock Unit := do
  updateWithdrawal withdrawalId (fun w => { w with
    providerWithdrawalId := some providerWithdrawalId, status := .PROCESSING })
  updateTransaction id (fun t => { t with
    transactionUniqueId := providerWithdrawalId, status := .PENDING })

/-- The update of `resumeBuy` after the payment was started. -/
def resumeBuyBlock (id : TransactionId) (transaction : Transaction) : LedgerBlock Unit :=
  updateTransaction id (fun t => { t with
    status := .PENDING
    paymentMetadata := { transaction.paymentMetadata with
      liquidityReservationStatus := some .RESERVED } })

/-! ### Movements -/

theorem deleteRecord_neutral (id : TransactionId) : PostsNeutral (deleteRecord id) := by
  refine posts_nothing_bind nothing_read fun _ => ?_
  refine posts_nothing_bind nothing_require fun _ => ?_
  exact nothing_update fun _ => rfl

theorem releaseReserved_neutral (transaction : Transaction) :
    PostsNeutral (releaseReserved transaction) := by
  unfold releaseReserved
  split
  · exact releaseBalance_neutral _ _ _ _
  · exact nothing_pure

theorem expireBlock_neutral (id : TransactionId) (transaction : Transaction) :
    PostsNeutral (expireBlock id transaction) := by
  refine posts_nothing_bind (releaseReserved_neutral _) fun _ => ?_
  refine posts_nothing_bind (nothing_update fun _ => rfl) fun _ => ?_
  exact deleteRecord_neutral _

theorem resumeSellBlock_neutral (id : TransactionId) (providerReference : Reference) :
    PostsNeutral (resumeSellBlock id providerReference) := by
  refine posts_nothing_bind (nothing_update fun _ => rfl) fun _ => ?_
  exact nothing_update fun _ => rfl

theorem resumeSwapBlock_neutral (swapRecordId : SwapRecordId) (swapId : Reference) :
    PostsNeutral (resumeSwapBlock swapRecordId swapId) := nothing_update fun _ => rfl

theorem resumeWithdrawalBlock_neutral (id : TransactionId) (withdrawalId : WithdrawalId)
    (providerWithdrawalId : Reference) :
    PostsNeutral (resumeWithdrawalBlock id withdrawalId providerWithdrawalId) := by
  refine posts_nothing_bind (nothing_update fun _ => rfl) fun _ => ?_
  exact nothing_update fun _ => rfl

theorem resumeBuyBlock_neutral (id : TransactionId) (transaction : Transaction) :
    PostsNeutral (resumeBuyBlock id transaction) := nothing_update fun _ => rfl

end FailedCompanyLiquidity

end ExchangeLedger
