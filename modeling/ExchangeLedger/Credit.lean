import ExchangeLedger.Sell

set_option autoImplicit false

/-! Blocks that bring funds in: the reservation of a buy confirmation and a confirmed deposit. -/

namespace ExchangeLedger

open Block

namespace BuyService

structure Confirm where
  userId : UserId
  crypto : Currency
  previewId : Reference
  volumeCrypto : Nat
  totalFiat : Nat
  platformFee : Nat
  companyLiquidityAmount : Nat
  network : Option CryptoNetwork
  usdtDecimals : Nat

inductive ConfirmResult where
  | duplicate | queued | reserved
  deriving DecidableEq, Repr

def Confirm.transaction (q : Confirm) (reserved : Bool) : CreateTransactionParams where
  userId := q.userId
  transactionUniqueId := q.previewId
  network := q.network
  currency := q.crypto
  letterCase := .upper
  cryptoAmountBase := some q.volumeCrypto
  fiatAmountBase := q.totalFiat
  platformFeeBase := some q.platformFee
  totalAmountSentBase := none
  transactionContext := .BUY
  paymentMetadata := { PaymentMetadata.empty with
    liquidityReservationStatus := some (if reserved then .RESERVED else .INSUFFICIENT)
    liquidityReservationAmount := some q.companyLiquidityAmount }

def confirmBlock (q : Confirm) (id : TransactionId) : LedgerBlock ConfirmResult := do
  requireMinimum q.usdtDecimals q.crypto q.volumeCrypto "Minimum transaction amount is 2 USDT"
  let existing ← read (fun L => L.transactionByUniqueId q.previewId)
  if existing.isSome then return .duplicate
  else
    let reserved ← reserveLiquidity BASE_CURRENCY q.companyLiquidityAmount
    createTransaction id (q.transaction reserved)
    if reserved then return .reserved
    else
      createFailedCompanyLiquidity id BASE_CURRENCY q.companyLiquidityAmount
      return .queued

theorem confirmBlock_neutral (q : Confirm) (id : TransactionId) :
    PostsNeutral (confirmBlock q id) := by
  refine posts_nothing_bind nothing_require fun _ => ?_
  refine posts_nothing_bind nothing_read fun _ => ?_
  refine nothing_ite nothing_pure ?_
  refine posts_nothing_bind (reserveLiquidity_neutral _ _) fun _ => ?_
  refine posts_nothing_bind (insertTransaction_neutral _ _) fun _ => ?_
  refine nothing_ite nothing_pure ?_
  exact posts_nothing_bind (createFailedCompanyLiquidity_neutral _ _ _) fun _ => nothing_pure

end BuyService

namespace DepositSuccessful

structure Deposit where
  userId : UserId
  currency : Currency
  providerDepositId : Reference
  network : Option CryptoNetwork
  amount : Nat

def Deposit.transaction (d : Deposit) : Transaction where
  userId := d.userId
  transactionContext := .DEPOSIT
  transactionUniqueId := d.providerDepositId
  currency := d.currency
  letterCase := .upper
  network := d.network
  cryptoAmountBase := some d.amount
  fiatAmountBase := 0
  platformFeeBase := none
  totalAmountSentBase := none
  executedCryptoAmountBase := none
  executedFiatAmountBase := none
  status := .COMPLETED
  isProcessed := true
  paymentMetadata := PaymentMetadata.empty

/-- Credit a deposit once; true when this block did it. -/
def depositBlock (cache : ConvertCurrency.DefaultNetworkCache) (d : Deposit)
    (id : TransactionId) : LedgerBlock Bool := do
  let existing ← read (fun L => L.transactionByUniqueId d.providerDepositId)
  if existing.isSome then return false
  else
    insertTransaction id d.transaction
    creditWallet (d.userId, d.currency) d.amount (.thrown "wallet not found")
    restateOriginalBalance cache (d.userId, d.currency) none
    addInternalBalance d.currency d.amount
    return true

def depositMovements (d : Deposit) : List Movement :=
  [.credit (d.userId, d.currency) d.amount, .company d.currency .internalBalance d.amount]

theorem depositBlock_moves (cache : ConvertCurrency.DefaultNetworkCache) (d : Deposit)
    (id : TransactionId) :
    PostsMovements (depositBlock cache d id)
      (fun done ms => ms = if done then depositMovements d else []) := by
  refine posts_read_bind fun L => ?_
  refine posts_ite (fun _ => posts_pure rfl) fun _ => ?_
  refine posts_nothing_bind (insertTransaction_neutral _ _) fun _ => ?_
  refine posts_entry_bind rfl (fun _ _ _ => creditWallet_moves) fun _ => ?_
  refine posts_nothing_bind (restateOriginalBalance_neutral _ _ _) fun _ => ?_
  refine posts_entry_bind rfl (fun _ _ _ => addInternalBalance_moves) fun _ => ?_
  exact posts_pure rfl

end DepositSuccessful

end ExchangeLedger
