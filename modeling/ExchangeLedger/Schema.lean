import ExchangeLedger.Table
import ExchangeLedger.Block
import ExchangeLedger.Decimal

set_option autoImplicit false

/-! The database rows that the ledger code reads and writes, and the ledger they form. -/

namespace ExchangeLedger

inductive Currency where
  | btc | usdt | usdc | eth | bnb | doge | xrp | sol | link | trx | ngn | usd
  deriving DecidableEq, Repr

inductive CryptoNetwork where
  | btc | bep20 | erc20 | trc20 | polygon | solana | celo | optimism | ton | base | doge | ripple
  deriving DecidableEq, Repr

/-- How a column is spelled. Most queries compare it case-insensitively, a few do not. -/
inductive LetterCase where
  | lower | upper
  deriving DecidableEq, Repr

def BASE_CURRENCY : Currency := .ngn

abbrev UserId := Nat
abbrev TransactionId := Nat
abbrev WithdrawalId := Nat
abbrev SwapRecordId := Nat
abbrev VaultId := Nat
abbrev LoanId := Nat
abbrev AutoStackId := Nat

/-- Opaque reference strings: quote ids and the ids handed out by the providers. -/
abbrev Reference := Nat

/-- Decimal strings, as lists of their characters. -/
abbrev Text := List Char

inductive TransactionStatus where
  | COMPLETED | PENDING | FAILED | SUCCESS | CONFIRM
  deriving DecidableEq, Repr

inductive TransactionContext where
  | DEPOSIT | WITHDRAWAL | TRANSFER | BUY | SELL | CARD_VERIFICATION | CARD_REFUND | SWAP
  | VAULT_SWAP | BILL_PAYMENT | AUTOSTACK
  deriving DecidableEq, Repr

inductive OrderStatus where
  | PENDING | COMPLETED | CANCELLED | PROCESSING | FAILED
  deriving DecidableEq, Repr

inductive OrderType where
  | BUY | SELL
  deriving DecidableEq, Repr

inductive PaymentStatus where
  | PENDING | PAID | FAILED
  deriving DecidableEq, Repr

inductive WithdrawalStatus where
  | PENDING | PROCESSING | SUCCESS | REJECTED | FAILED
  deriving DecidableEq, Repr

inductive VaultStatus where
  | PENDING | ACTIVE | MATURED | TERMINATED
  deriving DecidableEq, Repr

inductive AutoStackStatus where
  | PENDING | ACTIVE | ENDED | TERMINATED
  deriving DecidableEq, Repr

inductive UrgentLiquidityLoanStatus where
  | PENDING | QUIDAX_COMPLETED | PAYSTACK_COMPLETED | DISBURSED | FAILED | REPAID
  | DEADLINE_EXCEEDED
  deriving DecidableEq, Repr

instance : LawfulBEq (Option UrgentLiquidityLoanStatus) := inferInstance

inductive SwapStatus where
  | PENDING | COMPLETED | FAILED | processing | reversed
  deriving DecidableEq, Repr

inductive LiquidityReservationStatus where
  | RELEASED | RESERVED | INSUFFICIENT | CONSUMED
  deriving DecidableEq, Repr

inductive PayoutStatus where
  | initiated | failed_retry_required | success | failed
  deriving DecidableEq, Repr

/-- The balance columns are `Decimal(78, 0)` without a check constraint, so integers. -/
structure Wallet where
  letterCase : LetterCase
  currencyId : Option Currency
  baseBalance : Int
  reservedBalance : Int
  lockedAmount : Int
  loanCollateralAmount : Int
  stackedAmount : Int
  totalStackedInterest : Int
  totalLockedInterest : Int
  originalBalance : Text
  defaultNetwork : Option CryptoNetwork
  /-- How the network column is spelled. -/
  networkCase : LetterCase
  deriving DecidableEq, Repr

structure CompanyLiquidity where
  totalBalance : Int
  reservedBalance : Int
  internalBalance : Int
  totalLockedPrincipal : Int
  totalAccruedLockedInterest : Int
  totalLockedInterestPaid : Int
  totalAmountStacked : Int
  deriving DecidableEq, Repr

/-- The keys of `paymentMetadata` that the ledger code branches on. -/
structure PaymentMetadata where
  payoutStatus : Option PayoutStatus
  payoutReference : Option Reference
  payoutBankDetails : Bool
  liquidityReservationStatus : Option LiquidityReservationStatus
  liquidityReservationAmount : Option Nat
  sellProceedsAdded : Bool
  autoStackId : Option AutoStackId
  cryptoWalletPayment : Bool
  autostackSettled : Bool
  deriving DecidableEq, Repr

def PaymentMetadata.empty : PaymentMetadata where
  payoutStatus := none
  payoutReference := none
  payoutBankDetails := false
  liquidityReservationStatus := none
  liquidityReservationAmount := none
  sellProceedsAdded := false
  autoStackId := none
  cryptoWalletPayment := false
  autostackSettled := false

structure Transaction where
  userId : UserId
  transactionContext : TransactionContext
  transactionUniqueId : Reference
  currency : Currency
  letterCase : LetterCase
  network : Option CryptoNetwork
  cryptoAmountBase : Option Nat
  fiatAmountBase : Nat
  platformFeeBase : Option Nat
  totalAmountSentBase : Option Nat
  executedCryptoAmountBase : Option Int
  executedFiatAmountBase : Option Int
  status : TransactionStatus
  isProcessed : Bool
  paymentMetadata : PaymentMetadata
  deriving DecidableEq, Repr

structure Order where
  userId : UserId
  type : OrderType
  fiatAmountBase : Nat
  status : OrderStatus
  referenceNo : Option Reference
  paymentStatus : PaymentStatus
  paymentReference : Option Reference
  deriving DecidableEq, Repr

structure Withdrawal where
  userId : UserId
  transactionId : Option TransactionId
  reference : Option Reference
  providerWithdrawalId : Option Reference
  currency : Currency
  network : Option CryptoNetwork
  status : WithdrawalStatus
  deriving DecidableEq, Repr

structure SwapTransaction where
  userId : UserId
  fromCurrency : Currency
  toCurrency : Currency
  quoteId : Option Reference
  swapId : Option Reference
  toAmountOriginal : Option Nat
  status : SwapStatus
  vaultId : Option VaultId
  deriving DecidableEq, Repr

structure Vault where
  userId : UserId
  currencyId : Currency
  amountLocked : Nat
  bufferAmount : Nat
  totalGain : Nat
  interestRatePerAnum : Decimal
  transactionFee : Nat
  amountToReceive : Nat
  status : VaultStatus
  deriving DecidableEq, Repr

structure UrgentLiquidityLoan where
  userId : UserId
  collateralAsset : Currency
  loanAmount : Nat
  quidaxSwapId : Option Reference
  paystackTransferId : Option Reference
  status : UrgentLiquidityLoanStatus
  deriving DecidableEq, Repr

structure AutoStack where
  userId : UserId
  amount : Nat
  accruedInterest : Nat
  status : AutoStackStatus
  deriving DecidableEq, Repr

structure FailedCompanyLiquidityTransaction where
  currency : Currency
  amountBase : Nat
  deriving DecidableEq, Repr

abbrev WalletKey := UserId × Currency

/-- The two tables that hold balances. -/
structure Books where
  wallets : Table WalletKey Wallet
  companyLiquidity : Table Currency CompanyLiquidity

structure Ledger extends Books where
  transactions : Table TransactionId Transaction
  orders : Table TransactionId Order
  withdrawals : Table WithdrawalId Withdrawal
  swaps : Table SwapRecordId SwapTransaction
  vaults : Table VaultId Vault
  loans : Table LoanId UrgentLiquidityLoan
  autoStacks : Table AutoStackId AutoStack
  failedCompanyLiquidity : Table TransactionId FailedCompanyLiquidityTransaction

/-- What a block fails with: an exception thrown by the code, or a fault of the database. -/
inductive Failure where
  | thrown (message : String)
  | database (transient : Bool)
  deriving DecidableEq, Repr

abbrev LedgerBlock := Block Ledger Failure

def Wallet.empty : Wallet where
  letterCase := .lower
  currencyId := none
  baseBalance := 0
  reservedBalance := 0
  lockedAmount := 0
  loanCollateralAmount := 0
  stackedAmount := 0
  totalStackedInterest := 0
  totalLockedInterest := 0
  originalBalance := ['0']
  defaultNetwork := none
  networkCase := .lower

def CompanyLiquidity.empty : CompanyLiquidity := ⟨0, 0, 0, 0, 0, 0, 0⟩

def Ledger.empty : Ledger where
  wallets := ∅
  companyLiquidity := ∅
  transactions := ∅
  orders := ∅
  withdrawals := ∅
  swaps := ∅
  vaults := ∅
  loans := ∅
  autoStacks := ∅
  failedCompanyLiquidity := ∅

end ExchangeLedger
