import ExchangeLedger.Frame
import ExchangeLedger.Operation

set_option autoImplicit false

/-! Which operations leave the vaults and the stacks alone. -/

namespace ExchangeLedger

open Block

/-- The rows of the products that hold funds of a wallet. -/
def Ledger.products (L : Ledger) : Table VaultId Vault × Table AutoStackId AutoStack :=
  (L.vaults, L.autoStacks)

abbrev KeepsProducts {α : Type} (x : LedgerBlock α) : Prop := Keeps Ledger.products x

abbrev KeepsVaults {α : Type} (x : LedgerBlock α) : Prop := Keeps Ledger.vaults x

abbrev KeepsStacks {α : Type} (x : LedgerBlock α) : Prop := Keeps Ledger.autoStacks x

section

variable {α : Type} {x : LedgerBlock α}

theorem OnBalances.products (hx : OnBalances x) : KeepsProducts x :=
  keeps_of_preserves fun _ => hx.preserves fun _ => Iff.rfl

theorem KeepsProducts.vaults (hx : KeepsProducts x) : KeepsVaults x := hx.of Prod.fst

theorem KeepsProducts.autoStacks (hx : KeepsProducts x) : KeepsStacks x := hx.of Prod.snd

end

/-! ### The statements that several blocks share -/

theorem insertTransaction_products (id : TransactionId) (row : Transaction) :
    KeepsProducts (insertTransaction id row) := by
  refine keeps_bind (keeps_read _) fun _ => ?_
  refine keeps_bind (keeps_require _ _) fun _ => ?_
  exact keeps_update fun _ => rfl

theorem createFailedCompanyLiquidity_products (id : TransactionId) (currency : Currency)
    (amountBase : Nat) : KeepsProducts (createFailedCompanyLiquidity id currency amountBase) := by
  refine keeps_bind (keeps_read _) fun _ => ?_
  refine keeps_bind (keeps_require _ _) fun _ => ?_
  exact keeps_update fun _ => rfl

theorem createWithdrawal_products (id : WithdrawalId) (row : Withdrawal) :
    KeepsProducts (createWithdrawal id row) := by
  refine keeps_bind (keeps_read _) fun _ => ?_
  refine keeps_bind (keeps_require _ _) fun _ => ?_
  exact keeps_update fun _ => rfl

theorem createSwap_products (id : SwapRecordId) (row : SwapTransaction) :
    KeepsProducts (createSwap id row) := by
  refine keeps_bind (keeps_read _) fun _ => ?_
  refine keeps_bind (keeps_require _ _) fun _ => ?_
  exact keeps_update fun _ => rfl

theorem releaseLockedTotals_products (currency : Currency) (v : Vault) (paid : Nat) :
    KeepsProducts (releaseLockedTotals currency v paid) := by
  refine keeps_onlyIf ?_
  refine keeps_bind (updateCompany_onBalances _ _ _).products fun _ => ?_
  refine keeps_bind (updateCompany_onBalances _ _ _).products fun _ => ?_
  exact keeps_bind (updateCompany_onBalances _ _ _).products fun _ => keeps_pure _

theorem releaseSold_products (transaction : Transaction) (crypto : Currency) :
    KeepsProducts (releaseSold transaction crypto) := by
  unfold releaseSold
  split
  · exact keeps_swallow (releaseBalance_onBalances _ _ _ _).products
  · exact keeps_pure ()

/-! ### Buys and sells -/

theorem BuyService.confirmBlock_products (q : BuyService.Confirm) (id : TransactionId) :
    KeepsProducts (BuyService.confirmBlock q id) := by
  refine keeps_bind (keeps_require _ _) fun _ => ?_
  refine keeps_bind (keeps_read _) fun _ => ?_
  refine keeps_ite (keeps_pure _) ?_
  refine keeps_bind (reserveLiquidity_onBalances _ _).products fun _ => ?_
  refine keeps_bind (insertTransaction_products _ _) fun _ => ?_
  refine keeps_ite (keeps_pure _) ?_
  exact keeps_bind (createFailedCompanyLiquidity_products _ _ _) fun _ => keeps_pure _

namespace SellService

theorem confirmBlock_products (q : Confirm) (id : TransactionId) :
    KeepsProducts (confirmBlock q id) := by
  refine keeps_bind (keeps_require _ _) fun _ => ?_
  refine keeps_bind (keeps_read _) fun _ => ?_
  refine keeps_ite (keeps_pure _) ?_
  refine keeps_bind (reserveBalance_onBalances _ _ _ _).products fun _ => ?_
  refine keeps_bind (keeps_read _) fun _ => ?_
  refine keeps_bind (insertTransaction_products _ _) fun _ => ?_
  refine keeps_bind (keeps_update fun _ => rfl) fun _ => ?_
  refine keeps_ite ?_ ?_
  · refine keeps_bind (reserveLiquidity_onBalances _ _).products fun _ => ?_
    refine keeps_ite ?_ ?_
    · exact keeps_bind (keeps_update fun _ => rfl) fun _ => keeps_pure _
    · exact keeps_bind (createFailedCompanyLiquidity_products _ _ _) fun _ => keeps_pure _
  · exact keeps_bind (createFailedCompanyLiquidity_products _ _ _) fun _ => keeps_pure _

theorem paystackShortBlock_products (q : Confirm) (id : TransactionId) :
    KeepsProducts (paystackShortBlock q id) := by
  refine keeps_bind (releaseLiquidity_onBalances _ _).products fun _ => ?_
  refine keeps_bind (keeps_update fun _ => rfl) fun _ => ?_
  exact keeps_update fun _ => rfl

theorem rejectedBlock_products (q : Confirm) (id : TransactionId) :
    KeepsProducts (rejectedBlock q id) := by
  refine keeps_bind (releaseBalance_onBalances _ _ _ _).products fun _ => ?_
  refine keeps_bind (releaseLiquidity_onBalances _ _).products fun _ => ?_
  refine keeps_bind (keeps_update fun _ => rfl) fun _ => ?_
  exact keeps_update fun _ => rfl

end SellService

namespace OrderDone

theorem failOrderBlock_products (isBuy : Bool) (crypto fiat : Currency) (id : TransactionId)
    (transaction : Transaction) :
    KeepsProducts (failOrderBlock isBuy crypto fiat id transaction) := by
  refine keeps_bind (keeps_read _) fun _ => ?_
  refine keeps_ite (keeps_pure _) ?_
  refine keeps_bind (keeps_update fun _ => rfl) fun _ => ?_
  refine keeps_bind (keeps_update fun _ => rfl) fun _ => ?_
  refine keeps_bind (keeps_onlyIf (releaseSold_products _ _)) fun _ => ?_
  refine keeps_ite ?_ (keeps_pure _)
  refine keeps_bind (releaseLiquidity_onBalances _ _).products fun _ => ?_
  exact keeps_bind (keeps_update fun _ => rfl) fun _ => keeps_pure _

theorem consumeForBuy_products (fiat : Currency) (id : TransactionId) (transaction : Transaction) :
    KeepsProducts (consumeForBuy fiat id transaction) := by
  refine keeps_ite ?_ (keeps_pure _)
  refine keeps_bind (updateCompany_onBalances _ _ _).products fun _ => ?_
  refine keeps_bind (keeps_require _ _) fun _ => ?_
  exact keeps_update fun _ => rfl

theorem growAutoStack_vaults (autoStackId : Option AutoStackId) (amount : Nat) :
    KeepsVaults (growAutoStack autoStackId amount) := by
  cases autoStackId with
  | none => exact keeps_pure ()
  | some a => exact keeps_update fun _ => rfl

theorem buyBlock_vaults (cache : ConvertCurrency.DefaultNetworkCache) (crypto fiat : Currency)
    (id : TransactionId) (transaction : Transaction) (executedCrypto executedFiat : Nat) :
    KeepsVaults (buyBlock cache crypto fiat id transaction executedCrypto executedFiat) := by
  refine keeps_bind (keeps_read _) fun _ => ?_
  refine keeps_ite (keeps_pure _) ?_
  refine keeps_bind (keeps_update fun _ => rfl) fun _ => ?_
  refine keeps_bind (keeps_update fun _ => rfl) fun _ => ?_
  refine keeps_bind (consumeForBuy_products _ _ _).vaults fun _ => ?_
  refine keeps_ite ?_ ?_
  · refine keeps_bind (mustUpdateWallet_onBalances _ _ _ _).products.vaults fun _ => ?_
    refine keeps_bind (growAutoStack_vaults _ _) fun _ => ?_
    refine keeps_bind (addInternalBalance_onBalances _ _).products.vaults fun _ => ?_
    exact keeps_bind (updateCompany_onBalances _ _ _).products.vaults fun _ => keeps_pure _
  · refine keeps_bind (mustUpdateWallet_onBalances _ _ _ _).products.vaults fun _ => ?_
    refine keeps_bind (restateOriginalBalance_onBalances _ _ _).products.vaults fun _ => ?_
    exact keeps_bind (addInternalBalance_onBalances _ _).products.vaults fun _ => keeps_pure _

theorem buyFailureBlock_products (fiat : Currency) (id : TransactionId)
    (transaction : Transaction) : KeepsProducts (buyFailureBlock fiat id transaction) := by
  refine keeps_bind (keeps_update fun _ => rfl) fun _ => ?_
  refine keeps_bind (keeps_update fun _ => rfl) fun _ => ?_
  exact keeps_onlyIf (releaseLiquidity_onBalances _ _).products

theorem missingBankDetailsBlock_products (crypto fiat : Currency) (id : TransactionId)
    (transaction : Transaction) :
    KeepsProducts (missingBankDetailsBlock crypto fiat id transaction) := by
  refine keeps_bind (keeps_update fun _ => rfl) fun _ => ?_
  refine keeps_bind (keeps_update fun _ => rfl) fun _ => ?_
  refine keeps_bind (keeps_onlyIf (releaseLiquidity_onBalances _ _).products) fun _ => ?_
  exact releaseSold_products _ _

theorem proceedsBlock_products (fiat : Currency) (id : TransactionId) (amounts : ExecutedAmounts) :
    KeepsProducts (proceedsBlock fiat id amounts) := by
  refine keeps_bind (keeps_read _) fun _ => ?_
  refine keeps_ite (keeps_pure _) ?_
  refine keeps_bind (addLiquidity_onBalances _ _).products fun _ => ?_
  exact keeps_bind (keeps_update fun _ => rfl) fun _ => keeps_pure _

theorem payoutInitiatedBlock_products (id : TransactionId) (amounts : ExecutedAmounts)
    (metadata : PaymentMetadata) (payoutReference : Reference) :
    KeepsProducts (payoutInitiatedBlock id amounts metadata payoutReference) := by
  refine keeps_bind (keeps_update fun _ => rfl) fun _ => ?_
  exact keeps_update fun _ => rfl

theorem payoutFailedBlock_products (id : TransactionId) (metadata : PaymentMetadata) :
    KeepsProducts (payoutFailedBlock id metadata) := by
  refine keeps_bind (keeps_update fun _ => rfl) fun _ => ?_
  exact keeps_update fun _ => rfl

end OrderDone

namespace PayoutStatus

theorem transferSuccessBlock_products (cache : ConvertCurrency.DefaultNetworkCache)
    (id : TransactionId) (transaction : Transaction) :
    KeepsProducts (transferSuccessBlock cache id transaction) := by
  have htake : KeepsProducts (takeSold transaction) :=
    keeps_bind (releaseBalance_onBalances _ _ _ _).products fun _ =>
      (mustUpdateWallet_onBalances _ _ _ _).products
  refine keeps_bind (releaseLiquidity_onBalances _ _).products fun _ => ?_
  refine keeps_bind htake fun _ => ?_
  refine keeps_bind (restateOriginalBalance_onBalances _ _ _).products fun _ => ?_
  refine keeps_bind (keeps_update fun _ => rfl) fun _ => ?_
  refine keeps_bind (keeps_update fun _ => rfl) fun _ => ?_
  refine keeps_bind (subtractInternalBalance_onBalances _ _).products fun _ => ?_
  refine keeps_bind (keeps_read _) fun _ => ?_
  exact keeps_onlyIf (createFailedCompanyLiquidity_products _ _ _)

theorem transferFailureBlock_products (id : TransactionId) (transaction : Transaction) :
    KeepsProducts (transferFailureBlock id transaction) := by
  refine keeps_bind (keeps_update fun _ => rfl) fun _ => ?_
  exact keeps_update fun _ => rfl

theorem loanTransferSuccessBlock_products (id : LoanId) :
    KeepsProducts (loanTransferSuccessBlock id) := by
  refine keeps_bind (keeps_read _) fun _ => ?_
  exact keeps_onlyIf (keeps_update fun _ => rfl)

theorem loanTransferFailureBlock_products (id : LoanId) :
    KeepsProducts (loanTransferFailureBlock id) := by
  refine keeps_bind (keeps_read _) fun _ => ?_
  exact keeps_onlyIf (keeps_update fun _ => rfl)

end PayoutStatus

/-! ### Deposits, loans and withdrawals -/

theorem DepositSuccessful.depositBlock_products (cache : ConvertCurrency.DefaultNetworkCache)
    (d : DepositSuccessful.Deposit) (id : TransactionId) :
    KeepsProducts (DepositSuccessful.depositBlock cache d id) := by
  refine keeps_bind (keeps_read _) fun _ => ?_
  refine keeps_ite (keeps_pure _) ?_
  refine keeps_bind (insertTransaction_products _ _) fun _ => ?_
  refine keeps_bind (mustUpdateWallet_onBalances _ _ _ _).products fun _ => ?_
  refine keeps_bind (restateOriginalBalance_onBalances _ _ _).products fun _ => ?_
  exact keeps_bind (addInternalBalance_onBalances _ _).products fun _ => keeps_pure _

namespace UrgentLiquidity

theorem payoutBlock_products (cache : ConvertCurrency.DefaultNetworkCache) (id : LoanId)
    (e : OrderDone.Event) (transfer : Option Reference) :
    KeepsProducts (payoutBlock cache id e transfer) := by
  refine keeps_bind (keeps_read _) fun _ => ?_
  refine keeps_bind (keeps_demand _ _) fun _ => ?_
  split
  · exact keeps_fail _
  · exact keeps_pure _
  · refine keeps_bind (subtractInternalBalance_onBalances _ _).products fun _ => ?_
    refine keeps_bind (addInternalBalance_onBalances _ _).products fun _ => ?_
    refine keeps_bind (keeps_read _) fun _ => ?_
    refine keeps_bind (mustUpdateWallet_onBalances _ _ _ _).products fun _ => ?_
    refine keeps_bind (mustUpdateWallet_onBalances _ _ _ _).products fun _ => ?_
    refine keeps_bind (restateOriginalBalance_onBalances _ _ _).products fun _ => ?_
    refine keeps_bind (keeps_update fun _ => rfl) fun _ => ?_
    refine keeps_bind (keeps_demand _ _) fun _ => ?_
    exact keeps_bind (keeps_update fun _ => rfl) fun _ => keeps_pure _

theorem saleFailedBlock_products (id : LoanId) : KeepsProducts (saleFailedBlock id) := by
  refine keeps_bind (keeps_read _) fun _ => ?_
  exact keeps_onlyIf (keeps_update fun _ => rfl)

end UrgentLiquidity

namespace WithdrawalService

theorem confirmBlock_products (q : Confirm) (id : TransactionId) (withdrawalId : WithdrawalId) :
    KeepsProducts (confirmBlock q id withdrawalId) := by
  refine keeps_bind (keeps_require _ _) fun _ => ?_
  refine keeps_bind (keeps_read _) fun _ => ?_
  refine keeps_ite (keeps_pure _) ?_
  refine keeps_bind (reserveBalance_onBalances _ _ _ _).products fun _ => ?_
  refine keeps_bind (insertTransaction_products _ _) fun _ => ?_
  refine keeps_bind (reserveLiquidity_onBalances _ _).products fun _ => ?_
  refine keeps_bind (createWithdrawal_products _ _) fun _ => ?_
  refine keeps_ite (keeps_pure _) ?_
  exact keeps_bind (createFailedCompanyLiquidity_products _ _ _) fun _ => keeps_pure _

theorem recordBlock_products (id : TransactionId) (withdrawalId : WithdrawalId)
    (providerWithdrawalId : Reference) :
    KeepsProducts (recordBlock id withdrawalId providerWithdrawalId) := by
  refine keeps_bind (keeps_update fun _ => rfl) fun _ => ?_
  exact keeps_update fun _ => rfl

theorem compensateBlock_products (q : Confirm) (id : TransactionId) (withdrawalId : WithdrawalId) :
    KeepsProducts (compensateBlock q id withdrawalId) := by
  refine keeps_bind (releaseBalance_onBalances _ _ _ _).products fun _ => ?_
  refine keeps_bind (releaseLiquidity_onBalances _ _).products fun _ => ?_
  refine keeps_bind (keeps_update fun _ => rfl) fun _ => ?_
  exact keeps_update fun _ => rfl

theorem cancelBlock_products (id : TransactionId) (transaction : Transaction)
    (withdrawalId : WithdrawalId) (withdrawal : Withdrawal) :
    KeepsProducts (cancelBlock id transaction withdrawalId withdrawal) := by
  refine keeps_bind (keeps_read _) fun _ => ?_
  refine keeps_bind (keeps_require _ _) fun _ => ?_
  refine keeps_bind (releaseBalance_onBalances _ _ _ _).products fun _ => ?_
  refine keeps_bind (keeps_onlyIf (releaseLiquidity_onBalances _ _).products) fun _ => ?_
  refine keeps_bind (keeps_update fun _ => rfl) fun _ => ?_
  exact keeps_update fun _ => rfl

end WithdrawalService

namespace WithdrawalWebhook

theorem closeReservations_products (cache : ConvertCurrency.DefaultNetworkCache) (event : Event)
    (transaction : Transaction) (withdrawal : Withdrawal) :
    KeepsProducts (closeReservations cache event transaction withdrawal) := by
  refine keeps_ite ?_ ?_
  · refine keeps_bind (mustUpdateWallet_onBalances _ _ _ _).products fun _ => ?_
    refine keeps_bind (restateOriginalBalance_onBalances _ _ _).products fun _ => ?_
    refine keeps_bind (subtractInternalBalance_onBalances _ _).products fun _ => ?_
    refine keeps_bind (updateCompany_onBalances _ _ _).products fun _ => ?_
    refine keeps_bind (keeps_require _ _) fun _ => ?_
    exact (releaseLiquidity_onBalances _ _).products
  · refine keeps_bind (releaseBalance_onBalances _ _ _ _).products fun _ => ?_
    exact (releaseLiquidity_onBalances _ _).products

theorem settleBlock_products (cache : ConvertCurrency.DefaultNetworkCache) (event : Event)
    (id : TransactionId) (transaction : Transaction) (withdrawalId : WithdrawalId)
    (withdrawal : Withdrawal) (amountBase : Int) :
    KeepsProducts
      (settleBlock cache event id transaction withdrawalId withdrawal amountBase) := by
  refine keeps_bind (keeps_read _) fun _ => ?_
  refine keeps_bind (keeps_require _ _) fun _ => ?_
  refine keeps_bind (keeps_update fun _ => rfl) fun _ => ?_
  refine keeps_bind (closeReservations_products _ _ _ _) fun _ => ?_
  exact keeps_update fun _ => rfl

end WithdrawalWebhook

namespace FailedCompanyLiquidity

theorem deleteRecord_products (id : TransactionId) : KeepsProducts (deleteRecord id) := by
  refine Block.keeps_bind (Block.keeps_read _) fun _ => ?_
  refine Block.keeps_bind (Block.keeps_require _ _) fun _ => ?_
  exact Block.keeps_update fun _ => rfl

theorem expireBlock_products (id : TransactionId) (transaction : Transaction) :
    KeepsProducts (expireBlock id transaction) := by
  have hrelease : KeepsProducts (releaseReserved transaction) := by
    unfold releaseReserved
    split
    · exact (releaseBalance_onBalances _ _ _ _).products
    · exact Block.keeps_pure ()
  refine Block.keeps_bind hrelease fun _ => ?_
  refine Block.keeps_bind (Block.keeps_update fun _ => rfl) fun _ => ?_
  exact deleteRecord_products _

theorem resumeSellBlock_products (id : TransactionId) (providerReference : Reference) :
    KeepsProducts (resumeSellBlock id providerReference) := by
  refine Block.keeps_bind (Block.keeps_update fun _ => rfl) fun _ => ?_
  exact Block.keeps_update fun _ => rfl

theorem resumeWithdrawalBlock_products (id : TransactionId) (withdrawalId : WithdrawalId)
    (providerWithdrawalId : Reference) :
    KeepsProducts (resumeWithdrawalBlock id withdrawalId providerWithdrawalId) := by
  refine Block.keeps_bind (Block.keeps_update fun _ => rfl) fun _ => ?_
  exact Block.keeps_update fun _ => rfl

end FailedCompanyLiquidity

/-! ### Swaps -/

namespace SwapService

theorem confirmBlock_products (q : Confirm) (id : TransactionId) :
    KeepsProducts (confirmBlock q id) := by
  refine keeps_bind (keeps_require _ _) fun _ => ?_
  refine keeps_bind (insertTransaction_products _ _) fun _ => ?_
  refine keeps_bind (reserveBalance_onBalances _ _ _ _).products fun _ => ?_
  refine keeps_bind (reserveLiquidity_onBalances _ _).products fun _ => ?_
  refine keeps_ite (keeps_pure _) ?_
  exact keeps_bind (createFailedCompanyLiquidity_products _ _ _) fun _ => keeps_pure _

theorem releaseBlock_products (q : Confirm) (id : TransactionId) :
    KeepsProducts (releaseBlock q id) := by
  refine keeps_bind (releaseBalance_onBalances _ _ _ _).products fun _ => ?_
  refine keeps_bind (releaseLiquidity_onBalances _ _).products fun _ => ?_
  exact keeps_update fun _ => rfl

theorem recordBlock_products (q : Confirm) (id : TransactionId) (swapRecordId : SwapRecordId)
    (swapId : Reference) (received : Nat) :
    KeepsProducts (recordBlock q id swapRecordId swapId received) := by
  refine keeps_bind (keeps_update fun _ => rfl) fun _ => ?_
  exact createSwap_products _ _

end SwapService

namespace SwapWebhook

theorem updateLinked_products (e : Event) (f : Transaction → Transaction) :
    KeepsProducts (updateLinked e f) := by
  unfold updateLinked
  split
  · exact keeps_update fun _ => rfl
  · exact keeps_pure ()

theorem stackReceived_vaults (e : Event) (confirmedTo : Nat) :
    KeepsVaults (stackReceived e confirmedTo) := by
  refine keeps_bind (keeps_read _) fun _ => ?_
  refine keeps_bind (keeps_read _) fun _ => keeps_ite ?_ (keeps_pure _)
  refine keeps_bind (mustUpdateWallet_onBalances _ _ _ _).products.vaults fun _ => ?_
  refine keeps_bind (OrderDone.growAutoStack_vaults _ _) fun _ => ?_
  refine keeps_bind (addInternalBalance_onBalances _ _).products.vaults fun _ => ?_
  refine keeps_bind (updateCompany_onBalances _ _ _).products.vaults fun _ => ?_
  refine keeps_bind (updateCompany_onBalances _ _ _).products.vaults fun _ => ?_
  refine keeps_bind (keeps_require _ _) fun _ => ?_
  exact keeps_bind (updateLinked_products _ _).vaults fun _ => keeps_pure _

theorem recordCredit_products (id : TransactionId) (row : Transaction) :
    KeepsProducts (recordCredit id row) := by
  refine keeps_bind (keeps_read _) fun _ => ?_
  exact keeps_onlyIf (insertTransaction_products _ _)

theorem completeBlock_vaults (cache : ConvertCurrency.DefaultNetworkCache) (e : Event)
    (confirmedFrom confirmedTo : Nat) (creditId : TransactionId) (creditReference : Reference)
    (toNetwork : Option CryptoNetwork) : KeepsVaults
      (completeBlock cache e confirmedFrom confirmedTo creditId creditReference toNetwork) := by
  refine keeps_bind (keeps_read _) fun _ => keeps_ite (keeps_pure _) ?_
  refine keeps_bind (mustUpdateWallet_onBalances _ _ _ _).products.vaults fun _ => ?_
  refine keeps_bind (restateOriginalBalance_onBalances _ _ _).products.vaults fun _ => ?_
  refine keeps_bind (subtractInternalBalance_onBalances _ _).products.vaults fun _ => ?_
  refine keeps_ite ?_ ?_
  · refine keeps_bind (updateLinked_products _ _).vaults fun _ => ?_
    refine keeps_bind (stackReceived_vaults _ _) fun _ => ?_
    exact keeps_bind (keeps_update fun _ => rfl) fun _ => keeps_pure _
  · refine keeps_bind (mustUpdateWallet_onBalances _ _ _ _).products.vaults fun _ => ?_
    refine keeps_bind (restateOriginalBalance_onBalances _ _ _).products.vaults fun _ => ?_
    refine keeps_bind (addInternalBalance_onBalances _ _).products.vaults fun _ => ?_
    refine keeps_bind (updateLinked_products _ _).vaults fun _ => ?_
    refine keeps_bind (keeps_update fun _ => rfl) fun _ => ?_
    refine keeps_bind (recordCredit_products _ _).vaults fun _ => ?_
    exact keeps_bind (releaseLiquidity_onBalances _ _).products.vaults fun _ => keeps_pure _

theorem failureBlock_products (e : Event) (isReversal : Bool) :
    KeepsProducts (failureBlock e isReversal) := by
  refine keeps_bind (releaseBalance_onBalances _ _ _ _).products fun _ => ?_
  refine keeps_bind (keeps_update fun _ => rfl) fun _ => ?_
  refine keeps_bind (updateLinked_products _ _) fun _ => ?_
  exact (releaseLiquidity_onBalances _ _).products

end SwapWebhook

/-! ### Stacks leave the vaults alone, vaults the stacks -/

namespace AutoStackService

theorem reserveCompany_products (currency : Currency) (amount : Nat) :
    KeepsProducts (reserveCompany currency amount) :=
  keeps_bind (reserveLiquidity_onBalances _ _).products fun _ => keeps_require _ _

theorem reserveBlock_products (x : Execution) (metadata : PaymentMetadata) :
    KeepsProducts (reserveBlock x metadata) := by
  refine keeps_bind (keeps_onlyIf ?_) fun _ => keeps_update fun _ => rfl
  refine keeps_bind (reserveBalance_onBalances _ _ _ _).products fun _ => ?_
  exact reserveCompany_products _ _

theorem reserveCardBlock_products (x : Execution) (metadata : PaymentMetadata)
    (companyLiquidityAmount ngnAmount : Nat) :
    KeepsProducts (reserveCardBlock x metadata companyLiquidityAmount ngnAmount) :=
  keeps_bind (keeps_onlyIf (reserveCompany_products _ _)) fun _ => keeps_update fun _ => rfl

theorem failBlock_products (x : Execution) : KeepsProducts (failBlock x) := by
  refine keeps_bind (keeps_read _) fun _ => ?_
  refine keeps_bind (keeps_onlyIf
    (keeps_swallow (releaseLiquidity_onBalances _ _).products)) fun _ => ?_
  refine keeps_bind (keeps_onlyIf
    (keeps_swallow (releaseBalance_onBalances _ _ _ _).products)) fun _ => ?_
  exact keeps_update fun _ => rfl

theorem executeUsdtBlock_vaults (cache : ConvertCurrency.DefaultNetworkCache) (x : Execution)
    (metadata : PaymentMetadata) (initial : Bool) :
    KeepsVaults (executeUsdtBlock cache x metadata initial) := by
  refine keeps_bind (keeps_read _) fun _ => ?_
  refine keeps_bind (keeps_require _ _) fun _ => ?_
  refine keeps_bind (mustUpdateWallet_onBalances _ _ _ _).products.vaults fun _ => ?_
  refine keeps_bind (mustUpdateWallet_onBalances _ _ _ _).products.vaults fun _ => ?_
  refine keeps_bind (restateOriginalBalance_onBalances _ _ _).products.vaults fun _ => ?_
  refine keeps_bind (updateCompany_onBalances _ _ _).products.vaults fun _ => ?_
  refine keeps_bind (keeps_update fun _ => rfl) fun _ => ?_
  exact keeps_update fun _ => rfl

theorem cancelBlock_vaults (x : Execution) (metadata : PaymentMetadata) :
    KeepsVaults (cancelBlock x metadata) := by
  refine keeps_bind (keeps_onlyIf (releaseLiquidity_onBalances _ _).products.vaults) fun _ => ?_
  refine keeps_bind (keeps_onlyIf
    (releaseBalance_onBalances _ _ _ _).products.vaults) fun _ => ?_
  refine keeps_bind (keeps_update fun _ => rfl) fun _ => ?_
  exact keeps_update fun _ => rfl

theorem unlockBlock_vaults (cache : ConvertCurrency.DefaultNetworkCache) (id : AutoStackId)
    (stack : AutoStack) (early : Bool) : KeepsVaults (unlockBlock cache id stack early) := by
  refine keeps_bind (keeps_read _) fun _ => ?_
  refine keeps_bind (keeps_demand _ _) fun _ => ?_
  refine keeps_bind (mustUpdateWallet_onBalances _ _ _ _).products.vaults fun _ => ?_
  refine keeps_bind (mustUpdateWallet_onBalances _ _ _ _).products.vaults fun _ => ?_
  refine keeps_bind (mustUpdateWallet_onBalances _ _ _ _).products.vaults fun _ => ?_
  refine keeps_bind (restateOriginalBalance_onBalances _ _ _).products.vaults fun _ => ?_
  refine keeps_bind (keeps_update fun _ => rfl) fun _ => ?_
  refine keeps_bind (updateCompany_onBalances _ _ _).products.vaults fun _ => ?_
  refine keeps_bind (updateCompany_onBalances _ _ _).products.vaults fun _ => ?_
  exact keeps_bind (updateCompany_onBalances _ _ _).products.vaults fun _ => keeps_pure _

theorem accrueBlock_vaults (id : AutoStackId) (userId : UserId) (due : Bool) (dailyRate : Decimal)
    (days : Nat) : KeepsVaults (accrueBlock id userId due dailyRate days) := by
  refine keeps_bind (keeps_read _) fun _ => ?_
  split
  · exact keeps_pure _
  · refine keeps_bind (keeps_update fun _ => rfl) fun _ => ?_
    refine keeps_bind (keeps_read _) fun _ => keeps_ite ?_ ?_
    · refine keeps_bind (mustUpdateWallet_onBalances _ _ _ _).products.vaults fun _ => ?_
      exact keeps_bind (updateCompany_onBalances _ _ _).products.vaults fun _ => keeps_pure _
    · exact keeps_bind (updateCompany_onBalances _ _ _).products.vaults fun _ => keeps_pure _

end AutoStackService

theorem createVault_stacks (id : VaultId) (row : Vault) : KeepsStacks (createVault id row) := by
  refine keeps_bind (keeps_read _) fun _ => ?_
  refine keeps_bind (keeps_require _ _) fun _ => ?_
  exact keeps_update fun _ => rfl

namespace VaultService

theorem confirmBtcBlock_stacks (q : Confirm) (rateConfigured : Bool) (vaultId : VaultId)
    (id : TransactionId) (swapRecordId : SwapRecordId) :
    KeepsStacks (confirmBtcBlock q rateConfigured vaultId id swapRecordId) := by
  refine keeps_bind (keeps_read _) fun _ => ?_
  refine keeps_bind (keeps_demand _ _) fun _ => ?_
  refine keeps_bind (keeps_require _ _) fun _ => ?_
  refine keeps_bind (reserveBalance_onBalances _ _ _ _).products.autoStacks fun _ => ?_
  refine keeps_bind (keeps_require _ _) fun _ => ?_
  refine keeps_bind (createVault_stacks _ _) fun _ => ?_
  refine keeps_bind (insertTransaction_products _ _).autoStacks fun _ => ?_
  exact (createSwap_products _ _).autoStacks

theorem confirmStableBlock_stacks (cache : ConvertCurrency.DefaultNetworkCache) (q : Confirm)
    (rateConfigured : Bool) (vaultId : VaultId) :
    KeepsStacks (confirmStableBlock cache q rateConfigured vaultId) := by
  refine keeps_bind (keeps_read _) fun _ => ?_
  refine keeps_bind (keeps_require _ _) fun _ => ?_
  refine keeps_bind (mustUpdateWallet_onBalances _ _ _ _).products.autoStacks fun _ => ?_
  refine keeps_bind (mustUpdateWallet_onBalances _ _ _ _).products.autoStacks fun _ => ?_
  refine keeps_bind (writeOriginalBalance_onBalances _ _ _).products.autoStacks fun _ => ?_
  refine keeps_bind (keeps_require _ _) fun _ => ?_
  refine keeps_bind (createVault_stacks _ _) fun _ => ?_
  refine keeps_bind (mustUpdateWallet_onBalances _ _ _ _).products.autoStacks fun _ => ?_
  refine keeps_bind (updateCompany_onBalances _ _ _).products.autoStacks fun _ => ?_
  exact keeps_bind (updateCompany_onBalances _ _ _).products.autoStacks fun _ => keeps_pure _

theorem recordSwapBlock_products (id : TransactionId) (swapRecordId : SwapRecordId)
    (swapId : Reference) (toAmount : Nat) :
    KeepsProducts (recordSwapBlock id swapRecordId swapId toAmount) := by
  refine keeps_bind (keeps_update fun _ => rfl) fun _ => ?_
  exact keeps_update fun _ => rfl

theorem exchangeFailedBlock_stacks (q : Confirm) (vaultId : VaultId) (id : TransactionId)
    (swapRecordId : SwapRecordId) (reservedExpectedUsdt : Nat) :
    KeepsStacks (exchangeFailedBlock q vaultId id swapRecordId reservedExpectedUsdt) := by
  refine keeps_bind (releaseBalance_onBalances _ _ _ _).products.autoStacks fun _ => ?_
  refine keeps_bind (keeps_update fun _ => rfl) fun _ => ?_
  refine keeps_bind (keeps_update fun _ => rfl) fun _ => ?_
  refine keeps_bind (keeps_update fun _ => rfl) fun _ => ?_
  exact (releaseLiquidity_onBalances _ _).products.autoStacks

theorem unlockBlock_stacks (cache : ConvertCurrency.DefaultNetworkCache) (userId : UserId)
    (vaultId : VaultId) (early : Bool) : KeepsStacks (unlockBlock cache userId vaultId early) := by
  refine keeps_bind (keeps_read _) fun _ => ?_
  refine keeps_bind (keeps_demand _ _) fun _ => ?_
  refine keeps_bind (keeps_read _) fun _ => ?_
  refine keeps_bind (keeps_demand _ _) fun _ => ?_
  refine keeps_bind (mustUpdateWallet_onBalances _ _ _ _).products.autoStacks fun _ => ?_
  refine keeps_bind (mustUpdateWallet_onBalances _ _ _ _).products.autoStacks fun _ => ?_
  refine keeps_bind (mustUpdateWallet_onBalances _ _ _ _).products.autoStacks fun _ => ?_
  refine keeps_bind (writeOriginalBalance_onBalances _ _ _).products.autoStacks fun _ => ?_
  refine keeps_bind (keeps_update fun _ => rfl) fun _ => ?_
  exact keeps_bind (releaseLockedTotals_products _ _ _).autoStacks fun _ => keeps_pure _

theorem cancelBlock_stacks (vaultId : VaultId) (vault : Vault) (swap : Option SwapTransaction) :
    KeepsStacks (cancelBlock vaultId vault swap) := by
  refine keeps_bind (keeps_update fun _ => rfl) fun _ => keeps_onlyIf ?_
  refine keeps_bind (releaseBalance_onBalances _ _ _ _).products.autoStacks fun _ => ?_
  exact (releaseLiquidity_onBalances _ _).products.autoStacks

end VaultService

theorem VaultInterestScheduler.matureBlock_stacks (cache : ConvertCurrency.DefaultNetworkCache)
    (vaultId : VaultId) (due : Bool) :
    KeepsStacks (VaultInterestScheduler.matureBlock cache vaultId due) := by
  refine keeps_bind (keeps_read _) fun _ => ?_
  split
  · exact keeps_pure _
  · refine keeps_bind (keeps_read _) fun _ => ?_
    split
    · exact keeps_pure _
    · refine keeps_bind (mustUpdateWallet_onBalances _ _ _ _).products.autoStacks fun _ => ?_
      refine keeps_bind (mustUpdateWallet_onBalances _ _ _ _).products.autoStacks fun _ => ?_
      refine keeps_bind (mustUpdateWallet_onBalances _ _ _ _).products.autoStacks fun _ => ?_
      refine keeps_bind (restateOriginalBalance_onBalances _ _ _).products.autoStacks fun _ => ?_
      refine keeps_bind (keeps_update fun _ => rfl) fun _ => ?_
      exact keeps_bind (releaseLockedTotals_products _ _ _).autoStacks fun _ => keeps_pure _

namespace SwapWebhook

theorem releaseExpectedUsdt_products (expected : Nat) :
    KeepsProducts (releaseExpectedUsdt expected) := by
  refine keeps_bind (keeps_read _) fun _ => ?_
  exact keeps_onlyIf (releaseLiquidity_onBalances _ _).products

theorem refundVault_products (linkedTx : Option (TransactionId × Transaction)) (userId : UserId)
    (isProcessed : Bool) : KeepsProducts (refundVault linkedTx userId isProcessed) := by
  unfold refundVault
  split
  · refine keeps_bind (releaseBalance_onBalances _ _ _ _).products fun _ => ?_
    exact keeps_update fun _ => rfl
  · exact keeps_pure ()

theorem completeLinked_products (linkedTx : Option (TransactionId × Transaction)) :
    KeepsProducts (completeLinked linkedTx) := by
  unfold completeLinked
  split
  · exact keeps_update fun _ => rfl
  · exact keeps_pure ()

theorem vaultFailureBlock_stacks (swapRecordId : SwapRecordId) (swap : SwapTransaction)
    (vaultId : VaultId) (swapId : Reference) (isReversal : Bool) :
    KeepsStacks (vaultFailureBlock swapRecordId swap vaultId swapId isReversal) := by
  refine keeps_bind (keeps_read _) fun _ => ?_
  split
  · exact keeps_pure _
  · refine keeps_bind (keeps_read _) fun _ => ?_
    refine keeps_bind (refundVault_products _ _ _).autoStacks fun _ => ?_
    refine keeps_bind (releaseExpectedUsdt_products _).autoStacks fun _ => ?_
    refine keeps_bind (keeps_update fun _ => rfl) fun _ => ?_
    exact keeps_update fun _ => rfl

theorem vaultCompleteBlock_stacks (cache : ConvertCurrency.DefaultNetworkCache)
    (swapRecordId : SwapRecordId) (swap : SwapTransaction) (vaultId : VaultId)
    (swapId : Reference) (received durationDays feeUnits : Nat) : KeepsStacks
      (vaultCompleteBlock cache swapRecordId swap vaultId swapId received durationDays
        feeUnits) := by
  have hshort (linkedTx : Option (TransactionId × Transaction)) (expected : Nat) :
      KeepsStacks (terminateShort swapRecordId swap vaultId linkedTx expected) := by
    refine keeps_bind (keeps_update fun _ => rfl) fun _ => ?_
    refine keeps_bind (releaseExpectedUsdt_products _).autoStacks fun _ => ?_
    refine keeps_bind (refundVault_products _ _ _).autoStacks fun _ => ?_
    exact keeps_update fun _ => rfl
  refine keeps_bind (keeps_read _) fun _ => ?_
  refine keeps_bind (keeps_read _) fun _ => keeps_ite (keeps_pure _) ?_
  refine keeps_bind (keeps_demand _ _) fun _ => keeps_ite ?_ ?_
  · exact keeps_bind (hshort _ _) fun _ => keeps_pure _
  · refine keeps_bind (keeps_read _) fun _ => ?_
    refine keeps_bind (keeps_require _ _) fun _ => ?_
    refine keeps_bind (mustUpdateWallet_onBalances _ _ _ _).products.autoStacks fun _ => ?_
    refine keeps_bind (restateOriginalBalance_onBalances _ _ _).products.autoStacks fun _ => ?_
    refine keeps_bind (subtractInternalBalance_onBalances _ _).products.autoStacks fun _ => ?_
    refine keeps_bind (mustUpdateWallet_onBalances _ _ _ _).products.autoStacks fun _ => ?_
    refine keeps_bind (mustUpdateWallet_onBalances _ _ _ _).products.autoStacks fun _ => ?_
    refine keeps_bind (mustUpdateWallet_onBalances _ _ _ _).products.autoStacks fun _ => ?_
    refine keeps_bind (restateOriginalBalance_onBalances _ _ _).products.autoStacks fun _ => ?_
    refine keeps_bind (addInternalBalance_onBalances _ _).products.autoStacks fun _ => ?_
    refine keeps_bind (releaseExpectedUsdt_products _).autoStacks fun _ => ?_
    refine keeps_bind (updateCompany_onBalances _ _ _).products.autoStacks fun _ => ?_
    refine keeps_bind (updateCompany_onBalances _ _ _).products.autoStacks fun _ => ?_
    refine keeps_bind (keeps_update fun _ => rfl) fun _ => ?_
    refine keeps_bind (completeLinked_products _).autoStacks fun _ => ?_
    exact keeps_bind (keeps_update fun _ => rfl) fun _ => keeps_pure _

end SwapWebhook

end ExchangeLedger
