import ExchangeLedger.AutoStack
import ExchangeLedger.Credit
import ExchangeLedger.FailedLiquidity
import ExchangeLedger.Loan
import ExchangeLedger.Vault

set_option autoImplicit false

/-! The operations of the exchange: every database block of its flows as one step of a run. -/

namespace ExchangeLedger

open Block ConvertCurrency

inductive Operation where
  -- buys
  | confirmBuy (q : BuyService.Confirm) (id : TransactionId)
  | settleBuy (cache : DefaultNetworkCache) (crypto fiat : Currency) (id : TransactionId)
      (transaction : Transaction) (executedCrypto executedFiat : Nat)
  | failBuy (fiat : Currency) (id : TransactionId) (transaction : Transaction)
  -- sells
  | confirmSell (q : SellService.Confirm) (id : TransactionId)
  | queueSell (q : SellService.Confirm) (id : TransactionId)
  | rejectSell (q : SellService.Confirm) (id : TransactionId)
  | recordSell (id : TransactionId) (providerReference : Option Reference)
  | failOrder (isBuy : Bool) (crypto fiat : Currency) (id : TransactionId)
      (transaction : Transaction)
  | missingBankDetails (crypto fiat : Currency) (id : TransactionId) (transaction : Transaction)
  | addProceeds (fiat : Currency) (id : TransactionId) (amounts : OrderDone.ExecutedAmounts)
  | payoutInitiated (id : TransactionId) (amounts : OrderDone.ExecutedAmounts)
      (metadata : PaymentMetadata) (payoutReference : Reference)
  | payoutFailed (id : TransactionId) (metadata : PaymentMetadata)
  | transferSuccess (cache : DefaultNetworkCache) (id : TransactionId) (transaction : Transaction)
  | transferFailure (id : TransactionId) (transaction : Transaction)
  -- deposits and loans
  | deposit (cache : DefaultNetworkCache) (d : DepositSuccessful.Deposit) (id : TransactionId)
  | loanPayout (cache : DefaultNetworkCache) (id : LoanId) (e : OrderDone.Event)
      (transfer : Option Reference)
  | loanSaleFailed (id : LoanId)
  | loanTransferSuccess (id : LoanId)
  | loanTransferFailure (id : LoanId)
  -- withdrawals
  | confirmSend (q : WithdrawalService.Confirm) (id : TransactionId) (withdrawalId : WithdrawalId)
  | recordSend (id : TransactionId) (withdrawalId : WithdrawalId)
      (providerWithdrawalId : Reference)
  | compensateSend (q : WithdrawalService.Confirm) (id : TransactionId)
      (withdrawalId : WithdrawalId)
  | cancelWithdrawal (id : TransactionId) (transaction : Transaction)
      (withdrawalId : WithdrawalId) (withdrawal : Withdrawal)
  | settleWithdrawal (cache : DefaultNetworkCache) (event : WithdrawalWebhook.Event)
      (id : TransactionId) (transaction : Transaction) (withdrawalId : WithdrawalId)
      (withdrawal : Withdrawal) (amountBase : Int)
  | failWithdrawal (withdrawalId : WithdrawalId)
  -- requests queued for liquidity
  | expire (id : TransactionId) (transaction : Transaction)
  | deleteRecord (id : TransactionId)
  | reserveCompany (currency : Currency) (amount : Nat)
  | releaseCompany (currency : Currency) (amount : Nat)
  | resumeSell (id : TransactionId) (providerReference : Reference)
  | resumeSwap (swapRecordId : SwapRecordId) (swapId : Reference)
  | resumeWithdrawal (id : TransactionId) (withdrawalId : WithdrawalId)
      (providerWithdrawalId : Reference)
  | resumeBuy (id : TransactionId) (transaction : Transaction)
  -- swaps
  | confirmSwap (q : SwapService.Confirm) (id : TransactionId)
  | releaseSwap (q : SwapService.Confirm) (id : TransactionId)
  | recordSwap (q : SwapService.Confirm) (id : TransactionId) (swapRecordId : SwapRecordId)
      (swapId : Reference) (received : Nat)
  | completeSwap (cache : DefaultNetworkCache) (e : SwapWebhook.Event)
      (confirmedFrom confirmedTo : Nat) (creditId : TransactionId) (creditReference : Reference)
      (toNetwork : Option CryptoNetwork)
  | failSwap (e : SwapWebhook.Event) (isReversal : Bool)
  -- vaults
  | confirmBtcVault (q : VaultService.Confirm) (rateConfigured : Bool) (vaultId : VaultId)
      (id : TransactionId) (swapRecordId : SwapRecordId)
  | confirmStableVault (cache : DefaultNetworkCache) (q : VaultService.Confirm)
      (rateConfigured : Bool) (vaultId : VaultId)
  | recordVaultSwap (id : TransactionId) (swapRecordId : SwapRecordId) (swapId : Reference)
      (toAmount : Nat)
  | vaultExchangeFailed (q : VaultService.Confirm) (vaultId : VaultId) (id : TransactionId)
      (swapRecordId : SwapRecordId) (reservedExpectedUsdt : Nat)
  | unlockVault (cache : DefaultNetworkCache) (userId : UserId) (vaultId : VaultId) (early : Bool)
  | cancelVault (vaultId : VaultId) (vault : Vault) (swap : Option SwapTransaction)
  | matureVault (cache : DefaultNetworkCache) (vaultId : VaultId) (due : Bool)
  | completeVaultSwap (cache : DefaultNetworkCache) (swapRecordId : SwapRecordId)
      (swap : SwapTransaction) (vaultId : VaultId) (swapId : Reference)
      (received durationDays feeUnits : Nat)
  | failVaultSwap (swapRecordId : SwapRecordId) (swap : SwapTransaction) (vaultId : VaultId)
      (swapId : Reference) (isReversal : Bool)
  -- autostacks
  | reserveStack (x : AutoStackService.Execution) (metadata : PaymentMetadata)
  | reserveCardStack (x : AutoStackService.Execution) (metadata : PaymentMetadata)
      (companyLiquidityAmount ngnAmount : Nat)
  | executeUsdtStack (cache : DefaultNetworkCache) (x : AutoStackService.Execution)
      (metadata : PaymentMetadata) (initial : Bool)
  | submitStack (x : AutoStackService.Execution) (swapRecordId : SwapRecordId) (swapId : Reference)
  | failStack (x : AutoStackService.Execution)
  | cancelStack (x : AutoStackService.Execution) (metadata : PaymentMetadata)
  | unlockStack (cache : DefaultNetworkCache) (id : AutoStackId) (stack : AutoStack) (early : Bool)
  | accrueStack (id : AutoStackId) (userId : UserId) (due : Bool) (dailyRate : Decimal)
      (days : Nat)

/-- A block that moves neither holdings nor internal balances, whatever its result. -/
def neutrally {α : Type} (x : LedgerBlock α) : LedgerBlock (List Movement) := (fun _ => []) <$> x

/-- The block of an operation, reporting what it moved of holdings and internal balances. -/
def Operation.block : Operation → LedgerBlock (List Movement)
  | .confirmBuy q id => neutrally (BuyService.confirmBlock q id)
  | .settleBuy cache crypto fiat id transaction executedCrypto executedFiat =>
    (fun done => if done then OrderDone.buyMovements (transaction.userId, crypto)
        transaction.transactionContext executedCrypto else []) <$>
      OrderDone.buyBlock cache crypto fiat id transaction executedCrypto executedFiat
  | .failBuy fiat id transaction => neutrally (OrderDone.buyFailureBlock fiat id transaction)
  | .confirmSell q id => neutrally (SellService.confirmBlock q id)
  | .queueSell q id => neutrally (SellService.paystackShortBlock q id)
  | .rejectSell q id => neutrally (SellService.rejectedBlock q id)
  | .recordSell id providerReference => neutrally (SellService.recordBlock id providerReference)
  | .failOrder isBuy crypto fiat id transaction =>
    neutrally (OrderDone.failOrderBlock isBuy crypto fiat id transaction)
  | .missingBankDetails crypto fiat id transaction =>
    neutrally (OrderDone.missingBankDetailsBlock crypto fiat id transaction)
  | .addProceeds fiat id amounts => neutrally (OrderDone.proceedsBlock fiat id amounts)
  | .payoutInitiated id amounts metadata payoutReference =>
    neutrally (OrderDone.payoutInitiatedBlock id amounts metadata payoutReference)
  | .payoutFailed id metadata => neutrally (OrderDone.payoutFailedBlock id metadata)
  | .transferSuccess cache id transaction =>
    (fun _ => PayoutStatus.payoutMovements transaction) <$>
      PayoutStatus.transferSuccessBlock cache id transaction
  | .transferFailure id transaction =>
    neutrally (PayoutStatus.transferFailureBlock id transaction)
  | .deposit cache d id =>
    (fun done => if done then DepositSuccessful.depositMovements d else []) <$>
      DepositSuccessful.depositBlock cache d id
  | .loanPayout cache id e transfer =>
    (fun paid => paid.elim [] (fun p => UrgentLiquidity.payoutMovements e p.1 p.2)) <$>
      UrgentLiquidity.payoutBlock cache id e transfer
  | .loanSaleFailed id => neutrally (UrgentLiquidity.saleFailedBlock id)
  | .loanTransferSuccess id => neutrally (PayoutStatus.loanTransferSuccessBlock id)
  | .loanTransferFailure id => neutrally (PayoutStatus.loanTransferFailureBlock id)
  | .confirmSend q id withdrawalId =>
    neutrally (WithdrawalService.confirmBlock q id withdrawalId)
  | .recordSend id withdrawalId providerWithdrawalId =>
    neutrally (WithdrawalService.recordBlock id withdrawalId providerWithdrawalId)
  | .compensateSend q id withdrawalId =>
    neutrally (WithdrawalService.compensateBlock q id withdrawalId)
  | .cancelWithdrawal id transaction withdrawalId withdrawal =>
    neutrally (WithdrawalService.cancelBlock id transaction withdrawalId withdrawal)
  | .settleWithdrawal cache event id transaction withdrawalId withdrawal amountBase =>
    (fun _ => WithdrawalWebhook.settleMovements event transaction withdrawal) <$>
      WithdrawalWebhook.settleBlock cache event id transaction withdrawalId withdrawal amountBase
  | .failWithdrawal withdrawalId => neutrally (WithdrawalWebhook.failedBlock withdrawalId)
  | .expire id transaction => neutrally (FailedCompanyLiquidity.expireBlock id transaction)
  | .deleteRecord id => neutrally (FailedCompanyLiquidity.deleteRecord id)
  | .reserveCompany currency amount => neutrally (reserveLiquidity currency amount)
  | .releaseCompany currency amount => neutrally (releaseLiquidity currency amount)
  | .resumeSell id providerReference =>
    neutrally (FailedCompanyLiquidity.resumeSellBlock id providerReference)
  | .resumeSwap swapRecordId swapId =>
    neutrally (FailedCompanyLiquidity.resumeSwapBlock swapRecordId swapId)
  | .resumeWithdrawal id withdrawalId providerWithdrawalId =>
    neutrally (FailedCompanyLiquidity.resumeWithdrawalBlock id withdrawalId providerWithdrawalId)
  | .resumeBuy id transaction => neutrally (FailedCompanyLiquidity.resumeBuyBlock id transaction)
  | .confirmSwap q id => neutrally (SwapService.confirmBlock q id)
  | .releaseSwap q id => neutrally (SwapService.releaseBlock q id)
  | .recordSwap q id swapRecordId swapId received =>
    neutrally (SwapService.recordBlock q id swapRecordId swapId received)
  | .completeSwap cache e confirmedFrom confirmedTo creditId creditReference toNetwork =>
    SwapWebhook.completeMovements e confirmedFrom confirmedTo <$>
      SwapWebhook.completeBlock cache e confirmedFrom confirmedTo creditId creditReference toNetwork
  | .failSwap e isReversal => neutrally (SwapWebhook.failureBlock e isReversal)
  | .confirmBtcVault q rateConfigured vaultId id swapRecordId =>
    neutrally (VaultService.confirmBtcBlock q rateConfigured vaultId id swapRecordId)
  | .confirmStableVault cache q rateConfigured vaultId =>
    (fun _ => VaultService.confirmMovements q) <$>
      VaultService.confirmStableBlock cache q rateConfigured vaultId
  | .recordVaultSwap id swapRecordId swapId toAmount =>
    neutrally (VaultService.recordSwapBlock id swapRecordId swapId toAmount)
  | .vaultExchangeFailed q vaultId id swapRecordId reservedExpectedUsdt =>
    neutrally (VaultService.exchangeFailedBlock q vaultId id swapRecordId reservedExpectedUsdt)
  | .unlockVault cache userId vaultId early =>
    (fun r => VaultService.unlockMovements early r.1 r.2) <$>
      VaultService.unlockBlock cache userId vaultId early
  | .cancelVault vaultId vault swap => neutrally (VaultService.cancelBlock vaultId vault swap)
  | .matureVault cache vaultId due =>
    (fun r => r.elim [] (fun p => VaultInterestScheduler.matureMovements p.1 p.2)) <$>
      VaultInterestScheduler.matureBlock cache vaultId due
  | .completeVaultSwap cache swapRecordId swap vaultId swapId received durationDays feeUnits =>
    SwapWebhook.vaultMovements swap.userId received <$>
      SwapWebhook.vaultCompleteBlock cache swapRecordId swap vaultId swapId received durationDays
        feeUnits
  | .failVaultSwap swapRecordId swap vaultId swapId isReversal =>
    neutrally (SwapWebhook.vaultFailureBlock swapRecordId swap vaultId swapId isReversal)
  | .reserveStack x metadata => neutrally (AutoStackService.reserveBlock x metadata)
  | .reserveCardStack x metadata companyLiquidityAmount ngnAmount =>
    neutrally (AutoStackService.reserveCardBlock x metadata companyLiquidityAmount ngnAmount)
  | .executeUsdtStack cache x metadata initial =>
    (fun _ => AutoStackService.executeUsdtMovements x) <$>
      AutoStackService.executeUsdtBlock cache x metadata initial
  | .submitStack x swapRecordId swapId =>
    neutrally (AutoStackService.submitBlock x swapRecordId swapId)
  | .failStack x => neutrally (AutoStackService.failBlock x)
  | .cancelStack x metadata => neutrally (AutoStackService.cancelBlock x metadata)
  | .unlockStack cache id stack early =>
    AutoStackService.unlockMovements stack early <$>
      AutoStackService.unlockBlock cache id stack early
  | .accrueStack id userId due dailyRate days =>
    AutoStackService.accrueMovements userId <$>
      AutoStackService.accrueBlock id userId due dailyRate days

theorem posts_neutrally {α : Type} {x : LedgerBlock α} (hx : PostsNeutral x) :
    PostsMovements (neutrally x) (fun r ms => ms = r) :=
  posts_map hx (fun _ _ h => h)

/-- A block that moves what its result says reports just that. -/
theorem posts_report {α : Type} {x : LedgerBlock α} {report : α → List Movement}
    (hx : PostsMovements x (fun a ms => ms = report a)) :
    PostsMovements (report <$> x) (fun r ms => ms = r) :=
  posts_map hx (fun _ _ h => h)

namespace Operation

/-- Every block moves what it reports. -/
theorem block_moves (op : Operation) : PostsMovements op.block (fun r ms => ms = r) := by
  cases op with
  | confirmBuy => exact posts_neutrally (BuyService.confirmBlock_neutral _ _)
  | settleBuy => exact posts_report (OrderDone.buyBlock_moves _ _ _ _ _ _ _)
  | failBuy => exact posts_neutrally (OrderDone.buyFailureBlock_neutral _ _ _)
  | confirmSell => exact posts_neutrally (SellService.confirmBlock_neutral _ _)
  | queueSell => exact posts_neutrally (SellService.paystackShortBlock_neutral _ _)
  | rejectSell => exact posts_neutrally (SellService.rejectedBlock_neutral _ _)
  | recordSell => exact posts_neutrally (nothing_update fun _ => rfl)
  | failOrder => exact posts_neutrally (OrderDone.failOrderBlock_neutral _ _ _ _ _)
  | missingBankDetails =>
    exact posts_neutrally (OrderDone.missingBankDetailsBlock_neutral _ _ _ _)
  | addProceeds => exact posts_neutrally (OrderDone.proceedsBlock_neutral _ _ _)
  | payoutInitiated => exact posts_neutrally (OrderDone.payoutInitiatedBlock_neutral _ _ _ _)
  | payoutFailed => exact posts_neutrally (OrderDone.payoutFailedBlock_neutral _ _)
  | transferSuccess => exact posts_report (PayoutStatus.transferSuccessBlock_moves _ _ _)
  | transferFailure => exact posts_neutrally (PayoutStatus.transferFailureBlock_neutral _ _)
  | deposit => exact posts_report (DepositSuccessful.depositBlock_moves _ _ _)
  | loanPayout => exact posts_report (UrgentLiquidity.payoutBlock_moves _ _ _ _)
  | loanSaleFailed => exact posts_neutrally (UrgentLiquidity.saleFailedBlock_neutral _)
  | loanTransferSuccess =>
    exact posts_neutrally (PayoutStatus.loanTransferSuccessBlock_neutral _)
  | loanTransferFailure =>
    exact posts_neutrally (PayoutStatus.loanTransferFailureBlock_neutral _)
  | confirmSend => exact posts_neutrally (WithdrawalService.confirmBlock_neutral _ _ _)
  | recordSend => exact posts_neutrally (WithdrawalService.recordBlock_neutral _ _ _)
  | compensateSend => exact posts_neutrally (WithdrawalService.compensateBlock_neutral _ _ _)
  | cancelWithdrawal => exact posts_neutrally (WithdrawalService.cancelBlock_neutral _ _ _ _)
  | settleWithdrawal => exact posts_report (WithdrawalWebhook.settleBlock_moves _ _ _ _ _ _ _)
  | failWithdrawal => exact posts_neutrally (WithdrawalWebhook.failedBlock_neutral _)
  | expire => exact posts_neutrally (FailedCompanyLiquidity.expireBlock_neutral _ _)
  | deleteRecord => exact posts_neutrally (FailedCompanyLiquidity.deleteRecord_neutral _)
  | reserveCompany => exact posts_neutrally (reserveLiquidity_neutral _ _)
  | releaseCompany => exact posts_neutrally (releaseLiquidity_neutral _ _)
  | resumeSell => exact posts_neutrally (FailedCompanyLiquidity.resumeSellBlock_neutral _ _)
  | resumeSwap => exact posts_neutrally (FailedCompanyLiquidity.resumeSwapBlock_neutral _ _)
  | resumeWithdrawal =>
    exact posts_neutrally (FailedCompanyLiquidity.resumeWithdrawalBlock_neutral _ _ _)
  | resumeBuy => exact posts_neutrally (FailedCompanyLiquidity.resumeBuyBlock_neutral _ _)
  | confirmSwap => exact posts_neutrally (SwapService.confirmBlock_neutral _ _)
  | releaseSwap => exact posts_neutrally (SwapService.releaseBlock_neutral _ _)
  | recordSwap => exact posts_neutrally (SwapService.recordBlock_neutral _ _ _ _ _)
  | completeSwap => exact posts_report (SwapWebhook.completeBlock_moves _ _ _ _ _ _ _)
  | failSwap => exact posts_neutrally (SwapWebhook.failureBlock_neutral _ _)
  | confirmBtcVault => exact posts_neutrally (VaultService.confirmBtcBlock_neutral _ _ _ _ _)
  | confirmStableVault => exact posts_report (VaultService.confirmStableBlock_moves _ _ _ _)
  | recordVaultSwap => exact posts_neutrally (VaultService.recordSwapBlock_neutral _ _ _ _)
  | vaultExchangeFailed =>
    exact posts_neutrally (VaultService.exchangeFailedBlock_neutral _ _ _ _ _)
  | unlockVault => exact posts_report (VaultService.unlockBlock_moves _ _ _ _)
  | cancelVault => exact posts_neutrally (VaultService.cancelBlock_neutral _ _ _)
  | matureVault => exact posts_report (VaultInterestScheduler.matureBlock_moves _ _ _)
  | completeVaultSwap =>
    exact posts_report (SwapWebhook.vaultCompleteBlock_moves _ _ _ _ _ _ _ _)
  | failVaultSwap => exact posts_neutrally (SwapWebhook.vaultFailureBlock_neutral _ _ _ _ _)
  | reserveStack => exact posts_neutrally (AutoStackService.reserveBlock_neutral _ _)
  | reserveCardStack => exact posts_neutrally (AutoStackService.reserveCardBlock_neutral _ _ _ _)
  | executeUsdtStack => exact posts_report (AutoStackService.executeUsdtBlock_moves _ _ _ _)
  | submitStack => exact posts_neutrally (AutoStackService.submitBlock_neutral _ _ _)
  | failStack => exact posts_neutrally (AutoStackService.failBlock_neutral _)
  | cancelStack => exact posts_neutrally (AutoStackService.cancelBlock_neutral _ _)
  | unlockStack => exact posts_report (AutoStackService.unlockBlock_moves _ _ _ _)
  | accrueStack => exact posts_report (AutoStackService.accrueBlock_moves _ _ _ _ _)

/-- One operation as an atomic step; a block that throws is rolled back. -/
def step (op : Operation) (L : Ledger) : Ledger := op.block.commit L

/-- What the step of an operation moves of holdings and internal balances. -/
def moved (op : Operation) (L : Ledger) : List Movement :=
  match op.block L with
  | .ok (ms, _) => ms
  | .error _ => []

theorem step_moves (op : Operation) (L : Ledger) :
    ∃ ms, Moves ms L.toBooks (op.step L).toBooks ∧ ms.filter Movement.essential = op.moved L := by
  unfold step moved commit
  cases h : op.block L with
  | error e => exact ⟨[], .nil _, rfl⟩
  | ok r =>
    obtain ⟨ms, M⟩ := r
    exact op.block_moves L ms M h

end Operation

end ExchangeLedger
