import ExchangeLedger.LockedFunds

set_option autoImplicit false

/-! The company's internal balances over whole runs, against the sums over the wallets that
`InternalBalanceScheduler` would write in their place. -/

namespace ExchangeLedger

open Block

/-- What a list of movements adds to the excess of the internal balance over the aggregate: the
booked amounts less the changes of the wallets that the scheduler counts. -/
def drift (spelling : WalletKey → Option LetterCase) (currency : Currency) (ms : List Movement) :
    Int := (ms.map (Movement.gapShift spelling currency)).sum

variable {spelling : WalletKey → Option LetterCase} {currency : Currency}

@[simp] theorem drift_nil : drift spelling currency [] = 0 := rfl

@[simp] theorem drift_cons (m : Movement) (ms : List Movement) :
    drift spelling currency (m :: ms) =
      m.gapShift spelling currency + drift spelling currency ms := by
  simp [drift]

namespace Operation

def drift (currency : Currency) (L : Ledger) (op : Operation) : Int :=
  ExchangeLedger.drift L.toBooks.spelling currency (op.moved L)

theorem step_gap (op : Operation) (L : Ledger) (currency : Currency) :
    (op.step L).toBooks.gap currency = L.toBooks.gap currency + op.drift currency L := by
  obtain ⟨ms, hms, hfilter⟩ := op.step_moves L
  have hgap := (Moves.gap hms currency).2
  rw [hgap, drift, ExchangeLedger.drift, ← hfilter, sum_gapShift_essential]

theorem drift_of_moved_nil {op : Operation} {L : Ledger} (h : op.moved L = [])
    (currency : Currency) : op.drift currency L = 0 := by
  rw [drift, h]
  rfl

end Operation

/-! ### The drift of what the operations report -/

section Reports

theorem walletGap_lower {k : WalletKey} (hk : spelling k = some .lower) (currency : Currency)
    (change : Int) :
    walletGap spelling currency k change = if k.2 = currency then -change else 0 := by
  simp [walletGap, hk]

theorem drift_deposit {d : DepositSuccessful.Deposit}
    (hk : spelling (d.userId, d.currency) = some .lower) (currency : Currency) :
    drift spelling currency (DepositSuccessful.depositMovements d) = 0 := by
  simp only [DepositSuccessful.depositMovements, drift_cons, drift_nil, Movement.gapShift,
    walletGap_lower hk]
  by_cases h : d.currency = currency
  · simp only [h, if_true]
    omega
  · simp only [h, if_false]
    omega

theorem drift_buy {k : WalletKey} (hk : spelling k = some .lower) (context : TransactionContext)
    (executedCrypto : Nat) (currency : Currency) :
    drift spelling currency (OrderDone.buyMovements k context executedCrypto) = 0 := by
  unfold OrderDone.buyMovements
  split
  · simp only [drift_cons, drift_nil,
      Movement.gapShift, walletGap_lower hk]
    by_cases h : k.2 = currency
    · simp only [h, if_true]
      omega
    · simp only [h, if_false]
      omega
  · simp only [drift_cons, drift_nil,
      Movement.gapShift, walletGap_lower hk]
    by_cases h : k.2 = currency
    · simp only [h, if_true]
      omega
    · simp only [h, if_false]
      omega

theorem drift_payout {transaction : Transaction}
    (hk : spelling transaction.walletKey = some .lower) (currency : Currency) :
    drift spelling currency (PayoutStatus.payoutMovements transaction) = 0 := by
  simp only [PayoutStatus.payoutMovements, drift_cons, drift_nil, Movement.gapShift,
    walletGap_lower hk]
  simp only [Transaction.walletKey]
  by_cases h : transaction.currency = currency
  · simp only [h, if_true]
    omega
  · simp only [h, if_false]
    omega

theorem drift_withdrawal {transaction : Transaction} {withdrawal : Withdrawal}
    (hk : spelling (WithdrawalWebhook.walletOf transaction withdrawal) = some .lower)
    (currency : Currency) :
    drift spelling currency (WithdrawalWebhook.settleMovements .successful transaction withdrawal) =
      if withdrawal.currency = currency then (transaction.platformFeeBase.getD 0 : Int) else 0 := by
  simp only [WithdrawalWebhook.settleMovements, if_true, drift_cons, drift_nil, Movement.gapShift,
    walletGap_lower hk]
  simp only [WithdrawalWebhook.walletOf, WithdrawalWebhook.amountSentToProvider]
  by_cases h : withdrawal.currency = currency
  · simp only [h, if_true]
    omega
  · simp only [h, if_false]
    omega

theorem drift_swap {e : SwapWebhook.Event} (hf : spelling e.fromKey = some .lower)
    (ht : spelling e.toKey = some .lower) (confirmedFrom confirmedTo : Nat)
    (currency : Currency) :
    drift spelling currency
        (SwapWebhook.completeMovements e confirmedFrom confirmedTo .swapped) =
      if e.swap.fromCurrency = currency then (e.reservedAmount : Int) - confirmedFrom else 0 := by
  simp only [SwapWebhook.completeMovements, drift_cons, drift_nil, Movement.gapShift,
    walletGap_lower hf, walletGap_lower ht]
  simp only [SwapWebhook.Event.fromKey, SwapWebhook.Event.toKey]
  by_cases hfrom : e.swap.fromCurrency = currency <;>
    by_cases hto : e.swap.toCurrency = currency <;>
    simp only [hfrom, hto, if_true, if_false] <;> omega

/-- Locking a stablecoin vault books nothing: the charge leaves the balance, the principal and the
promised interest are counted. -/
theorem drift_vault_lock {q : VaultService.Confirm} (hk : spelling q.key = some .lower)
    (currency : Currency) :
    drift spelling currency (VaultService.confirmMovements q) =
      if q.currency = currency then (q.totalCharge : Int) - q.principal - q.expectedInterest
      else 0 := by
  simp only [VaultService.confirmMovements, drift_cons, drift_nil, Movement.gapShift,
    walletGap_lower hk]
  simp only [VaultService.Confirm.key]
  by_cases h : q.currency = currency
  · simp only [h, if_true]
    omega
  · simp only [h, if_false]
    omega

theorem drift_vault_unlock {v : Vault} (hk : spelling v.walletKey = some .lower) (early : Bool)
    (w : Wallet) (currency : Currency) :
    drift spelling currency (VaultService.unlockMovements early v w) =
      if v.currencyId = currency then
        v.totalGain - dropTo w.lockedAmount v.amountLocked - v.payout early else 0 := by
  simp only [VaultService.unlockMovements, drift_cons, drift_nil, Movement.gapShift,
    walletGap_lower hk]
  simp only [Vault.walletKey]
  by_cases h : v.currencyId = currency
  · simp only [h, if_true]
    omega
  · simp only [h, if_false]
    omega

theorem drift_vault_mature {v : Vault} (hk : spelling v.walletKey = some .lower) (w : Wallet)
    (currency : Currency) :
    drift spelling currency (VaultInterestScheduler.matureMovements v w) =
      if v.currencyId = currency then
        -dropTo w.lockedAmount v.amountLocked - dropTo w.totalLockedInterest v.totalGain -
          v.amountToReceive
      else 0 := by
  simp only [VaultInterestScheduler.matureMovements, drift_cons, drift_nil, Movement.gapShift,
    walletGap_lower hk]
  simp only [Vault.walletKey]
  by_cases h : v.currencyId = currency
  · simp only [h, if_true]
    omega
  · simp only [h, if_false]
    omega

theorem drift_vault_activation {userId : UserId} (hb : spelling (userId, .btc) = some .lower)
    (hu : spelling (userId, .usdt) = some .lower) {received charged expected gain : Nat}
    (hr : expected ≤ received) (currency : Currency) :
    drift spelling currency
        (SwapWebhook.vaultMovements userId received (.activated charged expected gain)) =
      if currency = .usdt then -(gain : Int) else 0 := by
  simp only [SwapWebhook.vaultMovements, drift_cons, drift_nil, Movement.gapShift,
    walletGap_lower hb, walletGap_lower hu]
  cases currency with
  | usdt =>
    simp
    omega
  | _ => simp

theorem drift_stack_usdt {x : AutoStackService.Execution}
    (hk : spelling (x.userId, .usdt) = some .lower) (currency : Currency) :
    drift spelling currency (AutoStackService.executeUsdtMovements x) =
      if currency = .usdt then (x.transactionFee : Int) else 0 := by
  simp only [AutoStackService.executeUsdtMovements, drift_cons, drift_nil, Movement.gapShift,
    walletGap_lower hk]
  cases currency <;> simp

theorem drift_stack_unlock {stack : AutoStack} (hk : spelling (stack.userId, .usdt) = some .lower)
    (early : Bool) (w : Wallet) (currency : Currency) :
    drift spelling currency (AutoStackService.unlockMovements stack early w) =
      if currency = .usdt then
        -AutoStackService.payout stack early - dropTo w.stackedAmount stack.amount -
          dropTo w.totalStackedInterest stack.accruedInterest
      else 0 := by
  simp only [AutoStackService.unlockMovements, drift_cons, drift_nil, Movement.gapShift,
    walletGap_lower hk]
  by_cases h : Currency.usdt = currency
  · simp only [h, if_true]
    omega
  · simp only [h, Ne.symm h, if_false]
    omega

theorem drift_loan_payout {e : OrderDone.Event} {loan : UrgentLiquidityLoan}
    {amounts : OrderDone.ExecutedAmounts}
    (hk : spelling (UrgentLiquidity.loanWallet loan) = some .lower)
    (hpos : 0 ≤ amounts.cryptoAmountBase) (currency : Currency) :
    drift spelling currency (UrgentLiquidity.payoutMovements e loan amounts) =
      if e.quoteUnit = currency then amounts.fiatAmountBase else 0 := by
  simp only [UrgentLiquidity.payoutMovements, drift_cons, drift_nil, Movement.gapShift,
    walletGap_lower hk]
  simp only [UrgentLiquidity.loanWallet]
  by_cases hc : loan.collateralAsset = currency <;> by_cases hq : e.quoteUnit = currency <;>
    simp only [hc, hq, if_true, if_false] <;> omega

end Reports

namespace Operation

variable {op : Operation} {α : Type} {x : LedgerBlock α} {report : α → List Movement} {L M : Ledger}

theorem moved_of_commits (hop : op.block = report <$> x) {a : α} (h : x.Commits L a M) :
    op.moved L = report a := by
  have hrun : op.block L = .ok (report a, M) := by
    rw [hop]
    exact commits_map.mpr ⟨a, rfl, h⟩
  simp only [moved, hrun]

theorem moved_cases (hop : op.block = report <$> x) (L : Ledger) :
    op.moved L = [] ∨ ∃ a M, x.Commits L a M ∧ op.moved L = report a := by
  cases h : op.block L with
  | error e =>
    left
    simp only [moved, h]
  | ok r =>
    right
    rw [hop] at h
    obtain ⟨a, -, ha⟩ := commits_map.mp h
    exact ⟨a, r.2, ha, moved_of_commits hop ha⟩

theorem drift_of_report (hop : op.block = report <$> x) {currency : Currency}
    (h : ∀ a, ExchangeLedger.drift L.toBooks.spelling currency (report a) = 0) :
    op.drift currency L = 0 := by
  rcases moved_cases hop L with hnone | ⟨a, M, -, hmoved⟩
  · exact drift_of_moved_nil hnone currency
  · rw [drift, hmoved, h]

end Operation

def Ledger.Counts (L : Ledger) (k : WalletKey) : Prop := L.toBooks.spelling k = some .lower

/-- What the operations on wallets that the scheduler counts add to the excess in `L`. -/
structure Drifts (currency : Currency) (L : Ledger) : Prop where
  deposit : ∀ cache d id, L.Counts (d.userId, d.currency) →
    (Operation.deposit cache d id).drift currency L = 0
  settleBuy : ∀ cache crypto fiat id transaction executedCrypto executedFiat,
    L.Counts (transaction.userId, crypto) →
    (Operation.settleBuy cache crypto fiat id transaction executedCrypto executedFiat).drift
      currency L = 0
  transferSuccess : ∀ cache id transaction, L.Counts transaction.walletKey →
    (Operation.transferSuccess cache id transaction).drift currency L = 0
  settleWithdrawal : ∀ cache id transaction withdrawalId withdrawal amountBase M,
    L.Counts (WithdrawalWebhook.walletOf transaction withdrawal) →
    (WithdrawalWebhook.settleBlock cache .successful id transaction withdrawalId withdrawal
      amountBase).Commits L () M →
    (Operation.settleWithdrawal cache .successful id transaction withdrawalId withdrawal
      amountBase).drift currency L =
        if withdrawal.currency = currency then (transaction.platformFeeBase.getD 0 : Int) else 0
  completeSwap : ∀ cache e confirmedFrom confirmedTo creditId creditReference toNetwork M,
    L.Counts e.fromKey → L.Counts e.toKey →
    (SwapWebhook.completeBlock cache e confirmedFrom confirmedTo creditId creditReference
      toNetwork).Commits L .swapped M →
    (Operation.completeSwap cache e confirmedFrom confirmedTo creditId creditReference
      toNetwork).drift currency L =
        if e.swap.fromCurrency = currency then (e.reservedAmount : Int) - confirmedFrom else 0
  lockVault : ∀ cache q rateConfigured vaultId M, L.Counts q.key →
    (VaultService.confirmStableBlock cache q rateConfigured vaultId).Commits L () M →
    (Operation.confirmStableVault cache q rateConfigured vaultId).drift currency L =
      if q.currency = currency then (q.totalCharge : Int) - q.principal - q.expectedInterest else 0
  unlockVault : ∀ cache userId vaultId early v w M, L.Counts v.walletKey →
    (VaultService.unlockBlock cache userId vaultId early).Commits L (v, w) M →
    (Operation.unlockVault cache userId vaultId early).drift currency L =
      if v.currencyId = currency then
        v.totalGain - dropTo w.lockedAmount v.amountLocked - v.payout early else 0
  matureVault : ∀ cache vaultId due v w M, L.Counts v.walletKey →
    (VaultInterestScheduler.matureBlock cache vaultId due).Commits L (some (v, w)) M →
    (Operation.matureVault cache vaultId due).drift currency L =
      if v.currencyId = currency then
        -dropTo w.lockedAmount v.amountLocked - dropTo w.totalLockedInterest v.totalGain -
          v.amountToReceive
      else 0
  activateVault : ∀ cache swapRecordId swap vaultId swapId received durationDays feeUnits charged
      expected gain M,
    L.Counts (swap.userId, .btc) → L.Counts (swap.userId, .usdt) →
    (SwapWebhook.vaultCompleteBlock cache swapRecordId swap vaultId swapId received durationDays
      feeUnits).Commits L (.activated charged expected gain) M →
    (Operation.completeVaultSwap cache swapRecordId swap vaultId swapId received durationDays
      feeUnits).drift currency L = if currency = .usdt then -(gain : Int) else 0
  executeUsdtStack : ∀ cache x metadata initial M, L.Counts (x.userId, .usdt) →
    (AutoStackService.executeUsdtBlock cache x metadata initial).Commits L () M →
    (Operation.executeUsdtStack cache x metadata initial).drift currency L =
      if currency = .usdt then (x.transactionFee : Int) else 0
  unlockStack : ∀ cache id stack early w M, L.Counts (stack.userId, .usdt) →
    (AutoStackService.unlockBlock cache id stack early).Commits L w M →
    (Operation.unlockStack cache id stack early).drift currency L =
      if currency = .usdt then
        -AutoStackService.payout stack early - dropTo w.stackedAmount stack.amount -
          dropTo w.totalStackedInterest stack.accruedInterest
      else 0
  loanPayout : ∀ cache id e transfer loan amounts M, L.Counts (UrgentLiquidity.loanWallet loan) →
    0 ≤ amounts.cryptoAmountBase →
    (UrgentLiquidity.payoutBlock cache id e transfer).Commits L (some (loan, amounts)) M →
    (Operation.loanPayout cache id e transfer).drift currency L =
      if e.quoteUnit = currency then amounts.fiatAmountBase else 0
  silent : ∀ op : Operation, op.moved L = [] → op.drift currency L = 0

theorem Operation.drifts (currency : Currency) (L : Ledger) : Drifts currency L where
  deposit _ d _ hk := by
    refine drift_of_report rfl fun done => ?_
    split
    · exact drift_deposit hk currency
    · rfl
  settleBuy _ _ _ _ _ _ _ hk := by
    refine drift_of_report rfl fun done => ?_
    split
    · exact drift_buy hk _ _ currency
    · rfl
  transferSuccess _ _ _ hk := drift_of_report rfl fun _ => drift_payout hk currency
  settleWithdrawal _ _ _ _ _ _ _ hk h := by
    rw [drift, moved_of_commits rfl h]
    exact drift_withdrawal hk currency
  completeSwap _ _ _ _ _ _ _ _ hf ht h := by
    rw [drift, moved_of_commits rfl h]
    exact drift_swap hf ht _ _ currency
  lockVault _ _ _ _ _ hk h := by
    rw [drift, moved_of_commits rfl h]
    exact drift_vault_lock hk currency
  unlockVault _ _ _ _ _ _ _ hk h := by
    rw [drift, moved_of_commits rfl h]
    exact drift_vault_unlock hk _ _ currency
  matureVault _ _ _ _ _ _ hk h := by
    rw [drift, moved_of_commits rfl h]
    exact drift_vault_mature hk _ currency
  activateVault _ _ _ _ _ _ _ _ _ _ _ _ hb hu h := by
    rcases SwapWebhook.vaultCompleteBlock_vaults h with ⟨hskipped, -⟩ |
      ⟨v, -, ⟨hterminated, -⟩ | ⟨_, hactivated, hreceived, -⟩⟩
    · cases hskipped
    · cases hterminated
    · cases hactivated
      rw [drift, moved_of_commits rfl h]
      exact drift_vault_activation hb hu hreceived currency
  executeUsdtStack _ _ _ _ _ hk h := by
    rw [drift, moved_of_commits rfl h]
    exact drift_stack_usdt hk currency
  unlockStack _ _ _ _ _ _ hk h := by
    rw [drift, moved_of_commits rfl h]
    exact drift_stack_unlock hk _ _ currency
  loanPayout _ _ _ _ _ _ _ hk hpos h := by
    rw [drift, moved_of_commits rfl h]
    exact drift_loan_payout hk hpos currency
  silent _ h := drift_of_moved_nil h currency

/-- After any run the internal balance of a currency differs from the scheduler's value by the
initial difference and the drifts of the run's operations; so the two stay equal throughout a run
exactly when no operation of it drifts, and what each kind drifts by is known. -/
theorem internalBalance_follows_wallets (L : Ledger) (ops : List Operation) (currency : Currency) :
    (Run.final Operation.step L ops).toBooks.gap currency = L.toBooks.gap currency +
        Run.accrued Operation.step (Operation.drift currency) L ops ∧
      (L.toBooks.gap currency = 0 →
        (Run.Throughout Operation.step (fun M => M.toBooks.gap currency = 0) L ops ↔
          Run.Along Operation.step (fun M op => op.drift currency M = 0) L ops)) ∧
      ∀ M, Drifts currency M := by
  refine ⟨?_, fun hL => ?_, Operation.drifts currency⟩
  · exact Run.final_shift (v := fun M : Ledger => M.toBooks.gap currency)
      (fun M op => op.step_gap M currency) L ops
  · refine Run.throughout_iff_along (P := fun M : Ledger => M.toBooks.gap currency = 0) ?_ hL
    intro M op hM
    rw [op.step_gap, hM, zero_add]

/-- User 1's empty BTC wallet and the company's BTC, with internal balances as the scheduler
leaves them. -/
def reconciled : Ledger :=
  { Ledger.empty with
    wallets := (∅ : Table WalletKey Wallet).insert (1, .btc)
      { Wallet.empty with defaultNetwork := some .btc }
    companyLiquidity := (∅ : Table Currency CompanyLiquidity).insert .btc
      { CompanyLiquidity.empty with totalBalance := 1000000 } }

/-- 990 units sent with a platform fee of 10. -/
def sendWithFee : WithdrawalService.Confirm := ⟨1, .btc, 12, 990, 0, 10, some .btc, some .btc, 6⟩

def depositAndSend : List Operation :=
  [.deposit (fun _ => none) ⟨1, .btc, 11, some .btc, 1000⟩ 1,
    .confirmSend sendWithFee 2 1,
    .settleWithdrawal (fun _ => none) .successful 2 sendWithFee.transaction 1
      (sendWithFee.withdrawal 2 true) 990]

/-- The fee of a settled withdrawal stays in the internal balance, no wallet holds it. -/
theorem withdrawal_fee_drifts :
    ¬ ∀ (L : Ledger) (ops : List Operation), (∀ currency, L.toBooks.gap currency = 0) →
      ∀ currency, (Run.final Operation.step L ops).toBooks.gap currency = 0 := by
  intro h
  have hstart : ∀ currency, reconciled.toBooks.gap currency = 0 := by
    intro currency
    cases currency <;> decide +kernel
  have hgap : (Run.final Operation.step reconciled depositAndSend).toBooks.gap .btc = 10 := by
    decide +kernel
  have hzero := h reconciled depositAndSend hstart .btc
  rw [hgap] at hzero
  cases hzero

end ExchangeLedger
