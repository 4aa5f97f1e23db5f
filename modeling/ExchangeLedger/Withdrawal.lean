import ExchangeLedger.Sell

set_option autoImplicit false

/-! Withdrawals: the blocks of `WithdrawalService` and of the withdrawal webhook. A block gets the
rows as they were read before it began. -/

namespace ExchangeLedger

open Block

/-- `withdrawal.findFirst({ where: { reference } })`. -/
def Ledger.withdrawalByReference (L : Ledger) (reference : Reference) : Option WithdrawalId :=
  (L.withdrawals.entries.find? (fun e => e.2.reference = some reference)).map (fun e => e.1)

def updateWithdrawal (id : WithdrawalId) (f : Withdrawal → Withdrawal) : LedgerBlock Unit :=
  update (fun L => { L with withdrawals := L.withdrawals.modify id f })

def createWithdrawal (id : WithdrawalId) (row : Withdrawal) : LedgerBlock Unit := do
  let existing ← read (fun L => L.withdrawals.lookup id)
  require (existing = none) (.database false)
  update (fun L => { L with withdrawals := L.withdrawals.insert id row })

theorem createWithdrawal_neutral (id : WithdrawalId) (row : Withdrawal) :
    PostsNeutral (createWithdrawal id row) := by
  refine posts_nothing_bind nothing_read fun _ => ?_
  refine posts_nothing_bind nothing_require fun _ => ?_
  exact nothing_update fun _ => rfl

namespace WithdrawalService

/-- A previewed send with the wallet's network as read for the preview. -/
structure Confirm where
  userId : UserId
  currency : Currency
  previewId : Reference
  requestedAmount : Nat
  networkFee : Nat
  platformFee : Nat
  network : Option CryptoNetwork
  walletDefaultNetwork : Option CryptoNetwork
  usdtDecimals : Nat
  deriving DecidableEq, Repr

/-- `totalDeductionBase`. -/
def Confirm.total (q : Confirm) : Nat := q.requestedAmount + q.networkFee + q.platformFee

inductive ConfirmResult where
  | duplicate | queued | reserved
  deriving DecidableEq, Repr

def Confirm.transaction (q : Confirm) : Transaction where
  userId := q.userId
  transactionContext := .WITHDRAWAL
  transactionUniqueId := q.previewId
  currency := q.currency
  letterCase := .upper
  network := q.network
  cryptoAmountBase := some q.requestedAmount
  fiatAmountBase := 0
  platformFeeBase := some q.platformFee
  totalAmountSentBase := some q.total
  executedCryptoAmountBase := none
  executedFiatAmountBase := none
  status := .PENDING
  isProcessed := false
  paymentMetadata := PaymentMetadata.empty

def Confirm.withdrawal (q : Confirm) (id : TransactionId) (reserved : Bool) : Withdrawal where
  userId := q.userId
  transactionId := some id
  reference := some q.previewId
  providerWithdrawalId := none
  currency := q.currency
  network := q.network
  status := if reserved then .PROCESSING else .PENDING

/-- The block of `confirmSend` that reserves the funds. -/
def confirmBlock (q : Confirm) (id : TransactionId) (withdrawalId : WithdrawalId) :
    LedgerBlock ConfirmResult := do
  requireMinimum q.usdtDecimals q.currency q.requestedAmount
    "Minimum transaction amount is 2 USDT"
  let existingWithdrawal ← read (fun L => L.withdrawalByReference q.previewId)
  if existingWithdrawal.isSome then return .duplicate
  else
    reserveBalance q.userId q.currency q.total (some q.walletDefaultNetwork)
    insertTransaction id q.transaction
    let companyLiquidityReserved ← reserveLiquidity q.currency q.total
    createWithdrawal withdrawalId (q.withdrawal id companyLiquidityReserved)
    if companyLiquidityReserved then return .reserved
    else
      createFailedCompanyLiquidity id q.currency q.total
      return .queued

/-- The provider took the withdrawal under its own id. -/
def recordBlock (id : TransactionId) (withdrawalId : WithdrawalId)
    (providerWithdrawalId : Reference) : LedgerBlock Unit := do
  updateTransaction id (fun t => { t with transactionUniqueId := providerWithdrawalId })
  updateWithdrawal withdrawalId (fun w => { w with
    providerWithdrawalId := some providerWithdrawalId })

/-- `compensateFailedWithdrawal`. -/
def compensateBlock (q : Confirm) (id : TransactionId) (withdrawalId : WithdrawalId) :
    LedgerBlock Unit := do
  releaseBalance q.userId q.currency q.total none
  releaseLiquidity q.currency q.total
  updateTransaction id (fun t => { t with status := .FAILED, isProcessed := false })
  updateWithdrawal withdrawalId (fun w => { w with status := .FAILED })

/-- The block of `cancelWithdrawal`. The network of the row is in upper case, and compared with the
wallet's column as it is spelled. Before the provider was called the company's part is released only
for a row in status PROCESSING, afterwards always. -/
def cancelBlock (id : TransactionId) (transaction : Transaction) (withdrawalId : WithdrawalId)
    (withdrawal : Withdrawal) : LedgerBlock Unit := do
  let wallet ← read (fun L => L.wallets.lookup (transaction.userId, transaction.currency))
  require (transaction.network = none ∨ (wallet.all (·.networkCase = .upper)) = true)
    (.thrown (transaction.currency.code ++
      " wallet network changed. Please retry this operation."))
  releaseBalance transaction.userId transaction.currency transaction.sentBase
    (some transaction.network)
  onlyIf (withdrawal.providerWithdrawalId.isSome ∨ withdrawal.status = .PROCESSING)
    (releaseLiquidity transaction.currency transaction.sentBase)
  updateWithdrawal withdrawalId (fun w => { w with status := .FAILED })
  updateTransaction id (fun t => { t with status := .FAILED, isProcessed := false })

/-! ### Movements -/

theorem confirmBlock_neutral (q : Confirm) (id : TransactionId) (withdrawalId : WithdrawalId) :
    PostsNeutral (confirmBlock q id withdrawalId) := by
  refine posts_nothing_bind nothing_require fun _ => ?_
  refine posts_nothing_bind nothing_read fun _ => ?_
  refine nothing_ite nothing_pure ?_
  refine posts_nothing_bind (reserveBalance_neutral _ _ _ _) fun _ => ?_
  refine posts_nothing_bind (insertTransaction_neutral _ _) fun _ => ?_
  refine posts_nothing_bind (reserveLiquidity_neutral _ _) fun _ => ?_
  refine posts_nothing_bind (createWithdrawal_neutral _ _) fun _ => ?_
  refine nothing_ite nothing_pure ?_
  exact posts_nothing_bind (createFailedCompanyLiquidity_neutral _ _ _) fun _ => nothing_pure

theorem recordBlock_neutral (id : TransactionId) (withdrawalId : WithdrawalId)
    (providerWithdrawalId : Reference) :
    PostsNeutral (recordBlock id withdrawalId providerWithdrawalId) := by
  refine posts_nothing_bind (nothing_update fun _ => rfl) fun _ => ?_
  exact nothing_update fun _ => rfl

theorem compensateBlock_neutral (q : Confirm) (id : TransactionId) (withdrawalId : WithdrawalId) :
    PostsNeutral (compensateBlock q id withdrawalId) := by
  refine posts_nothing_bind (releaseBalance_neutral _ _ _ _) fun _ => ?_
  refine posts_nothing_bind (releaseLiquidity_neutral _ _) fun _ => ?_
  refine posts_nothing_bind (nothing_update fun _ => rfl) fun _ => ?_
  exact nothing_update fun _ => rfl

theorem cancelBlock_neutral (id : TransactionId) (transaction : Transaction)
    (withdrawalId : WithdrawalId) (withdrawal : Withdrawal) :
    PostsNeutral (cancelBlock id transaction withdrawalId withdrawal) := by
  refine posts_nothing_bind nothing_read fun _ => ?_
  refine posts_nothing_bind nothing_require fun _ => ?_
  refine posts_nothing_bind (releaseBalance_neutral _ _ _ _) fun _ => ?_
  refine posts_nothing_bind (nothing_onlyIf (releaseLiquidity_neutral _ _)) fun _ => ?_
  refine posts_nothing_bind (nothing_update fun _ => rfl) fun _ => ?_
  exact nothing_update fun _ => rfl

end WithdrawalService

namespace WithdrawalWebhook

/-- `withdraw.successful`, or any other event, which counts as a rejection. -/
inductive Event where
  | successful | rejected
  deriving DecidableEq, Repr

/-- What a settled withdrawal sends to the provider: everything but the platform fee. -/
def amountSentToProvider (transaction : Transaction) : Int :=
  transaction.sentBase - transaction.platformFeeBase.getD 0

def walletOf (transaction : Transaction) (withdrawal : Withdrawal) : WalletKey :=
  (transaction.userId, withdrawal.currency)

def closeReservations (cache : ConvertCurrency.DefaultNetworkCache) (event : Event)
    (transaction : Transaction) (withdrawal : Withdrawal) : LedgerBlock Unit :=
  if event = .successful then do
    debitReserved (walletOf transaction withdrawal) transaction.sentBase
      (.thrown "insufficient reserved balance to finalize")
    restateOriginalBalance cache (walletOf transaction withdrawal) none
    subtractInternalBalance withdrawal.currency (amountSentToProvider transaction)
    let consumed ← consumeReservedLiquidity withdrawal.currency (amountSentToProvider transaction)
    require (consumed = true) (.thrown "Company liquidity consumption failed")
    releaseLiquidity withdrawal.currency (transaction.platformFeeBase.getD 0)
  else do
    releaseBalance transaction.userId withdrawal.currency transaction.sentBase none
    releaseLiquidity withdrawal.currency transaction.sentBase

/-- The ledger block of `handleConfirmedWithdrawal` for a user's withdrawal. -/
def settleBlock (cache : ConvertCurrency.DefaultNetworkCache) (event : Event)
    (id : TransactionId) (transaction : Transaction) (withdrawalId : WithdrawalId)
    (withdrawal : Withdrawal) (amountBase : Int) : LedgerBlock Unit := do
  let wallet ← read (fun L => L.wallets.lookup (walletOf transaction withdrawal))
  require (wallet.isSome = true) (.thrown "Wallet not found")
  updateWithdrawal withdrawalId (fun w => { w with
    status := if event = .successful then .SUCCESS else .FAILED
    currency := withdrawal.currency
    network := withdrawal.network })
  closeReservations cache event transaction withdrawal
  updateTransaction id (fun t => { t with
    status := if event = .successful then .COMPLETED else .FAILED
    isProcessed := true
    executedCryptoAmountBase := some amountBase })

/-- The handler of a ledger block that failed for good. -/
def failedBlock (withdrawalId : WithdrawalId) : LedgerBlock Unit :=
  updateWithdrawal withdrawalId (fun w => { w with status := .FAILED })

def settleMovements (event : Event) (transaction : Transaction) (withdrawal : Withdrawal) :
    List Movement :=
  if event = .successful then [.settle (walletOf transaction withdrawal) transaction.sentBase,
    .company withdrawal.currency .internalBalance (-amountSentToProvider transaction)]
  else []

theorem closeReservations_moves (cache : ConvertCurrency.DefaultNetworkCache) (event : Event)
    (transaction : Transaction) (withdrawal : Withdrawal) :
    PostsMovements (closeReservations cache event transaction withdrawal)
      (fun _ ms => ms = settleMovements event transaction withdrawal) := by
  refine posts_ite (fun hevent => ?_) fun hevent => ?_
  · refine posts_entry_bind rfl (fun _ _ _ => debitReserved_moves) fun _ => ?_
    refine posts_nothing_bind (restateOriginalBalance_neutral _ _ _) fun _ => ?_
    refine posts_entry_bind rfl (fun _ _ _ => subtractInternalBalance_moves) fun _ => ?_
    refine posts_nothing_bind (consumeReservedLiquidity_neutral _ _) fun _ => ?_
    refine posts_nothing_bind nothing_require fun _ => ?_
    exact posts_last (releaseLiquidity_neutral _ _) fun _ => by simp [settleMovements, hevent]
  · refine posts_nothing_bind (releaseBalance_neutral _ _ _ _) fun _ => ?_
    exact posts_last (releaseLiquidity_neutral _ _) fun _ => by simp [settleMovements, hevent]

theorem settleBlock_moves (cache : ConvertCurrency.DefaultNetworkCache) (event : Event)
    (id : TransactionId) (transaction : Transaction) (withdrawalId : WithdrawalId)
    (withdrawal : Withdrawal) (amountBase : Int) :
    PostsMovements (settleBlock cache event id transaction withdrawalId withdrawal amountBase)
      (fun _ ms => ms = settleMovements event transaction withdrawal) := by
  refine posts_read_bind fun L => ?_
  refine posts_nothing_bind nothing_require fun _ => ?_
  refine posts_nothing_bind (nothing_update fun _ => rfl) fun _ => ?_
  refine posts_bind (closeReservations_moves _ _ _ _) fun _ ms hms => ?_
  refine posts_last (nothing_update fun _ => ?_) fun _ => ?_
  · rfl
  · rw [hms, List.append_nil]

theorem failedBlock_neutral (withdrawalId : WithdrawalId) :
    PostsNeutral (failedBlock withdrawalId) := nothing_update fun _ => rfl

/-! ### What a settlement needs and does -/

theorem closeReservations_successful {cache : ConvertCurrency.DefaultNetworkCache}
    {transaction : Transaction} {withdrawal : Withdrawal} {L M : Ledger} {u : Unit} :
    (closeReservations cache .successful transaction withdrawal).Commits L u M ↔
      ∃ v text r, L.wallets.lookup (walletOf transaction withdrawal) = some v ∧
        ((transaction.sentBase : Int) ≤ v.baseBalance ∧
          (transaction.sentBase : Int) ≤ v.reservedBalance) ∧
        restatedText cache (v.baseBalance - transaction.sentBase) withdrawal.currency none =
          .ok text ∧
        L.companyLiquidity.lookup withdrawal.currency = some r ∧
        amountSentToProvider transaction ≤ r.internalBalance ∧
        (amountSentToProvider transaction ≤ r.reservedBalance ∧
          amountSentToProvider transaction ≤ r.totalBalance) ∧
        (transaction.platformFeeBase.getD 0 = 0 ∨
          (transaction.platformFeeBase.getD 0 : Int) ≤
            r.reservedBalance - amountSentToProvider transaction) ∧
        (L.setWallet (walletOf transaction withdrawal) { v with
          baseBalance := v.baseBalance - transaction.sentBase
          reservedBalance := v.reservedBalance - transaction.sentBase
          originalBalance := text }).setCompany withdrawal.currency { r with
            totalBalance := r.totalBalance - amountSentToProvider transaction
            reservedBalance := r.reservedBalance - amountSentToProvider transaction -
              transaction.platformFeeBase.getD 0
            internalBalance := r.internalBalance - amountSentToProvider transaction } = M := by
  simp only [closeReservations, if_true, debitReserved, commits_bind, mustUpdateWallet_commits,
    restateOriginalBalance_commits, subtractInternalBalance_commits,
    consumeReservedLiquidity_commits, commits_require, releaseLiquidity_commits]
  constructor
  · rintro ⟨_, _, ⟨v, hv, hle, rfl⟩, _, _, hrestate, _, _, ⟨r, hr, hint, rfl⟩, consumed, _,
      hconsume, _, _, ⟨rfl, rfl⟩, hrelease⟩
    rcases hrestate with ⟨hnone, -⟩ | ⟨v₁, text, hv₁, htext, rfl⟩
    · simp at hnone
    · rcases hconsume with ⟨r₁, hr₁, hpart, -, rfl⟩ | ⟨-, hfalse, -⟩
      · simp only [Ledger.setWallet_wallets, AList.lookup_insert, Option.some.injEq] at hv₁
        subst hv₁
        simp only [Ledger.setWallet_companyLiquidity] at hr
        simp only [Ledger.setCompany_companyLiquidity, AList.lookup_insert,
          Option.some.injEq] at hr₁
        subst hr₁
        refine ⟨v, text, r, hv, hle, htext, hr, hint, hpart, ?_, ?_⟩
        · rcases hrelease with ⟨h0, -⟩ | ⟨-, r₂, hr₂, hfee, -⟩
          · exact .inl h0
          · simp only [Ledger.setCompany_companyLiquidity, AList.lookup_insert,
              Option.some.injEq] at hr₂
            subst hr₂
            exact .inr hfee
        · rcases hrelease with ⟨h0, rfl⟩ | ⟨-, r₂, hr₂, -, rfl⟩
          · simp [Ledger.setWallet, Ledger.setCompany, AList.insert_insert, h0]
          · simp only [Ledger.setCompany_companyLiquidity, AList.lookup_insert,
              Option.some.injEq] at hr₂
            subst hr₂
            simp [Ledger.setWallet, Ledger.setCompany, AList.insert_insert]
      · cases hfalse
  · rintro ⟨v, text, r, hv, hle, htext, hr, hint, hpart, hfee, rfl⟩
    refine ⟨(), _, ⟨v, hv, hle, rfl⟩, (), _, .inr ⟨_, text, AList.lookup_insert _, htext, rfl⟩,
      (), _, ⟨r, hr, hint, rfl⟩, true, _, .inl ⟨_, AList.lookup_insert _, hpart, rfl, rfl⟩,
      (), _, ⟨rfl, rfl⟩, ?_⟩
    by_cases h0 : transaction.platformFeeBase.getD 0 = 0
    · refine .inl ⟨h0, ?_⟩
      simp [Ledger.setWallet, Ledger.setCompany, AList.insert_insert, h0]
    · refine .inr ⟨h0, _, AList.lookup_insert _, hfee.resolve_left h0, ?_⟩
      simp [Ledger.setWallet, Ledger.setCompany, AList.insert_insert]

theorem closeReservations_rejected {cache : ConvertCurrency.DefaultNetworkCache}
    {transaction : Transaction} {withdrawal : Withdrawal} {L M : Ledger} {u : Unit} :
    (closeReservations cache .rejected transaction withdrawal).Commits L u M ↔
      ∃ v A, L.wallets.lookup (walletOf transaction withdrawal) = some v ∧
        (transaction.sentBase : Int) ≤ v.reservedBalance ∧
        L.setWallet (walletOf transaction withdrawal) { v with
          reservedBalance := v.reservedBalance - transaction.sentBase } = A ∧
        (releaseLiquidity withdrawal.currency transaction.sentBase).Commits A u M := by
  simp only [closeReservations, reduceCtorEq, if_false, commits_bind, releaseBalance_commits]
  constructor
  · rintro ⟨_, A, ⟨v, hv, -, hle, rfl⟩, hrelease⟩
    exact ⟨v, _, hv, hle, rfl, hrelease⟩
  · rintro ⟨v, A, hv, hle, rfl, hrelease⟩
    exact ⟨(), _, ⟨v, hv, .inl rfl, hle, rfl⟩, hrelease⟩

end WithdrawalWebhook

end ExchangeLedger
