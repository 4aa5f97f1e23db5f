import ExchangeLedger.Swap

set_option autoImplicit false

/-! Vaults: the blocks of `VaultService`, of the swap webhook for BTC vaults and of the maturity
scheduler. -/

namespace ExchangeLedger

open Block

def updateVault (id : VaultId) (f : Vault → Vault) : LedgerBlock Unit :=
  update (fun L => { L with vaults := L.vaults.modify id f })

def createVault (id : VaultId) (row : Vault) : LedgerBlock Unit := do
  let existing ← read (fun L => L.vaults.lookup id)
  require (existing = none) (.database false)
  update (fun L => { L with vaults := L.vaults.insert id row })

/-- `wallet.findFirst({ where: { userId, currencyId } })`: a wallet's `currencyId`, once set, is
that of its own currency. -/
def Ledger.walletByCurrencyId (L : Ledger) (userId : UserId) (currencyId : Currency) :
    Option Wallet :=
  (L.wallets.lookup (userId, currencyId)).filter (fun w => w.currencyId = some currencyId)

theorem createVault_neutral (id : VaultId) (row : Vault) : PostsNeutral (createVault id row) := by
  refine posts_nothing_bind nothing_read fun _ => ?_
  refine posts_nothing_bind nothing_require fun _ => ?_
  exact nothing_update fun _ => rfl

namespace Vault

/-- The interest on `principal` at a yearly rate in percent, rounded down. -/
def gain (principal : Nat) (rate : Decimal) (durationDays : Nat) : Nat :=
  (((Decimal.mul (Decimal.mul ⟨principal, 0⟩ rate) ⟨durationDays, 0⟩).divNat 36500).floor).toNat

/-- `feeUnits` is `floor(VAULT_TRANSACTION_FEE * 10000)`. -/
def fee (feeUnits payoutBeforeFee : Nat) : Nat := payoutBeforeFee * feeUnits / 1000000

def earlyTerminationPenalty (v : Vault) : Nat := v.amountLocked * 5 / 100

def payout (v : Vault) (early : Bool) : Nat :=
  if early then v.amountLocked - v.earlyTerminationPenalty else v.amountToReceive

def interestReceived (v : Vault) (early : Bool) : Nat :=
  if early then 0 else v.amountToReceive - v.amountLocked

def walletKey (v : Vault) : WalletKey := (v.userId, v.currencyId)

end Vault

/-- The company's record of a vault that is paid out; only stablecoins have one. -/
def releaseLockedTotals (currency : Currency) (v : Vault) (paid : Nat) : LedgerBlock Unit :=
  onlyIf (currency = .usdt ∨ currency = .usdc) (do
    let _ ← lowerCompany currency .totalLockedPrincipal v.amountLocked
    let _ ← lowerCompany currency .totalAccruedLockedInterest v.totalGain
    let _ ← shiftCompany currency .totalLockedInterestPaid paid
    return ())

theorem releaseLockedTotals_neutral (currency : Currency) (v : Vault) (paid : Nat) :
    PostsNeutral (releaseLockedTotals currency v paid) := by
  refine nothing_onlyIf ?_
  refine posts_nothing_bind (lowerCompany_neutral (by decide) _ _) fun _ => ?_
  refine posts_nothing_bind (lowerCompany_neutral (by decide) _ _) fun _ => ?_
  refine posts_nothing_bind (shiftCompany_neutral (by decide) _ _) fun _ => ?_
  exact nothing_pure

namespace VaultService

/-- A previewed vault. -/
structure Confirm where
  userId : UserId
  currency : Currency
  quoteId : Reference
  principal : Nat
  bufferAmount : Nat
  interestRatePerAnum : Decimal
  expectedInterest : Nat
  transactionFee : Nat
  amountToReceive : Nat
  deriving DecidableEq, Repr

def Confirm.totalCharge (q : Confirm) : Nat := q.principal + q.bufferAmount

def Confirm.key (q : Confirm) : WalletKey := (q.userId, q.currency)

def Confirm.vault (q : Confirm) : Vault where
  userId := q.userId
  currencyId := q.currency
  amountLocked := q.principal
  bufferAmount := q.bufferAmount
  totalGain := q.expectedInterest
  interestRatePerAnum := q.interestRatePerAnum
  transactionFee := q.transactionFee
  amountToReceive := q.amountToReceive
  status := if q.currency = .btc then .PENDING else .ACTIVE

def Confirm.transaction (q : Confirm) (network : Option CryptoNetwork) : Transaction where
  userId := q.userId
  transactionContext := .VAULT_SWAP
  transactionUniqueId := q.quoteId
  currency := .btc
  letterCase := .upper
  network := network
  cryptoAmountBase := some q.principal
  fiatAmountBase := 0
  platformFeeBase := some q.bufferAmount
  totalAmountSentBase := some q.totalCharge
  executedCryptoAmountBase := none
  executedFiatAmountBase := none
  status := .PENDING
  isProcessed := false
  paymentMetadata := PaymentMetadata.empty

def Confirm.swap (q : Confirm) (vaultId : VaultId) : SwapTransaction where
  userId := q.userId
  fromCurrency := .btc
  toCurrency := .usdt
  quoteId := some q.quoteId
  swapId := none
  toAmountOriginal := none
  status := .PENDING
  vaultId := some vaultId

/-- The first block of `confirmVault` for BTC: the charge is reserved until the swap is done. -/
def confirmBtcBlock (q : Confirm) (rateConfigured : Bool) (vaultId : VaultId)
    (id : TransactionId) (swapRecordId : SwapRecordId) : LedgerBlock Unit := do
  let found ← read (fun L => L.walletByCurrencyId q.userId q.currency)
  let wallet ← demand found (.thrown "Wallet not found")
  require ((q.totalCharge : Int) ≤ wallet.baseBalance - wallet.reservedBalance)
    (.thrown "Insufficient balance")
  reserveBalance q.userId .btc q.totalCharge none
  require (rateConfigured = true) (.thrown "Interest rate not configured for this currency")
  createVault vaultId q.vault
  insertTransaction id (q.transaction wallet.defaultNetwork)
  createSwap swapRecordId (q.swap vaultId)

/-- The block of `confirmVault` for a stablecoin: the charge is taken and locked at once. -/
def confirmStableBlock (cache : ConvertCurrency.DefaultNetworkCache) (q : Confirm)
    (rateConfigured : Bool) (vaultId : VaultId) : LedgerBlock Unit := do
  let found ← read (fun L => L.walletByCurrencyId q.userId q.currency)
  require (found.isSome = true) (.thrown "Wallet not found")
  spendWallet q.key q.totalCharge (.thrown "Insufficient balance")
  holdWallet q.key .lockedAmount q.principal (.thrown "Wallet not found")
  writeOriginalBalance cache q.key none
  require (rateConfigured = true) (.thrown "Interest rate not configured for this currency")
  createVault vaultId q.vault
  holdWallet q.key .totalLockedInterest q.expectedInterest (.thrown "Wallet not found")
  let _ ← shiftCompany q.currency .totalLockedPrincipal q.principal
  let _ ← shiftCompany q.currency .totalAccruedLockedInterest q.expectedInterest
  return ()

/-- The provider took the BTC swap. -/
def recordSwapBlock (id : TransactionId) (swapRecordId : SwapRecordId) (swapId : Reference)
    (toAmount : Nat) : LedgerBlock Unit := do
  updateTransaction id (fun t => { t with transactionUniqueId := swapId })
  updateSwap swapRecordId (fun s => { s with
    swapId := some swapId, toAmountOriginal := some toAmount })

/-- The catch of the BTC swap; `reservedExpectedUsdt` is set before the reservation is tried. -/
def exchangeFailedBlock (q : Confirm) (vaultId : VaultId) (id : TransactionId)
    (swapRecordId : SwapRecordId) (reservedExpectedUsdt : Nat) : LedgerBlock Unit := do
  releaseBalance q.userId .btc q.totalCharge none
  updateTransaction id (fun t => { t with status := .FAILED })
  updateSwap swapRecordId (fun s => { s with status := .FAILED })
  updateVault vaultId (fun v => { v with status := .TERMINATED })
  releaseLiquidity .usdt reservedExpectedUsdt

/-- The block of `unlock`; it returns the vault and the wallet as it found them. -/
def unlockBlock (cache : ConvertCurrency.DefaultNetworkCache) (userId : UserId)
    (vaultId : VaultId) (early : Bool) : LedgerBlock (Vault × Wallet) := do
  let row ← read (fun L => L.vaults.lookup vaultId)
  let lockedVault ← demand (row.filter (fun v => v.userId = userId ∧ v.status = .ACTIVE))
    (.thrown "Vault already processed")
  let found ← read (fun L => L.walletByCurrencyId lockedVault.userId lockedVault.currencyId)
  let wallet ← demand found (.thrown "Wallet not found for this currency")
  creditWallet lockedVault.walletKey (lockedVault.payout early) (.thrown "Wallet not found")
  holdWallet lockedVault.walletKey .lockedAmount
    (dropTo wallet.lockedAmount lockedVault.amountLocked) (.thrown "Wallet not found")
  holdWallet lockedVault.walletKey .totalLockedInterest (-lockedVault.totalGain)
    (.thrown "Wallet not found")
  writeOriginalBalance cache lockedVault.walletKey none
  updateVault vaultId (fun v => { v with status := if early then .TERMINATED else .MATURED })
  releaseLockedTotals lockedVault.currencyId lockedVault (lockedVault.interestReceived early)
  return (lockedVault, wallet)

/-- The block of `cancelPendingVault`, with the vault and the swap as read before. -/
def cancelBlock (vaultId : VaultId) (vault : Vault) (swap : Option SwapTransaction) :
    LedgerBlock Unit := do
  updateVault vaultId (fun v => { v with status := .TERMINATED })
  onlyIf (vault.currencyId = .btc) (do
    releaseBalance vault.userId .btc (vault.amountLocked + vault.bufferAmount) none
    releaseLiquidity .usdt ((swap.bind SwapTransaction.toAmountOriginal).getD 0))

/-! ### Movements -/

theorem confirmBtcBlock_neutral (q : Confirm) (rateConfigured : Bool) (vaultId : VaultId)
    (id : TransactionId) (swapRecordId : SwapRecordId) :
    PostsNeutral (confirmBtcBlock q rateConfigured vaultId id swapRecordId) := by
  refine posts_nothing_bind nothing_read fun _ => ?_
  refine posts_nothing_bind nothing_demand fun _ => ?_
  refine posts_nothing_bind nothing_require fun _ => ?_
  refine posts_nothing_bind (reserveBalance_neutral _ _ _ _) fun _ => ?_
  refine posts_nothing_bind nothing_require fun _ => ?_
  refine posts_nothing_bind (createVault_neutral _ _) fun _ => ?_
  refine posts_nothing_bind (insertTransaction_neutral _ _) fun _ => ?_
  exact createSwap_neutral _ _

def confirmMovements (q : Confirm) : List Movement :=
  [.spend q.key q.totalCharge, .hold q.key .lockedAmount q.principal,
    .hold q.key .totalLockedInterest q.expectedInterest]

theorem confirmStableBlock_moves (cache : ConvertCurrency.DefaultNetworkCache) (q : Confirm)
    (rateConfigured : Bool) (vaultId : VaultId) :
    PostsMovements (confirmStableBlock cache q rateConfigured vaultId)
      (fun _ ms => ms = confirmMovements q) := by
  refine posts_read_bind fun L => ?_
  refine posts_nothing_bind nothing_require fun _ => ?_
  refine posts_entry_bind rfl (fun _ _ _ => spendWallet_moves) fun _ => ?_
  refine posts_entry_bind rfl (fun _ _ _ => holdWallet_moves) fun _ => ?_
  refine posts_nothing_bind (writeOriginalBalance_neutral _ _ _) fun _ => ?_
  refine posts_nothing_bind nothing_require fun _ => ?_
  refine posts_nothing_bind (createVault_neutral _ _) fun _ => ?_
  refine posts_entry_bind rfl (fun _ _ _ => holdWallet_moves) fun _ => ?_
  refine posts_nothing_bind (shiftCompany_neutral (by decide) _ _) fun _ => ?_
  refine posts_nothing_bind (shiftCompany_neutral (by decide) _ _) fun _ => ?_
  exact posts_pure rfl

theorem recordSwapBlock_neutral (id : TransactionId) (swapRecordId : SwapRecordId)
    (swapId : Reference) (toAmount : Nat) :
    PostsNeutral (recordSwapBlock id swapRecordId swapId toAmount) := by
  refine posts_nothing_bind (nothing_update fun _ => rfl) fun _ => ?_
  exact nothing_update fun _ => rfl

theorem exchangeFailedBlock_neutral (q : Confirm) (vaultId : VaultId) (id : TransactionId)
    (swapRecordId : SwapRecordId) (reservedExpectedUsdt : Nat) :
    PostsNeutral (exchangeFailedBlock q vaultId id swapRecordId reservedExpectedUsdt) := by
  refine posts_nothing_bind (releaseBalance_neutral _ _ _ _) fun _ => ?_
  refine posts_nothing_bind (nothing_update fun _ => rfl) fun _ => ?_
  refine posts_nothing_bind (nothing_update fun _ => rfl) fun _ => ?_
  refine posts_nothing_bind (nothing_update fun _ => rfl) fun _ => ?_
  exact releaseLiquidity_neutral _ _

def unlockMovements (early : Bool) (v : Vault) (w : Wallet) : List Movement :=
  [.credit v.walletKey (v.payout early),
    .hold v.walletKey .lockedAmount (dropTo w.lockedAmount v.amountLocked),
    .hold v.walletKey .totalLockedInterest (-v.totalGain)]

theorem unlockBlock_moves (cache : ConvertCurrency.DefaultNetworkCache) (userId : UserId)
    (vaultId : VaultId) (early : Bool) :
    PostsMovements (unlockBlock cache userId vaultId early)
      (fun r ms => ms = unlockMovements early r.1 r.2) := by
  refine posts_read_bind fun L => ?_
  refine posts_demand_bind fun lockedVault _ => ?_
  refine posts_read_bind fun M => ?_
  refine posts_demand_bind fun wallet _ => ?_
  refine posts_entry_bind rfl (fun _ _ _ => creditWallet_moves) fun _ => ?_
  refine posts_entry_bind rfl (fun _ _ _ => holdWallet_moves) fun _ => ?_
  refine posts_entry_bind rfl (fun _ _ _ => holdWallet_moves) fun _ => ?_
  refine posts_nothing_bind (writeOriginalBalance_neutral _ _ _) fun _ => ?_
  refine posts_nothing_bind (nothing_update fun _ => rfl) fun _ => ?_
  refine posts_nothing_bind (releaseLockedTotals_neutral _ _ _) fun _ => ?_
  exact posts_pure rfl

theorem cancelBlock_neutral (vaultId : VaultId) (vault : Vault) (swap : Option SwapTransaction) :
    PostsNeutral (cancelBlock vaultId vault swap) := by
  refine posts_nothing_bind (nothing_update fun _ => rfl) fun _ => ?_
  refine nothing_onlyIf ?_
  refine posts_nothing_bind (releaseBalance_neutral _ _ _ _) fun _ => ?_
  exact releaseLiquidity_neutral _ _

end VaultService

namespace VaultInterestScheduler

/-- The block of `executeShard` for one vault; `due` is whether its maturity date has passed. It
returns the vault and the wallet as it found them, or nothing when it skipped. -/
def matureBlock (cache : ConvertCurrency.DefaultNetworkCache) (vaultId : VaultId) (due : Bool) :
    LedgerBlock (Option (Vault × Wallet)) := do
  let row ← read (fun L => L.vaults.lookup vaultId)
  match row.filter (fun v => v.status = .ACTIVE ∧ due = true) with
  | none => return none
  | some vault =>
    let found ← read (fun L => L.walletByCurrencyId vault.userId vault.currencyId)
    match found with
    | none => return none
    | some wallet =>
      creditWallet vault.walletKey vault.amountToReceive (.thrown "Wallet not found")
      holdWallet vault.walletKey .lockedAmount (dropTo wallet.lockedAmount vault.amountLocked)
        (.thrown "Wallet not found")
      holdWallet vault.walletKey .totalLockedInterest
        (dropTo wallet.totalLockedInterest vault.totalGain) (.thrown "Wallet not found")
      restateOriginalBalance cache vault.walletKey none
      updateVault vaultId (fun v => { v with status := .MATURED })
      releaseLockedTotals (if vault.currencyId = .btc then .usdt else vault.currencyId) vault
        (vault.amountToReceive - vault.amountLocked)
      return some (vault, wallet)

def matureMovements (v : Vault) (w : Wallet) : List Movement :=
  [.credit v.walletKey v.amountToReceive,
    .hold v.walletKey .lockedAmount (dropTo w.lockedAmount v.amountLocked),
    .hold v.walletKey .totalLockedInterest (dropTo w.totalLockedInterest v.totalGain)]

theorem matureBlock_moves (cache : ConvertCurrency.DefaultNetworkCache) (vaultId : VaultId)
    (due : Bool) :
    PostsMovements (matureBlock cache vaultId due)
      (fun r ms => ms = r.elim [] (fun p => matureMovements p.1 p.2)) := by
  refine posts_read_bind fun L => ?_
  split
  · exact posts_pure rfl
  · refine posts_read_bind fun M => ?_
    split
    · exact posts_pure rfl
    · refine posts_entry_bind rfl (fun _ _ _ => creditWallet_moves) fun _ => ?_
      refine posts_entry_bind rfl (fun _ _ _ => holdWallet_moves) fun _ => ?_
      refine posts_entry_bind rfl (fun _ _ _ => holdWallet_moves) fun _ => ?_
      refine posts_nothing_bind (restateOriginalBalance_neutral _ _ _) fun _ => ?_
      refine posts_nothing_bind (nothing_update fun _ => rfl) fun _ => ?_
      refine posts_nothing_bind (releaseLockedTotals_neutral _ _ _) fun _ => ?_
      exact posts_pure rfl

end VaultInterestScheduler

namespace SwapWebhook

/-- The transaction that paid for a BTC vault, found by the swap's id. -/
def vaultTransaction (userId : UserId) (swapId : Reference) (L : Ledger) :
    Option (TransactionId × Transaction) :=
  (L.transactionByUniqueId swapId).bind (fun id => ((L.transactions.lookup id).filter (fun t =>
    t.transactionContext = .VAULT_SWAP ∧ t.userId = userId)).map (fun t => (id, t)))

/-- `expectedUsdtMinor`. -/
def expectedUsdt (swap : SwapTransaction) (vault : Vault) : Nat :=
  swap.toAmountOriginal.getD vault.amountLocked

/-- Release the company's USDT where at least as much is reserved. -/
def releaseExpectedUsdt (expected : Nat) : LedgerBlock Unit := do
  let reservedUsdt ← read (fun L =>
    (L.companyLiquidity.lookup .usdt).elim 0 CompanyLiquidity.reservedBalance)
  onlyIf ((expected : Int) ≤ reservedUsdt) (releaseLiquidity .usdt expected)

/-- Give the reserved BTC back unless the transaction failed before. -/
def refundVault (linkedTx : Option (TransactionId × Transaction)) (userId : UserId)
    (isProcessed : Bool) : LedgerBlock Unit :=
  match linkedTx with
  | some (id, t) => do
    releaseBalance userId .btc t.sentBase none
    updateTransaction id (fun t => { t with
      status := .FAILED, isProcessed := isProcessed || t.isProcessed })
  | none => pure ()

/-- `processVaultSwapFailure`. -/
def vaultFailureBlock (swapRecordId : SwapRecordId) (swap : SwapTransaction) (vaultId : VaultId)
    (swapId : Reference) (isReversal : Bool) : LedgerBlock Unit := do
  let row ← read (fun L => L.vaults.lookup vaultId)
  match row.filter (fun v => v.status ≠ .TERMINATED) with
  | none => return ()
  | some vault =>
    let linkedTx ← read (vaultTransaction swap.userId swapId)
    refundVault (linkedTx.filter (fun l => l.2.status ≠ .FAILED)) swap.userId true
    releaseExpectedUsdt (expectedUsdt swap vault)
    updateVault vaultId (fun v => { v with status := .TERMINATED })
    updateSwap swapRecordId (fun s => { s with
      status := if isReversal then .reversed else .FAILED })

inductive VaultCompletion where
  | skipped | terminated
  | activated (charged expected gain : Nat)
  deriving DecidableEq, Repr

/-- The swap brought in less than the vault's principal. -/
def terminateShort (swapRecordId : SwapRecordId) (swap : SwapTransaction) (vaultId : VaultId)
    (linkedTx : Option (TransactionId × Transaction)) (expected : Nat) : LedgerBlock Unit := do
  updateVault vaultId (fun v => { v with status := .TERMINATED })
  releaseExpectedUsdt expected
  refundVault linkedTx swap.userId false
  updateSwap swapRecordId (fun s => { s with status := .FAILED })

def completeLinked (linkedTx : Option (TransactionId × Transaction)) : LedgerBlock Unit :=
  match linkedTx with
  | some (id, _) => updateTransaction id (fun t => { t with
      status := .COMPLETED, isProcessed := true })
  | none => pure ()

/-- The block of `processVaultSwapCompletion`. -/
def vaultCompleteBlock (cache : ConvertCurrency.DefaultNetworkCache) (swapRecordId : SwapRecordId)
    (swap : SwapTransaction) (vaultId : VaultId) (swapId : Reference)
    (received durationDays feeUnits : Nat) : LedgerBlock VaultCompletion := do
  let row ← read (fun L => L.vaults.lookup vaultId)
  let linkedTx ← read (vaultTransaction swap.userId swapId)
  if row.any (fun v => v.status ≠ .ACTIVE ∧ v.status ≠ .PENDING) = true ∨
      linkedTx.any (fun l => l.2.status = .COMPLETED) = true then return .skipped
  else
    let vault ← demand row (.thrown "Vault not found")
    let expected := expectedUsdt swap vault
    if received < expected then
      terminateShort swapRecordId swap vaultId linkedTx expected
      return .terminated
    else
      let charged := linkedTx.elim 0 (fun l => l.2.sentBase)
      let gain := Vault.gain expected vault.interestRatePerAnum durationDays
      let wallets ← read (fun L => (L.wallets.lookup (swap.userId, .usdt)).isSome &&
        (L.wallets.lookup (swap.userId, .btc)).isSome)
      require (wallets = true) (.thrown "Required wallets missing for vault swap")
      debitReserved (swap.userId, .btc) charged
        (.thrown "insufficient reserved BTC balance to finalize")
      restateOriginalBalance cache (swap.userId, .btc) none
      subtractInternalBalance .btc charged
      creditWallet (swap.userId, .usdt) (received - expected) (.thrown "wallet not found")
      holdWallet (swap.userId, .usdt) .lockedAmount expected (.thrown "wallet not found")
      holdWallet (swap.userId, .usdt) .totalLockedInterest gain (.thrown "wallet not found")
      restateOriginalBalance cache (swap.userId, .usdt) none
      addInternalBalance .usdt received
      releaseExpectedUsdt expected
      let _ ← shiftCompany .usdt .totalLockedPrincipal expected
      let _ ← shiftCompany .usdt .totalAccruedLockedInterest gain
      updateVault vaultId (fun v => { v with
        status := .ACTIVE
        currencyId := .usdt
        amountLocked := expected
        totalGain := gain
        transactionFee := Vault.fee feeUnits (expected + gain)
        amountToReceive := expected + gain - Vault.fee feeUnits (expected + gain) })
      completeLinked linkedTx
      updateSwap swapRecordId (fun s => { s with status := .COMPLETED })
      return .activated charged expected gain

def vaultMovements (userId : UserId) (received : Nat) : VaultCompletion → List Movement
  | .skipped | .terminated => []
  | .activated charged expected gain =>
    [.settle (userId, .btc) charged, .company .btc .internalBalance (-charged),
      .credit (userId, .usdt) (received - expected),
      .hold (userId, .usdt) .lockedAmount expected,
      .hold (userId, .usdt) .totalLockedInterest gain,
      .company .usdt .internalBalance received]

theorem releaseExpectedUsdt_neutral (expected : Nat) :
    PostsNeutral (releaseExpectedUsdt expected) := by
  refine posts_nothing_bind nothing_read fun _ => ?_
  exact nothing_onlyIf (releaseLiquidity_neutral _ _)

theorem refundVault_neutral (linkedTx : Option (TransactionId × Transaction)) (userId : UserId)
    (isProcessed : Bool) : PostsNeutral (refundVault linkedTx userId isProcessed) := by
  unfold refundVault
  split
  · refine posts_nothing_bind (releaseBalance_neutral _ _ _ _) fun _ => ?_
    exact nothing_update fun _ => rfl
  · exact nothing_pure

theorem completeLinked_neutral (linkedTx : Option (TransactionId × Transaction)) :
    PostsNeutral (completeLinked linkedTx) := by
  unfold completeLinked
  split
  · exact nothing_update fun _ => rfl
  · exact nothing_pure

theorem vaultFailureBlock_neutral (swapRecordId : SwapRecordId) (swap : SwapTransaction)
    (vaultId : VaultId) (swapId : Reference) (isReversal : Bool) :
    PostsNeutral (vaultFailureBlock swapRecordId swap vaultId swapId isReversal) := by
  refine posts_read_bind fun L => ?_
  split
  · exact nothing_pure
  · refine posts_nothing_bind nothing_read fun _ => ?_
    refine posts_nothing_bind (refundVault_neutral _ _ _) fun _ => ?_
    refine posts_nothing_bind (releaseExpectedUsdt_neutral _) fun _ => ?_
    refine posts_nothing_bind (nothing_update fun _ => rfl) fun _ => ?_
    exact nothing_update fun _ => rfl

theorem terminateShort_neutral (swapRecordId : SwapRecordId) (swap : SwapTransaction)
    (vaultId : VaultId) (linkedTx : Option (TransactionId × Transaction)) (expected : Nat) :
    PostsNeutral (terminateShort swapRecordId swap vaultId linkedTx expected) := by
  refine posts_nothing_bind (nothing_update fun _ => rfl) fun _ => ?_
  refine posts_nothing_bind (releaseExpectedUsdt_neutral _) fun _ => ?_
  refine posts_nothing_bind (refundVault_neutral _ _ _) fun _ => ?_
  exact nothing_update fun _ => rfl

theorem vaultCompleteBlock_moves (cache : ConvertCurrency.DefaultNetworkCache)
    (swapRecordId : SwapRecordId) (swap : SwapTransaction) (vaultId : VaultId)
    (swapId : Reference) (received durationDays feeUnits : Nat) :
    PostsMovements
      (vaultCompleteBlock cache swapRecordId swap vaultId swapId received durationDays feeUnits)
      (fun done ms => ms = vaultMovements swap.userId received done) := by
  refine posts_read_bind fun L => ?_
  refine posts_read_bind fun M => ?_
  refine posts_ite (fun _ => posts_pure rfl) fun _ => ?_
  refine posts_demand_bind fun vault _ => ?_
  refine posts_ite (fun _ => ?_) fun _ => ?_
  · exact posts_nothing_bind (terminateShort_neutral _ _ _ _ _) fun _ => posts_pure rfl
  · refine posts_read_bind fun N => ?_
    refine posts_nothing_bind nothing_require fun _ => ?_
    refine posts_entry_bind rfl (fun _ _ _ => debitReserved_moves) fun _ => ?_
    refine posts_nothing_bind (restateOriginalBalance_neutral _ _ _) fun _ => ?_
    refine posts_entry_bind rfl (fun _ _ _ => subtractInternalBalance_moves) fun _ => ?_
    refine posts_entry_bind rfl (fun _ _ _ => creditWallet_moves) fun _ => ?_
    refine posts_entry_bind rfl (fun _ _ _ => holdWallet_moves) fun _ => ?_
    refine posts_entry_bind rfl (fun _ _ _ => holdWallet_moves) fun _ => ?_
    refine posts_nothing_bind (restateOriginalBalance_neutral _ _ _) fun _ => ?_
    refine posts_entry_bind rfl (fun _ _ _ => addInternalBalance_moves) fun _ => ?_
    refine posts_nothing_bind (releaseExpectedUsdt_neutral _) fun _ => ?_
    refine posts_nothing_bind (shiftCompany_neutral (by decide) _ _) fun _ => ?_
    refine posts_nothing_bind (shiftCompany_neutral (by decide) _ _) fun _ => ?_
    refine posts_nothing_bind (nothing_update fun _ => rfl) fun _ => ?_
    refine posts_nothing_bind (completeLinked_neutral _) fun _ => ?_
    refine posts_nothing_bind (nothing_update fun _ => rfl) fun _ => ?_
    exact posts_pure rfl

end SwapWebhook

end ExchangeLedger
