import ExchangeLedger.OrderSettlement

set_option autoImplicit false

/-! Paystack transfer webhooks: the blocks of `handleTransferSuccess` and
`handleTransferFailure`, for sell payouts and for loan disbursements. -/

namespace ExchangeLedger

open Block

/-- `totalAmountSentBase ?? cryptoAmountBase`. -/
def Transaction.totalSentBase (t : Transaction) : Nat :=
  (t.totalAmountSentBase.or t.cryptoAmountBase).getD 0

def Transaction.walletKey (t : Transaction) : WalletKey := (t.userId, t.currency)

/-- The columns of a sell's transaction that the steps which end it go by. -/
structure SoldColumns where
  userId : UserId
  context : TransactionContext
  currency : Currency
  letterCase : LetterCase
  cryptoAmountBase : Option Nat
  fiatAmountBase : Nat
  platformFeeBase : Option Nat
  totalAmountSentBase : Option Nat

def Transaction.soldColumns (t : Transaction) : SoldColumns where
  userId := t.userId
  context := t.transactionContext
  currency := t.currency
  letterCase := t.letterCase
  cryptoAmountBase := t.cryptoAmountBase
  fiatAmountBase := t.fiatAmountBase
  platformFeeBase := t.platformFeeBase
  totalAmountSentBase := t.totalAmountSentBase

def SoldColumns.totalSentBase (c : SoldColumns) : Nat :=
  (c.totalAmountSentBase.or c.cryptoAmountBase).getD 0

def SoldColumns.walletKey (c : SoldColumns) : WalletKey := (c.userId, c.currency)

namespace Ledger

/-- `order.findFirst({ where: { paymentReference, type: SELL } })`. -/
def sellByPaymentReference (L : Ledger) (reference : Reference) : Option TransactionId :=
  (L.orders.entries.find? (fun e => e.2.paymentReference = some reference ∧ e.2.type = .SELL)).map
    (fun e => e.1)

/-- `order.findFirst({ where: { paymentReference } })`. -/
def orderByPaymentReference (L : Ledger) (reference : Reference) : Option TransactionId :=
  (L.orders.entries.find? (fun e => e.2.paymentReference = some reference)).map (fun e => e.1)

end Ledger

namespace PayoutStatus

/-- Release the user's reservation and take the amount out of the wallet. The release finds the
wallet whatever the case of its currency, the update compares the currency as it is spelled. -/
def takeSold (transaction : Transaction) : LedgerBlock Unit := do
  releaseBalance transaction.userId transaction.currency transaction.totalSentBase none
  mustUpdateWallet (transaction.userId, transaction.currency)
    (fun w => w.letterCase = transaction.letterCase ∧
      (transaction.totalSentBase : Int) ≤ w.baseBalance)
    (fun w => { w with baseBalance := w.baseBalance - transaction.totalSentBase })
    (.thrown ("insufficient " ++ transaction.currency.code ++ " balance to finalize"))

/-- The internal balance is booked; where it then exceeds the company's total, a record is made. -/
def bookSold (id : TransactionId) (crypto : Currency) (amount : Nat) : LedgerBlock Unit := do
  subtractInternalBalance crypto amount
  let exceeding ← read (fun L => isInternalBalanceExceeding L crypto)
  onlyIf (exceeding = true) (createFailedCompanyLiquidity id crypto amount)

/-- The block of `handleTransferSuccess`, given the transaction as it was read before. -/
def transferSuccessBlock (cache : ConvertCurrency.DefaultNetworkCache) (id : TransactionId)
    (transaction : Transaction) : LedgerBlock Unit := do
  releaseLiquidity BASE_CURRENCY transaction.fiatAmountBase
  takeSold transaction
  restateOriginalBalance cache (transaction.userId, transaction.currency) none
  updateOrder id (fun o => { o with status := .COMPLETED, paymentStatus := .PAID })
  updateTransaction id (fun t => { t with
    status := .COMPLETED
    isProcessed := true
    paymentMetadata := { transaction.paymentMetadata with
      payoutStatus := some .success, liquidityReservationStatus := some .RELEASED } })
  bookSold id transaction.currency transaction.totalSentBase

/-- The block of `handleTransferFailure`, given the transaction as it was read before. -/
def transferFailureBlock (id : TransactionId) (transaction : Transaction) : LedgerBlock Unit := do
  updateOrder id (fun o => { o with status := .PROCESSING, paymentStatus := .FAILED })
  updateTransaction id (fun t => { t with
    status := .PENDING
    isProcessed := false
    paymentMetadata := { transaction.paymentMetadata with
      payoutStatus := some .failed_retry_required
      liquidityReservationStatus := some .RESERVED } })

def updateLoan (id : LoanId) (f : UrgentLiquidityLoan → UrgentLiquidityLoan) : LedgerBlock Unit :=
  update (fun L => { L with loans := L.loans.modify id f })

def loanStatus (L : Ledger) (id : LoanId) : Option UrgentLiquidityLoanStatus :=
  (L.loans.lookup id).map UrgentLiquidityLoan.status

def loanTransferSuccessBlock (id : LoanId) : LedgerBlock Unit := do
  let fresh ← read (fun L => loanStatus L id)
  onlyIf (fresh ∉ [some .DISBURSED, some .REPAID, some .DEADLINE_EXCEEDED] ∧
      fresh = some .QUIDAX_COMPLETED)
    (updateLoan id (fun l => { l with status := .DISBURSED }))

def loanTransferFailureBlock (id : LoanId) : LedgerBlock Unit := do
  let fresh ← read (fun L => loanStatus L id)
  onlyIf (fresh ∉ [some .FAILED, some .DISBURSED, some .REPAID, some .DEADLINE_EXCEEDED])
    (updateLoan id (fun l => { l with status := .FAILED }))

/-! ### Movements -/

theorem takeSold_commits {transaction : Transaction} {L M : Ledger} {u : Unit} :
    (takeSold transaction).Commits L u M ↔
      ∃ w, L.wallets.lookup transaction.walletKey = some w ∧
        w.letterCase = transaction.letterCase ∧
        (transaction.totalSentBase : Int) ≤ w.reservedBalance ∧
        (transaction.totalSentBase : Int) ≤ w.baseBalance ∧
        L.setWallet transaction.walletKey { w with
          baseBalance := w.baseBalance - transaction.totalSentBase
          reservedBalance := w.reservedBalance - transaction.totalSentBase } = M := by
  simp only [takeSold, commits_bind, releaseBalance_commits, mustUpdateWallet_commits]
  constructor
  · rintro ⟨_, N, ⟨w, hw, -, hr, rfl⟩, v, hv, ⟨hcase, hb⟩, rfl⟩
    simp only [Ledger.setWallet_wallets, AList.lookup_insert, Option.some.injEq] at hv
    subst hv
    refine ⟨w, hw, hcase, hr, hb, ?_⟩
    simp [Ledger.setWallet, Transaction.walletKey, AList.insert_insert]
  · rintro ⟨w, hw, hcase, hr, hb, rfl⟩
    refine ⟨(), _, ⟨w, hw, .inl rfl, hr, rfl⟩,
      { w with reservedBalance := w.reservedBalance - transaction.totalSentBase }, ?_,
      ⟨hcase, hb⟩, ?_⟩
    · simp
    · simp [Ledger.setWallet, Transaction.walletKey, AList.insert_insert]

theorem takeSold_moves {transaction : Transaction} {L M : Ledger} {u : Unit}
    (h : (takeSold transaction).Commits L u M) :
    Moves [.settle transaction.walletKey transaction.totalSentBase] L.toBooks M.toBooks := by
  obtain ⟨w, hw, -, hr, hb, rfl⟩ := takeSold_commits.mp h
  exact moves_of_walletIf (.settle transaction.walletKey transaction.totalSentBase) rfl hw
    (by simpa using ⟨hb, hr⟩)

/-- What the block of `handleTransferSuccess` needs to go through: the company's reservation, a
wallet spelled like the transaction that holds the amount reserved and can be written out, and an
internal balance that covers it. -/
structure TransferReady (cache : ConvertCurrency.DefaultNetworkCache) (id : TransactionId)
    (transaction : Transaction) (L : Ledger) : Prop where
  reservation : transaction.fiatAmountBase = 0 ∨
    ∃ r, L.companyLiquidity.lookup BASE_CURRENCY = some r ∧
      (transaction.fiatAmountBase : Int) ≤ r.reservedBalance
  wallet : ∃ w text, L.wallets.lookup transaction.walletKey = some w ∧
    w.letterCase = transaction.letterCase ∧
    (transaction.totalSentBase : Int) ≤ w.reservedBalance ∧
    (transaction.totalSentBase : Int) ≤ w.baseBalance ∧
    restatedText cache (w.baseBalance - transaction.totalSentBase) transaction.currency none =
      .ok text
  internal : ∃ r, L.companyLiquidity.lookup transaction.currency = some r ∧
    (transaction.totalSentBase : Int) ≤ r.internalBalance ∧
    (r.totalBalance < r.internalBalance - transaction.totalSentBase →
      L.failedCompanyLiquidity.lookup id = none)

/-- The wallet after a sell payout. -/
def soldWallet (transaction : Transaction) (w : Wallet) (text : Text) : Wallet :=
  { w with
    baseBalance := w.baseBalance - transaction.totalSentBase
    reservedBalance := w.reservedBalance - transaction.totalSentBase
    originalBalance := text }

/-- The transaction row after a sell payout. -/
def completed (transaction t : Transaction) : Transaction :=
  { t with
    status := .COMPLETED
    isProcessed := true
    paymentMetadata := { transaction.paymentMetadata with
      payoutStatus := some .success, liquidityReservationStatus := some .RELEASED } }

/-- What a committed payout changes. -/
structure TransferDone (id : TransactionId) (transaction : Transaction) (L M : Ledger) : Prop where
  wallets : ∃ w text, L.wallets.lookup transaction.walletKey = some w ∧
    M.wallets = L.wallets.insert transaction.walletKey (soldWallet transaction w text)
  transactions : M.transactions = L.transactions.modify id (completed transaction)
  orders : M.orders = L.orders.modify id (fun o => { o with
    status := .COMPLETED, paymentStatus := .PAID })
  reserved : ∀ c, M.reservedLiquidity c = L.reservedLiquidity c -
    if c = BASE_CURRENCY then (transaction.fiatAmountBase : Int) else 0

theorem bookSold_commits {id : TransactionId} {c : Currency} {amount : Nat} {L M : Ledger}
    {u : Unit} :
    (bookSold id c amount).Commits L u M ↔
      ∃ r, L.companyLiquidity.lookup c = some r ∧ (amount : Int) ≤ r.internalBalance ∧
        (r.totalBalance < r.internalBalance - amount →
          L.failedCompanyLiquidity.lookup id = none) ∧
        M = { L.setCompany c { r with internalBalance := r.internalBalance - amount } with
          failedCompanyLiquidity := if r.totalBalance < r.internalBalance - amount then
            L.failedCompanyLiquidity.insert id ⟨c, amount⟩ else L.failedCompanyLiquidity } := by
  unfold bookSold
  simp only [commits_bind, subtractInternalBalance_commits, commits_read, commits_onlyIf]
  constructor
  · rintro ⟨_, _, ⟨r, hr, hle, rfl⟩, _, _, ⟨rfl, rfl⟩, hlast⟩
    refine ⟨r, hr, hle, ?_⟩
    simp only [isInternalBalanceExceeding, Ledger.setCompany_companyLiquidity,
      AList.lookup_insert, Option.any_some, decide_eq_true_eq] at hlast
    rcases hlast with ⟨hexceeds, hcreate⟩ | ⟨hexceeds, rfl⟩
    · simp only [createFailedCompanyLiquidity, upsertFailedCompanyLiquidity, commits_read_bind,
        commits_require_bind, commits_update] at hcreate
      exact ⟨fun _ => hcreate.1, by rw [if_pos hexceeds, ← hcreate.2]; rfl⟩
    · exact ⟨fun h => absurd h hexceeds, by rw [if_neg hexceeds]; rfl⟩
  · rintro ⟨r, hr, hle, hfree, rfl⟩
    refine ⟨(), _, ⟨r, hr, hle, rfl⟩, _, _, ⟨rfl, rfl⟩, ?_⟩
    simp only [isInternalBalanceExceeding, Ledger.setCompany_companyLiquidity,
      AList.lookup_insert, Option.any_some, decide_eq_true_eq]
    by_cases hexceeds : r.totalBalance < r.internalBalance - amount
    · refine .inl ⟨hexceeds, ?_⟩
      simp only [createFailedCompanyLiquidity, upsertFailedCompanyLiquidity, commits_read_bind,
        commits_require_bind, commits_update, if_pos hexceeds]
      exact ⟨hfree hexceeds, rfl⟩
    · refine .inr ⟨hexceeds, ?_⟩
      rw [if_neg hexceeds]
      rfl

theorem transferSuccessBlock_commits {cache : ConvertCurrency.DefaultNetworkCache}
    {id : TransactionId} {transaction : Transaction} {L M : Ledger} {u : Unit}
    (h : (transferSuccessBlock cache id transaction).Commits L u M) :
    TransferReady cache id transaction L ∧ TransferDone id transaction L M := by
  simp only [transferSuccessBlock, commits_bind, takeSold_commits,
    restateOriginalBalance_commits, updateOrder, updateTransaction, commits_update,
    bookSold_commits] at h
  obtain ⟨_, A, hrelease, _, _, ⟨w, hw, hcase, hres, hbase, rfl⟩, _, _, hrestate, _, _, rfl, _, _,
    rfl, r, hr, hint, hfree, rfl⟩ := h
  obtain ⟨hframe, hcolumns⟩ := releaseLiquidity_frame hrelease
  have hreserved := releaseLiquidity_reserved hrelease
  have hreservation := releaseLiquidity_commits.mp hrelease
  generalize A.companyLiquidity = company at *
  subst hframe
  rcases hrestate with ⟨hnone, -⟩ | ⟨w₂, text, hw₂, htext, rfl⟩
  · simp [Transaction.walletKey] at hnone
  · simp only [Transaction.walletKey, Ledger.setWallet_wallets, AList.lookup_insert,
      Option.some.injEq] at hw₂
    subst hw₂
    have hrow := hcolumns transaction.currency
    simp only [Ledger.setWallet_companyLiquidity] at hr
    rw [hr] at hrow
    obtain ⟨r₀, hr₀, hcols⟩ := Option.map_eq_some_iff.mp hrow.symm
    simp only [Prod.mk.injEq] at hcols
    refine ⟨⟨?_, ⟨w, text, hw, hcase, hres, hbase, htext⟩, r₀, hr₀, ?_, ?_⟩, ?_, rfl, rfl, ?_⟩
    · rcases hreservation with ⟨h0, -⟩ | ⟨-, r', hr', hle, -⟩
      · exact .inl h0
      · exact .inr ⟨r', hr', hle⟩
    · rw [hcols.2]
      exact hint
    · rw [hcols.1, hcols.2]
      exact hfree
    · refine ⟨w, text, hw, ?_⟩
      simp [Ledger.setWallet, Ledger.setCompany, Transaction.walletKey, AList.insert_insert,
        soldWallet]
    · intro c
      rw [← hreserved c]
      simp only [Ledger.reservedLiquidity, Ledger.setCompany_companyLiquidity, Table.lookup_insert]
      by_cases hc : c = transaction.currency
      · subst hc
        simp [hr]
      · simp [hc]

theorem TransferReady.commits {cache : ConvertCurrency.DefaultNetworkCache} {id : TransactionId}
    {transaction : Transaction} {L : Ledger} (h : TransferReady cache id transaction L) :
    ∃ M, (transferSuccessBlock cache id transaction).Commits L () M := by
  obtain ⟨w, text, hw, hcase, hres, hbase, htext⟩ := h.wallet
  obtain ⟨r₀, hr₀, hint, hfree⟩ := h.internal
  have hrelease : ∃ A,
      (releaseLiquidity BASE_CURRENCY transaction.fiatAmountBase).Commits L () A := by
    by_cases h0 : transaction.fiatAmountBase = 0
    · exact ⟨L, releaseLiquidity_commits.mpr (.inl ⟨h0, rfl⟩)⟩
    · rcases h.reservation with hz | ⟨r, hr, hle⟩
      · exact absurd hz h0
      · exact ⟨_, releaseLiquidity_commits.mpr (.inr ⟨h0, r, hr, hle, rfl⟩)⟩
  obtain ⟨A, hrelease⟩ := hrelease
  obtain ⟨hframe, hcolumns⟩ := releaseLiquidity_frame hrelease
  generalize A.companyLiquidity = company at *
  subst hframe
  obtain ⟨r, hr, hcols⟩ := Option.map_eq_some_iff.mp
    ((hcolumns transaction.currency).trans (by rw [hr₀]; rfl))
  simp only [Prod.mk.injEq] at hcols
  simp only [transferSuccessBlock, commits_bind, takeSold_commits,
    restateOriginalBalance_commits, updateOrder, updateTransaction, commits_update,
    bookSold_commits]
  refine ⟨_, (), _, hrelease, (), _, ⟨w, hw, hcase, hres, hbase, rfl⟩, (), _,
    .inr ⟨_, text, AList.lookup_insert _, htext, rfl⟩, (), _, rfl, (), _, rfl, r, hr, ?_, ?_, rfl⟩
  · rw [hcols.2]
    exact hint
  · rw [hcols.1, hcols.2]
    exact hfree

def payoutMovements (transaction : Transaction) : List Movement :=
  [.settle transaction.walletKey transaction.totalSentBase,
    .company transaction.currency .internalBalance (-transaction.totalSentBase)]

theorem bookSold_moves (id : TransactionId) (crypto : Currency) (amount : Nat) :
    PostsMovements (bookSold id crypto amount)
      (fun _ ms => ms = [.company crypto .internalBalance (-amount)]) := by
  refine posts_entry_bind rfl (fun _ _ _ => subtractInternalBalance_moves) fun _ => ?_
  refine posts_read_bind fun L => ?_
  exact posts_last (nothing_onlyIf (createFailedCompanyLiquidity_neutral _ _ _)) fun _ => rfl

theorem transferSuccessBlock_moves (cache : ConvertCurrency.DefaultNetworkCache)
    (id : TransactionId) (transaction : Transaction) :
    PostsMovements (transferSuccessBlock cache id transaction)
      (fun _ ms => ms = payoutMovements transaction) := by
  refine posts_nothing_bind (releaseLiquidity_neutral _ _) fun _ => ?_
  refine posts_entry_bind rfl (fun _ _ _ => takeSold_moves) fun _ => ?_
  refine posts_nothing_bind (restateOriginalBalance_neutral _ _ _) fun _ => ?_
  refine posts_nothing_bind (nothing_update fun _ => rfl) fun _ => ?_
  refine posts_nothing_bind (nothing_update fun _ => rfl) fun _ => ?_
  refine posts_mono (bookSold_moves _ _ _) fun _ ms hms => ?_
  rw [hms]
  rfl

theorem transferFailureBlock_neutral (id : TransactionId) (transaction : Transaction) :
    PostsNeutral (transferFailureBlock id transaction) := by
  refine posts_nothing_bind (nothing_update fun _ => rfl) fun _ => ?_
  exact nothing_update fun _ => rfl

theorem loanTransferSuccessBlock_neutral (id : LoanId) :
    PostsNeutral (loanTransferSuccessBlock id) := by
  refine posts_read_bind fun L => ?_
  exact nothing_onlyIf (nothing_update fun _ => rfl)

theorem loanTransferFailureBlock_neutral (id : LoanId) :
    PostsNeutral (loanTransferFailureBlock id) := by
  refine posts_read_bind fun L => ?_
  exact nothing_onlyIf (nothing_update fun _ => rfl)

end PayoutStatus

end ExchangeLedger
