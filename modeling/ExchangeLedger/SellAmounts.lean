import ExchangeLedger.Operation

set_option autoImplicit false

/-! What a sell reserves when it is confirmed, and what the steps that end it take back. -/

namespace ExchangeLedger

open Block

namespace SellService

/-- The columns are those that the confirmation of `q` stored. -/
def Confirm.Sold (q : Confirm) (t : Transaction) : Prop :=
  t.soldColumns = ⟨q.userId, .SELL, q.crypto, .upper, some q.exactCrypto, q.netFiat,
    some q.platformFee, none⟩

def Confirm.key (q : Confirm) : WalletKey := (q.userId, q.crypto)

theorem Confirm.sold_row (q : Confirm) (hasLiquidity : Bool) :
    q.Sold (q.transaction hasLiquidity).row := rfl

/-- What a confirmation leaves behind: the reservation of the total, and the transaction row. -/
structure Confirm.Reserved (q : Confirm) (id : TransactionId) (L M : Ledger) : Prop where
  wallet : ∃ w, L.wallets.lookup q.key = some w ∧
    M.wallets = L.wallets.insert q.key { w with reservedBalance := w.reservedBalance + q.total }
  transaction : ∃ t, M.transactions.lookup id = some t ∧ q.Sold t

theorem reserveLiquidity_frame {c : Currency} {amount : Nat} {L M : Ledger} {b : Bool}
    (h : (reserveLiquidity c amount).Commits L b M) :
    M = { L with companyLiquidity := M.companyLiquidity } := by
  rcases updateCompany_commits.mp h with ⟨r, -, -, -, rfl⟩ | ⟨-, -, rfl⟩
  · rfl
  · rfl

theorem createFailedCompanyLiquidity_frame {id : TransactionId} {c : Currency} {amount : Nat}
    {L M : Ledger} {u : Unit} (h : (createFailedCompanyLiquidity id c amount).Commits L u M) :
    M = { L with failedCompanyLiquidity := M.failedCompanyLiquidity } := by
  simp only [createFailedCompanyLiquidity, upsertFailedCompanyLiquidity, commits_read_bind,
    commits_require_bind, commits_update] at h
  rw [← h.2]

theorem confirmBlock_reserved {q : Confirm} {id : TransactionId} {L M : Ledger}
    {r : ConfirmResult} (h : (confirmBlock q id).Commits L r M) (hr : r ≠ .duplicate) :
    q.Reserved id L M := by
  simp only [confirmBlock, commits_requireMinimum_bind, commits_read_bind] at h
  replace h := h.2
  split at h
  · rw [commits_pure] at h
    exact absurd h.1.symm hr
  · obtain ⟨_, A, hreserve, h⟩ := commits_bind.mp h
    obtain ⟨w, hw, -, -, rfl⟩ := reserveBalance_commits.mp hreserve
    rw [commits_read_bind] at h
    generalize decide ((q.netFiat : Int) ≤ getAvailableLiquidity _ BASE_CURRENCY) = liquid at h
    obtain ⟨_, B, htransaction, h⟩ := commits_bind.mp h
    obtain ⟨-, -, rfl⟩ := insertTransaction_commits.mp htransaction
    simp only [createOrder, commits_update_bind] at h
    -- the row is in place; what follows touches the company, the records or its metadata
    have hrow := q.sold_row liquid
    split at h
    · obtain ⟨reserved, C, hliquidity, h⟩ := commits_bind.mp h
      have hframe := reserveLiquidity_frame hliquidity
      generalize C.companyLiquidity = company at hframe
      subst hframe
      split at h
      · simp only [updateTransaction, commits_update_bind, commits_pure] at h
        rw [← h.2]
        refine ⟨⟨w, hw, rfl⟩, SellService.setReservationStatus .RESERVED (q.transaction liquid).row,
          ?_, hrow⟩
        simp [Table.lookup_modify_self]
      · obtain ⟨_, D, hrecord, h⟩ := commits_bind.mp h
        have hframe := createFailedCompanyLiquidity_frame hrecord
        generalize D.failedCompanyLiquidity = records at hframe
        subst hframe
        rw [← (commits_pure.mp h).2]
        exact ⟨⟨w, hw, rfl⟩, _, AList.lookup_insert _, hrow⟩
    · obtain ⟨_, D, hrecord, h⟩ := commits_bind.mp h
      have hframe := createFailedCompanyLiquidity_frame hrecord
      generalize D.failedCompanyLiquidity = records at hframe
      subst hframe
      rw [← (commits_pure.mp h).2]
      exact ⟨⟨w, hw, rfl⟩, _, AList.lookup_insert _, hrow⟩

namespace Confirm.Sold

variable {q : Confirm} {t : Transaction}

theorem context (h : q.Sold t) : t.transactionContext = .SELL := congrArg SoldColumns.context h

theorem cryptoAmountBase (h : q.Sold t) : t.cryptoAmountBase = some q.exactCrypto :=
  congrArg SoldColumns.cryptoAmountBase h

theorem totalAmountSentBase (h : q.Sold t) : t.totalAmountSentBase = none :=
  congrArg SoldColumns.totalAmountSentBase h

theorem totalSentBase (h : q.Sold t) : t.totalSentBase = q.exactCrypto :=
  congrArg SoldColumns.totalSentBase h

theorem walletKey (h : q.Sold t) : t.walletKey = q.key := congrArg SoldColumns.walletKey h

theorem sentTotal (h : q.Sold t) : t.sentTotal = some q.total := by
  have hfee : t.platformFeeBase = some q.platformFee := congrArg SoldColumns.platformFeeBase h
  simp [Transaction.sentTotal, h.totalAmountSentBase, h.cryptoAmountBase, hfee, Confirm.total]

end Confirm.Sold

/-- The block goes through and takes these amounts off a wallet's balance and reservation. -/
def Takes (x : LedgerBlock Unit) (k : WalletKey) (base reserved : Nat) (L : Ledger) : Prop :=
  ∃ M w v, x.Commits L () M ∧ L.wallets.lookup k = some w ∧ M.wallets.lookup k = some v ∧
    v.baseBalance = w.baseBalance - base ∧ v.reservedBalance = w.reservedBalance - reserved

theorem transferSuccess_takes_iff {cache : ConvertCurrency.DefaultNetworkCache} {q : Confirm}
    {id : TransactionId} {t : Transaction} (ht : q.Sold t) (L : Ledger) :
    Takes (PayoutStatus.transferSuccessBlock cache id t) q.key q.total q.total L ↔
      q.platformFee = 0 ∧ PayoutStatus.TransferReady cache id t L := by
  constructor
  · rintro ⟨M, w, v, hcommits, hw, hv, hbase, -⟩
    obtain ⟨hready, hdone⟩ := PayoutStatus.transferSuccessBlock_commits hcommits
    obtain ⟨w', text, hw', hwallets⟩ := hdone.wallets
    rw [ht.walletKey] at hw' hwallets
    rw [hw] at hw'
    cases hw'
    rw [hwallets, AList.lookup_insert] at hv
    cases hv
    simp only [PayoutStatus.soldWallet, ht.totalSentBase, Confirm.total] at hbase
    exact ⟨by omega, hready⟩
  · rintro ⟨hfee, hready⟩
    obtain ⟨M, hcommits⟩ := hready.commits
    obtain ⟨w, text, hw, hwallets⟩ :=
      (PayoutStatus.transferSuccessBlock_commits hcommits).2.wallets
    rw [ht.walletKey] at hw hwallets
    refine ⟨M, w, PayoutStatus.soldWallet t w text, hcommits, hw, ?_, ?_, ?_⟩
    · rw [hwallets, AList.lookup_insert]
    · simp [PayoutStatus.soldWallet, ht.totalSentBase, Confirm.total, hfee]
    · simp [PayoutStatus.soldWallet, ht.totalSentBase, Confirm.total, hfee]

/-- What the expiry of a queued request needs to go through. -/
structure ExpireReady (id : TransactionId) (t : Transaction) (L : Ledger) : Prop where
  wallet : ∃ w, L.wallets.lookup t.walletKey = some w ∧
    (t.totalSentBase = 0 ∨ (t.totalSentBase : Int) ≤ w.reservedBalance)
  record : (L.failedCompanyLiquidity.lookup id).isSome = true

theorem releaseReserved_commits {t : Transaction} (hcontext : t.transactionContext = .SELL)
    {L M : Ledger} {u : Unit} :
    (FailedCompanyLiquidity.releaseReserved t).Commits L u M ↔
      (t.totalSentBase = 0 ∧ L = M) ∨ (t.totalSentBase ≠ 0 ∧
        ∃ w, L.wallets.lookup t.walletKey = some w ∧
          (t.totalSentBase : Int) ≤ w.reservedBalance ∧ L.setWallet t.walletKey
            { w with reservedBalance := w.reservedBalance - t.totalSentBase } = M) := by
  unfold FailedCompanyLiquidity.releaseReserved FailedCompanyLiquidity.userReservedBalanceRelease
  by_cases h0 : t.totalSentBase = 0
  · simp [h0]
  · have hpos : 0 < t.totalSentBase := Nat.pos_of_ne_zero h0
    simp [hcontext, hpos, h0, releaseBalance_commits, Transaction.walletKey,
      PinnedNetwork.agrees]

theorem expireBlock_commits {id : TransactionId} {t : Transaction} {L M : Ledger} {u : Unit} :
    (FailedCompanyLiquidity.expireBlock id t).Commits L u M ↔
      ∃ A, (FailedCompanyLiquidity.releaseReserved t).Commits L () A ∧
        (A.failedCompanyLiquidity.lookup id).isSome = true ∧
        M = { A with
          transactions := A.transactions.modify id (fun t => { t with
            status := .FAILED, isProcessed := true })
          failedCompanyLiquidity := A.failedCompanyLiquidity.erase id } := by
  simp only [FailedCompanyLiquidity.expireBlock, FailedCompanyLiquidity.deleteRecord,
    updateTransaction, commits_bind, commits_update, commits_read, commits_require]
  constructor
  · rintro ⟨_, A, hA, _, _, rfl, _, _, ⟨rfl, rfl⟩, _, _, ⟨hrecord, rfl⟩, rfl⟩
    exact ⟨A, hA, hrecord, rfl⟩
  · rintro ⟨A, hA, hrecord, rfl⟩
    exact ⟨(), A, hA, (), _, rfl, _, _, ⟨rfl, rfl⟩, (), _, ⟨hrecord, rfl⟩, rfl⟩

theorem expire_takes_iff {q : Confirm} {id : TransactionId} {t : Transaction} (ht : q.Sold t)
    (L : Ledger) :
    Takes (FailedCompanyLiquidity.expireBlock id t) q.key 0 q.total L ↔
      q.platformFee = 0 ∧ ExpireReady id t L := by
  constructor
  · rintro ⟨M, w, v, hcommits, hw, hv, -, hreserved⟩
    obtain ⟨A, hrelease, hrecord, rfl⟩ := expireBlock_commits.mp hcommits
    rw [← ht.walletKey] at hw hv
    simp only [Confirm.total] at hreserved
    rcases (releaseReserved_commits ht.context).mp hrelease with ⟨h0, rfl⟩ | ⟨-, w', hw', hle, rfl⟩
    · rw [hw] at hv
      cases hv
      exact ⟨by omega, ⟨w, hw, .inl h0⟩, hrecord⟩
    · rw [hw] at hw'
      cases hw'
      simp only [Ledger.setWallet_wallets, AList.lookup_insert, Option.some.injEq] at hv
      subst hv
      simp only [ht.totalSentBase] at hreserved
      exact ⟨by omega, ⟨w, hw, .inr hle⟩, hrecord⟩
  · rintro ⟨hfee, ⟨w, hw, hamount⟩, hrecord⟩
    by_cases h0 : t.totalSentBase = 0
    · refine ⟨_, w, w, expireBlock_commits.mpr
        ⟨L, (releaseReserved_commits ht.context).mpr (.inl ⟨h0, rfl⟩), hrecord, rfl⟩, ?_, ?_, ?_⟩
      · rw [← ht.walletKey]
        exact hw
      · rw [← ht.walletKey]
        exact hw
      · rw [ht.totalSentBase] at h0
        simp [Confirm.total, h0, hfee]
    · have hle := hamount.resolve_left h0
      refine ⟨_, w, { w with reservedBalance := w.reservedBalance - t.totalSentBase },
        expireBlock_commits.mpr ⟨_, (releaseReserved_commits ht.context).mpr
          (.inr ⟨h0, w, hw, hle, rfl⟩), hrecord, rfl⟩, ?_, ?_, ?_⟩
      · rw [← ht.walletKey]
        exact hw
      · rw [← ht.walletKey]
        simp
      · simp [ht.totalSentBase, Confirm.total, hfee]

/-! ### The row of a sell through the steps that follow -/

/-- The row under `id` has the amounts of `q`. -/
def Confirm.Stored (q : Confirm) (id : TransactionId) (L : Ledger) : Prop :=
  ∃ t, L.transactions.lookup id = some t ∧ q.Sold t

theorem onBalances_stored {α : Type} {x : LedgerBlock α} (hx : OnBalances x) (q : Confirm)
    (id : TransactionId) : Preserves (q.Stored id) x := hx.preserves fun _ => Iff.rfl

theorem updateTransaction_stored (q : Confirm) (id j : TransactionId)
    {f : Transaction → Transaction} (hf : ∀ t, q.Sold t → q.Sold (f t)) :
    Preserves (q.Stored id) (updateTransaction j f) := by
  refine preserves_update fun L hL => ?_
  obtain ⟨t, ht, hsold⟩ := hL
  by_cases hj : id = j
  · subst hj
    exact ⟨f t, by simp [ht], hf t hsold⟩
  · exact ⟨t, by simp [Table.lookup_modify_ne _ _ hj, ht], hsold⟩

theorem updateOrder_stored (q : Confirm) (id j : TransactionId) (f : Order → Order) :
    Preserves (q.Stored id) (updateOrder j f) := preserves_update fun _ hL => hL

theorem insertTransaction_stored (q : Confirm) (id j : TransactionId) (row : Transaction) :
    Preserves (q.Stored id) (insertTransaction j row) := by
  intro L u M hL h
  obtain ⟨hfree, -, rfl⟩ := insertTransaction_commits.mp h
  obtain ⟨t, ht, hsold⟩ := hL
  have hj : id ≠ j := by
    rintro rfl
    rw [ht] at hfree
    cases hfree
  exact ⟨t, by simp [AList.lookup_insert_ne hj, ht], hsold⟩

theorem createFailedCompanyLiquidity_stored (q : Confirm) (id j : TransactionId) (c : Currency)
    (amount : Nat) : Preserves (q.Stored id) (createFailedCompanyLiquidity j c amount) := by
  refine preserves_bind (preserves_read _) fun _ => ?_
  refine preserves_bind (preserves_require _ _) fun _ => ?_
  exact preserves_update fun _ hL => hL

theorem releaseSold_stored (q : Confirm) (id : TransactionId) (t : Transaction)
    (crypto : Currency) : Preserves (q.Stored id) (releaseSold t crypto) := by
  unfold releaseSold
  split
  · exact preserves_swallow (onBalances_stored (releaseBalance_onBalances _ _ _ _) q id)
  · exact preserves_pure _

theorem releaseReserved_stored (q : Confirm) (id : TransactionId) (t : Transaction) :
    Preserves (q.Stored id) (FailedCompanyLiquidity.releaseReserved t) := by
  unfold FailedCompanyLiquidity.releaseReserved
  split
  · exact onBalances_stored (releaseBalance_onBalances _ _ _ _) q id
  · exact preserves_pure _

theorem deleteRecord_stored (q : Confirm) (id j : TransactionId) :
    Preserves (q.Stored id) (FailedCompanyLiquidity.deleteRecord j) := by
  refine preserves_bind (preserves_read _) fun _ => ?_
  refine preserves_bind (preserves_require _ _) fun _ => ?_
  exact preserves_update fun _ hL => hL

/-- The blocks that sells go through, of one sell or of several. -/
def isSellStep : Operation → Bool
  | .confirmSell _ _ | .queueSell _ _ | .rejectSell _ _ | .recordSell _ _ | .failOrder _ _ _ _ _
  | .missingBankDetails _ _ _ _ | .addProceeds _ _ _ | .payoutInitiated _ _ _ _
  | .payoutFailed _ _ | .transferSuccess _ _ _ | .transferFailure _ _ | .expire _ _
  | .deleteRecord _ | .reserveCompany _ _ | .releaseCompany _ _ | .resumeSell _ _ => true
  | _ => false

theorem confirmBlock_stored (q p : Confirm) (id j : TransactionId) :
    Preserves (q.Stored id) (confirmBlock p j) := by
  refine preserves_bind (preserves_require _ _) fun _ => ?_
  refine preserves_bind (preserves_read _) fun _ => ?_
  refine preserves_ite (preserves_pure _) ?_
  refine preserves_bind (onBalances_stored (reserveBalance_onBalances _ _ _ _) q id) fun _ => ?_
  refine preserves_bind (preserves_read _) fun _ => ?_
  refine preserves_bind (insertTransaction_stored q id _ _) fun _ => ?_
  refine preserves_bind (preserves_update fun _ hL => hL) fun _ => ?_
  have hqueue := preserves_bind (createFailedCompanyLiquidity_stored q id j BASE_CURRENCY p.netFiat)
    fun _ => preserves_pure ConfirmResult.queued
  refine preserves_ite ?_ hqueue
  refine preserves_bind (onBalances_stored (reserveLiquidity_onBalances _ _) q id) fun _ => ?_
  refine preserves_ite ?_ hqueue
  exact preserves_bind (updateTransaction_stored q id _ fun _ ht => ht) fun _ => preserves_pure _

theorem failOrderBlock_stored (q : Confirm) (id j : TransactionId) (isBuy : Bool)
    (crypto fiat : Currency) (t : Transaction) :
    Preserves (q.Stored id) (OrderDone.failOrderBlock isBuy crypto fiat j t) := by
  refine preserves_bind (preserves_read _) fun _ => ?_
  refine preserves_ite (preserves_pure _) ?_
  refine preserves_bind (updateTransaction_stored q id _ fun _ ht => ht) fun _ => ?_
  refine preserves_bind (updateOrder_stored q id _ _) fun _ => ?_
  refine preserves_bind (preserves_onlyIf (releaseSold_stored q id _ _)) fun _ => ?_
  refine preserves_ite ?_ (preserves_pure _)
  refine preserves_bind (onBalances_stored (releaseLiquidity_onBalances _ _) q id) fun _ => ?_
  exact preserves_bind (updateTransaction_stored q id _ fun _ ht => ht) fun _ => preserves_pure _

theorem transferSuccessBlock_stored (q : Confirm) (id j : TransactionId)
    (cache : ConvertCurrency.DefaultNetworkCache) (t : Transaction) :
    Preserves (q.Stored id) (PayoutStatus.transferSuccessBlock cache j t) := by
  refine preserves_bind (onBalances_stored (releaseLiquidity_onBalances _ _) q id) fun _ => ?_
  refine preserves_bind ?_ fun _ => ?_
  · refine preserves_bind (onBalances_stored (releaseBalance_onBalances _ _ _ _) q id) fun _ => ?_
    exact onBalances_stored (mustUpdateWallet_onBalances _ _ _ _) q id
  refine preserves_bind (onBalances_stored (restateOriginalBalance_onBalances _ _ _) q id)
    fun _ => ?_
  refine preserves_bind (updateOrder_stored q id _ _) fun _ => ?_
  refine preserves_bind (updateTransaction_stored q id _ fun _ ht => ht) fun _ => ?_
  refine preserves_bind (onBalances_stored (subtractInternalBalance_onBalances _ _) q id)
    fun _ => ?_
  refine preserves_bind (preserves_read _) fun _ => ?_
  exact preserves_onlyIf (createFailedCompanyLiquidity_stored q id _ _ _)

theorem isSellStep_stored {op : Operation} (hop : isSellStep op = true) (q : Confirm)
    (id : TransactionId) : Preserves (q.Stored id) op.block := by
  have htransaction (j : TransactionId) {f : Transaction → Transaction}
      (hf : ∀ t, q.Sold t → q.Sold (f t)) : Preserves (q.Stored id) (updateTransaction j f) :=
    updateTransaction_stored q id j hf
  have horder := updateOrder_stored q id
  have hrelease (c : Currency) (amount : Nat) : Preserves (q.Stored id)
      (releaseLiquidity c amount) :=
    onBalances_stored (releaseLiquidity_onBalances c amount) q id
  cases op with
  | confirmSell p j => exact preserves_map _ (confirmBlock_stored q p id j)
  | queueSell p j =>
    refine preserves_map _ (preserves_bind (hrelease _ _) fun _ => ?_)
    refine preserves_bind (preserves_update fun _ hL => hL) fun _ => ?_
    exact htransaction _ fun _ ht => ht
  | rejectSell p j =>
    refine preserves_map _ (preserves_bind ?_ fun _ => ?_)
    · exact onBalances_stored (releaseBalance_onBalances _ _ _ _) q id
    refine preserves_bind (hrelease _ _) fun _ => ?_
    exact preserves_bind (htransaction _ fun _ ht => ht) fun _ => horder _ _
  | recordSell j reference => exact preserves_map _ (horder _ _)
  | failOrder isBuy crypto fiat j t =>
    exact preserves_map _ (failOrderBlock_stored q id j isBuy crypto fiat t)
  | missingBankDetails crypto fiat j t =>
    refine preserves_map _ (preserves_bind (horder _ _) fun _ => ?_)
    refine preserves_bind (htransaction _ fun _ ht => ht) fun _ => ?_
    refine preserves_bind (preserves_onlyIf (hrelease _ _)) fun _ => ?_
    exact releaseSold_stored q id _ _
  | addProceeds fiat j amounts =>
    refine preserves_map _ (preserves_bind (preserves_read _) fun _ => ?_)
    refine preserves_ite (preserves_pure _) ?_
    refine preserves_bind (onBalances_stored (addLiquidity_onBalances _ _) q id) fun _ => ?_
    exact preserves_bind (htransaction _ fun _ ht => ht) fun _ => preserves_pure _
  | payoutInitiated j amounts metadata reference =>
    exact preserves_map _ (preserves_bind (htransaction _ fun _ ht => ht) fun _ => horder _ _)
  | payoutFailed j metadata =>
    exact preserves_map _ (preserves_bind (horder _ _) fun _ => htransaction _ fun _ ht => ht)
  | transferSuccess cache j t =>
    exact preserves_map _ (transferSuccessBlock_stored q id j cache t)
  | transferFailure j t =>
    exact preserves_map _ (preserves_bind (horder _ _) fun _ => htransaction _ fun _ ht => ht)
  | expire j t =>
    refine preserves_map _ (preserves_bind (releaseReserved_stored q id t) fun _ => ?_)
    exact preserves_bind (htransaction _ fun _ ht => ht) fun _ => deleteRecord_stored q id _
  | deleteRecord j => exact preserves_map _ (deleteRecord_stored q id _)
  | reserveCompany c amount =>
    exact preserves_map _ (onBalances_stored (reserveLiquidity_onBalances _ _) q id)
  | releaseCompany c amount => exact preserves_map _ (hrelease _ _)
  | resumeSell j reference =>
    exact preserves_map _ (preserves_bind (horder _ _) fun _ => htransaction _ fun _ ht => ht)
  | _ => cases hop

theorem stored_final {q : Confirm} {id : TransactionId} {L : Ledger} {ops : List Operation}
    (hops : ∀ op ∈ ops, isSellStep op = true) (hL : q.Stored id L) :
    q.Stored id (Run.final Operation.step L ops) := by
  induction ops generalizing L with
  | nil => exact hL
  | cons op ops ih =>
    have hop := isSellStep_stored (hops op (by simp)) q id
    exact ih (fun p hp => hops p (by simp [hp])) (hop.commit hL)

/-- For every sell that `confirmSell` reserves, after any steps of sells: what a payout debits, or
an expiry releases, is the total reserved at the confirmation exactly when the sell had no fee and
the block goes through, which a payout does only for a wallet spelled in upper case. -/
theorem sell_ends_with_reserved_iff (cache : ConvertCurrency.DefaultNetworkCache) {q : Confirm}
    {id : TransactionId} {L₀ L₁ : Ledger} {r : ConfirmResult}
    (hconfirm : (confirmBlock q id).Commits L₀ r L₁) (hr : r ≠ .duplicate) {ops : List Operation}
    (hops : ∀ op ∈ ops, isSellStep op = true) :
    q.Reserved id L₀ L₁ ∧
      ∃ t, (Run.final Operation.step L₁ ops).transactions.lookup id = some t ∧ ∀ L,
        (Takes (PayoutStatus.transferSuccessBlock cache id t) q.key q.total q.total L ↔
          q.platformFee = 0 ∧ PayoutStatus.TransferReady cache id t L) ∧
        (Takes (FailedCompanyLiquidity.expireBlock id t) q.key 0 q.total L ↔
          q.platformFee = 0 ∧ ExpireReady id t L) := by
  have hreserved := confirmBlock_reserved hconfirm hr
  obtain ⟨t, ht, hsold⟩ := stored_final hops hreserved.transaction
  exact ⟨hreserved, t, ht, fun L => ⟨transferSuccess_takes_iff hsold L, expire_takes_iff hsold L⟩⟩

/-- User 1's BTC wallet, and a company that can pay for a sell of it. -/
def beforeSell : Ledger :=
  { Ledger.empty with
    wallets := (∅ : Table WalletKey Wallet).insert (1, .btc)
      { Wallet.empty with
        letterCase := .upper, baseBalance := 1000, defaultNetwork := some .btc }
    companyLiquidity := ((∅ : Table Currency CompanyLiquidity).insert .btc
      { CompanyLiquidity.empty with totalBalance := 5000, internalBalance := 1000 }).insert .ngn
      { CompanyLiquidity.empty with totalBalance := 1000000 } }

/-- 900 units sold for 50000 kobo with a platform fee. -/
def sellWithFee (platformFee : Nat) : Confirm :=
  ⟨1, .btc, 12, 900, platformFee, 50000, some .btc, some .btc, 6⟩

def confirmed (platformFee : Nat) : Ledger :=
  (confirmBlock (sellWithFee platformFee) 2).commit beforeSell

/-- The filled order's proceeds are added and its payout is initiated. -/
def payoutSteps : List Operation :=
  [.addProceeds .ngn 2 ⟨900, 51000⟩,
    .payoutInitiated 2 ⟨900, 51000⟩ PaymentMetadata.empty 13]

def initiated (platformFee : Nat) : Ledger :=
  Run.final Operation.step (confirmed platformFee) payoutSteps

/-- Without a fee a payout takes what was reserved. -/
theorem payout_takes_reserved :
    ∃ t, (initiated 0).transactions.lookup 2 = some t ∧
      Takes (PayoutStatus.transferSuccessBlock (fun _ => none) 2 t) (1, .btc) 900 900
        (initiated 0) := by
  have hconfirm : (confirmBlock (sellWithFee 0) 2).result beforeSell = some .reserved := by
    decide +kernel
  have hsteps : ∀ op ∈ payoutSteps, isSellStep op = true := by decide
  obtain ⟨-, t, ht, h⟩ := sell_ends_with_reserved_iff (fun _ => none)
    (result_eq_some.mp hconfirm) (by decide) hsteps
  have hpaid : ((initiated 0).transactions.lookup 2).bind (fun t =>
      (PayoutStatus.transferSuccessBlock (fun _ => none) 2 t).result (initiated 0)) = some () := by
    decide +kernel
  change (initiated 0).transactions.lookup 2 = some t at ht
  rw [ht] at hpaid
  have hcommits := result_eq_some.mp hpaid
  exact ⟨t, ht, (h _).1.mpr ⟨rfl, (PayoutStatus.transferSuccessBlock_commits hcommits).1⟩⟩

/-- Of 1000 units reserved with a fee of 100, a payout takes 900; the fee stays reserved. -/
theorem payout_leaves_fee_reserved :
    ¬ ∀ (cache : ConvertCurrency.DefaultNetworkCache) (q : Confirm) (id : TransactionId)
      (L₀ L₁ L₂ : Ledger) (ops : List Operation) (t : Transaction) (w v : Wallet),
      (confirmBlock q id).Commits L₀ .reserved L₁ → (∀ op ∈ ops, isSellStep op = true) →
      (Run.final Operation.step L₁ ops).transactions.lookup id = some t →
      (PayoutStatus.transferSuccessBlock cache id t).Commits
        (Run.final Operation.step L₁ ops) () L₂ →
      L₀.wallets.lookup q.key = some w → L₂.wallets.lookup q.key = some v →
      v.baseBalance = w.baseBalance - q.total ∧ v.reservedBalance = w.reservedBalance := by
  intro h
  have hconfirm : (confirmBlock (sellWithFee 100) 2).result beforeSell = some .reserved := by
    decide +kernel
  have hpaid : ((initiated 100).transactions.lookup 2).bind (fun t =>
      (PayoutStatus.transferSuccessBlock (fun _ => none) 2 t).result (initiated 100)) =
        some () := by decide +kernel
  have hrow : ((initiated 100).transactions.lookup 2).bind (fun t =>
      ((PayoutStatus.transferSuccessBlock (fun _ => none) 2 t).commit
        (initiated 100)).wallets.lookup (1, .btc)) =
      some { Wallet.empty with
        letterCase := .upper, baseBalance := 100, reservedBalance := 100
        originalBalance := ['0', '.', '0', '0', '0', '0', '0', '1']
        defaultNetwork := some .btc } := by decide +kernel
  obtain ⟨t, ht, hpaid⟩ := Option.bind_eq_some_iff.mp hpaid
  rw [ht, Option.bind_some] at hrow
  have hends := h (fun _ => none) (sellWithFee 100) 2 _ _ _ payoutSteps t _ _
    (result_eq_some.mp hconfirm) (by decide) ht (result_eq_some.mp hpaid) rfl hrow
  exact absurd hends.2 (by decide)

end SellService

end ExchangeLedger
