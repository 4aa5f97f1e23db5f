import ExchangeLedger.LiquidityAccounts
import ExchangeLedger.WithdrawalDeliveries

set_option autoImplicit false

/-! Where the rows that the handlers go by keep step with what a retry has reserved: the metadata of
a purchase, and the columns of a withdrawal and of a sale. The metadata of a sale do not. -/

namespace ExchangeLedger

open Block Concurrent

namespace FailedCompanyLiquidity

/-- What the company covers of a transaction, read off its row. -/
def covered (t : Transaction) : Currency × Nat :=
  match t.transactionContext with
  | .BUY => (BASE_CURRENCY, t.reservedLiquidityAmount)
  | .SELL => (BASE_CURRENCY, t.fiatAmountBase)
  | .SWAP => (t.currency, t.cryptoAmountBase.getD 0)
  | _ => (t.currency, t.sentBase)

/-- The row calls for what the record asks of the company. -/
structure Covers (context : TransactionContext) (failed : FailedCompanyLiquidityTransaction)
    (t : Transaction) : Prop where
  kind : t.transactionContext = context
  share : covered t = (failed.currency, failed.amountBase)
  sale : context = .SELL → t.reservedLiquidityAmount = failed.amountBase
  purchase : context = .BUY →
    t.paymentMetadata.liquidityReservationAmount = some failed.amountBase

/-- The metadata call the company's part reserved. -/
def Noted (id : TransactionId) (L : Ledger) : Prop :=
  ∃ t, L.transactions.lookup id = some t ∧
    t.paymentMetadata.liquidityReservationStatus = some .RESERVED

/-- The row of the transaction and of its withdrawal. -/
structure Rows (id : TransactionId) (context : TransactionContext)
    (failed : FailedCompanyLiquidityTransaction) (L : Ledger) : Prop where
  row : ∃ t, L.transactions.lookup id = some t ∧ Covers context failed t
  withdrawals : ∀ withdrawalId w, L.withdrawals.lookup withdrawalId = some w →
    w.transactionId = some id → w.currency = failed.currency

/-- What stands of a queued transaction that is still open. -/
structure Standing (id : TransactionId) (context : TransactionContext)
    (failed : FailedCompanyLiquidityTransaction) (L : Ledger) : Prop
    extends Rows id context failed L where
  record : ∀ f, L.failedCompanyLiquidity.lookup id = some f → f = failed

namespace Closing

/-- The row that the handler read. -/
def row : Closing → Option Transaction
  | .orderFailed _ _ transaction | .orderSettled _ transaction _ _
  | .settlementFailed transaction | .missingBankDetails _ transaction
  | .chargeFailed transaction | .paidOut transaction
  | .withdrawalClosed _ transaction _ _ _ => some transaction
  | .swapFailed e _ | .swapCompleted e _ _ _ _ _ _ => e.linkedTx.map Prod.snd

/-- The kind of transaction that the handler serves. -/
def serves : Closing → TransactionContext
  | .orderFailed isBuy _ _ => if isBuy then .BUY else .SELL
  | .orderSettled _ _ _ _ | .settlementFailed _ | .chargeFailed _ => .BUY
  | .missingBankDetails _ _ | .paidOut _ => .SELL
  | .swapFailed _ _ | .swapCompleted _ _ _ _ _ _ _ => .SWAP
  | .withdrawalClosed _ _ _ _ _ => .WITHDRAWAL

/-- The row of the provider's object is the one that the transaction has. -/
def Linked (id : TransactionId) (L : Ledger) : Closing → Prop
  | .swapFailed e _ | .swapCompleted e _ _ _ _ _ _ =>
    ∃ t, e.linkedTx = some (id, t) ∧ e.swap.fromCurrency = t.currency
  | .withdrawalClosed _ _ withdrawalId withdrawal _ =>
    L.withdrawals.lookup withdrawalId = some withdrawal ∧ withdrawal.transactionId = some id
  | _ => True

/-- The handler goes by what the metadata call reserved. -/
def readsMetadata : Closing → Bool
  | .orderFailed _ _ _ | .orderSettled _ _ _ _ | .settlementFailed _ | .missingBankDetails _ _
  | .chargeFailed _ => true
  | _ => false

/-- A report that comes while no retry is under way, and whose handler has read the rows as they
stand, of a transaction that is still open. Of a sale the metadata must say that its part is
reserved where the handler goes by them, and its payout must not queue it again. -/
structure Timely (id : TransactionId) (s : Accounts) (x : Closing) (t : Transaction) : Prop where
  idle : s.running.countP Task.active = 0
  read : x.row = some t
  current : s.state.queue.ledger.transactions.lookup id = some t
  linked : x.Linked id s.state.queue.ledger
  kind : t.transactionContext = x.serves
  isOpen : t.status.isFinal = false
  noted : t.transactionContext = .SELL → x.readsMetadata = true →
    t.liquidityReservationStatus = .RESERVED
  funded : x.requeues s.state.queue.ledger = false

end Closing

/-- `u` is what became of the row `t`: it calls for the same of the company, and is no longer open
if `t` was not. -/
structure SameShare (t u : Transaction) : Prop where
  kind : u.transactionContext = t.transactionContext
  share : covered u = covered t
  reserved : u.reservedLiquidityAmount = t.reservedLiquidityAmount
  noted : t.transactionContext = .BUY →
    u.paymentMetadata.liquidityReservationStatus = t.paymentMetadata.liquidityReservationStatus ∧
      u.paymentMetadata.liquidityReservationAmount = t.paymentMetadata.liquidityReservationAmount
  closed : t.status.isFinal = true → u.status.isFinal = true

/-- What else happens does not write what the handlers and the retries go by. -/
structure Leaves {id : TransactionId} (x : Other id) (L : Ledger) : Prop where
  row : ∀ t, L.transactions.lookup id = some t →
    ∃ u, (x.change L).transactions.lookup id = some u ∧ SameShare t u
  record : ∀ f, (x.change L).failedCompanyLiquidity.lookup id = some f →
    L.failedCompanyLiquidity.lookup id = some f
  withdrawals : ∀ withdrawalId w, (x.change L).withdrawals.lookup withdrawalId = some w →
    w.transactionId = some id → ∃ v, L.withdrawals.lookup withdrawalId = some v ∧
      v.transactionId = some id ∧ v.currency = w.currency

/-- Retries are orderly, the transaction expires while no retry is under way, and each report comes
in time. -/
def InStep {id : TransactionId} (s : Accounts) : Event Call Outcome (Happening id) → Prop
  | .resume n o => ∀ t, s.running[n]? = some t → Calm id s.retrying t o ∧
      (expires id s.state.queue.ledger t o = true → s.running.countP Task.active = 0)
  | .outside (.close x) => s.state.queue.placed ≠ 0 → x.runs id s.state.queue.ledger = true →
      ∃ t, x.Timely id s t
  | .outside (.other x) => Leaves x s.state.queue.ledger
  | .start _ => True

/-! ### What the handlers read -/

section Reads

variable {id : TransactionId} {context : TransactionContext}
  {failed : FailedCompanyLiquidityTransaction} {s : Accounts} {x : Closing} {t : Transaction}

theorem ifHolds (h : t.liquidityReservationStatus = .RESERVED) :
    (if t.holdsReservation then t.reservedLiquidityAmount else 0) = t.reservedLiquidityAmount := by
  split
  · rfl
  · rename_i hholds
    simp only [Transaction.holdsReservation, h, and_true, decide_eq_true_eq] at hholds
    omega

theorem ifReserves (h : t.paymentMetadata.liquidityReservationStatus = some .RESERVED) :
    (if BuyService.reserves t then t.reservedLiquidityAmount else 0) =
      t.reservedLiquidityAmount := by
  split
  · rfl
  · rename_i hreserves
    simp only [BuyService.reserves, h, true_and, decide_eq_true_eq] at hreserves
    omega

theorem status_of_noted (h : t.paymentMetadata.liquidityReservationStatus = some .RESERVED) :
    t.liquidityReservationStatus = .RESERVED := by
  simp [Transaction.liquidityReservationStatus, h]

theorem Covers.reserved (h : Covers context failed t) (hkind : context = .BUY ∨ context = .SELL) :
    (BASE_CURRENCY, t.reservedLiquidityAmount) = (failed.currency, failed.amountBase) := by
  have hshare := h.share
  rcases hkind with rfl | rfl
  · simpa only [covered, h.kind] using hshare
  · simp only [covered, h.kind, Prod.mk.injEq] at hshare
    rw [hshare.1, h.sale rfl]

theorem Closing.Timely.reservation (h : x.Timely id s t) (ht : Covers context failed t)
    (hnoted : context = .BUY →
      t.paymentMetadata.liquidityReservationStatus = some .RESERVED)
    (hwithdrawals : ∀ withdrawalId w,
      s.state.queue.ledger.withdrawals.lookup withdrawalId = some w →
        w.transactionId = some id → w.currency = failed.currency) :
    x.reservation = (failed.currency, failed.amountBase) := by
  have hread := h.read
  have hkind := h.kind
  have hstatus (hmeta : x.readsMetadata = true) (horder : context = .BUY ∨ context = .SELL) :
      t.liquidityReservationStatus = .RESERVED := by
    rcases horder with hbuy | hsell
    · exact status_of_noted (hnoted hbuy)
    · exact h.noted (ht.kind.trans hsell) hmeta
  have hshare := ht.share
  rw [ht.kind] at hkind
  cases x with
  | orderFailed isBuy crypto transaction =>
    cases hread
    have horder : context = .BUY ∨ context = .SELL := by
      cases isBuy
      · exact .inr hkind
      · exact .inl hkind
    simp only [reservation, ifHolds (hstatus rfl horder)]
    exact ht.reserved horder
  | orderSettled crypto transaction executedCrypto executedFiat =>
    cases hread
    simp only [reservation, ifHolds (hstatus rfl (.inl hkind))]
    exact ht.reserved (.inl hkind)
  | settlementFailed transaction =>
    cases hread
    simp only [reservation, ifHolds (hstatus rfl (.inl hkind))]
    exact ht.reserved (.inl hkind)
  | missingBankDetails crypto transaction =>
    cases hread
    simp only [reservation, ifHolds (hstatus rfl (.inr hkind))]
    exact ht.reserved (.inr hkind)
  | chargeFailed transaction =>
    cases hread
    simp only [reservation, ifReserves (hnoted hkind)]
    exact ht.reserved (.inl hkind)
  | paidOut transaction =>
    cases hread
    simpa only [covered, ht.kind, hkind, serves, reservation] using hshare
  | swapFailed e isReversal =>
    obtain ⟨l, hl, hcurrency⟩ := h.linked
    simp only [row, hl, Option.map_some, Option.some.injEq] at hread
    subst hread
    simpa only [covered, ht.kind, hkind, serves, reservation, hcurrency,
      SwapWebhook.Event.exactFromBooked, hl, Option.elim_some] using hshare
  | swapCompleted e regular confirmedFrom confirmedTo creditId creditReference toNetwork =>
    obtain ⟨l, hl, hcurrency⟩ := h.linked
    simp only [row, hl, Option.map_some, Option.some.injEq] at hread
    subst hread
    simpa only [covered, ht.kind, hkind, serves, reservation, hcurrency,
      SwapWebhook.Event.exactFromBooked, hl, Option.elim_some] using hshare
  | withdrawalClosed event transaction withdrawalId withdrawal amountBase =>
    cases hread
    obtain ⟨hwithdrawal, hid⟩ := h.linked
    simp only [covered, ht.kind, hkind, serves, Prod.mk.injEq] at hshare
    simp only [reservation, hwithdrawals _ _ hwithdrawal hid, hshare.2]

end Reads

/-! ### What the handlers write -/

section Closes

variable {cache : ConvertCurrency.DefaultNetworkCache} {id : TransactionId} {α : Type}
  {x : LedgerBlock α}

def HasRow (id : TransactionId) (L : Ledger) : Prop := (L.transactions.lookup id).isSome = true

def Closed (id : TransactionId) (L : Ledger) : Prop := L.alreadyProcessed id = true

theorem closed_iff {L : Ledger} :
    Closed id L ↔ ∃ t, L.transactions.lookup id = some t ∧ t.status.isFinal = true := by
  simp [Closed, Ledger.alreadyProcessed, Option.any_eq_true]

theorem Closed.hasRow {L : Ledger} (h : Closed id L) : HasRow id L := by
  obtain ⟨t, ht, -⟩ := closed_iff.mp h
  simp [HasRow, ht]

theorem OnBalances.hasRow (hx : OnBalances x) : Preserves (HasRow id) x :=
  hx.preserves fun _ => Iff.rfl

theorem OnBalances.closed (hx : OnBalances x) : Preserves (Closed id) x :=
  hx.preserves fun _ => Iff.rfl

theorem leads_closed {f : Transaction → Transaction} (hf : ∀ t, (f t).status.isFinal = true) :
    Leads (HasRow id) (updateTransaction id f) (fun _ => Closed id) := by
  intro L u M hL h
  obtain ⟨t, ht⟩ := Option.isSome_iff_exists.mp hL
  rw [← commits_update.mp h]
  exact closed_iff.mpr ⟨f t, by simp [ht], hf t⟩

theorem updateTransaction_closed {f : Transaction → Transaction}
    (hf : ∀ t, (f t).status = t.status) :
    Preserves (Closed id) (updateTransaction id f) := by
  refine preserves_update fun L hL => ?_
  obtain ⟨t, ht, hfinal⟩ := closed_iff.mp hL
  exact closed_iff.mpr ⟨f t, by simp [ht], by rw [hf, hfinal]⟩

theorem closes_bind {β : Type} {g : α → LedgerBlock β}
    (hx : Leads (HasRow id) x (fun _ => Closed id)) (hg : ∀ a, Preserves (Closed id) (g a)) :
    Leads (HasRow id) (x >>= g) (fun _ => Closed id) := leads_bind hx hg

theorem releaseSold_closed (transaction : Transaction) (crypto : Currency) :
    Preserves (Closed id) (releaseSold transaction crypto) := by
  unfold releaseSold
  split
  · exact preserves_swallow (OnBalances.closed (releaseBalance_onBalances _ _ _ _))
  · exact preserves_pure ()

theorem failOrderBlock_closes (isBuy : Bool) (crypto : Currency) (transaction : Transaction) :
    Leads (HasRow id) (OrderDone.failOrderBlock isBuy crypto BASE_CURRENCY id transaction)
      (fun _ => Closed id) := by
  intro L b M hL h
  simp only [OrderDone.failOrderBlock, commits_read_bind] at h
  split at h
  · rename_i hprocessed
    obtain ⟨-, rfl⟩ := commits_pure.mp h
    exact hprocessed
  · refine closes_bind (leads_closed fun _ => rfl) (fun _ => ?_) L b M hL h
    refine preserves_bind (preserves_update fun _ h => h) fun _ => ?_
    refine preserves_bind (preserves_onlyIf (releaseSold_closed _ _)) fun _ => ?_
    refine preserves_ite ?_ (preserves_pure _)
    refine preserves_bind (OnBalances.closed (releaseLiquidity_onBalances _ _)) fun _ => ?_
    exact preserves_bind (updateTransaction_closed fun _ => rfl) fun _ => preserves_pure _

theorem consumeForBuy_closed (transaction : Transaction) :
    Preserves (Closed id) (OrderDone.consumeForBuy BASE_CURRENCY id transaction) := by
  refine preserves_ite ?_ (preserves_pure _)
  refine preserves_bind (OnBalances.closed (updateCompany_onBalances _ _ _)) fun _ => ?_
  refine preserves_bind (preserves_require _ _) fun _ => ?_
  exact updateTransaction_closed fun _ => rfl

theorem growAutoStack_closed (autoStackId : Option AutoStackId) (amount : Nat) :
    Preserves (Closed id) (OrderDone.growAutoStack autoStackId amount) := by
  cases autoStackId with
  | none => exact preserves_pure ()
  | some a => exact preserves_update fun _ h => h

theorem buyBlock_closes (crypto : Currency) (transaction : Transaction)
    (executedCrypto executedFiat : Nat) :
    Leads (HasRow id) (OrderDone.buyBlock cache crypto BASE_CURRENCY id transaction executedCrypto
      executedFiat) (fun _ => Closed id) := by
  intro L b M hL h
  simp only [OrderDone.buyBlock, commits_read_bind] at h
  split at h
  · rename_i hprocessed
    obtain ⟨-, rfl⟩ := commits_pure.mp h
    exact hprocessed
  · refine closes_bind (leads_closed fun _ => rfl) (fun _ => ?_) L b M hL h
    refine preserves_bind (preserves_update fun _ h => h) fun _ => ?_
    refine preserves_bind (consumeForBuy_closed _) fun _ => preserves_ite ?_ ?_
    · refine preserves_bind (OnBalances.closed (mustUpdateWallet_onBalances _ _ _ _)) fun _ => ?_
      refine preserves_bind (growAutoStack_closed _ _) fun _ => ?_
      refine preserves_bind (OnBalances.closed (addInternalBalance_onBalances _ _)) fun _ => ?_
      exact preserves_bind (OnBalances.closed (updateCompany_onBalances _ _ _))
        fun _ => preserves_pure _
    · refine preserves_bind (OnBalances.closed (mustUpdateWallet_onBalances _ _ _ _)) fun _ => ?_
      refine preserves_bind (OnBalances.closed (restateOriginalBalance_onBalances _ _ _))
        fun _ => ?_
      exact preserves_bind (OnBalances.closed (addInternalBalance_onBalances _ _))
        fun _ => preserves_pure _

theorem buyFailureBlock_closes (transaction : Transaction) :
    Leads (HasRow id) (OrderDone.buyFailureBlock BASE_CURRENCY id transaction)
      (fun _ => Closed id) := by
  refine leads_keeps_bind (preserves_update fun _ h => h) fun _ => ?_
  refine closes_bind (leads_closed fun _ => rfl) fun _ => ?_
  exact preserves_onlyIf (OnBalances.closed (releaseLiquidity_onBalances _ _))

theorem missingBankDetailsBlock_closes (crypto : Currency) (transaction : Transaction) :
    Leads (HasRow id) (OrderDone.missingBankDetailsBlock crypto BASE_CURRENCY id transaction)
      (fun _ => Closed id) := by
  refine leads_keeps_bind (preserves_update fun _ h => h) fun _ => ?_
  refine closes_bind (leads_closed fun _ => rfl) fun _ => ?_
  refine preserves_bind (preserves_onlyIf ?_) fun _ => releaseSold_closed _ _
  exact OnBalances.closed (releaseLiquidity_onBalances _ _)

theorem handleFailureBlock_closes (transaction : Transaction) :
    Leads (HasRow id) (BuyService.handleFailureBlock id transaction) (fun _ => Closed id) := by
  refine leads_keeps_bind (preserves_onlyIf ?_) fun _ => leads_closed fun _ => rfl
  exact OnBalances.hasRow (releaseLiquidity_onBalances _ _)

theorem takeSold_hasRow (transaction : Transaction) :
    Preserves (HasRow id) (PayoutStatus.takeSold transaction) := by
  intro L u M hL h
  obtain ⟨w, -, -, -, -, rfl⟩ := PayoutStatus.takeSold_commits.mp h
  exact hL

theorem transferSuccessBlock_closes (transaction : Transaction) :
    Leads (HasRow id) (PayoutStatus.transferSuccessBlock cache id transaction)
      (fun _ => Closed id) := by
  refine leads_keeps_bind (OnBalances.hasRow (releaseLiquidity_onBalances _ _)) fun _ => ?_
  refine leads_keeps_bind (takeSold_hasRow _) fun _ => ?_
  refine leads_keeps_bind (OnBalances.hasRow (restateOriginalBalance_onBalances _ _ _)) fun _ => ?_
  refine leads_keeps_bind (preserves_update fun _ h => h) fun _ => ?_
  refine leads_bind (leads_closed fun _ => rfl) fun _ => ?_
  intro L u M hL h
  obtain ⟨r, -, -, -, rfl⟩ := PayoutStatus.bookSold_commits.mp h
  exact hL

theorem failureBlock_closes {e : SwapWebhook.Event} {t : Transaction}
    (he : e.linkedTx = some (id, t)) (isReversal : Bool) :
    Leads (HasRow id) (SwapWebhook.failureBlock e isReversal) (fun _ => Closed id) := by
  refine leads_keeps_bind (OnBalances.hasRow (releaseBalance_onBalances _ _ _ _)) fun _ => ?_
  refine leads_keeps_bind (preserves_update fun _ h => h) fun _ => ?_
  simp only [SwapWebhook.updateLinked, he]
  refine closes_bind (leads_closed fun _ => rfl) fun _ => ?_
  exact OnBalances.closed (releaseLiquidity_onBalances _ _)

theorem insertTransaction_closed (creditId : TransactionId) (row : Transaction) :
    Preserves (Closed id) (insertTransaction creditId row) := by
  intro L u M hL h
  simp only [insertTransaction, commits_read_bind, commits_require_bind, commits_update,
    Bool.or_eq_false_iff] at h
  obtain ⟨⟨hfree, -⟩, rfl⟩ := h
  obtain ⟨t, ht, hfinal⟩ := closed_iff.mp hL
  have hne : id ≠ creditId := by
    rintro rfl
    simp [ht] at hfree
  exact closed_iff.mpr ⟨t, by simp [hne, ht], hfinal⟩

theorem completeBlock_closes {e : SwapWebhook.Event} {t : Transaction}
    (he : e.linkedTx = some (id, t)) (hregular : e.isAutoStackSwap = false)
    (confirmedFrom confirmedTo : Nat) (creditId : TransactionId) (creditReference : Reference)
    (toNetwork : Option CryptoNetwork) :
    Leads (HasRow id) (SwapWebhook.completeBlock cache e confirmedFrom confirmedTo creditId
      creditReference toNetwork) (fun done L => done ≠ .skipped → Closed id L) := by
  refine leads_keeps_bind (preserves_read _) fun isOpen => ?_
  refine leads_ite (leads_pure fun _ _ h => absurd rfl h) ?_
  refine leads_keeps_bind (OnBalances.hasRow (mustUpdateWallet_onBalances _ _ _ _)) fun _ => ?_
  refine leads_keeps_bind (OnBalances.hasRow (restateOriginalBalance_onBalances _ _ _)) fun _ => ?_
  refine leads_keeps_bind (OnBalances.hasRow (subtractInternalBalance_onBalances _ _)) fun _ => ?_
  simp only [hregular, Bool.false_eq_true, if_false]
  refine leads_keeps_bind (OnBalances.hasRow (mustUpdateWallet_onBalances _ _ _ _)) fun _ => ?_
  refine leads_keeps_bind (OnBalances.hasRow (restateOriginalBalance_onBalances _ _ _)) fun _ => ?_
  refine leads_keeps_bind (OnBalances.hasRow (addInternalBalance_onBalances _ _)) fun _ => ?_
  simp only [SwapWebhook.updateLinked, he]
  refine leads_bind (leads_closed fun _ => rfl) fun _ => ?_
  refine leads_keeps_bind (preserves_update fun _ h => h) fun _ => ?_
  refine leads_keeps_bind (preserves_bind (preserves_read _) fun _ => preserves_onlyIf
    (insertTransaction_closed _ _)) fun _ => ?_
  refine leads_keeps_bind (OnBalances.closed (releaseLiquidity_onBalances _ _)) fun _ => ?_
  exact leads_pure fun _ h _ => h

theorem settleBlock_closes (event : WithdrawalWebhook.Event) (transaction : Transaction)
    (withdrawalId : WithdrawalId) (withdrawal : Withdrawal) (amountBase : Int) :
    Leads (HasRow id) (WithdrawalWebhook.settleBlock cache event id transaction withdrawalId
      withdrawal amountBase) (fun _ => Closed id) := by
  refine leads_keeps_bind (preserves_read _) fun _ => ?_
  refine leads_keeps_bind (preserves_require _ _) fun _ => ?_
  refine leads_keeps_bind (preserves_update fun _ h => h) fun _ => ?_
  refine leads_keeps_bind (OnBalances.hasRow
    (WithdrawalWebhook.closeReservations_onBalances _ _ _ _)) fun _ => leads_closed fun _ => ?_
  cases event <;> rfl

theorem Closing.Timely.closes {x : Closing} {s : Accounts} {t : Transaction}
    (h : x.Timely id s t) {M : Ledger}
    (hM : (x.block cache id).Commits s.state.queue.ledger true M) : Closed id M := by
  have hrow : HasRow id s.state.queue.ledger := by simp [HasRow, h.current]
  cases x with
  | orderFailed isBuy crypto transaction => exact failOrderBlock_closes _ _ _ _ _ M hrow hM
  | orderSettled crypto transaction executedCrypto executedFiat =>
    exact buyBlock_closes _ _ _ _ _ _ M hrow hM
  | settlementFailed transaction =>
    obtain ⟨u, -, hu⟩ := commits_map.mp hM
    exact buyFailureBlock_closes _ _ u M hrow hu
  | missingBankDetails crypto transaction =>
    obtain ⟨u, -, hu⟩ := commits_map.mp hM
    exact missingBankDetailsBlock_closes _ _ _ u M hrow hu
  | chargeFailed transaction =>
    obtain ⟨u, -, hu⟩ := commits_map.mp hM
    exact handleFailureBlock_closes _ _ u M hrow hu
  | paidOut transaction =>
    obtain ⟨u, -, hu⟩ := commits_map.mp hM
    exact transferSuccessBlock_closes _ _ u M hrow hu
  | swapFailed e isReversal =>
    obtain ⟨l, hl, -⟩ := h.linked
    obtain ⟨u, -, hu⟩ := commits_map.mp hM
    exact failureBlock_closes hl isReversal _ u M hrow hu
  | swapCompleted e regular confirmedFrom confirmedTo creditId creditReference toNetwork =>
    obtain ⟨l, hl, -⟩ := h.linked
    obtain ⟨done, hdone, hu⟩ := commits_map.mp hM
    exact completeBlock_closes hl regular _ _ _ _ _ _ done M hrow hu (of_decide_eq_true hdone)
  | withdrawalClosed event transaction withdrawalId withdrawal amountBase =>
    obtain ⟨u, -, hu⟩ := commits_map.mp hM
    exact settleBlock_closes _ _ _ _ _ _ u M hrow hu

theorem releaseReserved_hasRow (transaction : Transaction) :
    Preserves (HasRow id) (releaseReserved transaction) := by
  unfold releaseReserved
  split
  · exact OnBalances.hasRow (releaseBalance_onBalances _ _ _ _)
  · exact preserves_pure ()

theorem expireBlock_closes (transaction : Transaction) :
    Leads (HasRow id) (expireBlock id transaction) (fun _ => Closed id) := by
  refine leads_keeps_bind (releaseReserved_hasRow _) fun _ => ?_
  refine closes_bind (leads_closed fun _ => rfl) fun _ => ?_
  refine preserves_bind (preserves_read _) fun _ => ?_
  exact preserves_bind (preserves_require _ _) fun _ => preserves_update fun _ h => h

end Closes

/-! ### The rows along a run -/

section Rows

variable {cache : ConvertCurrency.DefaultNetworkCache} {id : TransactionId}
  {context : TransactionContext} {failed : FailedCompanyLiquidityTransaction}

/-- What a retry asked of the provider is of the transaction's kind, and the row that the retry of a
purchase has read is in step. -/
def Target.Of (context : TransactionContext) (failed : FailedCompanyLiquidityTransaction) :
    Target → Prop
  | .buy transaction => context = .BUY ∧ Covers context failed transaction
  | _ => context ≠ .BUY

def Task.Of (context : TransactionContext) (failed : FailedCompanyLiquidityTransaction) :
    Task → Prop
  | .checking f | .releasing f => f = failed
  | .reserving f txRecord | .resuming f txRecord =>
    f = failed ∧ txRecord.transactionContext = context
  | .marking f found _ => f = failed ∧ found.Of context failed
  | _ => True

def Task.marks : Task → Bool
  | .marking _ _ _ => true
  | _ => false

theorem Task.Of.holding {t : Task} (h : t.Of context failed) {f : FailedCompanyLiquidityTransaction}
    (hf : t.holding = some f) : f = failed := by
  cases t <;> cases hf
  · exact h.1
  · exact h.1
  · exact h

theorem Task.active_of_marks {t : Task} (h : t.marks = true) : t.active = true := by
  cases t <;> first | rfl | cases h

/-- The rows stand as the record has them until the transaction ends, closed. The metadata of a
purchase call its part reserved as soon as the retry that was taken up has marked it. -/
structure Described (context : TransactionContext) (failed : FailedCompanyLiquidityTransaction)
    (id : TransactionId) (s : Accounts) : Prop where
  standing : s.state.ended = false → Standing id context failed s.state.queue.ledger
  closed : s.state.ended = true → Closed id s.state.queue.ledger
  tasks : ∀ t ∈ s.running, t.Of context failed
  placedFor : ∀ f, s.state.placedFor = some f → f = failed
  noted : context = .BUY → s.state.ended = false → s.state.queue.placed ≠ 0 →
    s.running.countP Task.marks ≠ 0 ∨ Noted id s.state.queue.ledger

theorem Described.fits {s : Accounts} (hd : Described context failed id s)
    {e : Event Call Outcome (Happening id)} (he : InStep s e) : Fits s e := by
  cases e with
  | start c => trivial
  | resume n o => exact he
  | outside x =>
    cases x with
    | other x => trivial
    | close x =>
      intro hplaced hruns
      obtain ⟨t, ht⟩ := he hplaced hruns
      have hended : s.state.ended = false := by
        by_contra hnot
        obtain ⟨u, hu, hfinal⟩ := closed_iff.mp (hd.closed (by simpa using hnot))
        rw [ht.current, Option.some.injEq] at hu
        rw [← hu, ht.isOpen] at hfinal
        cases hfinal
      have hstanding := hd.standing hended
      obtain ⟨u, hu, hcovers⟩ := hstanding.row
      rw [ht.current, Option.some.injEq] at hu
      subst hu
      have hnoted (hbuy : context = .BUY) :
          t.paymentMetadata.liquidityReservationStatus = some .RESERVED := by
        rcases hd.noted hbuy hended hplaced with hmarks | ⟨v, hv, hstatus⟩
        · obtain ⟨v, hv, hmarks⟩ := List.countP_pos_iff.mp (Nat.pos_of_ne_zero hmarks)
          exact absurd (Task.active_of_marks hmarks) (List.countP_eq_zero.mp ht.idle v hv)
        · rw [ht.current, Option.some.injEq] at hv
          rwa [hv]
      refine ⟨ht.idle, hended, fun f hf => ?_, ht.funded⟩
      rw [hd.placedFor f hf]
      exact ht.reservation hcovers hnoted hstanding.withdrawals

/-- The rows that the handlers go by are the same, and the record is the same or gone. -/
structure SameRows (id : TransactionId) (L M : Ledger) : Prop where
  transactions : M.transactions = L.transactions
  withdrawals : M.withdrawals = L.withdrawals
  record : ∀ f, M.failedCompanyLiquidity.lookup id = some f →
    L.failedCompanyLiquidity.lookup id = some f

theorem SameRows.refl (L : Ledger) : SameRows id L L := ⟨rfl, rfl, fun _ h => h⟩

theorem SameRows.standing {L M : Ledger} (h : SameRows id L M)
    (hL : Standing id context failed L) : Standing id context failed M where
  row := h.transactions ▸ hL.row
  record f hf := hL.record f (h.record f hf)
  withdrawals := h.withdrawals ▸ hL.withdrawals

theorem SameRows.noted {L M : Ledger} (h : SameRows id L M) (hL : Noted id L) : Noted id M := by
  rw [Noted, h.transactions]
  exact hL

theorem SameRows.closed {L M : Ledger} (h : SameRows id L M) (hL : Closed id L) : Closed id M := by
  rw [closed_iff, h.transactions]
  exact closed_iff.mp hL

theorem deleteRecord_sameRows (L : Ledger) : SameRows id L ((deleteRecord id).commit L) := by
  rcases (deleteRecord id).commit_cases L with hsame | ⟨_, hM⟩
  · rw [hsame]
    exact .refl L
  · have hgone := deleteRecord_gone id L
    generalize (deleteRecord id).commit L = M at hM hgone
    simp only [deleteRecord, commits_read_bind, commits_require_bind, commits_update] at hM
    obtain ⟨-, rfl⟩ := hM
    exact ⟨rfl, rfl, fun f hf => by rw [hgone] at hf; cases hf⟩

theorem reserveLiquidity_sameRows {c : Currency} {amount : Nat} {L M : Ledger} {b : Bool}
    (h : (reserveLiquidity c amount).Commits L b M) : SameRows id L M := by
  rcases updateCompany_commits.mp h with ⟨r, -, -, -, rfl⟩ | ⟨-, -, rfl⟩
  · exact ⟨rfl, rfl, fun _ h => h⟩
  · exact .refl _

theorem releaseLiquidity_sameRows {c : Currency} {amount : Nat} {L M : Ledger} {u : Unit}
    (h : (releaseLiquidity c amount).Commits L u M) : SameRows id L M := by
  rw [(releaseLiquidity_frame h).1]
  exact ⟨rfl, rfl, fun _ h => h⟩

/-- What a calm step does to the rows, where it does not expire the transaction: nothing, but for
the call that is taken up and the writes that follow it. -/
theorem resume_cases {q : Queue} {s : System Queue Task} {t : Task} {o : Outcome}
    (hc : Calm id s t o) (hexpires : expires id q.ledger t o = false) :
    (SameRows id q.ledger (resume id t o q).1.ledger ∧ (resume id t o q).1.placed = q.placed ∧
      t.marks = false) ∨
    (∃ f txRecord found reference, t = .resuming f txRecord ∧
      target q.ledger id txRecord.transactionContext = some found ∧
      resume id t o q =
        ({ q with placed := q.placed + 1 }, some (.marking f found reference))) ∨
    ∃ f found reference, t = .marking f found reference ∧
      resume id t o q = (q.commit (found.block id reference), some .deleting) := by
  cases t with
  | resuming f txRecord =>
    rcases call_cases f txRecord q hc.1 hc.2 with ⟨found, reference, hfound, hstep⟩ | hstep
    · exact .inr (.inl ⟨f, txRecord, found, reference, rfl, hfound, hstep⟩)
    · rw [hstep]
      exact .inl ⟨.refl _, rfl, rfl⟩
  | marking f found reference =>
    obtain rfl : o = .ok := hc
    exact .inr (.inr ⟨f, found, reference, rfl, rfl⟩)
  | reserving f txRecord =>
    left
    cases o with
    | ok =>
      simp only [resume]
      split
      · rename_i M hM
        exact ⟨reserveLiquidity_sameRows hM, rfl, rfl⟩
      · exact ⟨.refl _, rfl, rfl⟩
    | _ => exact ⟨.refl _, rfl, rfl⟩
  | releasing f =>
    left
    cases o with
    | ok =>
      simp only [resume]
      split
      · rename_i u M hM
        exact ⟨releaseLiquidity_sameRows hM, rfl, rfl⟩
      · exact ⟨.refl _, rfl, rfl⟩
    | _ => exact ⟨.refl _, rfl, rfl⟩
  | expiring transaction =>
    left
    cases o with
    | ok =>
      simp only [resume]
      split
      · rename_i hretryable
        simp only [expires, hretryable, Bool.true_and, Option.isSome_eq_false_iff,
          Option.isNone_iff_eq_none] at hexpires
        refine ⟨?_, rfl, rfl⟩
        rcases (expireBlock id transaction).commit_cases q.ledger with hsame | ⟨u, hM⟩
        · simp only [Queue.commit, hsame]
          exact .refl _
        · rw [result_eq_some.mpr hM] at hexpires
          cases hexpires
      · exact ⟨deleteRecord_sameRows _, rfl, rfl⟩
    | _ => exact ⟨.refl _, rfl, rfl⟩
  | dropping | deleting =>
    left
    cases o with
    | ok => exact ⟨deleteRecord_sameRows _, rfl, rfl⟩
    | _ => exact ⟨.refl _, rfl, rfl⟩
  | checking f | processing =>
    left
    cases o <;> exact ⟨.refl _, rfl, rfl⟩

theorem Standing.of_target {L : Ledger} (hL : Standing id context failed L) {found : Target}
    (h : target L id context = some found) : found.Of context failed := by
  obtain ⟨t, ht, h⟩ := Option.bind_eq_some_iff.mp h
  obtain ⟨u, hu, hcovers⟩ := hL.row
  rw [ht, Option.some.injEq] at hu
  subst hu
  cases context with
  | BUY =>
    simp only [Option.ite_none_right_eq_some, Option.some.injEq] at h
    obtain ⟨-, rfl⟩ := h
    exact ⟨rfl, hcovers⟩
  | SELL | SWAP | WITHDRAWAL =>
    obtain ⟨_, -, rfl⟩ := Option.map_eq_some_iff.mp h
    exact nofun
  | _ => cases h

theorem updateTransaction_standing {f : Transaction → Transaction}
    (hf : ∀ t, Covers context failed t → Covers context failed (f t)) :
    Preserves (Standing id context failed) (updateTransaction id f) := by
  refine preserves_update fun L hL => ⟨⟨?_, hL.withdrawals⟩, hL.record⟩
  obtain ⟨t, ht, hcovers⟩ := hL.row
  exact ⟨f t, by simp [ht], hf t hcovers⟩

theorem updateWithdrawal_standing (withdrawalId : WithdrawalId) {f : Withdrawal → Withdrawal}
    (hid : ∀ w, (f w).transactionId = w.transactionId)
    (hcurrency : ∀ w, (f w).currency = w.currency) :
    Preserves (Standing id context failed) (updateWithdrawal withdrawalId f) := by
  refine preserves_update fun L hL => ⟨⟨hL.row, fun j w hw hj => ?_⟩, hL.record⟩
  simp only [Table.lookup_modify] at hw
  split at hw
  · obtain ⟨v, hv, rfl⟩ := Option.map_eq_some_iff.mp hw
    rw [hcurrency]
    exact hL.withdrawals _ v hv (by rw [← hid, hj])
  · exact hL.withdrawals j w hw hj

theorem Target.Of.standing {found : Target} (h : found.Of context failed) (reference : Reference) :
    Preserves (Standing id context failed) (found.block id reference) := by
  have hkept (f : Transaction → Transaction)
      (hf : ∀ t, f t = { t with
        transactionUniqueId := (f t).transactionUniqueId, status := (f t).status })
      (t : Transaction) (ht : Covers context failed t) : Covers context failed (f t) := by
    rw [hf]
    exact ⟨ht.kind, ht.share, ht.sale, ht.purchase⟩
  cases found with
  | sell =>
    refine preserves_bind (preserves_update fun _ h => ⟨⟨h.row, h.withdrawals⟩, h.record⟩)
      fun _ => ?_
    exact updateTransaction_standing (hkept _ fun _ => rfl)
  | swap swapRecordId => exact preserves_update fun _ h => ⟨⟨h.row, h.withdrawals⟩, h.record⟩
  | withdrawal withdrawalId =>
    refine preserves_bind (updateWithdrawal_standing _ (fun _ => rfl) fun _ => rfl) fun _ => ?_
    exact updateTransaction_standing (hkept _ fun _ => rfl)
  | buy transaction =>
    obtain ⟨rfl, hcopy⟩ := h
    -- the metadata are those of the copy, which names the amount
    have hamount := hcopy.purchase rfl
    refine updateTransaction_standing fun t ht => ⟨ht.kind, ?_, nofun, fun _ => hamount⟩
    have hcurrency := congrArg Prod.fst ht.share
    simp only [covered, ht.kind] at hcurrency ⊢
    simp only [Transaction.reservedLiquidityAmount, hamount, Option.getD_some, ← hcurrency]

theorem Target.Of.noted {found : Target} (h : found.Of .BUY failed) (reference : Reference)
    {L : Ledger} (hL : Standing id .BUY failed L) :
    Noted id ((found.block id reference).commit L) := by
  cases found with
  | buy transaction =>
    obtain ⟨t, ht, -⟩ := hL.row
    refine ⟨{ t with
      status := .PENDING
      paymentMetadata := { transaction.paymentMetadata with
        liquidityReservationStatus := some .RESERVED } }, ?_, rfl⟩
    have hcommits : (Target.block id reference (.buy transaction)).Commits L () _ :=
      commits_update.mpr rfl
    rw [commit_of_commits hcommits]
    simp [ht]
  | _ => exact absurd rfl h

theorem Task.Of.next {q : Queue} {t u : Task} {o : Outcome} (ht : t.Of context failed)
    (hL : Standing id context failed q.ledger ∨
      (q.ledger.failedCompanyLiquidity.lookup id = none ∧ t.active = false))
    (hu : (resume id t o q).2 = some u) : u.Of context failed := by
  have hresumes := resume_resumes id t o q
  rw [hu] at hresumes
  generalize (resume id t o q).1 = after at hresumes
  cases hresumes with
  | found hrecord hrow =>
    rcases hL with hL | ⟨hnone, -⟩
    · obtain ⟨row, hlookup, hcovers⟩ := hL.row
      rw [hrow] at hlookup
      cases hlookup
      exact ⟨hL.record _ hrecord, hcovers.kind⟩
    · rw [hnone] at hrecord
      cases hrecord
  | accepted f hfound =>
    rcases hL with hL | ⟨-, hidle⟩
    · exact ⟨ht.1, hL.of_target (ht.2 ▸ hfound)⟩
    · cases hidle
  | reserved => exact ht
  | acceptedUnseen | refused | unmarked => exact ht.1
  | checked | unretryable | marked => trivial

theorem Described.start {s : Accounts} (hd : Described context failed id s) (hs : Balanced id s)
    (c : Call) : Described context failed id ((accounts cache id).step (.start c) s) := by
  have hmarks : ((accounts cache id).step (.start c) s).running.countP Task.marks =
      s.running.countP Task.marks := by
    refine Handlers.countP_start fun u hu => ?_
    cases hmarks : u.marks with
    | false => rfl
    | true =>
      have hactive := Task.active_of_marks hmarks
      obtain ⟨hreserves, hunplaced, hanswered⟩ := start_active hu
      simp [Task.active, hreserves, hunplaced, hanswered] at hactive
  refine ⟨hd.standing, hd.closed, Handlers.forall_running_start hd.tasks fun u hu => ?_,
    hd.placedFor, fun hbuy hended hplaced => ?_⟩
  · have hopen (f : FailedCompanyLiquidityTransaction)
        (hf : s.state.queue.ledger.failedCompanyLiquidity.lookup id = some f) : f = failed := by
      cases hended : s.state.ended with
      | false => exact (hd.standing hended).record f hf
      | true =>
        rw [(hs.ended hended).1] at hf
        cases hf
    have hu' : FailedCompanyLiquidity.start id c s.state.queue = some u := hu
    unfold FailedCompanyLiquidity.start at hu'
    split at hu'
    · rename_i f _ hf _
      cases hu'
      exact hopen f hf
    · rename_i f hf
      cases hu'
      exact hopen f hf
    · cases hu'
      trivial
    · cases hu'
  · rw [hmarks]
    exact hd.noted hbuy hended hplaced

theorem Described.other {s : Accounts} (hd : Described context failed id s) {x : Other id}
    (hx : Leaves x s.state.queue.ledger) :
    Described context failed id ((accounts cache id).step (.outside (.other x)) s) := by
  refine ⟨fun hended => ?_, fun hended => ?_, hd.tasks, hd.placedFor, fun hbuy hended hplaced => ?_⟩
  · have hstanding := hd.standing hended
    obtain ⟨t, ht, hcovers⟩ := hstanding.row
    obtain ⟨u, hu, hsame⟩ := hx.row t ht
    refine ⟨⟨⟨u, hu, hsame.kind.trans hcovers.kind, hsame.share.trans hcovers.share,
      fun hsell => hsame.reserved.trans (hcovers.sale hsell), fun hbuy => ?_⟩, ?_⟩,
      fun f hf => hstanding.record f (hx.record f hf)⟩
    · exact (hsame.noted (hcovers.kind.trans hbuy)).2.trans (hcovers.purchase hbuy)
    · intro withdrawalId w hw hid
      obtain ⟨v, hv, hvid, hcurrency⟩ := hx.withdrawals withdrawalId w hw hid
      rw [← hcurrency]
      exact hstanding.withdrawals withdrawalId v hv hvid
  · obtain ⟨t, ht, hfinal⟩ := closed_iff.mp (hd.closed hended)
    obtain ⟨u, hu, hsame⟩ := hx.row t ht
    exact closed_iff.mpr ⟨u, hu, hsame.closed hfinal⟩
  · refine (hd.noted hbuy hended hplaced).imp_right fun hnoted => ?_
    obtain ⟨t, ht, hstatus⟩ := hnoted
    obtain ⟨v, hv, hcovers⟩ := (hd.standing hended).row
    rw [ht, Option.some.injEq] at hv
    subst hv
    obtain ⟨u, hu, hsame⟩ := hx.row t ht
    exact ⟨u, hu, (hsame.noted (hcovers.kind.trans hbuy)).1.trans hstatus⟩

theorem Described.close {s : Accounts} (hd : Described context failed id s) {x : Closing}
    (hx : InStep s (.outside (.close x) : Event Call Outcome (Happening id))) :
    Described context failed id ((accounts cache id).step (.outside (.close x)) s) := by
  have hstep : (accounts cache id).step (.outside (.close x)) s =
      ⟨FailedCompanyLiquidity.close cache id x s.state, s.running⟩ := rfl
  rw [hstep]
  unfold FailedCompanyLiquidity.close
  split
  · exact hd
  · rename_i hopen
    simp only [not_or, Bool.not_eq_false] at hopen
    obtain ⟨t, ht⟩ := hx hopen.1 hopen.2
    split
    · rename_i M hM
      have hclosed : Closed id M := ht.closes hM
      refine ⟨fun hended => ?_, fun _ => hclosed, hd.tasks, hd.placedFor, fun _ hended => ?_⟩
      · simp [Account.move] at hended
      · simp [Account.move] at hended
    · exact hd

theorem expires_closes {L : Ledger} {q : Queue} (hq : q.ledger = L) (hL : HasRow id L) {t : Task}
    {o : Outcome} (h : expires id L t o = true) : Closed id (resume id t o q).1.ledger := by
  cases t with
  | expiring transaction =>
    cases o with
    | ok =>
      simp only [expires, Bool.and_eq_true, Option.isSome_iff_exists] at h
      obtain ⟨hretryable, u, hu⟩ := h
      obtain ⟨M, hM⟩ : ∃ M, (expireBlock id transaction).Commits L u M :=
        ⟨_, result_eq_some.mp hu⟩
      have hclosed := expireBlock_closes transaction L u M hL hM
      simp only [resume, hretryable, if_true, Queue.commit, hq]
      rwa [commit_of_commits hM]
    | _ => cases h
  | _ => cases o <;> cases h

theorem Described.resume {s : Accounts} (hd : Described context failed id s) (hs : Balanced id s)
    {n : Nat} {t : Task} {o : Outcome} (ht : s.running[n]? = some t)
    (hc : Calm id s.retrying t o) :
    Described context failed id ((accounts cache id).step (.resume n o) s) := by
  have hmem := List.mem_of_getElem? ht
  have hrows (u : Task) (hu : u ∈ s.running) :
      Standing id context failed s.state.queue.ledger ∨
        (s.state.queue.ledger.failedCompanyLiquidity.lookup id = none ∧ u.active = false) := by
    cases hended : s.state.ended with
    | false => exact .inl (hd.standing hended)
    | true =>
      obtain ⟨hgone, hactive, -⟩ := hs.ended hended
      exact .inr ⟨hgone, by simpa using List.countP_eq_zero.mp hactive u hu⟩
  have htasks : ∀ u ∈ ((accounts cache id).step (.resume n o) s).running, u.Of context failed :=
    Handlers.forall_running_resume hd.tasks (fun _ _ h => h) fun u hu hof v hv =>
      Task.Of.next hof (hrows u hu) hv
  have hplacedFor (f : FailedCompanyLiquidityTransaction)
      (hf : ((s.state.move (FailedCompanyLiquidity.resume id t o s.state.queue).1
        (expires id s.state.queue.ledger t o)).place t s.state.queue).placedFor = some f) :
      f = failed := by
    change (if s.state.queue.placed < (FailedCompanyLiquidity.resume id t o s.state.queue).1.placed
      then t.holding else s.state.placedFor) = some f at hf
    split at hf
    · exact (hd.tasks t hmem).holding hf
    · exact hd.placedFor f hf
  have hstep : FailedCompanyLiquidity.resume id t o s.state.queue =
      ((FailedCompanyLiquidity.resume id t o s.state.queue).1,
        (FailedCompanyLiquidity.resume id t o s.state.queue).2) := rfl
  rw [step_resume ht o hstep] at htasks ⊢
  cases hexpires : expires id s.state.queue.ledger t o with
  | true =>
    refine ⟨fun hended => ?_, fun _ => ?_, ?_, ?_, fun _ hended => ?_⟩
    · simp [Account.move] at hended
    · refine expires_closes rfl ?_ hexpires
      cases hended : s.state.ended with
      | false =>
        obtain ⟨row, hrow, -⟩ := (hd.standing hended).row
        simp [HasRow, hrow]
      | true => exact (hd.closed hended).hasRow
    · simpa only [hexpires] using htasks
    · simpa only [hexpires] using hplacedFor
    · simp [Account.move] at hended
  | false =>
    rw [hexpires] at htasks hplacedFor
    have hopen {b : Bool} (hended : (s.state.ended || false) = b) : s.state.ended = b := by
      simpa using hended
    have hactive (hnot : t.active = true) : s.state.ended ≠ true := fun hended =>
      List.countP_eq_zero.mp (hs.ended hended).2.1 t hmem hnot
    rcases resume_cases hc hexpires with ⟨hsame, hkept, hmarks⟩ |
      ⟨f, txRecord, found, reference, rfl, -, hq⟩ | ⟨f, found, reference, rfl, hq⟩
    · refine ⟨fun hended => hsame.standing (hd.standing (hopen hended)),
        fun hended => hsame.closed (hd.closed (hopen hended)), htasks, hplacedFor,
        fun hbuy hended hplaced => ?_⟩
      have hplaced' : s.state.queue.placed ≠ 0 := hkept ▸ hplaced
      refine (hd.noted hbuy (hopen hended) hplaced').imp (fun hcount => ?_) hsame.noted
      have hperm := (Handlers.perm_running ht).countP_eq Task.marks
      rw [List.countP_cons, hmarks] at hperm
      simp only [Bool.false_eq_true, if_false, Nat.add_zero] at hperm
      rw [List.countP_append]
      omega
    · rw [hq] at htasks hplacedFor ⊢
      refine ⟨fun hended => hd.standing (hopen hended),
        fun hended => absurd (hopen hended) (hactive rfl), htasks, hplacedFor, fun _ _ _ => .inl ?_⟩
      simp [Task.marks]
    · rw [hq] at htasks hplacedFor ⊢
      have hof := (hd.tasks _ hmem).2
      refine ⟨fun hended => (hof.standing reference).commit (hd.standing (hopen hended)),
        fun hended => absurd (hopen hended) (hactive rfl), htasks, hplacedFor,
        fun hbuy hended _ => .inr ?_⟩
      subst hbuy
      exact hof.noted reference (hd.standing (hopen hended))

theorem described_step {s : Accounts} (hs : Balanced id s ∧ Described context failed id s)
    {e : Event Call Outcome (Happening id)} (he : InStep s e) :
    Balanced id ((accounts cache id).step e s) ∧
      Described context failed id ((accounts cache id).step e s) := by
  obtain ⟨hb, hd⟩ := hs
  refine ⟨hb.step (hd.fits he), ?_⟩
  cases e with
  | start c => exact hd.start hb c
  | resume n o =>
    cases ht : s.running[n]? with
    | none =>
      rw [Handlers.step_resume_none ht]
      exact hd
    | some t => exact hd.resume hb ht (he t ht).1
  | outside x =>
    cases x with
    | other x => exact hd.other he
    | close x => exact hd.close he

end Rows

/-! ### The rows of a queued transaction -/

section Queued

variable {id : TransactionId} {context : TransactionContext}
  {failed : FailedCompanyLiquidityTransaction} {α : Type} {x : LedgerBlock α}

/-- No withdrawal names the transaction. -/
def Unnamed (id : TransactionId) (L : Ledger) : Prop :=
  ∀ withdrawalId w, L.withdrawals.lookup withdrawalId = some w → w.transactionId ≠ some id

def Queueing.kind : Queueing → TransactionContext
  | .buy _ => .BUY
  | .sell _ | .unfunded _ => .SELL
  | .swap _ => .SWAP
  | .withdrawal _ _ => .WITHDRAWAL

/-- What the record asks of the company. -/
def Queueing.asks : Queueing → FailedCompanyLiquidityTransaction
  | .buy q => ⟨BASE_CURRENCY, q.companyLiquidityAmount⟩
  | .sell q | .unfunded q => ⟨BASE_CURRENCY, q.netFiat⟩
  | .swap q => ⟨q.fromCurrency, q.exactFrom⟩
  | .withdrawal q _ => ⟨q.currency, q.total⟩

/-- Paystack's check finds the row of a sell as its confirmation has left it. -/
def Queueing.FoundIn (id : TransactionId) (L : Ledger) : Queueing → Prop
  | .unfunded q => ∃ t, L.transactions.lookup id = some t ∧
      Covers .SELL ⟨BASE_CURRENCY, q.netFiat⟩ t
  | _ => True

theorem OnBalances.unnamed (hx : OnBalances x) : Preserves (Unnamed id) x :=
  hx.preserves fun _ => Iff.rfl

theorem OnBalances.rows (hx : OnBalances x) : Preserves (Rows id context failed) x :=
  hx.preserves fun _ => ⟨fun h => ⟨h.row, h.withdrawals⟩, fun h => ⟨h.row, h.withdrawals⟩⟩

theorem insertTransaction_rows {row : Transaction} (hrow : Covers context failed row) :
    Leads (Unnamed id) (insertTransaction id row) (fun _ => Rows id context failed) := by
  intro L u M hL h
  simp only [insertTransaction, commits_read_bind, commits_require_bind, commits_update] at h
  obtain ⟨-, rfl⟩ := h
  exact ⟨⟨row, by simp, hrow⟩, fun withdrawalId w hw hid => absurd hid (hL withdrawalId w hw)⟩

theorem createWithdrawal_rows {withdrawalId : WithdrawalId} {w : Withdrawal}
    (hw : w.currency = failed.currency) :
    Preserves (Rows id context failed) (createWithdrawal withdrawalId w) := by
  refine preserves_bind (preserves_read _) fun _ => preserves_bind (preserves_require _ _) fun _ =>
    preserves_update fun L hL => ⟨hL.row, fun j v hv hid => ?_⟩
  simp only [Table.lookup_insert] at hv
  split at hv
  · cases hv
    exact hw
  · exact hL.withdrawals j v hv hid

theorem upsertFailedCompanyLiquidity_standing (c : Currency) (amount : Nat) :
    Leads (Rows id context ⟨c, amount⟩) (upsertFailedCompanyLiquidity id c amount)
      (fun _ => Standing id context ⟨c, amount⟩) := by
  intro L u M hL h
  rw [← commits_update.mp h]
  refine ⟨⟨hL.row, hL.withdrawals⟩, fun f hf => ?_⟩
  simpa using hf.symm

theorem createFailedCompanyLiquidity_standing (c : Currency) (amount : Nat) :
    Leads (Rows id context ⟨c, amount⟩) (createFailedCompanyLiquidity id c amount)
      (fun _ => Standing id context ⟨c, amount⟩) := by
  refine leads_keeps_bind (preserves_read _) fun _ => ?_
  exact leads_keeps_bind (preserves_require _ _) fun _ => upsertFailedCompanyLiquidity_standing _ _

theorem setReservationStatus_covers (status : LiquidityReservationStatus) {t : Transaction}
    (ht : Covers .SELL failed t) :
    Covers .SELL failed (SellService.setReservationStatus status t) :=
  ⟨ht.kind, by rw [← ht.share]; simp only [covered, ht.kind, SellService.setReservationStatus],
    ht.sale, nofun⟩

theorem setReservationStatus_rows (status : LiquidityReservationStatus) :
    Preserves (Rows id .SELL failed)
      (updateTransaction id (SellService.setReservationStatus status)) := by
  refine preserves_update fun L hL => ⟨?_, hL.withdrawals⟩
  obtain ⟨t, ht, hcovers⟩ := hL.row
  exact ⟨_, by simp [ht], setReservationStatus_covers status hcovers⟩

theorem buy_standing (q : BuyService.Confirm) :
    Leads (Unnamed id) (BuyService.confirmBlock q id) (fun r M => r = .queued →
      Standing id .BUY ⟨BASE_CURRENCY, q.companyLiquidityAmount⟩ M) := by
  refine leads_keeps_bind (preserves_require _ _) fun _ => ?_
  refine leads_keeps_bind (preserves_read _) fun _ => ?_
  refine leads_ite (leads_pure fun _ _ => nofun) ?_
  refine leads_keeps_bind (OnBalances.unnamed (reserveLiquidity_onBalances _ _)) fun reserved => ?_
  have hrow : Covers .BUY ⟨BASE_CURRENCY, q.companyLiquidityAmount⟩ (q.transaction reserved).row :=
    ⟨rfl, rfl, nofun, fun _ => rfl⟩
  refine leads_bind (insertTransaction_rows hrow) fun _ => ?_
  refine leads_ite (leads_pure fun _ _ => nofun) ?_
  exact leads_bind (createFailedCompanyLiquidity_standing _ _) fun _ => leads_pure fun _ h _ => h

theorem sell_standing (q : SellService.Confirm) :
    Leads (Unnamed id) (SellService.confirmBlock q id) (fun r M =>
      (r = .queued → Standing id .SELL ⟨BASE_CURRENCY, q.netFiat⟩ M) ∧
        (r = .reserved → Rows id .SELL ⟨BASE_CURRENCY, q.netFiat⟩ M)) := by
  refine leads_keeps_bind (preserves_require _ _) fun _ => ?_
  refine leads_keeps_bind (preserves_read _) fun _ => ?_
  refine leads_ite (leads_pure fun _ _ => ⟨nofun, nofun⟩) ?_
  refine leads_keeps_bind (OnBalances.unnamed (reserveBalance_onBalances _ _ _ _)) fun _ => ?_
  refine leads_keeps_bind (preserves_read _) fun available => ?_
  have hrow : Covers .SELL ⟨BASE_CURRENCY, q.netFiat⟩
      (q.transaction (decide ((q.netFiat : Int) ≤ available))).row :=
    ⟨rfl, rfl, fun _ => rfl, nofun⟩
  refine leads_bind (insertTransaction_rows hrow) fun _ => ?_
  refine leads_keeps_bind (preserves_update fun _ h => ⟨h.row, h.withdrawals⟩) fun _ => ?_
  have hqueued : Leads (Rows id .SELL ⟨BASE_CURRENCY, q.netFiat⟩)
      (do createFailedCompanyLiquidity id BASE_CURRENCY q.netFiat
          return SellService.ConfirmResult.queued)
      (fun r M => (r = .queued → Standing id .SELL ⟨BASE_CURRENCY, q.netFiat⟩ M) ∧
        (r = .reserved → Rows id .SELL ⟨BASE_CURRENCY, q.netFiat⟩ M)) :=
    leads_bind (createFailedCompanyLiquidity_standing _ _) fun _ =>
      leads_pure fun _ h => ⟨fun _ => h, nofun⟩
  refine leads_ite ?_ hqueued
  refine leads_keeps_bind (OnBalances.rows (reserveLiquidity_onBalances _ _)) fun _ => ?_
  refine leads_ite ?_ hqueued
  exact leads_keeps_bind (setReservationStatus_rows _) fun _ =>
    leads_pure fun _ h => ⟨nofun, fun _ => h⟩

theorem swap_standing (q : SwapService.Confirm) :
    Leads (Unnamed id) (SwapService.confirmBlock q id) (fun r M => r = false →
      Standing id .SWAP ⟨q.fromCurrency, q.exactFrom⟩ M) := by
  have hrow : Covers .SWAP ⟨q.fromCurrency, q.exactFrom⟩ q.transaction.row :=
    ⟨rfl, rfl, nofun, nofun⟩
  refine leads_keeps_bind (preserves_require _ _) fun _ => ?_
  refine leads_bind (insertTransaction_rows hrow) fun _ => ?_
  refine leads_keeps_bind (OnBalances.rows (reserveBalance_onBalances _ _ _ _)) fun _ => ?_
  refine leads_keeps_bind (OnBalances.rows (reserveLiquidity_onBalances _ _)) fun _ => ?_
  refine leads_ite (leads_pure fun _ _ => nofun) ?_
  exact leads_bind (createFailedCompanyLiquidity_standing _ _) fun _ => leads_pure fun _ h _ => h

theorem withdrawal_standing (q : WithdrawalService.Confirm) (withdrawalId : WithdrawalId) :
    Leads (Unnamed id) (WithdrawalService.confirmBlock q id withdrawalId) (fun r M => r = .queued →
      Standing id .WITHDRAWAL ⟨q.currency, q.total⟩ M) := by
  have hrow : Covers .WITHDRAWAL ⟨q.currency, q.total⟩ q.transaction :=
    ⟨rfl, rfl, nofun, nofun⟩
  refine leads_keeps_bind (preserves_require _ _) fun _ => ?_
  refine leads_keeps_bind (preserves_read _) fun _ => ?_
  refine leads_ite (leads_pure fun _ _ => nofun) ?_
  refine leads_keeps_bind (OnBalances.unnamed (reserveBalance_onBalances _ _ _ _)) fun _ => ?_
  refine leads_bind (insertTransaction_rows hrow) fun _ => ?_
  refine leads_keeps_bind (OnBalances.rows (reserveLiquidity_onBalances _ _)) fun _ => ?_
  refine leads_keeps_bind (createWithdrawal_rows rfl) fun _ => ?_
  refine leads_ite (leads_pure fun _ _ => nofun) ?_
  exact leads_bind (createFailedCompanyLiquidity_standing _ _) fun _ => leads_pure fun _ h _ => h

theorem unfunded_standing (q : SellService.Confirm) :
    Leads (Rows id .SELL ⟨BASE_CURRENCY, q.netFiat⟩) (SellService.paystackShortBlock q id)
      (fun _ => Standing id .SELL ⟨BASE_CURRENCY, q.netFiat⟩) := by
  refine leads_keeps_bind (OnBalances.rows (releaseLiquidity_onBalances _ _)) fun _ => ?_
  refine leads_bind (upsertFailedCompanyLiquidity_standing _ _) fun _ => ?_
  exact updateTransaction_standing fun t ht => setReservationStatus_covers _ ht

theorem Queueing.standing {q : Queueing} {L M : Ledger} (hnew : Unnamed id L)
    (hfound : q.FoundIn id L) (h : (q.block id).Commits L true M) :
    Standing id q.kind q.asks M := by
  cases q with
  | buy q =>
    obtain ⟨r, hr, h⟩ := commits_map.mp h
    exact buy_standing q L r M hnew h (of_decide_eq_true hr)
  | sell q =>
    obtain ⟨r, hr, h⟩ := commits_map.mp h
    exact (sell_standing q L r M hnew h).1 (of_decide_eq_true hr)
  | swap q =>
    obtain ⟨r, hr, h⟩ := commits_map.mp h
    exact swap_standing q L r M hnew h (by simpa using hr)
  | withdrawal q withdrawalId =>
    obtain ⟨r, hr, h⟩ := commits_map.mp h
    exact withdrawal_standing q withdrawalId L r M hnew h (of_decide_eq_true hr)
  | unfunded q =>
    obtain ⟨u, -, h⟩ := commits_map.mp h
    exact unfunded_standing q L u M
      ⟨hfound, fun withdrawalId w hw hid => absurd hid (hnew withdrawalId w hw)⟩ h

end Queued

theorem balanced_queued (id : TransactionId) (L : Ledger) : Balanced id (queued L) where
  serial := by constructor <;> simp [queued, Accounts.retrying]
  holding t ht := by cases ht
  free _ _ c := rfl
  nonneg c := le_rfl
  placed hplaced := absurd rfl hplaced
  ended hended := Bool.noConfusion hended

theorem described_queued {id : TransactionId} {context : TransactionContext}
    {failed : FailedCompanyLiquidityTransaction} {L : Ledger}
    (hL : Standing id context failed L) : Described context failed id (queued L) where
  standing _ := hL
  closed hended := Bool.noConfusion hended
  tasks t ht := by cases ht
  placedFor f hf := by cases hf
  noted _ _ hplaced := absurd rfl hplaced

theorem inStep_resume {id : TransactionId} {s : Accounts} {n : Nat} {t : Task} {o : Outcome}
    (ht : s.running[n]? = some t) (hc : Calm id s.retrying t o)
    (hexpires : expires id s.state.queue.ledger t o = false) :
    InStep (s : Accounts) (.resume n o : Event Call Outcome (Happening id)) := by
  intro u hu
  rw [ht] at hu
  cases hu
  exact ⟨hc, fun h => absurd (hexpires.symm.trans h) nofun⟩

/-- 1230 naira of bitcoin. -/
def purchase : BuyService.Confirm where
  userId := 1
  crypto := .btc
  previewId := 7
  volumeCrypto := 1000
  totalFiat := 123000
  platformFee := 0
  companyLiquidityAmount := 123000
  network := some .btc
  usdtDecimals := 6

def queuedBuy : Ledger := (BuyService.confirmBlock purchase 1).commit Ledger.empty

def boughtRow : Transaction := (purchase.transaction false).row

/-- 5000 naira come in. -/
def topUp : Other 1 where
  change := fun L => L.setCompany .ngn { CompanyLiquidity.empty with totalBalance := 500000 }
  gone := fun _ h => h

/-- The charge of the first retry is refused, that of the second is taken up, and the order for it
is then cancelled. -/
def retriedBuy : List (Event Call Outcome (Happening 1)) :=
  [.outside (.other topUp), .start .autoProcessEligible, .resume 0 .ok, .resume 0 .ok,
    .resume 0 .ok, .resume 0 .refused, .resume 0 .ok, .start .activateAndProcess, .resume 0 .ok,
    .resume 0 .ok, .resume 0 .ok, .resume 0 (.accepted 31), .resume 0 .ok, .resume 0 .ok,
    .outside (.close (.orderFailed true .btc { boughtRow with
      paymentMetadata := { boughtRow.paymentMetadata with
        liquidityReservationStatus := some .RESERVED } }))]

theorem topUp_leaves (L : Ledger) : Leaves topUp L where
  row t ht := ⟨t, ht, rfl, rfl, rfl, fun _ => ⟨rfl, rfl⟩, fun h => h⟩
  record _ h := h
  withdrawals _ w hw hid := ⟨w, hw, hid, rfl⟩

/-- A thousandth of a bitcoin for 1230 naira. -/
def sale : SellService.Confirm where
  userId := 1
  crypto := .btc
  previewId := 7
  exactCrypto := 100000
  platformFee := 0
  netFiat := 123000
  network := some .btc
  walletDefaultNetwork := some .btc
  usdtDecimals := 6

def seller : Ledger :=
  { Ledger.empty with
    wallets := (∅ : Table WalletKey Wallet).insert (1, .btc)
      { Wallet.empty with baseBalance := 200000, defaultNetwork := some .btc } }

def retriedSale : List (Event Call Outcome (Happening 1)) :=
  [.outside (.other topUp), .start .autoProcessEligible, .resume 0 .ok, .resume 0 .ok,
    .resume 0 .ok, .resume 0 (.accepted 31), .resume 0 .ok, .resume 0 .ok]

end FailedCompanyLiquidity

end ExchangeLedger
