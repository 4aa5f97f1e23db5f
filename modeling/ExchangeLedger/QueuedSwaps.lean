import ExchangeLedger.LiquidityRetries
import ExchangeLedger.QuoteUse

set_option autoImplicit false

/-! Swaps that `confirmSwap` queues for want of liquidity: what a retry finds of them, and which
transaction the provider's events about a swap are linked to. -/

namespace ExchangeLedger

open Block Concurrent

namespace SwapWebhook

/-- `swapTransaction.findFirst({ where: { swapId } })`. -/
def findSwapRecord (swapId : Reference) (L : Ledger) : Option (SwapRecordId × SwapTransaction) :=
  (L.swaps.entries.find? (fun e => e.2.swapId = some swapId)).map (fun e => (e.1, e.2))

/-- `transaction.findFirst`, where `isDebit` is the column `transactionType`; without a reference
that part of the filter is left out. -/
def findTransaction (isDebit : TransactionId → Bool) (context : TransactionContext)
    (userId : UserId) (reference : Option Reference) (L : Ledger) :
    Option (TransactionId × Transaction) :=
  (L.transactions.entries.find? (fun e =>
    reference.all (fun r => e.2.transactionUniqueId = r) ∧ e.2.transactionContext = context ∧
      isDebit e.1 = true ∧ e.2.userId = userId)).map (fun e => (e.1, e.2))

/-- The transaction of a swap, found by the provider's id, or the one of an autostack, found by the
quote. -/
def linkedTransaction (isDebit : TransactionId → Bool) (swap : SwapTransaction)
    (swapId : Reference) (L : Ledger) : Option (TransactionId × Transaction) :=
  (findTransaction isDebit .SWAP swap.userId (some swapId) L).or
    (findTransaction isDebit .AUTOSTACK swap.userId swap.quoteId L)

/-- What `process` reads before the block of a regular swap; nothing of a swap that is unknown,
terminal, a vault's or without its wallets. -/
def readEvent (isDebit : TransactionId → Bool) (swapId : Reference) (fromAmount : Nat)
    (L : Ledger) : Option Event :=
  match findSwapRecord swapId L with
  | some (swapRecordId, swap) =>
    if swap.status.isTerminal = true ∨ swap.vaultId.isSome = true ∨
        L.wallets.lookup (swap.userId, swap.fromCurrency) = none ∨
        L.wallets.lookup (swap.userId, swap.toCurrency) = none then none
    else some
      { swapRecordId, swap, linkedTx := linkedTransaction isDebit swap swapId L, fromAmount }
  | none => none

/-- What the provider reports of a swap. -/
inductive Report where
  | completed (cache : ConvertCurrency.DefaultNetworkCache) (confirmedFrom confirmedTo : Nat)
      (creditId : TransactionId) (creditReference : Reference) (toNetwork : Option CryptoNetwork)
  | failed (isReversal : Bool)

def Report.commit (e : Event) (L : Ledger) : Report → Ledger
  | .completed cache confirmedFrom confirmedTo creditId creditReference toNetwork =>
    (completeBlock cache e confirmedFrom confirmedTo creditId creditReference toNetwork).commit L
  | .failed isReversal => (failureBlock e isReversal).commit L

section Linked

variable {isDebit : TransactionId → Bool} {L : Ledger} {id : TransactionId} {t : Transaction}

theorem findTransaction_some {context : TransactionContext} {userId : UserId}
    {reference : Option Reference}
    (h : findTransaction isDebit context userId reference L = some (id, t)) :
    L.transactions.lookup id = some t ∧ (∀ r, reference = some r → t.transactionUniqueId = r) ∧
      t.transactionContext = context := by
  obtain ⟨e, he, hpair⟩ := Option.map_eq_some_iff.mp h
  cases hpair
  have hp := List.find?_some he
  simp only [decide_eq_true_eq] at hp
  refine ⟨AList.mem_lookup_iff.mpr (List.mem_of_find?_eq_some he), ?_, hp.2.1⟩
  rintro r rfl
  simpa using hp.1

theorem linkedTransaction_some {swap : SwapTransaction} {swapId : Reference}
    (h : linkedTransaction isDebit swap swapId L = some (id, t)) :
    L.transactions.lookup id = some t ∧
      (t.transactionUniqueId = swapId ∨ t.transactionContext = .AUTOSTACK) := by
  rcases Option.or_eq_some_iff.mp h with hswap | ⟨-, hstack⟩
  · obtain ⟨hrow, hid, -⟩ := findTransaction_some hswap
    exact ⟨hrow, .inl (hid swapId rfl)⟩
  · obtain ⟨hrow, -, hcontext⟩ := findTransaction_some hstack
    exact ⟨hrow, .inr hcontext⟩

theorem readEvent_linkedTx {swapId : Reference} {fromAmount : Nat} {e : Event}
    (h : readEvent isDebit swapId fromAmount L = some e) :
    e.linkedTx = linkedTransaction isDebit e.swap swapId L := by
  unfold readEvent at h
  split at h
  · split at h
    · cases h
    · cases h
      rfl
  · cases h

end Linked

theorem Report.commit_keeps {e : Event} {I : Ledger → Prop} (hI : Untouched e I) (r : Report)
    {L : Ledger} (hL : I L) : I (r.commit e L) := by
  cases r with
  | completed cache confirmedFrom confirmedTo creditId creditReference toNetwork =>
    exact (completeBlock_keeps hI cache confirmedFrom confirmedTo creditId creditReference
      toNetwork).commit hL
  | failed isReversal => exact (failureBlock_keeps hI isReversal).commit hL

end SwapWebhook

namespace QueuedSwap

open SwapService (Confirm)

open FailedCompanyLiquidity

/-- The transaction still goes by the quote, as a swap of its user. -/
def Identified (q : Confirm) (id : TransactionId) (L : Ledger) : Prop :=
  ∃ t, L.transactions.lookup id = some t ∧ t.transactionUniqueId = q.quoteId ∧
    t.transactionContext = .SWAP ∧ t.userId = q.userId

/-- The service has resumed the swap, and an event about the provider's swap is linked to its
transaction, with what was reserved for it. -/
structure Resumed (isDebit : TransactionId → Bool) (q : Confirm) (id : TransactionId)
    (swapId : Reference) (s : Queue) : Prop where
  placed : 0 < s.placed
  linked : ∃ fromAmount e t, SwapWebhook.readEvent isDebit swapId fromAmount s.ledger = some e ∧
    e.linkedTx = some (id, t) ∧ e.reservedAmount = q.reserved

/-- The tasks that work on a swap. -/
def OfSwap : Task → Prop
  | .reserving _ txRecord | .resuming _ txRecord => txRecord.transactionContext = .SWAP
  | .marking _ found _ => ∃ swapRecordId, found = .swap swapRecordId
  | _ => True

/-- What else happens leaves the transaction its reference, its context and its user. -/
def Leaves (q : Confirm) (id : TransactionId) : Concurrent.Event Call Outcome (Other id) → Prop
  | .outside x => ∀ L, Identified q id L → Identified q id (x.change L)
  | _ => True

/-- The transaction waits under its quote, and whoever works on it takes it for a swap. -/
structure Waiting (q : Confirm) (id : TransactionId) (s : System Queue Task) : Prop where
  identified : Identified q id s.state.ledger
  running : ∀ t ∈ s.running, OfSwap t

section Rows

variable {q : Confirm} {id : TransactionId} {L M : Ledger}

theorem confirmBlock_queued (h : (SwapService.confirmBlock q id).Commits L false M) :
    M.transactions.lookup id = some q.transaction.row ∧ M.swaps = L.swaps := by
  obtain ⟨-, h⟩ := commits_requireMinimum_bind.mp h
  obtain ⟨_, A, hinsert, h⟩ := commits_bind.mp h
  obtain ⟨-, -, rfl⟩ := insertTransaction_commits.mp hinsert
  obtain ⟨_, B, hreserve, h⟩ := commits_bind.mp h
  obtain ⟨w, -, -, -, rfl⟩ := reserveBalance_commits.mp hreserve
  obtain ⟨reserved, C, hliquidity, h⟩ := commits_bind.mp h
  cases reserved with
  | true => simp at h
  | false =>
    obtain ⟨_, D, hrecord, h⟩ := commits_bind.mp h
    obtain ⟨-, rfl⟩ := commits_pure.mp h
    cases reserveLiquidity_short hliquidity
    rw [SellService.createFailedCompanyLiquidity_frame hrecord]
    exact ⟨AList.lookup_insert _, rfl⟩

theorem Identified.of_queued (h : (SwapService.confirmBlock q id).Commits L false M) :
    Identified q id M := ⟨_, (confirmBlock_queued h).1, rfl, rfl, rfl⟩

theorem updateTransaction_identified {f : Transaction → Transaction}
    (hf : ∀ t, (f t).transactionUniqueId = t.transactionUniqueId ∧
      (f t).transactionContext = t.transactionContext ∧ (f t).userId = t.userId) :
    Preserves (Identified q id) (updateTransaction id f) := by
  refine preserves_update fun K hK => ?_
  obtain ⟨t, ht, hreference, hcontext, huser⟩ := hK
  obtain ⟨hf₁, hf₂, hf₃⟩ := hf t
  refine ⟨f t, ?_, hf₁.trans hreference, hf₂.trans hcontext, hf₃.trans huser⟩
  simp [ht]

theorem recordBlock_identified {other : Confirm} {j : TransactionId} (hj : id ≠ j)
    (swapRecordId : SwapRecordId) (swapId : Reference) (received : Nat) :
    Preserves (Identified q id)
      (SwapService.recordBlock other j swapRecordId swapId received) := by
  refine preserves_bind (preserves_update fun K hK => ?_) fun _ => ?_
  · obtain ⟨t, ht, hnames⟩ := hK
    exact ⟨t, (Table.lookup_modify_ne _ _ hj).trans ht, hnames⟩
  · refine preserves_bind (preserves_read _) fun _ => ?_
    refine preserves_bind (preserves_require _ _) fun _ => ?_
    exact preserves_update fun _ hK => hK

end Rows

/-! ### What the retries of a swap write -/

/-- What every statement on balances and every write of a swap's retry keeps. -/
structure Kept (id : TransactionId) (I : Ledger → Prop) : Prop where
  balances : ∀ {α : Type} {x : LedgerBlock α}, OnBalances x → Preserves I x
  deleting : Preserves I (deleteRecord id)
  expiring : ∀ transaction, Preserves I (expireBlock id transaction)
  marking : ∀ swapRecordId reference, Preserves I (resumeSwapBlock swapRecordId reference)

theorem Kept.of_updates {id : TransactionId} {I : Ledger → Prop}
    (hbalances : ∀ L, I L.records ↔ I L)
    (hrecord : ∀ L f, I L → I { L with failedCompanyLiquidity := f })
    (hfailed : Preserves I (updateTransaction id (fun t => { t with
      status := .FAILED, isProcessed := true })))
    (hmarking : ∀ swapRecordId reference, Preserves I (resumeSwapBlock swapRecordId reference)) :
    Kept id I := by
  have hdelete : Preserves I (deleteRecord id) := by
    refine preserves_bind (preserves_read _) fun _ => ?_
    refine preserves_bind (preserves_require _ _) fun _ => ?_
    exact preserves_update fun L hL => hrecord L _ hL
  refine ⟨fun hx => hx.preserves hbalances, hdelete, fun transaction => ?_, hmarking⟩
  refine preserves_bind ?_ fun _ => preserves_bind hfailed fun _ => hdelete
  unfold releaseReserved
  split
  · exact (releaseBalance_onBalances _ _ _ _).preserves hbalances
  · exact preserves_pure ()

theorem kept_identified (q : Confirm) (id : TransactionId) : Kept id (Identified q id) := by
  refine Kept.of_updates (fun _ => Iff.rfl) (fun _ _ hL => hL) ?_ fun _ _ => ?_
  · exact updateTransaction_identified fun _ => ⟨rfl, rfl, rfl⟩
  · exact preserves_update fun _ hL => hL

/-- A swap that is not recorded stays so. -/
theorem kept_unsubmitted (q : Confirm) (id : TransactionId) :
    Kept id (fun L => ¬ QuoteUse.Submitted q L) := by
  refine Kept.of_updates (fun _ => Iff.rfl) (fun _ _ hL => hL) ?_ fun swapRecordId reference => ?_
  · exact preserves_update fun _ hL => hL
  · refine preserves_update fun L hL hsubmitted => hL ?_
    obtain ⟨k, row, hk, hrow⟩ := hsubmitted
    rw [Table.lookup_modify] at hk
    split at hk
    · obtain ⟨before, hbefore, rfl⟩ := Option.map_eq_some_iff.mp hk
      exact ⟨k, before, hbefore, hrow⟩
    · exact ⟨k, row, hk, hrow⟩

section Steps

variable {q : Confirm} {id : TransactionId}

theorem resume_keeps {I : Ledger → Prop} (hI : Kept id I) {t : Task} (ht : OfSwap t) (o : Outcome)
    {s : Queue} (hs : I s.ledger) : I (resume id t o s).1.ledger := by
  have hresumes := resume_resumes id t o s
  generalize (resume id t o s).1 = after, (resume id t o s).2 = next at hresumes
  cases hresumes with
  | deleted => exact hI.deleting.commit hs
  | expired transaction => exact (hI.expiring transaction).commit hs
  | reserved txRecord hM => exact hI.balances (reserveLiquidity_onBalances _ _) _ _ _ hs hM
  | released hM => exact hI.balances (releaseLiquidity_onBalances _ _) _ _ _ hs hM
  | marked failed found reference =>
    obtain ⟨swapRecordId, rfl⟩ := ht
    exact (hI.marking swapRecordId reference).commit hs
  | _ => exact hs

theorem target_swap {L : Ledger} {found : Target} (h : target L id .SWAP = some found) :
    ∃ swapRecordId, found = .swap swapRecordId := by
  obtain ⟨t, -, h⟩ := Option.bind_eq_some_iff.mp h
  obtain ⟨swapRecordId, -, rfl⟩ := Option.map_eq_some_iff.mp h
  exact ⟨swapRecordId, rfl⟩

/-- A retry that reads the transaction takes it for a swap, and goes on to do so. -/
theorem resume_ofSwap {s : Queue} (hs : Identified q id s.ledger) {t u : Task} (ht : OfSwap t)
    {o : Outcome} (hu : (resume id t o s).2 = some u) : OfSwap u := by
  have hresumes := resume_resumes id t o s
  rw [hu] at hresumes
  generalize (resume id t o s).1 = after at hresumes
  cases hresumes with
  | found _ hrow =>
    obtain ⟨row, hlookup, -, hcontext, -⟩ := hs
    rw [hrow] at hlookup
    cases hlookup
    exact hcontext
  | reserved => exact ht
  | accepted failed hfound =>
    have hcontext : _ = TransactionContext.SWAP := ht
    rw [hcontext] at hfound
    exact target_swap hfound
  | _ => trivial

theorem start_ofSwap {c : Call} {s : Queue} {t : Task} (h : start id c s = some t) : OfSwap t := by
  unfold start at h
  split at h
  all_goals cases h <;> trivial

theorem Waiting.step {s : System Queue Task} (hs : Waiting q id s)
    (a : Concurrent.Event Call Outcome (Other id)) (ha : Leaves q id a) :
    Waiting q id ((retries id).step a s) := by
  cases a with
  | start c =>
    exact ⟨hs.identified, Handlers.forall_running_start hs.running fun _ ht => start_ofSwap ht⟩
  | outside x => exact ⟨ha _ hs.identified, hs.running⟩
  | resume n o =>
    refine ⟨?_, Handlers.forall_running_resume hs.running (fun _ _ ht => ht) fun _ _ ht _ hu =>
      resume_ofSwap hs.identified ht hu⟩
    cases ht : s.running[n]? with
    | none =>
      rw [Handlers.step_resume_none ht]
      exact hs.identified
    | some t =>
      rw [Handlers.step_resume ht]
      exact resume_keeps (kept_identified q id) (hs.running t (List.mem_of_getElem? ht)) o
        hs.identified

theorem Waiting.of_queued {L M : Ledger} (h : (SwapService.confirmBlock q id).Commits L false M) :
    Waiting q id ⟨⟨M, 0, 0⟩, []⟩ := ⟨.of_queued h, by simp⟩

end Steps

/-! ### Events about swaps -/

section Events

variable {isDebit : TransactionId → Bool} {q : Confirm} {id : TransactionId} {L : Ledger}

theorem linkedTransaction_ne (h : Identified q id L) {swapId : Reference}
    (hid : swapId ≠ q.quoteId) (swap : SwapTransaction) (t : Transaction) :
    SwapWebhook.linkedTransaction isDebit swap swapId L ≠ some (id, t) := by
  intro hlinked
  obtain ⟨row, hrow, hreference, hcontext, -⟩ := h
  obtain ⟨ht, hby⟩ := SwapWebhook.linkedTransaction_some hlinked
  rw [hrow] at ht
  cases ht
  rcases hby with hswapId | hstack
  · exact hid (hswapId.symm.trans hreference)
  · rw [hcontext] at hstack
    cases hstack

theorem readEvent_unlinked (h : Identified q id L) {swapId : Reference} (hid : swapId ≠ q.quoteId)
    {fromAmount : Nat} {e : SwapWebhook.Event}
    (he : SwapWebhook.readEvent isDebit swapId fromAmount L = some e) (t : Transaction) :
    e.linkedTx ≠ some (id, t) := by
  rw [SwapWebhook.readEvent_linkedTx he]
  exact linkedTransaction_ne h hid e.swap t

theorem Waiting.not_resumed {s : System Queue Task} (hs : Waiting q id s) {swapId : Reference}
    (hid : swapId ≠ q.quoteId) : ¬ Resumed isDebit q id swapId s.state := by
  intro hresumed
  obtain ⟨fromAmount, e, t, he, hlinked, -⟩ := hresumed.linked
  exact readEvent_unlinked hs.identified hid he t hlinked

theorem report_keeps_row {e : SwapWebhook.Event} {t : Transaction}
    (he : ∀ u, e.linkedTx ≠ some (id, u)) :
    SwapWebhook.Untouched e (fun K => K.transactions.lookup id = some t) := by
  refine ⟨fun _ => Iff.rfl, fun _ _ hK => hK, fun _ _ => ?_, fun f => ?_, fun k row => ?_⟩
  · exact OrderDone.growAutoStack_keeps (fun _ _ hK => hK) _ _
  · unfold SwapWebhook.updateLinked
    split
    · rename_i j u hlinked
      have hj : id ≠ j := fun h => he u (by rw [hlinked, h])
      refine preserves_update fun K hK => ?_
      rw [← hK]
      exact Table.lookup_modify_ne _ _ hj
    · exact preserves_pure ()
  · intro K u N hK hN
    obtain ⟨hfree, -, rfl⟩ := insertTransaction_commits.mp hN
    have hk : id ≠ k := by
      rintro rfl
      rw [hK] at hfree
      cases hfree
    exact (AList.lookup_insert_ne hk).trans hK

/-- What is reported of a swap that was read under another id than the quote's, on whatever ledger
its block then runs, leaves the waiting transaction as it is. -/
theorem report_leaves_transaction (h : Identified q id L) {swapId : Reference}
    (hid : swapId ≠ q.quoteId) {fromAmount : Nat} {e : SwapWebhook.Event}
    (he : SwapWebhook.readEvent isDebit swapId fromAmount L = some e) (r : SwapWebhook.Report)
    {K : Ledger} {t : Transaction} (ht : K.transactions.lookup id = some t) :
    (r.commit e K).transactions.lookup id = some t :=
  r.commit_keeps (report_keeps_row (readEvent_unlinked h hid he)) ht

theorem report_keeps_gone (e : SwapWebhook.Event) (id : TransactionId) :
    SwapWebhook.Untouched e (fun K => K.failedCompanyLiquidity.lookup id = none) := by
  refine ⟨fun _ => Iff.rfl, fun _ _ hK => hK, fun _ _ => ?_, fun f => ?_, fun k row => ?_⟩
  · exact OrderDone.growAutoStack_keeps (fun _ _ hK => hK) _ _
  · unfold SwapWebhook.updateLinked
    split
    · exact preserves_update fun _ hK => hK
    · exact preserves_pure ()
  · intro K u N hK hN
    obtain ⟨-, -, rfl⟩ := insertTransaction_commits.mp hN
    exact hK

/-- An event of a swap, between the steps of the retries. -/
def reported (e : SwapWebhook.Event) (r : SwapWebhook.Report) : Other id where
  change := fun K => r.commit e K
  gone := fun _ hK => r.commit_keeps (report_keeps_gone e id) hK

/-- Liquidity that comes in. -/
def funded (c : Currency) (amount : Nat) : Other id where
  change := (addLiquidity c amount).commit
  gone := fun _ hK => (OnBalances.keepsGone (addLiquidity_onBalances c amount)).commit hK

theorem reported_leaves (h : Identified q id L) {swapId : Reference} (hid : swapId ≠ q.quoteId)
    {fromAmount : Nat} {e : SwapWebhook.Event}
    (he : SwapWebhook.readEvent isDebit swapId fromAmount L = some e) (r : SwapWebhook.Report) :
    Leaves q id (.outside (reported e r)) := by
  rintro K ⟨t, ht, hnames⟩
  exact ⟨t, report_leaves_transaction h hid he r ht, hnames⟩

theorem funded_leaves (c : Currency) (amount : Nat) : Leaves q id (.outside (funded c amount)) :=
  fun _ hK => ((kept_identified q id).balances (addLiquidity_onBalances c amount)).commit hK

end Events

/-- For every swap that was queued, in every run of activations, automatic retries and expiries of
its record, with every answer of the provider and whatever leaves the transaction its reference,
its context and its user, the swap is at no point both resumed and linked to its transaction under
an id of the provider's own. -/
theorem never_resumed_and_linked {isDebit : TransactionId → Bool} {q : Confirm}
    {id : TransactionId} {L M : Ledger}
    (hqueued : (SwapService.confirmBlock q id).Commits L false M)
    {events : List (Concurrent.Event Call Outcome (Other id))}
    (hleaves : Run.Along (retries id).step (fun _ a => Leaves q id a) ⟨⟨M, 0, 0⟩, []⟩ events)
    {swapId : Reference} (hid : swapId ≠ q.quoteId) :
    Run.Throughout (retries id).step (fun s => ¬ Resumed isDebit q id swapId s.state)
      ⟨⟨M, 0, 0⟩, []⟩ events :=
  (Run.throughout_of_along (fun _ a hs ha => hs.step a ha) (Waiting.of_queued hqueued)
    hleaves).mono fun _ hs => hs.not_resumed hid

/-- 900 of BTC for USDT, with a fee of 50. -/
def btcForUsdt : Confirm := ⟨1, .btc, .usdt, 12, 900, 50, some .btc, 6⟩

/-- User 1's two wallets, and a company without BTC. -/
def withoutBtc : Ledger :=
  { Ledger.empty with
    wallets := ((∅ : Table WalletKey Wallet).insert (1, .btc)
      { Wallet.empty with
        currencyId := some .btc, baseBalance := 1000, defaultNetwork := some .btc }).insert
      (1, .usdt) { Wallet.empty with currencyId := some .usdt } }

def waiting : Ledger := (SwapService.confirmBlock btcForUsdt 2).commit withoutBtc

/-- A manual activation that nothing interrupts, with a provider that takes up the swap. -/
def activation {id : TransactionId} (swapId : Reference) :
    List (Concurrent.Event Call Outcome (Other id)) :=
  [.start .activateAndProcess, .resume 0 .ok, .resume 0 .ok, .resume 0 .ok,
    .resume 0 (.accepted swapId), .resume 0 .ok, .resume 0 .ok]

theorem btcForUsdt_never_resumed :
    Run.Throughout (retries 2).step (fun s => ¬ Resumed (fun _ => true) btcForUsdt 2 31 s.state)
      ⟨⟨waiting, 0, 0⟩, []⟩ (.outside (funded .btc 5000) :: activation 31) := by
  have hqueued : (SwapService.confirmBlock btcForUsdt 2).result withoutBtc = some false := by
    decide +kernel
  have hleaves : Run.Along (retries 2).step (fun _ a => Leaves btcForUsdt 2 a)
      ⟨⟨waiting, 0, 0⟩, []⟩ (.outside (funded .btc 5000) :: activation 31) :=
    ⟨funded_leaves .btc 5000, trivial, trivial, trivial, trivial, trivial, trivial, trivial,
      trivial⟩
  exact never_resumed_and_linked (result_eq_some.mp hqueued) hleaves (by decide)

/-- 5000 of BTC have come in and the provider would take up the swap, but it is not asked. -/
theorem liquid_swap_not_resumed :
    ¬ ∀ (isDebit : TransactionId → Bool) (q : Confirm) (id : TransactionId) (L M : Ledger)
      (x : Other id) (swapId : Reference),
      (SwapService.confirmBlock q id).Commits L false M → Leaves q id (.outside x) →
      (q.exactFrom : Int) ≤ getAvailableLiquidity (x.change M) q.fromCurrency →
      Resumed isDebit q id swapId
        (Run.final (retries id).step ⟨⟨x.change M, 0, 0⟩, []⟩ (activation swapId)).state := by
  intro h
  have hqueued : (SwapService.confirmBlock btcForUsdt 2).result withoutBtc = some false := by
    decide +kernel
  have hresumed := h (fun _ => true) btcForUsdt 2 withoutBtc _ (funded .btc 5000) 31
    (result_eq_some.mp hqueued) (funded_leaves .btc 5000) (by decide +kernel)
  have hplaced := hresumed.placed
  revert hplaced
  decide +kernel

/-! ### Without another confirmation of the quote -/

/-- Nothing records a swap of the quote. -/
def Unrecorded (q : Confirm) (id : TransactionId) :
    Concurrent.Event Call Outcome (Other id) → Prop
  | .outside x => ∀ L, ¬ QuoteUse.Submitted q L → ¬ QuoteUse.Submitted q (x.change L)
  | _ => True

/-- A waiting swap that no record is there of, and that no provider has taken up. -/
structure Unplaced (q : Confirm) (id : TransactionId) (s : System Queue Task) : Prop where
  waiting : Waiting q id s
  unsubmitted : ¬ QuoteUse.Submitted q s.state.ledger
  placed : s.state.placed = 0

section Unplaced

variable {q : Confirm} {id : TransactionId} {L M : Ledger}

theorem target_none (h : Identified q id L) (hnot : ¬ QuoteUse.Submitted q L) :
    target L id .SWAP = none := by
  obtain ⟨t, ht, hreference, -, huser⟩ := h
  have hfind : findSwap L t = none := by
    rw [findSwap, Option.map_eq_none_iff, List.find?_eq_none]
    intro e he hp
    refine hnot ⟨e.1, e.2, AList.mem_lookup_iff.mpr he, ?_⟩
    simpa only [decide_eq_true_eq, hreference, huser] using hp
  simp [target, ht, hfind]

theorem resume_placed {t : Task} {o : Outcome} {s : Queue} (ht : OfSwap t)
    (htarget : target s.ledger id .SWAP = none) : (resume id t o s).1.placed = s.placed := by
  have hresumes := resume_resumes id t o s
  generalize (resume id t o s).1 = after, (resume id t o s).2 = next at hresumes
  cases hresumes with
  | accepted failed hfound | acceptedUnseen failed hfound =>
    have hcontext : _ = TransactionContext.SWAP := ht
    rw [hcontext, htarget] at hfound
    cases hfound
  | _ => rfl

theorem Unplaced.step {s : System Queue Task} (hs : Unplaced q id s)
    (a : Concurrent.Event Call Outcome (Other id)) (ha : Leaves q id a ∧ Unrecorded q id a) :
    Unplaced q id ((retries id).step a s) := by
  have hwaiting := hs.waiting.step a ha.1
  cases a with
  | start c => exact ⟨hwaiting, hs.unsubmitted, hs.placed⟩
  | outside x => exact ⟨hwaiting, ha.2 _ hs.unsubmitted, hs.placed⟩
  | resume n o =>
    cases ht : s.running[n]? with
    | none =>
      rw [Handlers.step_resume_none ht]
      exact hs
    | some t =>
      have hswap := hs.waiting.running t (List.mem_of_getElem? ht)
      have htarget := target_none hs.waiting.identified hs.unsubmitted
      refine ⟨hwaiting, ?_, ?_⟩
      · rw [Handlers.step_resume ht]
        exact resume_keeps (kept_unsubmitted q id) hswap o hs.unsubmitted
      · rw [Handlers.step_resume ht]
        exact (resume_placed hswap htarget).trans hs.placed

/-- Where no record of a swap of the quote was there and none is made, no retry ever calls the
provider, however much liquidity there is. -/
theorem never_placed (hqueued : (SwapService.confirmBlock q id).Commits L false M)
    (hfresh : QuoteUse.swapSubmitted q L = false)
    {events : List (Concurrent.Event Call Outcome (Other id))}
    (hevents : Run.Along (retries id).step (fun _ a => Leaves q id a ∧ Unrecorded q id a)
      ⟨⟨M, 0, 0⟩, []⟩ events) :
    Run.Throughout (retries id).step (fun s => s.state.placed = 0) ⟨⟨M, 0, 0⟩, []⟩ events := by
  have hnot : ¬ QuoteUse.Submitted q M := by
    rw [QuoteUse.Submitted, (confirmBlock_queued hqueued).2]
    intro hsubmitted
    rw [QuoteUse.submitted_iff.mpr hsubmitted] at hfresh
    cases hfresh
  have hstart : Unplaced q id ⟨⟨M, 0, 0⟩, []⟩ := ⟨.of_queued hqueued, hnot, rfl⟩
  exact (Run.throughout_of_along (fun _ a hs ha => hs.step a ha) hstart hevents).mono
    fun _ hs => hs.placed

end Unplaced

end QueuedSwap

end ExchangeLedger
