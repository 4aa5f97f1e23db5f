import ExchangeLedger.BuyReservation
import ExchangeLedger.LiquidityRetries
import ExchangeLedger.Swap

set_option autoImplicit false

/-! What the company's reserved balance holds for one queued transaction: the reservations of its
retries, and the handlers that release or consume them once a provider has taken it up. -/

namespace ExchangeLedger

open Block Concurrent

namespace FailedCompanyLiquidity

/-- The end of a transaction that a provider took up, with the rows as the handler read them. -/
inductive Closing where
  /-- `order.done` of a cancelled, rejected or failed order. -/
  | orderFailed (isBuy : Bool) (crypto : Currency) (transaction : Transaction)
  | orderSettled (crypto : Currency) (transaction : Transaction)
    (executedCrypto executedFiat : Nat)
  /-- The settlement of a buy threw. -/
  | settlementFailed (transaction : Transaction)
  /-- A filled sell without payout bank details. -/
  | missingBankDetails (crypto : Currency) (transaction : Transaction)
  /-- `charge.failed` of a buy. -/
  | chargeFailed (transaction : Transaction)
  /-- `transfer.success` for the payout of a sell. -/
  | paidOut (transaction : Transaction)
  | swapFailed (e : SwapWebhook.Event) (isReversal : Bool)
  | swapCompleted (e : SwapWebhook.Event) (regular : e.isAutoStackSwap = false)
    (confirmedFrom confirmedTo : Nat) (creditId : TransactionId) (creditReference : Reference)
    (toNetwork : Option CryptoNetwork)
  | withdrawalClosed (event : WithdrawalWebhook.Event) (transaction : Transaction)
    (withdrawalId : WithdrawalId) (withdrawal : Withdrawal) (amountBase : Int)

namespace Closing

/-- The block of the handler, and whether it found the transaction still open. -/
def block (cache : ConvertCurrency.DefaultNetworkCache) (id : TransactionId) :
    Closing → LedgerBlock Bool
  | .orderFailed isBuy crypto transaction =>
    OrderDone.failOrderBlock isBuy crypto BASE_CURRENCY id transaction
  | .orderSettled crypto transaction executedCrypto executedFiat =>
    OrderDone.buyBlock cache crypto BASE_CURRENCY id transaction executedCrypto executedFiat
  | .settlementFailed transaction =>
    (fun _ => true) <$> OrderDone.buyFailureBlock BASE_CURRENCY id transaction
  | .missingBankDetails crypto transaction =>
    (fun _ => true) <$> OrderDone.missingBankDetailsBlock crypto BASE_CURRENCY id transaction
  | .chargeFailed transaction =>
    (fun _ => true) <$> BuyService.handleFailureBlock id transaction
  | .paidOut transaction =>
    (fun _ => true) <$> PayoutStatus.transferSuccessBlock cache id transaction
  | .swapFailed e isReversal => (fun _ => true) <$> SwapWebhook.failureBlock e isReversal
  | .swapCompleted e _ confirmedFrom confirmedTo creditId creditReference toNetwork =>
    (fun done => decide (done ≠ .skipped)) <$>
      SwapWebhook.completeBlock cache e confirmedFrom confirmedTo creditId creditReference toNetwork
  | .withdrawalClosed event transaction withdrawalId withdrawal amountBase =>
    (fun _ => true) <$>
      WithdrawalWebhook.settleBlock cache event id transaction withdrawalId withdrawal amountBase

/-- The reservation that the handler goes by: of an order what its copy of the metadata calls
reserved, else the amount of the copied row. -/
def reservation : Closing → Currency × Nat
  | .orderFailed _ _ transaction | .orderSettled _ transaction _ _
  | .settlementFailed transaction | .missingBankDetails _ transaction =>
    (BASE_CURRENCY,
      if transaction.holdsReservation then transaction.reservedLiquidityAmount else 0)
  | .chargeFailed transaction =>
    (BASE_CURRENCY,
      if BuyService.reserves transaction then transaction.reservedLiquidityAmount else 0)
  | .paidOut transaction => (BASE_CURRENCY, transaction.fiatAmountBase)
  | .swapFailed e _ | .swapCompleted e _ _ _ _ _ _ => (e.swap.fromCurrency, e.exactFromBooked)
  | .withdrawalClosed _ transaction _ withdrawal _ => (withdrawal.currency, transaction.sentBase)

/-- What the handler takes off a currency's reserved balance. -/
def takes (x : Closing) (c : Currency) : Int := if c = x.reservation.1 then x.reservation.2 else 0

/-- The transaction that the handler finds is still open. -/
def runs (id : TransactionId) (L : Ledger) : Closing → Bool
  | .orderFailed _ _ _ => !L.alreadyProcessed id
  | .orderSettled _ transaction _ _ => !transaction.status.isFinal && !L.alreadyProcessed id
  | .settlementFailed transaction | .missingBankDetails _ transaction =>
    !transaction.status.isFinal
  | .chargeFailed _ => true
  | .paidOut transaction => decide (transaction.paymentMetadata.payoutStatus ≠ some .success)
  | .swapFailed e _ => !e.swap.status.isTerminal
  | .swapCompleted e _ _ _ _ _ _ => e.stillOpen L
  | .withdrawalClosed _ _ _ withdrawal _ =>
    decide (withdrawal.status ≠ .SUCCESS ∧ withdrawal.status ≠ .FAILED)

/-- A payout that takes the internal balance below the total queues the transaction again. -/
def requeues (L : Ledger) : Closing → Bool
  | .paidOut transaction => (L.companyLiquidity.lookup transaction.currency).any
      (fun r => decide (r.totalBalance < r.internalBalance - (transaction.totalSentBase : Int)))
  | _ => false

end Closing

/-- The record whose reservation a run of a retry holds. -/
def Task.holding : Task → Option FailedCompanyLiquidityTransaction
  | .resuming failed _ | .marking failed _ _ | .releasing failed => some failed
  | _ => none

/-- The queue, what the reserved balance of each currency holds for the transaction, whether the
transaction was ended by its expiry or by a handler, and the record of the retry that a provider
took up. -/
structure Account where
  queue : Queue
  share : Currency → Int
  ended : Bool
  placedFor : Option FailedCompanyLiquidityTransaction

/-- A step of the record's own, which changes what is reserved for it. -/
def Account.move (a : Account) (q : Queue) (ends : Bool) : Account where
  queue := q
  share := fun c =>
    a.share c + (q.ledger.reservedLiquidity c - a.queue.ledger.reservedLiquidity c)
  ended := a.ended || ends
  placedFor := a.placedFor

/-- A provider takes up a transaction for the run that holds the reservation. -/
def Account.place (a : Account) (t : Task) (before : Queue) : Account :=
  { a with placedFor := if before.placed < a.queue.placed then t.holding else a.placedFor }

@[simp] theorem Account.place_share (a : Account) (t : Task) (before : Queue) :
    (a.place t before).share = a.share := rfl

@[simp] theorem Account.place_ended (a : Account) (t : Task) (before : Queue) :
    (a.place t before).ended = a.ended := rfl

/-- The step expires the transaction. -/
def expires (id : TransactionId) (L : Ledger) : Task → Outcome → Bool
  | .expiring transaction, .ok =>
    isRetryable transaction && ((expireBlock id transaction).result L).isSome
  | _, _ => false

inductive Happening (id : TransactionId) where
  | other (x : Other id)
  | close (x : Closing)

/-- A provider reports on what it has taken up. -/
def close (cache : ConvertCurrency.DefaultNetworkCache) (id : TransactionId) (x : Closing)
    (a : Account) : Account :=
  if a.queue.placed = 0 ∨ x.runs id a.queue.ledger = false then a
  else match x.block cache id a.queue.ledger with
    | .ok (true, M) => a.move { a.queue with ledger := M } true
    | _ => a

def accounts (cache : ConvertCurrency.DefaultNetworkCache) (id : TransactionId) :
    Handlers Account Task Call Outcome (Happening id) where
  start := fun c a => start id c a.queue
  resume := fun t o a =>
    ((a.move (resume id t o a.queue).1 (expires id a.queue.ledger t o)).place t a.queue,
      (resume id t o a.queue).2)
  outside := fun x a =>
    match x with
    | .other x => { a with queue := { a.queue with ledger := x.change a.queue.ledger } }
    | .close x => close cache id x a

abbrev Accounts := System Account Task

def Accounts.retrying (s : Accounts) : System Queue Task := ⟨s.state.queue, s.running⟩

/-- The transaction has just been queued: nothing is reserved for it. -/
def queued (L : Ledger) : Accounts := ⟨⟨⟨L, 0, 0⟩, fun _ => 0, false, none⟩, []⟩

/-- Nothing is taken off twice, a transaction that has ended has nothing reserved, and neither has
one whose retries have all been refused. -/
structure Accounted (s : Accounts) : Prop where
  nonneg : ∀ c, 0 ≤ s.state.share c
  ended : s.state.ended = true → ∀ c, s.state.share c = 0
  refused : s.state.queue.placed = 0 → s.running.countP Task.active = 0 →
    ∀ c, s.state.share c = 0

/-- Retries are orderly, a transaction expires while no retry is under way, and a handler ends it
once and goes by the reservation of the retry that was taken up. -/
def Fits {id : TransactionId} (s : Accounts) : Event Call Outcome (Happening id) → Prop
  | .resume n o => ∀ t, s.running[n]? = some t → Calm id s.retrying t o ∧
      (expires id s.state.queue.ledger t o = true → s.running.countP Task.active = 0)
  | .outside (.close x) => s.state.queue.placed ≠ 0 → x.runs id s.state.queue.ledger = true →
      s.running.countP Task.active = 0 ∧ s.state.ended = false ∧
        (∀ failed, s.state.placedFor = some failed →
          x.reservation = (failed.currency, failed.amountBase)) ∧
        x.requeues s.state.queue.ledger = false
  | .outside (.other _) | .start _ => True

/-! ### What the blocks do to the reserved balances -/

section Blocks

variable {id : TransactionId} {α β : Type} {f d : Currency → Int}

/-- The reserved balances are `f`, and the record of the transaction is gone. -/
structure ReservedAs (id : TransactionId) (f : Currency → Int) (L : Ledger) : Prop where
  reserved : ∀ c, L.reservedLiquidity c = f c
  gone : L.failedCompanyLiquidity.lookup id = none

/-- `x` leaves the reserved balances as they are. -/
def Keeps (id : TransactionId) (x : LedgerBlock α) : Prop := ∀ f, Preserves (ReservedAs id f) x

/-- `x` takes `d` off the reserved balances. -/
def Takes (id : TransactionId) (d : Currency → Int) (x : LedgerBlock α) : Prop :=
  ∀ f L a M, ReservedAs id f L → x.Commits L a M → ReservedAs id (fun c => f c - d c) M

theorem takes_after {x : LedgerBlock α} {g : α → LedgerBlock β} (hx : Keeps id x)
    (hg : ∀ a, Takes id d (g a)) : Takes id d (x >>= g) := by
  intro f L b M hL h
  obtain ⟨a, A, hA, hM⟩ := commits_bind.mp h
  exact hg a f A b M (hx f L a A hL hA) hM

theorem takes_before {x : LedgerBlock α} {g : α → LedgerBlock β} (hx : Takes id d x)
    (hg : ∀ a, Keeps id (g a)) : Takes id d (x >>= g) := by
  intro f L b M hL h
  obtain ⟨a, A, hA, hM⟩ := commits_bind.mp h
  exact hg a _ A b M (hx f L a A hL hA) hM

theorem takes_of_keeps {x : LedgerBlock α} (hx : Keeps id x) (hd : ∀ c, d c = 0) :
    Takes id d x := by
  intro f L a M hL h
  have hM := hx f L a M hL h
  exact ⟨fun c => by rw [hM.reserved, hd, sub_zero], hM.gone⟩

theorem keeps_bind {x : LedgerBlock α} {g : α → LedgerBlock β} (hx : Keeps id x)
    (hg : ∀ a, Keeps id (g a)) : Keeps id (x >>= g) :=
  fun f => preserves_bind (hx f) fun a => hg a f

theorem keeps_pure (a : α) : Keeps id (pure a : LedgerBlock α) := fun _ => preserves_pure a

theorem keeps_read (p : Ledger → α) : Keeps id (read p) := fun _ => preserves_read p

theorem keeps_require (p : Prop) [Decidable p] (e : Failure) : Keeps id (require p e) :=
  fun _ => preserves_require p e

theorem keeps_update {g : Ledger → Ledger}
    (hcompany : ∀ L, (g L).companyLiquidity = L.companyLiquidity)
    (hrecords : ∀ L, (g L).failedCompanyLiquidity = L.failedCompanyLiquidity) :
    Keeps id (update g) := by
  refine fun f => preserves_update fun L hL => ⟨fun c => ?_, ?_⟩
  · rw [← hL.reserved c]
    simp [Ledger.reservedLiquidity, hcompany]
  · rw [hrecords]
    exact hL.gone

theorem keeps_wallet (k : WalletKey) (p : Wallet → Prop) [DecidablePred p] (g : Wallet → Wallet)
    (e : Failure) : Keeps id (mustUpdateWallet k p g e) := by
  intro f L u M hL h
  obtain ⟨w, -, -, rfl⟩ := mustUpdateWallet_commits.mp h
  exact ⟨hL.reserved, hL.gone⟩

theorem keeps_releaseBalance (userId : UserId) (currency : Currency) (amount : Nat)
    (network : PinnedNetwork) : Keeps id (releaseBalance userId currency amount network) := by
  intro f L u M hL h
  obtain ⟨w, -, -, -, rfl⟩ := releaseBalance_commits.mp h
  exact ⟨hL.reserved, hL.gone⟩

theorem keeps_restate (cache : ConvertCurrency.DefaultNetworkCache) (k : WalletKey)
    (network : Option CryptoNetwork) : Keeps id (restateOriginalBalance cache k network) := by
  intro f L u M hL h
  rcases restateOriginalBalance_commits.mp h with ⟨-, rfl⟩ | ⟨w, text, -, -, rfl⟩
  · exact hL
  · exact ⟨hL.reserved, hL.gone⟩

theorem ReservedAs.setCompany {L : Ledger} (hL : ReservedAs id f L) {c : Currency}
    {r : CompanyLiquidity} (hr : r.reservedBalance = L.reservedLiquidity c) :
    ReservedAs id f (L.setCompany c r) := by
  refine ⟨fun e => ?_, hL.gone⟩
  rw [Ledger.reservedLiquidity_setCompany]
  split
  · rename_i he
    rw [hr, he, hL.reserved]
  · exact hL.reserved e

theorem keeps_subtractInternalBalance (c : Currency) (amount : Int) :
    Keeps id (subtractInternalBalance c amount) := by
  intro f L u M hL h
  obtain ⟨r, hr, -, rfl⟩ := subtractInternalBalance_commits.mp h
  exact hL.setCompany (Ledger.reservedLiquidity_of_lookup hr).symm

theorem keeps_addInternalBalance (c : Currency) (amount : Int) :
    Keeps id (addInternalBalance c amount) := by
  intro f L u M hL h
  rw [← commits_update.mp h]
  refine hL.setCompany ?_
  cases hr : L.companyLiquidity.lookup c with
  | none => simp [Ledger.reservedLiquidity, hr, CompanyLiquidity.empty]
  | some r => simp [Ledger.reservedLiquidity, hr]

theorem keeps_shiftCompany {column : CompanyColumn} (hcolumn : column ≠ .reservedBalance)
    (c : Currency) (change : Int) : Keeps id (shiftCompany c column change) := by
  intro f L b M hL h
  rcases updateCompany_commits.mp h with ⟨r, hr, -, -, rfl⟩ | ⟨-, -, rfl⟩
  · refine hL.setCompany ?_
    rw [Ledger.reservedLiquidity_of_lookup hr]
    cases column with
    | reservedBalance => exact absurd rfl hcolumn
    | _ => rfl
  · exact hL

/-- One currency's amount. -/
def only (c : Currency) (amount : Int) (e : Currency) : Int := if e = c then amount else 0

theorem reserveLiquidity_reserved {c : Currency} {amount : Nat} {L M : Ledger}
    (h : (reserveLiquidity c amount).Commits L true M) (e : Currency) :
    M.reservedLiquidity e = L.reservedLiquidity e + only c amount e := by
  rcases updateCompany_commits.mp h with ⟨r, hr, -, -, rfl⟩ | ⟨-, hfalse, -⟩
  · rw [Ledger.reservedLiquidity_setCompany]
    by_cases he : e = c
    · subst he
      simp [only, Ledger.reservedLiquidity_of_lookup hr]
    · simp [only, he]
  · cases hfalse

theorem takes_releaseLiquidity (c : Currency) (amount : Nat) :
    Takes id (only c amount) (releaseLiquidity c amount) := by
  intro f L u M hL h
  refine ⟨fun e => ?_, ?_⟩
  · rw [releaseLiquidity_reserved h, hL.reserved]
    rfl
  · rw [(releaseLiquidity_frame h).1]
    exact hL.gone

theorem takes_congr {x : LedgerBlock α} {e : Currency → Int} (hx : Takes id d x)
    (h : ∀ c, d c = e c) : Takes id e x := by
  rwa [← funext h]

theorem takes_consume {c : Currency} {amount : Int} {e : Failure} {g : Unit → LedgerBlock β}
    (hg : Takes id d (g ())) : Takes id (fun x => only c amount x + d x) (do
      let consumed ← consumeReservedLiquidity c amount
      require (consumed = true) e
      g ()) := by
  intro f L b M hL h
  obtain ⟨consumed, A, hA, h⟩ := commits_bind.mp h
  obtain ⟨hconsumed, hM⟩ := commits_require_bind.mp h
  rcases consumeReservedLiquidity_commits.mp hA with ⟨r, hr, -, -, rfl⟩ | ⟨-, hfalse, -⟩
  · have hA : ReservedAs id (fun x => f x - only c amount x)
        (L.setCompany c { r with
          reservedBalance := r.reservedBalance - amount
          totalBalance := r.totalBalance - amount }) := by
      refine ⟨fun x => ?_, hL.gone⟩
      rw [Ledger.reservedLiquidity_setCompany, ← hL.reserved]
      by_cases hx : x = c
      · subst hx
        simp [only, Ledger.reservedLiquidity_of_lookup hr]
      · simp [only, hx]
    have hdone := hg _ _ b M hA hM
    exact ⟨fun x => by rw [hdone.reserved, sub_sub], hdone.gone⟩
  · rw [hfalse] at hconsumed
    cases hconsumed

end Blocks

/-! ### What the handlers take -/

section Closings

variable {cache : ConvertCurrency.DefaultNetworkCache} {id : TransactionId}

theorem keeps_onlyIf {p : Prop} [Decidable p] {x : LedgerBlock Unit} (hx : Keeps id x) :
    Keeps id (onlyIf p x) := fun f => preserves_onlyIf (hx f)

theorem keeps_updateTransaction (t : TransactionId) (g : Transaction → Transaction) :
    Keeps id (updateTransaction t g) := keeps_update (fun _ => rfl) fun _ => rfl

theorem keeps_updateOrder (t : TransactionId) (g : Order → Order) :
    Keeps id (updateOrder t g) := keeps_update (fun _ => rfl) fun _ => rfl

theorem keeps_releaseSold (transaction : Transaction) (crypto : Currency) :
    Keeps id (releaseSold transaction crypto) := by
  unfold releaseSold
  split
  · exact fun f => preserves_swallow (keeps_releaseBalance _ _ _ _ f)
  · exact keeps_pure ()

theorem keeps_growAutoStack (autoStackId : Option AutoStackId) (amount : Nat) :
    Keeps id (OrderDone.growAutoStack autoStackId amount) := by
  cases autoStackId with
  | none => exact keeps_pure ()
  | some a => exact keeps_update (fun _ => rfl) fun _ => rfl

theorem keeps_updateLinked (e : SwapWebhook.Event) (g : Transaction → Transaction) :
    Keeps id (SwapWebhook.updateLinked e g) := by
  unfold SwapWebhook.updateLinked
  split
  · exact keeps_updateTransaction _ _
  · exact keeps_pure ()

theorem keeps_recordCredit (t : TransactionId) (row : Transaction) :
    Keeps id (SwapWebhook.recordCredit t row) := by
  refine keeps_bind (keeps_read _) fun _ => keeps_onlyIf ?_
  refine keeps_bind (keeps_read _) fun _ => ?_
  refine keeps_bind (keeps_require _ _) fun _ => ?_
  exact keeps_update (fun _ => rfl) fun _ => rfl

/-- What a handler takes that goes by its copy of an order's metadata. -/
def held (transaction : Transaction) : Currency → Int :=
  only BASE_CURRENCY
    (if transaction.holdsReservation then transaction.reservedLiquidityAmount else 0 : Nat)

theorem held_of_not_holds {transaction : Transaction}
    (h : ¬ transaction.holdsReservation = true) (c : Currency) : held transaction c = 0 := by
  simp [held, only, h]

theorem failOrderBlock_takes {isBuy : Bool} {crypto : Currency} {transaction : Transaction}
    {f : Currency → Int} {L M : Ledger} {b : Bool} (hL : ReservedAs id f L)
    (hopen : L.alreadyProcessed id = false)
    (h : (OrderDone.failOrderBlock isBuy crypto BASE_CURRENCY id transaction).Commits L b M) :
    ReservedAs id (fun c => f c - held transaction c) M := by
  simp only [OrderDone.failOrderBlock, commits_read_bind, hopen, Bool.false_eq_true,
    if_false] at h
  refine (takes_after (keeps_updateTransaction _ _) fun _ => takes_after (keeps_updateOrder _ _)
    fun _ => takes_after (keeps_onlyIf (keeps_releaseSold _ _)) fun _ => ?_) f L b M hL h
  split
  · rename_i hholds
    refine takes_before ?_ fun _ => keeps_bind (keeps_updateTransaction _ _) fun _ => keeps_pure _
    simp only [held, if_pos hholds]
    exact takes_releaseLiquidity _ _
  · rename_i hholds
    exact takes_of_keeps (keeps_pure _) (held_of_not_holds hholds)

theorem consumeForBuy_takes (transaction : Transaction) :
    Takes id (held transaction) (OrderDone.consumeForBuy BASE_CURRENCY id transaction) := by
  unfold OrderDone.consumeForBuy
  split
  · rename_i hholds
    refine takes_congr (takes_consume (g := fun _ => updateTransaction id _)
      (takes_of_keeps (keeps_updateTransaction _ _) fun _ => rfl)) fun c => ?_
    simp [held, hholds]
  · rename_i hholds
    exact takes_of_keeps (keeps_pure _) (held_of_not_holds hholds)

theorem buyBlock_takes {crypto : Currency} {transaction : Transaction}
    {executedCrypto executedFiat : Nat} {f : Currency → Int} {L M : Ledger} {b : Bool}
    (hL : ReservedAs id f L) (hopen : L.alreadyProcessed id = false)
    (h : (OrderDone.buyBlock cache crypto BASE_CURRENCY id transaction executedCrypto
      executedFiat).Commits L b M) : ReservedAs id (fun c => f c - held transaction c) M := by
  simp only [OrderDone.buyBlock, commits_read_bind, hopen, Bool.false_eq_true, if_false] at h
  refine (takes_after (keeps_updateTransaction _ _) fun _ => takes_after (keeps_updateOrder _ _)
    fun _ => takes_before (consumeForBuy_takes transaction) fun _ => ?_) f L b M hL h
  split
  · refine keeps_bind (keeps_wallet _ _ _ _) fun _ => ?_
    refine keeps_bind (keeps_growAutoStack _ _) fun _ => ?_
    refine keeps_bind (keeps_addInternalBalance _ _) fun _ => ?_
    exact keeps_bind (keeps_shiftCompany (by decide) _ _) fun _ => keeps_pure _
  · refine keeps_bind (keeps_wallet _ _ _ _) fun _ => ?_
    refine keeps_bind (keeps_restate _ _ _) fun _ => ?_
    exact keeps_bind (keeps_addInternalBalance _ _) fun _ => keeps_pure _

theorem takes_ifHolds (transaction : Transaction) :
    Takes id (held transaction) (onlyIf (transaction.holdsReservation = true)
      (releaseLiquidity BASE_CURRENCY transaction.reservedLiquidityAmount)) := by
  unfold onlyIf
  split
  · rename_i hholds
    simp only [held, if_pos hholds]
    exact takes_releaseLiquidity _ _
  · rename_i hholds
    exact takes_of_keeps (keeps_pure _) (held_of_not_holds hholds)

theorem buyFailureBlock_takes (transaction : Transaction) :
    Takes id (held transaction) (OrderDone.buyFailureBlock BASE_CURRENCY id transaction) :=
  takes_after (keeps_updateOrder _ _) fun _ => takes_after (keeps_updateTransaction _ _) fun _ =>
    takes_ifHolds transaction

theorem missingBankDetailsBlock_takes (crypto : Currency) (transaction : Transaction) :
    Takes id (held transaction)
      (OrderDone.missingBankDetailsBlock crypto BASE_CURRENCY id transaction) :=
  takes_after (keeps_updateOrder _ _) fun _ => takes_after (keeps_updateTransaction _ _) fun _ =>
    takes_before (takes_ifHolds transaction) fun _ => keeps_releaseSold _ _

theorem handleFailureBlock_takes (transaction : Transaction) :
    Takes id (only BASE_CURRENCY
      (if BuyService.reserves transaction then transaction.reservedLiquidityAmount else 0 : Nat))
      (BuyService.handleFailureBlock id transaction) := by
  refine takes_before ?_ fun _ => keeps_updateTransaction _ _
  by_cases hreserves : BuyService.reserves transaction = true
  · simp only [onlyIf, if_pos hreserves]
    exact takes_releaseLiquidity _ _
  · simp only [onlyIf, if_neg hreserves]
    refine takes_of_keeps (keeps_pure _) fun c => ?_
    simp [only]

theorem failureBlock_takes (e : SwapWebhook.Event) (isReversal : Bool) :
    Takes id (only e.swap.fromCurrency e.exactFromBooked)
      (SwapWebhook.failureBlock e isReversal) := by
  refine takes_after (keeps_releaseBalance _ _ _ _) fun _ => ?_
  refine takes_after (keeps_update (fun _ => rfl) fun _ => rfl) fun _ => ?_
  exact takes_after (keeps_updateLinked _ _) fun _ => takes_releaseLiquidity _ _

theorem completeBlock_takes {e : SwapWebhook.Event} {confirmedFrom confirmedTo : Nat}
    {creditId : TransactionId} {creditReference : Reference} {toNetwork : Option CryptoNetwork}
    {f : Currency → Int} {L M : Ledger} {done : SwapWebhook.Completion}
    (hregular : e.isAutoStackSwap = false) (hL : ReservedAs id f L) (hopen : e.stillOpen L = true)
    (h : (SwapWebhook.completeBlock cache e confirmedFrom confirmedTo creditId creditReference
      toNetwork).Commits L done M) :
    ReservedAs id (fun c => f c - only e.swap.fromCurrency e.exactFromBooked c) M := by
  simp only [SwapWebhook.completeBlock, commits_read_bind, hopen, hregular, Bool.true_eq_false,
    Bool.false_eq_true, if_false] at h
  refine (takes_after (keeps_wallet _ _ _ _) fun _ => takes_after (keeps_restate _ _ _) fun _ =>
    takes_after (keeps_subtractInternalBalance _ _) fun _ => takes_after (keeps_wallet _ _ _ _)
    fun _ => takes_after (keeps_restate _ _ _) fun _ => takes_after (keeps_addInternalBalance _ _)
    fun _ => takes_after (keeps_updateLinked _ _) fun _ => ?_) f L done M hL h
  refine takes_after (keeps_update (fun _ => rfl) fun _ => rfl) fun _ => ?_
  refine takes_after (keeps_recordCredit _ _) fun _ => ?_
  exact takes_before (takes_releaseLiquidity _ _) fun _ => keeps_pure _

theorem settleBlock_takes (event : WithdrawalWebhook.Event) (transaction : Transaction)
    (withdrawalId : WithdrawalId) (withdrawal : Withdrawal) (amountBase : Int) :
    Takes id (only withdrawal.currency transaction.sentBase)
      (WithdrawalWebhook.settleBlock cache event id transaction withdrawalId withdrawal
        amountBase) := by
  refine takes_after (keeps_read _) fun _ => takes_after (keeps_require _ _) fun _ => ?_
  refine takes_after (keeps_update (fun _ => rfl) fun _ => rfl) fun _ => ?_
  refine takes_before ?_ fun _ => keeps_updateTransaction _ _
  unfold WithdrawalWebhook.closeReservations
  split
  · refine takes_after (keeps_wallet _ _ _ _) fun _ => takes_after (keeps_restate _ _ _) fun _ => ?_
    refine takes_after (keeps_subtractInternalBalance _ _) fun _ => ?_
    -- the amount sent is consumed, and the fee released
    refine takes_congr (takes_consume (g := fun _ => releaseLiquidity _ _)
      (takes_releaseLiquidity _ _)) fun c => ?_
    simp only [only, WithdrawalWebhook.amountSentToProvider]
    split
    · omega
    · rfl
  · exact takes_after (keeps_releaseBalance _ _ _ _) fun _ => takes_releaseLiquidity _ _

theorem keeps_takeSold (transaction : Transaction) :
    Keeps id (PayoutStatus.takeSold transaction) := by
  intro f L u M hL h
  obtain ⟨w, -, -, -, -, rfl⟩ := PayoutStatus.takeSold_commits.mp h
  exact ⟨hL.reserved, hL.gone⟩

theorem transferSuccessBlock_takes {transaction : Transaction} {f : Currency → Int} {L M : Ledger}
    {u : Unit} (hL : ReservedAs id f L)
    (hqueued : (Closing.paidOut transaction).requeues L = false)
    (h : (PayoutStatus.transferSuccessBlock cache id transaction).Commits L u M) :
    ReservedAs id (fun c => f c - only BASE_CURRENCY transaction.fiatAmountBase c) M := by
  obtain ⟨_, A, hA, h⟩ := commits_bind.mp h
  obtain ⟨_, B, hB, h⟩ := commits_bind.mp h
  obtain ⟨_, C, hC, h⟩ := commits_bind.mp h
  simp only [updateOrder, updateTransaction, commits_update_bind] at h
  obtain ⟨r, hr, -, -, rfl⟩ := PayoutStatus.bookSold_commits.mp h
  have hreserved := takes_releaseLiquidity BASE_CURRENCY transaction.fiatAmountBase f L _ A hL hA
  have hkept := keeps_restate _ _ _ _ B _ C (keeps_takeSold transaction _ A _ B hreserved hB) hC
  -- the columns that the booking compares are those before the payout
  have hcolumns := (releaseLiquidity_frame hA).2 transaction.currency
  have hcompany : C.companyLiquidity = A.companyLiquidity := by
    obtain ⟨w, -, -, -, -, rfl⟩ := PayoutStatus.takeSold_commits.mp hB
    rcases restateOriginalBalance_commits.mp hC with ⟨-, rfl⟩ | ⟨w, text, -, -, rfl⟩
    · rfl
    · rfl
  have hr' : C.companyLiquidity.lookup transaction.currency = some r := hr
  rw [← hcompany, hr'] at hcolumns
  obtain ⟨r₀, hr₀, hsame⟩ := Option.map_eq_some_iff.mp hcolumns.symm
  simp only [Prod.mk.injEq] at hsame
  simp only [Closing.requeues, hr₀, Option.any_some, decide_eq_false_iff_not, hsame.1,
    hsame.2] at hqueued
  have hset := hkept.setCompany (r := { r with
    internalBalance := r.internalBalance - transaction.totalSentBase })
    (Ledger.reservedLiquidity_of_lookup hr').symm
  refine ⟨hset.reserved, ?_⟩
  simp only [hqueued, if_false]
  exact hset.gone

theorem Closing.block_takes {x : Closing} {f : Currency → Int} {L M : Ledger} {b : Bool}
    (hL : ReservedAs id f L) (hruns : x.runs id L = true) (hqueued : x.requeues L = false)
    (h : (x.block cache id).Commits L b M) : ReservedAs id (fun c => f c - x.takes c) M := by
  cases x with
  | orderFailed isBuy crypto transaction =>
    exact failOrderBlock_takes hL (by simpa [runs] using hruns) h
  | orderSettled crypto transaction executedCrypto executedFiat =>
    simp only [runs, Bool.and_eq_true, Bool.not_eq_true'] at hruns
    exact buyBlock_takes hL hruns.2 h
  | settlementFailed transaction =>
    obtain ⟨u, -, hu⟩ := commits_map.mp h
    exact buyFailureBlock_takes transaction f L u M hL hu
  | missingBankDetails crypto transaction =>
    obtain ⟨u, -, hu⟩ := commits_map.mp h
    exact missingBankDetailsBlock_takes crypto transaction f L u M hL hu
  | chargeFailed transaction =>
    obtain ⟨u, -, hu⟩ := commits_map.mp h
    exact handleFailureBlock_takes transaction f L u M hL hu
  | paidOut transaction =>
    obtain ⟨u, -, hu⟩ := commits_map.mp h
    exact transferSuccessBlock_takes hL hqueued hu
  | swapFailed e isReversal =>
    obtain ⟨u, -, hu⟩ := commits_map.mp h
    exact failureBlock_takes e isReversal f L u M hL hu
  | swapCompleted e regular confirmedFrom confirmedTo creditId creditReference toNetwork =>
    obtain ⟨done, -, hdone⟩ := commits_map.mp h
    exact completeBlock_takes regular hL hruns hdone
  | withdrawalClosed event transaction withdrawalId withdrawal amountBase =>
    obtain ⟨u, -, hu⟩ := commits_map.mp h
    exact settleBlock_takes event transaction withdrawalId withdrawal amountBase f L u M hL hu

end Closings

/-! ### The retries leave the company's rows alone but for their reservation -/

section Company

variable {id : TransactionId} {R : Table Currency CompanyLiquidity}

def CompanyIs (R : Table Currency CompanyLiquidity) (L : Ledger) : Prop := L.companyLiquidity = R

theorem targetBlock_company (reference : Reference) (found : Target) :
    Preserves (CompanyIs R) (found.block id reference) := by
  cases found with
  | sell => exact preserves_bind (preserves_update fun _ h => h) fun _ =>
      preserves_update fun _ h => h
  | swap swapRecordId => exact preserves_update fun _ h => h
  | withdrawal withdrawalId =>
    exact preserves_bind (preserves_update fun _ h => h) fun _ => preserves_update fun _ h => h
  | buy transaction => exact preserves_update fun _ h => h

theorem deleteRecord_company : Preserves (CompanyIs R) (deleteRecord id) := by
  refine preserves_bind (preserves_read _) fun _ => ?_
  exact preserves_bind (preserves_require _ _) fun _ => preserves_update fun _ h => h

theorem expireBlock_company (transaction : Transaction) :
    Preserves (CompanyIs R) (expireBlock id transaction) := by
  refine preserves_bind ?_ fun _ => preserves_bind (preserves_update fun _ h => h) fun _ =>
    deleteRecord_company
  unfold releaseReserved
  split
  · intro L u M hL h
    obtain ⟨w, -, -, -, rfl⟩ := releaseBalance_commits.mp h
    exact hL
  · exact preserves_pure ()

theorem CompanyIs.reserved {L M : Ledger} (h : CompanyIs L.companyLiquidity M) (c : Currency) :
    M.reservedLiquidity c = L.reservedLiquidity c := by
  unfold Ledger.reservedLiquidity
  rw [h]

end Company

/-! ### The account of one transaction -/

section Account

variable {cache : ConvertCurrency.DefaultNetworkCache} {id : TransactionId} {s : Accounts}

structure Balanced (id : TransactionId) (s : Accounts) : Prop where
  serial : Serial id s.retrying
  holding : ∀ t ∈ s.running, ∀ failed, t.holding = some failed →
    ∀ c, s.state.share c = only failed.currency failed.amountBase c
  free : s.state.queue.placed = 0 → s.running.countP Task.unplaced = 0 → ∀ c, s.state.share c = 0
  nonneg : ∀ c, 0 ≤ s.state.share c
  placed : s.state.queue.placed ≠ 0 → s.state.ended = false →
    ∃ failed, s.state.placedFor = some failed ∧
      ∀ c, s.state.share c = only failed.currency failed.amountBase c
  ended : s.state.ended = true → s.state.queue.ledger.failedCompanyLiquidity.lookup id = none ∧
    s.running.countP Task.active = 0 ∧ ∀ c, s.state.share c = 0

theorem Balanced.accounted (hs : Balanced id s) : Accounted s := by
  refine ⟨hs.nonneg, fun h => (hs.ended h).2.2, fun hplaced hactive => ?_⟩
  rw [countP_active] at hactive
  exact hs.free hplaced (by omega)

theorem holding_active {t : Task} {failed : FailedCompanyLiquidityTransaction}
    (h : t.holding = some failed) : t.active = true := by
  cases t <;> first | rfl | cases h

theorem Balanced.alone (hs : Balanced id s) {n : Nat} {t : Task} (ht : s.running[n]? = some t)
    (hactive : t.active = true) : ∀ u ∈ s.running.eraseIdx n, u.active = false := by
  have hsingle := hs.serial.single
  have hone : s.running.countP Task.active ≤ 1 := by
    rw [countP_active]
    exact hsingle
  exact Handlers.others_of_countP (s := s) ht hactive hone

theorem step_resume {n : Nat} {t : Task} (ht : s.running[n]? = some t) (o : Outcome) {q : Queue}
    {next : Option Task} (hstep : resume id t o s.state.queue = (q, next)) :
    (accounts cache id).step (.resume n o) s =
      ⟨(s.state.move q (expires id s.state.queue.ledger t o)).place t s.state.queue,
        s.running.eraseIdx n ++ next.toList⟩ := by
  rw [Handlers.step_resume ht]
  simp only [accounts, hstep]

variable (cache) in
theorem retrying_resume (n : Nat) (o : Outcome) :
    Accounts.retrying ((accounts cache id).step (.resume n o) s) =
      (retries id).step (.resume n o) s.retrying := by
  cases ht : s.running[n]? with
  | none =>
    rw [Handlers.step_resume_none ht, Handlers.step_resume_none (s := s.retrying) ht]
  | some t =>
    rw [Handlers.step_resume ht, Handlers.step_resume (s := s.retrying) ht]
    rfl

theorem resume_placed (id : TransactionId) (t : Task) (o : Outcome) (q : Queue) :
    (resume id t o q).1.placed = q.placed ∨
      (q.placed < (resume id t o q).1.placed ∧ ∃ failed, t.holding = some failed) := by
  have hresumes := resume_resumes id t o q
  generalize (resume id t o q).1 = after, (resume id t o q).2 = next at hresumes
  cases hresumes with
  | accepted failed | acceptedUnseen failed => exact .inr ⟨Nat.lt_succ_self _, failed, rfl⟩
  | _ => exact .inl rfl

theorem Balanced.same (hs : Balanced id s) {n : Nat} {t : Task} {o : Outcome}
    (ht : s.running[n]? = some t) {q : Queue} {next : Option Task}
    (hstep : resume id t o s.state.queue = (q, next)) (hc : Calm id s.retrying t o)
    (hexpires : expires id s.state.queue.ledger t o = false)
    (hreserved : ∀ c, q.ledger.reservedLiquidity c = s.state.queue.ledger.reservedLiquidity c)
    (hholding : ∀ u, next = some u → ∀ failed, u.holding = some failed → t.holding = some failed)
    (hplaced : q.placed = 0 → next.any Task.unplaced = false →
      s.state.queue.placed = 0 ∧ t.unplaced = false)
    (hidle : t.active = false → s.state.queue.ledger.failedCompanyLiquidity.lookup id = none →
      q.ledger.failedCompanyLiquidity.lookup id = none ∧ next.any Task.active = false) :
    Balanced id ((accounts cache id).step (.resume n o) s) := by
  have hserial := hs.serial.resume ht hc
  rw [← retrying_resume cache] at hserial
  have hshare : ∀ c, ((s.state.move q (expires id s.state.queue.ledger t o)).place t
      s.state.queue).share c = s.state.share c := by
    intro c
    simp [Account.move, hreserved]
  rw [step_resume ht o hstep] at hserial ⊢
  refine ⟨hserial, ?_, ?_, fun c => by rw [hshare]; exact hs.nonneg c, fun hq hended => ?_, ?_⟩
  · intro u hu failed hu' c
    rw [hshare]
    rcases List.mem_append.mp hu with hu | hu
    · exact hs.holding u (List.mem_of_mem_eraseIdx hu) failed hu' c
    · exact hs.holding t (List.mem_of_getElem? ht) failed
        (hholding u (Option.mem_toList.mp hu) failed hu') c
  · intro hq hunplaced c
    rw [hshare]
    simp only [List.countP_append, Handlers.countP_toList] at hunplaced
    have hnext : next.any Task.unplaced = false := by
      cases hany : next.any Task.unplaced with
      | false => rfl
      | true => simp [hany] at hunplaced
    obtain ⟨hfree, htask⟩ := hplaced hq hnext
    have hperm := (Handlers.perm_running ht).countP_eq Task.unplaced
    rw [List.countP_cons, htask] at hperm
    simp only [Bool.false_eq_true, if_false] at hperm
    exact hs.free hfree (by omega) c
  · simp only [hshare]
    simp only [Account.place_ended, Account.move, hexpires, Bool.or_false] at hended
    have hcases := resume_placed id t o s.state.queue
    simp only [hstep] at hcases
    rcases hcases with hsame | ⟨hmore, failed, hfailed⟩
    · obtain ⟨failed, hfor, hfailed⟩ := hs.placed (hsame ▸ hq) hended
      exact ⟨failed, by simpa [Account.place, Account.move, hsame] using hfor, hfailed⟩
    · exact ⟨failed, by simpa [Account.place, Account.move, hmore] using hfailed,
        hs.holding t (List.mem_of_getElem? ht) failed hfailed⟩
  · intro hended
    simp only [Account.place_ended, Account.move, hexpires, Bool.or_false] at hended
    obtain ⟨hgone, hactive, hzero⟩ := hs.ended hended
    have htask : t.active = false := by
      simpa using List.countP_eq_zero.mp hactive t (List.mem_of_getElem? ht)
    obtain ⟨hgone', hnext⟩ := hidle htask hgone
    refine ⟨hgone', ?_, fun c => by rw [hshare]; exact hzero c⟩
    have hperm := (Handlers.perm_running ht).countP_eq Task.active
    rw [List.countP_cons] at hperm
    simp only [List.countP_append, Handlers.countP_toList, hnext, Bool.toNat_false]
    omega

/-- `Balanced.same` for the last step of a task. -/
theorem Balanced.last (hs : Balanced id s) {n : Nat} {t : Task} {o : Outcome}
    (ht : s.running[n]? = some t) {q : Queue} (hstep : resume id t o s.state.queue = (q, none))
    (hc : Calm id s.retrying t o) (hexpires : expires id s.state.queue.ledger t o = false)
    (hreserved : ∀ c, q.ledger.reservedLiquidity c = s.state.queue.ledger.reservedLiquidity c)
    (hplaced : q.placed = s.state.queue.placed) (hunplaced : t.unplaced = false)
    (hidle : t.active = false → s.state.queue.ledger.failedCompanyLiquidity.lookup id = none →
      q.ledger.failedCompanyLiquidity.lookup id = none) :
    Balanced id ((accounts cache id).step (.resume n o) s) := by
  refine hs.same ht hstep hc hexpires hreserved ?_ (fun h _ => ⟨hplaced ▸ h, hunplaced⟩)
    fun hactive hgone => ⟨hidle hactive hgone, rfl⟩
  intro u hu
  cases hu

theorem Balanced.reserve (hs : Balanced id s) {n : Nat}
    {failed : FailedCompanyLiquidityTransaction} {txRecord : Transaction}
    (ht : s.running[n]? = some (.reserving failed txRecord)) :
    Balanced id ((accounts cache id).step (.resume n .ok) s) := by
  have hmem := List.mem_of_getElem? ht
  obtain ⟨hplaced, -⟩ := hs.serial.reserves hmem rfl
  have hsingle := hs.serial.single
  have hreserving := List.countP_pos_iff.mpr ⟨_, hmem, (rfl : Task.reserves (.reserving failed
    txRecord) = true)⟩
  have hunplaced : s.running.countP Task.unplaced = 0 := by
    simp only [Accounts.retrying] at hsingle
    omega
  have hzero := hs.free hplaced hunplaced
  cases hM : reserveLiquidity failed.currency failed.amountBase s.state.queue.ledger with
  | error e =>
    have hstep : resume id (.reserving failed txRecord) .ok s.state.queue =
        (s.state.queue, none) := by simp only [resume, hM]
    exact hs.last ht hstep trivial rfl (fun c => rfl) rfl rfl fun h => Bool.noConfusion h
  | ok p =>
    obtain ⟨b, M⟩ := p
    cases b with
    | false =>
      have hstep : resume id (.reserving failed txRecord) .ok s.state.queue =
          (s.state.queue, none) := by simp only [resume, hM]
      exact hs.last ht hstep trivial rfl (fun c => rfl) rfl rfl fun h => Bool.noConfusion h
    | true =>
      have hstep : resume id (.reserving failed txRecord) .ok s.state.queue =
          ({ s.state.queue with ledger := M, reservations := s.state.queue.reservations + 1 },
            some (.resuming failed txRecord)) := by simp only [resume, hM]
      have hserial := hs.serial.resume (o := .ok) ht trivial
      rw [← retrying_resume cache] at hserial
      have hshare (c : Currency) : s.state.share c + (M.reservedLiquidity c -
          s.state.queue.ledger.reservedLiquidity c) = only failed.currency failed.amountBase c := by
        rw [hzero, reserveLiquidity_reserved hM]
        omega
      have halone := hs.alone ht rfl
      rw [step_resume ht .ok hstep] at hserial ⊢
      refine ⟨hserial, ?_, ?_, fun c => ?_, fun hq => absurd hplaced hq, ?_⟩
      · intro u hu f hf c
        rcases List.mem_append.mp hu with hu | hu
        · have hactive := holding_active hf
          rw [halone u hu] at hactive
          cases hactive
        · cases Option.mem_toList.mp hu
          cases hf
          exact hshare c
      · intro _ hnone
        simp [Task.unplaced] at hnone
      · show 0 ≤ s.state.share c + _
        rw [hshare]
        unfold only
        split
        · exact Int.natCast_nonneg _
        · exact le_rfl
      · intro hended
        have hbefore : s.state.ended = true := by
          simpa [Account.move, expires] using hended
        have hnone := (hs.ended hbefore).2.1
        have hpos := List.countP_pos_iff.mpr ⟨_, hmem, (rfl : Task.active (.reserving failed
          txRecord) = true)⟩
        omega

theorem Balanced.release (hs : Balanced id s) {n : Nat}
    {failed : FailedCompanyLiquidityTransaction}
    (ht : s.running[n]? = some (.releasing failed)) {M : Ledger}
    (hM : (releaseLiquidity failed.currency failed.amountBase).Commits s.state.queue.ledger () M) :
    Balanced id ((accounts cache id).step (.resume n .ok) s) := by
  have hmem := List.mem_of_getElem? ht
  have hM' : releaseLiquidity failed.currency failed.amountBase s.state.queue.ledger =
    .ok ((), M) := hM
  have hstep : resume id (.releasing failed) .ok s.state.queue =
      ({ s.state.queue with ledger := M, reservations := s.state.queue.reservations - 1 },
        none) := by simp only [resume, hM']
  have hserial := hs.serial.resume (o := .ok) ht ⟨rfl, M, hM⟩
  rw [← retrying_resume cache] at hserial
  have hshare (c : Currency) : s.state.share c + (M.reservedLiquidity c -
      s.state.queue.ledger.reservedLiquidity c) = 0 := by
    rw [hs.holding _ hmem failed rfl, releaseLiquidity_reserved hM]
    simp [only]
  have halone := hs.alone ht rfl
  have hplaced : s.state.queue.placed = 0 := hs.serial.unplaced hmem rfl
  rw [step_resume ht .ok hstep] at hserial ⊢
  refine ⟨hserial, ?_, fun _ _ => hshare, fun c => (hshare c).ge, fun hq => absurd hplaced hq, ?_⟩
  · intro u hu f hf c
    simp only [Option.toList_none, List.append_nil] at hu
    have hactive := holding_active hf
    rw [halone u hu] at hactive
    cases hactive
  · intro hended
    have hbefore : s.state.ended = true := by
      simpa [Account.move, expires] using hended
    have hnone := (hs.ended hbefore).2.1
    have hpos := List.countP_pos_iff.mpr ⟨_, hmem, (rfl : Task.active (.releasing failed) = true)⟩
    omega

theorem expireBlock_record {transaction : Transaction} {L M : Ledger} {u : Unit}
    (h : (expireBlock id transaction).Commits L u M) :
    L.failedCompanyLiquidity.lookup id ≠ none ∧ M.failedCompanyLiquidity.lookup id = none := by
  obtain ⟨_, A, hA, h⟩ := commits_bind.mp h
  simp only [updateTransaction, commits_update_bind] at h
  constructor
  · intro hnone
    have hgone : KeepsGone id (releaseReserved transaction) := by
      unfold releaseReserved
      split
      · exact OnBalances.keepsGone (releaseBalance_onBalances _ _ _ _)
      · exact preserves_pure ()
    have hA' := hgone L _ A hnone hA
    simp only [deleteRecord, commits_read_bind, commits_require_bind] at h
    simp [hA'] at h
  · rw [← commit_of_commits h]
    exact deleteRecord_gone id _

theorem Balanced.expire (hs : Balanced id s) {n : Nat} {transaction : Transaction}
    (ht : s.running[n]? = some (.expiring transaction))
    (hexpires : expires id s.state.queue.ledger (.expiring transaction) .ok = true)
    (hfree : s.running.countP Task.active = 0) :
    Balanced id ((accounts cache id).step (.resume n .ok) s) := by
  simp only [expires, Bool.and_eq_true, Option.isSome_iff_exists] at hexpires
  obtain ⟨hretryable, u, hu⟩ := hexpires
  have hcommits := result_eq_some.mp hu
  obtain ⟨hrecord, hgone⟩ := expireBlock_record hcommits
  have hstep : resume id (.expiring transaction) .ok s.state.queue =
      (s.state.queue.commit (expireBlock id transaction), none) := by
    simp [resume, hretryable]
  have hserial := hs.serial.resume (o := .ok) ht trivial
  rw [← retrying_resume cache] at hserial
  have hfree' := hfree
  rw [countP_active] at hfree'
  have hplaced : s.state.queue.placed = 0 := by
    have htaken := hs.serial.taken.resolve_left hrecord
    simp only [Accounts.retrying] at htaken
    omega
  have hzero := hs.free hplaced (by omega)
  have hshare (c : Currency) : (s.state.move (s.state.queue.commit (expireBlock id transaction))
      (expires id s.state.queue.ledger (.expiring transaction) .ok)).share c = 0 := by
    have hcompany : CompanyIs s.state.queue.ledger.companyLiquidity
        ((expireBlock id transaction).commit s.state.queue.ledger) :=
      (expireBlock_company transaction).commit rfl
    simp only [Account.move, Queue.commit, hcompany.reserved, sub_self, add_zero, hzero]
  have hrest : (s.running.eraseIdx n).countP Task.active = 0 := by
    have hperm := (Handlers.perm_running ht).countP_eq Task.active
    rw [List.countP_cons] at hperm
    omega
  rw [step_resume ht .ok hstep] at hserial ⊢
  refine ⟨hserial, ?_, fun _ _ => hshare, fun c => (hshare c).ge, fun hq => absurd hplaced hq,
    fun _ => ⟨hgone, ?_, hshare⟩⟩
  · intro v hv f hf c
    simp only [Option.toList_none, List.append_nil] at hv
    have hactive := holding_active hf
    have hnone := List.countP_eq_zero.mp hrest v hv
    exact absurd hactive hnone
  · simpa using hrest

theorem Balanced.resume (hs : Balanced id s) {n : Nat} {t : Task} {o : Outcome}
    (ht : s.running[n]? = some t) (hc : Calm id s.retrying t o)
    (hfree : expires id s.state.queue.ledger t o = true → s.running.countP Task.active = 0) :
    Balanced id ((accounts cache id).step (.resume n o) s) := by
  have hcompany {x : LedgerBlock Unit} (hx : ∀ R, Preserves (CompanyIs R) x) (c : Currency) :
      (s.state.queue.commit x).ledger.reservedLiquidity c =
        s.state.queue.ledger.reservedLiquidity c :=
    CompanyIs.reserved ((hx s.state.queue.ledger.companyLiquidity).commit rfl) c
  cases t with
  | checking failed =>
    cases o with
    | ok =>
      refine hs.same ht rfl hc rfl (fun c => rfl) ?_ (fun h _ => ⟨h, rfl⟩) fun _ hgone =>
        ⟨hgone, ?_⟩
      · intro u hu f hf
        split at hu
        · cases hu
        · cases hu
          cases hf
      · split <;> rfl
    | _ =>
      exact hs.last ht rfl hc rfl (fun c => rfl) rfl rfl fun _ hgone => hgone
  | processing =>
    cases o with
    | ok =>
      refine hs.same ht rfl hc rfl (fun c => rfl) ?_ (fun h _ => ⟨h, rfl⟩) fun _ hgone =>
        ⟨hgone, ?_⟩
      · intro u hu f hf
        rcases process_cases id s.state.queue with ⟨failed, txRecord, -, hp⟩ | hp | hp
        · rw [hp] at hu
          cases hu
          cases hf
        · rw [hp] at hu
          cases hu
          cases hf
        · rw [hp] at hu
          cases hu
      · simp [process, hgone]
    | _ =>
      exact hs.last ht rfl hc rfl (fun c => rfl) rfl rfl fun _ hgone => hgone
  | dropping =>
    cases o with
    | ok =>
      exact hs.last ht rfl hc rfl (hcompany fun R => deleteRecord_company) rfl rfl
        fun _ _ => deleteRecord_gone id _
    | _ =>
      exact hs.last ht rfl hc rfl (fun c => rfl) rfl rfl fun _ hgone => hgone
  | expiring transaction =>
    cases hexpires : expires id s.state.queue.ledger (.expiring transaction) o with
    | true =>
      cases o with
      | ok => exact hs.expire ht hexpires (hfree hexpires)
      | _ => cases hexpires
    | false =>
      cases o with
      | ok =>
        cases hretryable : isRetryable transaction with
        | true =>
          have hstep : FailedCompanyLiquidity.resume id (.expiring transaction) .ok s.state.queue =
              (s.state.queue.commit (expireBlock id transaction), none) := by
            simp [FailedCompanyLiquidity.resume, hretryable]
          exact hs.last ht hstep hc hexpires (hcompany fun R => expireBlock_company transaction)
            rfl rfl fun _ hgone => (expireBlock_keepsGone transaction).commit hgone
        | false =>
          have hstep : FailedCompanyLiquidity.resume id (.expiring transaction) .ok s.state.queue =
              (s.state.queue.commit (deleteRecord id), none) := by
            simp [FailedCompanyLiquidity.resume, hretryable]
          exact hs.last ht hstep hc hexpires (hcompany fun R => deleteRecord_company) rfl rfl
            fun _ _ => deleteRecord_gone id _
      | _ =>
        exact hs.last ht rfl hc rfl (fun c => rfl) rfl rfl fun _ hgone => hgone
  | reserving failed txRecord =>
    cases o with
    | ok => exact hs.reserve ht
    | _ =>
      exact hs.last ht rfl hc rfl (fun c => rfl) rfl rfl fun h => Bool.noConfusion h
  | resuming failed txRecord =>
    have hexpires : expires id s.state.queue.ledger (.resuming failed txRecord) o = false := by
      cases o <;> rfl
    rcases call_cases failed txRecord s.state.queue hc.1 hc.2 with
        ⟨found, reference, -, hstep⟩ | hstep
    · refine hs.same ht hstep hc hexpires (fun c => rfl) ?_ (fun h _ => ?_)
        fun h => Bool.noConfusion h
      · rintro u ⟨⟩ f hf
        exact hf
      · exact absurd h (Nat.succ_ne_zero _)
    · refine hs.same ht hstep hc hexpires (fun c => rfl) ?_
        (fun _ h => Bool.noConfusion h) fun h => Bool.noConfusion h
      rintro u ⟨⟩ f hf
      exact hf
  | marking failed found reference =>
    obtain rfl : o = .ok := hc
    refine hs.same ht rfl rfl rfl (hcompany fun R => targetBlock_company reference found) ?_
      (fun h _ => ⟨h, rfl⟩) fun h => Bool.noConfusion h
    rintro u ⟨⟩ f hf
    cases hf
  | releasing failed =>
    obtain ⟨rfl, M, hM⟩ := hc
    exact hs.release ht hM
  | deleting =>
    obtain rfl : o = .ok := hc
    exact hs.last ht rfl rfl rfl (hcompany fun R => deleteRecord_company) rfl rfl
      fun h => Bool.noConfusion h

theorem Balanced.start (hs : Balanced id s) (c : Call) :
    Balanced id ((accounts cache id).step (.start c) s) := by
  have hserial := hs.serial.start c
  have hnew (u : Task) (hu : FailedCompanyLiquidity.start id c s.state.queue = some u) :
      u.active = false := by
    obtain ⟨hreserves, hunplaced, hanswered⟩ := start_active hu
    simp [Task.active, hreserves, hunplaced, hanswered]
  have hunplaced := Handlers.countP_start (h := accounts cache id) (s := s) (i := c)
    fun u hu => (start_active hu).2.1
  have hactive := Handlers.countP_start (h := accounts cache id) (s := s) (i := c) hnew
  refine ⟨hserial, ?_, ?_, hs.nonneg, hs.placed, fun hended => ?_⟩
  · intro u hu f hf
    rcases List.mem_append.mp hu with hu | hu
    · exact hs.holding u hu f hf
    · have hheld := holding_active hf
      rw [hnew u (Option.mem_toList.mp hu)] at hheld
      cases hheld
  · intro hplaced hnone
    rw [hunplaced] at hnone
    exact hs.free hplaced hnone
  · obtain ⟨hgone, hnone, hzero⟩ := hs.ended hended
    exact ⟨hgone, hactive.trans hnone, hzero⟩

theorem Balanced.close (hs : Balanced id s) {x : Closing}
    (hx : Fits s (.outside (.close x) : Event Call Outcome (Happening id))) :
    Balanced id ((accounts cache id).step (.outside (.close x)) s) := by
  have hstep : (accounts cache id).step (.outside (.close x)) s =
      ⟨FailedCompanyLiquidity.close cache id x s.state, s.running⟩ := rfl
  rw [hstep]
  unfold FailedCompanyLiquidity.close
  split
  · exact hs
  · rename_i hopen
    simp only [not_or, Bool.not_eq_false] at hopen
    obtain ⟨hplaced, hruns⟩ := hopen
    obtain ⟨hfree, hopen, hfor, hqueued⟩ := hx hplaced hruns
    obtain ⟨failed, hfailed, hshare⟩ := hs.placed hplaced hopen
    have hreservation := hfor failed hfailed
    have hactive := hfree
    rw [countP_active] at hactive
    split
    · rename_i M hM
      have hgone : s.state.queue.ledger.failedCompanyLiquidity.lookup id = none := by
        refine hs.serial.taken.resolve_right fun hle => hplaced ?_
        simp only [Accounts.retrying] at hle
        omega
      have hcommits : (x.block cache id).Commits s.state.queue.ledger true M := hM
      have htaken := Closing.block_takes ⟨fun c => rfl, hgone⟩ hruns hqueued hcommits
      have hzero (c : Currency) : s.state.share c + (M.reservedLiquidity c -
          s.state.queue.ledger.reservedLiquidity c) = 0 := by
        rw [htaken.reserved c, hshare c]
        simp only [Closing.takes, hreservation, only]
        omega
      refine ⟨⟨hs.serial.single, hs.serial.placed, hs.serial.reserved, .inl htaken.gone,
        .inl htaken.gone⟩, ?_, fun _ _ => hzero, fun c => (hzero c).ge, ?_,
        fun _ => ⟨htaken.gone, hfree, hzero⟩⟩
      · intro u hu f hf
        have hnone := List.countP_eq_zero.mp hfree u hu
        exact absurd (holding_active hf) hnone
      · intro _ hended
        simp [Account.move] at hended
    · exact hs

theorem Balanced.step (hs : Balanced id s) {e : Event Call Outcome (Happening id)}
    (he : Fits s e) : Balanced id ((accounts cache id).step e s) := by
  cases e with
  | start c => exact hs.start c
  | resume n o =>
    cases ht : s.running[n]? with
    | none =>
      rw [Handlers.step_resume_none ht]
      exact hs
    | some t => exact hs.resume ht (he t ht).1 (he t ht).2
  | outside x =>
    cases x with
    | other x =>
      refine ⟨hs.serial.outside x, hs.holding, hs.free, hs.nonneg, hs.placed, fun hended => ?_⟩
      obtain ⟨hgone, hrest⟩ := hs.ended hended
      exact ⟨x.gone _ hgone, hrest⟩
    | close x => exact hs.close he

end Account

/-! ### The queueing -/

section Queueing

variable {id : TransactionId} {R : Table Currency CompanyLiquidity}

/-- The blocks that queue a transaction: a confirmation that finds too little liquidity, and a sell
that has reserved its part and whose payout Paystack cannot fund. -/
inductive Queueing where
  | buy (q : BuyService.Confirm)
  | sell (q : SellService.Confirm)
  | swap (q : SwapService.Confirm)
  | withdrawal (q : WithdrawalService.Confirm) (withdrawalId : WithdrawalId)
  | unfunded (q : SellService.Confirm)

/-- The block, and whether it queues the transaction. -/
def Queueing.block (id : TransactionId) : Queueing → LedgerBlock Bool
  | .buy q => (fun r => decide (r = .queued)) <$> BuyService.confirmBlock q id
  | .sell q => (fun r => decide (r = .queued)) <$> SellService.confirmBlock q id
  | .swap q => Bool.not <$> SwapService.confirmBlock q id
  | .withdrawal q withdrawalId =>
    (fun r => decide (r = .queued)) <$> WithdrawalService.confirmBlock q id withdrawalId
  | .unfunded q => (fun _ => true) <$> SellService.paystackShortBlock q id

/-- What the confirmation before it had reserved. -/
def Queueing.releases : Queueing → Currency → Int
  | .unfunded q => only BASE_CURRENCY q.netFiat
  | _ => fun _ => 0

theorem insertTransaction_company (row : Transaction) :
    Preserves (CompanyIs R) (insertTransaction id row) := by
  refine preserves_bind (preserves_read _) fun _ => ?_
  exact preserves_bind (preserves_require _ _) fun _ => preserves_update fun _ h => h

theorem createFailedCompanyLiquidity_company (c : Currency) (amount : Nat) :
    Preserves (CompanyIs R) (createFailedCompanyLiquidity id c amount) := by
  refine preserves_bind (preserves_read _) fun _ => ?_
  exact preserves_bind (preserves_require _ _) fun _ => preserves_update fun _ h => h

theorem createWithdrawal_company (withdrawalId : WithdrawalId) (row : Withdrawal) :
    Preserves (CompanyIs R) (createWithdrawal withdrawalId row) := by
  refine preserves_bind (preserves_read _) fun _ => ?_
  exact preserves_bind (preserves_require _ _) fun _ => preserves_update fun _ h => h

theorem reserveBalance_company (userId : UserId) (c : Currency) (amount : Nat)
    (network : PinnedNetwork) : Preserves (CompanyIs R)
      (reserveBalance userId c amount network) := by
  intro L u M hL h
  obtain ⟨w, -, -, -, rfl⟩ := reserveBalance_commits.mp h
  exact hL

theorem buy_queued {q : BuyService.Confirm} {L M : Ledger}
    (h : (BuyService.confirmBlock q id).Commits L .queued M) :
    CompanyIs L.companyLiquidity M := by
  simp only [BuyService.confirmBlock, commits_requireMinimum_bind, commits_read_bind] at h
  replace h := h.2
  split at h
  · simp at h
  · obtain ⟨reserved, A, hA, h⟩ := commits_bind.mp h
    obtain ⟨_, B, hB, h⟩ := commits_bind.mp h
    cases reserved with
    | true => simp at h
    | false =>
      obtain ⟨_, C, hC, h⟩ := commits_bind.mp h
      obtain ⟨-, rfl⟩ := commits_pure.mp h
      cases reserveLiquidity_short hA
      have hB' := insertTransaction_company _ L _ B rfl hB
      exact createFailedCompanyLiquidity_company _ _ B _ C hB' hC

theorem sell_cases {q : SellService.Confirm} {L M : Ledger} {r : SellService.ConfirmResult}
    (h : (SellService.confirmBlock q id).Commits L r M) :
    r = .duplicate ∨ (r = .queued ∧ CompanyIs L.companyLiquidity M) ∨
      (r = .reserved ∧ ∀ c, M.reservedLiquidity c =
        L.reservedLiquidity c + only BASE_CURRENCY q.netFiat c) := by
  simp only [SellService.confirmBlock, commits_requireMinimum_bind, commits_read_bind] at h
  replace h := h.2
  split at h
  · exact .inl (commits_pure.mp h).1.symm
  · right
    obtain ⟨_, A, hA, h⟩ := commits_bind.mp h
    simp only [commits_read_bind] at h
    obtain ⟨_, B, hB, h⟩ := commits_bind.mp h
    obtain ⟨_, C, hC, h⟩ := commits_bind.mp h
    have hA' := reserveBalance_company _ _ _ _ L _ A rfl hA
    have hB' := insertTransaction_company _ A _ B hA' hB
    have hC' : CompanyIs L.companyLiquidity C := by
      rw [← commits_update.mp hC]
      exact hB'
    have hqueued {E : Ledger} {u : Unit}
        (hE : (createFailedCompanyLiquidity id BASE_CURRENCY q.netFiat).Commits C u E) :
        CompanyIs L.companyLiquidity E :=
      createFailedCompanyLiquidity_company _ _ C _ E hC' hE
    split at h
    · obtain ⟨reserved, D, hD, h⟩ := commits_bind.mp h
      cases reserved with
      | true =>
        simp only [if_true, updateTransaction, commits_update_bind, commits_pure] at h
        obtain ⟨rfl, rfl⟩ := h
        refine .inr ⟨rfl, fun c => ?_⟩
        have hreserved := reserveLiquidity_reserved hD c
        rw [hC'.reserved] at hreserved
        exact hreserved
      | false =>
        cases reserveLiquidity_short hD
        obtain ⟨_, E, hE, h⟩ := commits_bind.mp h
        obtain ⟨rfl, rfl⟩ := commits_pure.mp h
        exact .inl ⟨rfl, hqueued hE⟩
    · obtain ⟨_, E, hE, h⟩ := commits_bind.mp h
      obtain ⟨rfl, rfl⟩ := commits_pure.mp h
      exact .inl ⟨rfl, hqueued hE⟩

theorem swap_queued {q : SwapService.Confirm} {L M : Ledger}
    (h : (SwapService.confirmBlock q id).Commits L false M) :
    CompanyIs L.companyLiquidity M := by
  obtain ⟨-, h⟩ := commits_requireMinimum_bind.mp h
  obtain ⟨_, A, hA, h⟩ := commits_bind.mp h
  obtain ⟨_, B, hB, h⟩ := commits_bind.mp h
  obtain ⟨reserved, C, hC, h⟩ := commits_bind.mp h
  have hA' := insertTransaction_company _ L _ A rfl hA
  have hB' := reserveBalance_company _ _ _ _ A _ B hA' hB
  cases reserved with
  | true => simp at h
  | false =>
    obtain ⟨_, D, hD, h⟩ := commits_bind.mp h
    obtain ⟨-, rfl⟩ := commits_pure.mp h
    cases reserveLiquidity_short hC
    exact createFailedCompanyLiquidity_company _ _ B _ D hB' hD

theorem withdrawal_queued {q : WithdrawalService.Confirm} {withdrawalId : WithdrawalId}
    {L M : Ledger} (h : (WithdrawalService.confirmBlock q id withdrawalId).Commits L .queued M) :
    CompanyIs L.companyLiquidity M := by
  simp only [WithdrawalService.confirmBlock, commits_requireMinimum_bind, commits_read_bind] at h
  replace h := h.2
  split at h
  · simp at h
  · obtain ⟨_, A, hA, h⟩ := commits_bind.mp h
    obtain ⟨_, B, hB, h⟩ := commits_bind.mp h
    obtain ⟨reserved, C, hC, h⟩ := commits_bind.mp h
    obtain ⟨_, D, hD, h⟩ := commits_bind.mp h
    cases reserved with
    | true => simp at h
    | false =>
      obtain ⟨_, E, hE, h⟩ := commits_bind.mp h
      obtain ⟨-, rfl⟩ := commits_pure.mp h
      have hA' := reserveBalance_company _ _ _ _ L _ A rfl hA
      have hB' := insertTransaction_company _ A _ B hA' hB
      cases reserveLiquidity_short hC
      have hD' := createWithdrawal_company withdrawalId _ B _ D hB' hD
      exact createFailedCompanyLiquidity_company _ _ D _ E hD' hE

theorem Queueing.releases_all {x : Queueing} {L M : Ledger}
    (h : (x.block id).Commits L true M) (c : Currency) :
    M.reservedLiquidity c = L.reservedLiquidity c - x.releases c := by
  have hsame (hcompany : CompanyIs L.companyLiquidity M) :
      M.reservedLiquidity c = L.reservedLiquidity c - 0 := by
    rw [hcompany.reserved, sub_zero]
  cases x with
  | buy q =>
    obtain ⟨r, hr, h⟩ := commits_map.mp h
    exact hsame (buy_queued (of_decide_eq_true hr ▸ h))
  | sell q =>
    obtain ⟨r, hr, h⟩ := commits_map.mp h
    have hqueued := of_decide_eq_true hr
    rcases sell_cases h with rfl | ⟨-, hcompany⟩ | ⟨rfl, -⟩
    · cases hqueued
    · exact hsame hcompany
    · cases hqueued
  | swap q =>
    obtain ⟨r, hr, h⟩ := commits_map.mp h
    cases r with
    | true => cases hr
    | false => exact hsame (swap_queued h)
  | withdrawal q withdrawalId =>
    obtain ⟨r, hr, h⟩ := commits_map.mp h
    exact hsame (withdrawal_queued (of_decide_eq_true hr ▸ h))
  | unfunded q =>
    obtain ⟨u, -, h⟩ := commits_map.mp h
    obtain ⟨_, A, hA, h⟩ := commits_bind.mp h
    simp only [upsertFailedCompanyLiquidity, updateTransaction, commits_update_bind,
      commits_update] at h
    subst h
    exact releaseLiquidity_reserved hA c

end Queueing

end FailedCompanyLiquidity

end ExchangeLedger
