import Mathlib.Data.Option.Basic
import ExchangeLedger.Concurrent
import ExchangeLedger.FailedLiquidity
import ExchangeLedger.WithdrawalDeliveries

set_option autoImplicit false

/-! One withdrawal and everything that may close it: `confirmSend` around its provider call,
cancellations, webhook deliveries and the liquidity retries, each taking one step at a time. -/

namespace ExchangeLedger

open Block Concurrent

namespace WithdrawalService

/-- `withdrawal.findFirst({ where })`. -/
def findWithdrawal (L : Ledger) (p : Withdrawal → Bool) : Option WithdrawalId :=
  (L.withdrawals.entries.find? (fun e => p e.2)).map Sigma.fst

/-- What the provider holds under the withdrawal's reference. -/
inductive ProviderState where
  | absent | open | executed | rejected
  deriving DecidableEq, Repr

structure Flow where
  ledger : Ledger
  provider : ProviderState
  /-- The user got the reserved funds back. -/
  refunded : Bool

/-- The rows that a cancellation or a webhook works on, as it read them. -/
structure Found where
  withdrawalId : WithdrawalId
  withdrawal : Withdrawal
  id : TransactionId
  transaction : Transaction
  deriving DecidableEq, Repr

inductive Actor where
  | calling
  | recording (providerWithdrawalId : Reference)
  /-- Inside the `try` a compensation that fails is started again by the `catch`. -/
  | compensating (again : Bool)
  | asking (found : Found)
  | releasing (found : Found)
  | confirming (event : WithdrawalWebhook.Event) (found : Found)
  | settling (event : WithdrawalWebhook.Event) (found : Found) (amountBase : Int)
  | failing (withdrawalId : WithdrawalId)
  | retrying (record : FailedCompanyLiquidityTransaction)
  | recreating (record : FailedCompanyLiquidityTransaction)
  | resuming (record : FailedCompanyLiquidityTransaction) (withdrawalId : WithdrawalId)
      (providerWithdrawalId : Reference)
  | unreserving (record : FailedCompanyLiquidityTransaction)
  | clearing
  | expiring (transaction : Transaction)
  deriving DecidableEq, Repr

/-- How the caller sees a request that the provider accepted. -/
inductive Answer where
  | success | malformed | lost
  deriving DecidableEq, Repr

/-- How the next call of an actor ends. -/
inductive Outcome where
  | ok
  /-- A database fault, transient for the webhook's retry, or an exception of the HTTP client. -/
  | throws
  | lasting
  | dies
  | refused
  | accepted (providerWithdrawalId : Reference) (answer : Answer)
  | cancelled (answered : Bool)
  | confirmed (c : WithdrawalWebhook.Confirmed)
  deriving DecidableEq, Repr

inductive Start where
  | cancel (userId : UserId)
  | webhook (event : WithdrawalWebhook.Event)
  | retry
  | expire
  deriving DecidableEq, Repr

/-- What happens outside: the provider works on the withdrawal, or the company's funds change. -/
inductive Outside where
  | executes
  | rejects
  | company (currency : Currency) (row : CompanyLiquidity)
  deriving DecidableEq, Repr

/-- `cancelWithdrawal` up to its block, or to its call of the provider. -/
def startCancel (userId : UserId) (id : TransactionId) (L : Ledger) : Option Actor := do
  let transaction ← L.transactions.lookup id
  guard (transaction.userId = userId ∧ transaction.transactionContext = .WITHDRAWAL ∧
    transaction.isProcessed = false)
  let withdrawalId ← findWithdrawal L (fun w => w.transactionId = some id ∧ w.userId = userId)
  let withdrawal ← L.withdrawals.lookup withdrawalId
  guard (withdrawal.status = .PENDING ∨ withdrawal.status = .PROCESSING)
  let found : Found := ⟨withdrawalId, withdrawal, id, transaction⟩
  return if withdrawal.providerWithdrawalId = none then .releasing found else .asking found

/-- `handleConfirmedWithdrawal` up to its lookup at the provider. -/
def startWebhook (event : WithdrawalWebhook.Event) (reference : Reference) (L : Ledger) :
    Option Actor := do
  let (withdrawalId, withdrawal, id, transaction) ← WithdrawalWebhook.findWithdrawal L reference
  guard (withdrawal.status ≠ .SUCCESS ∧ withdrawal.status ≠ .FAILED ∧
    transaction.totalAmountSentBase ≠ none)
  return .confirming event ⟨withdrawalId, withdrawal, id, transaction⟩

/-- `processFailedRecord` and `expireStaleFailedRecords` up to their first write. -/
def startRetry (expire : Bool) (id : TransactionId) (L : Ledger) : Option Actor := do
  let record ← L.failedCompanyLiquidity.lookup id
  let transaction ← L.transactions.lookup id
  return if FailedCompanyLiquidity.isRetryable transaction = false then .clearing
    else if expire then .expiring transaction else .retrying record

def start (q : Confirm) (id : TransactionId) : Start → Flow → Option Actor
  | .cancel userId, F => startCancel userId id F.ledger
  | .webhook event, F => startWebhook event q.previewId F.ledger
  | .retry, F => startRetry false id F.ledger
  | .expire, F => startRetry true id F.ledger

/-- A database transaction of a handler. -/
def Flow.run {α : Type} (F : Flow) (x : LedgerBlock α) : Flow :=
  { F with ledger := x.commit F.ledger }

/-- A block that, where it commits, has refunded the user. -/
def Flow.refund {α : Type} (F : Flow) (x : LedgerBlock α) : Flow :=
  { F with ledger := x.commit F.ledger, refunded := F.refunded || (x.result F.ledger).isSome }

/-- The provider takes a request; under one reference it executes once. -/
def Flow.accept (F : Flow) : Flow :=
  { F with provider := if F.provider = .executed then .executed else .open }

def resumeCalling (o : Outcome) (F : Flow) : Flow × Option Actor :=
  match o with
  | .dies => (F, none)
  | .accepted providerWithdrawalId .success => (F.accept, some (.recording providerWithdrawalId))
  | .accepted _ .malformed => (F.accept, some (.compensating true))
  | .accepted _ .lost => (F.accept, some (.compensating false))
  | .refused => (F, some (.compensating true))
  | _ => (F, some (.compensating false))

def resumeCompensating (q : Confirm) (id : TransactionId) (withdrawalId : WithdrawalId)
    (again : Bool) (o : Outcome) (F : Flow) : Flow × Option Actor :=
  match o with
  | .ok => (F.refund (compensateBlock q id withdrawalId), none)
  | .dies => (F, none)
  | _ => (F, if again then some (.compensating false) else none)

def resumeAsking (found : Found) (o : Outcome) (F : Flow) : Flow × Option Actor :=
  match o with
  | .cancelled answered =>
    ({ F with provider := if F.provider = .open then .rejected else F.provider },
      if answered then some (.releasing found) else none)
  | _ => (F, none)

def resumeReleasing (found : Found) (o : Outcome) (F : Flow) : Flow × Option Actor :=
  match o with
  | .ok =>
    (F.refund (cancelBlock found.id found.transaction found.withdrawalId found.withdrawal), none)
  | _ => (F, none)

def resumeConfirming (cache : ConvertCurrency.DefaultNetworkCache)
    (event : WithdrawalWebhook.Event) (found : Found) (o : Outcome) (F : Flow) :
    Flow × Option Actor :=
  match o with
  | .confirmed c =>
    if c.done = false then (F, none)
    else match WithdrawalWebhook.confirmedAmount cache c found.withdrawal.currency with
      | .ok amountBase => (F, some (.settling event found amountBase))
      | .error _ => (F, none)
  | _ => (F, none)

def Found.settleBlock (cache : ConvertCurrency.DefaultNetworkCache)
    (event : WithdrawalWebhook.Event) (found : Found) (amountBase : Int) : LedgerBlock Unit :=
  WithdrawalWebhook.settleBlock cache event found.id found.transaction found.withdrawalId
    found.withdrawal amountBase

def resumeSettling (cache : ConvertCurrency.DefaultNetworkCache)
    (event : WithdrawalWebhook.Event) (found : Found) (amountBase : Int) (o : Outcome)
    (F : Flow) : Flow × Option Actor :=
  let block := found.settleBlock cache event amountBase
  match o with
  | .ok =>
    (if event = .successful then F.run block else F.refund block,
      if (block.result F.ledger).isSome then none else some (.failing found.withdrawalId))
  | .lasting => (F, some (.failing found.withdrawalId))
  | _ => (F, none)

def resumeFailing (withdrawalId : WithdrawalId) (o : Outcome) (F : Flow) : Flow × Option Actor :=
  match o with
  | .ok => (F.run (WithdrawalWebhook.failedBlock withdrawalId), none)
  | _ => (F, none)

def resumeRetrying (record : FailedCompanyLiquidityTransaction) (o : Outcome) (F : Flow) :
    Flow × Option Actor :=
  let block := reserveLiquidity record.currency record.amountBase
  match o with
  | .ok =>
    (F.run block, if block.result F.ledger = some true then some (.recreating record) else none)
  | _ => (F, none)

/-- `resumeWithdrawal`; what it throws or answers instead of success releases the company's part. -/
def resumeRecreating (id : TransactionId) (record : FailedCompanyLiquidityTransaction)
    (o : Outcome) (F : Flow) : Flow × Option Actor :=
  match o, findWithdrawal F.ledger (fun w => w.transactionId = some id) with
  | .dies, _ => (F, none)
  | .accepted providerWithdrawalId answer, some withdrawalId =>
    (F.accept, some (if answer = .success then .resuming record withdrawalId providerWithdrawalId
      else .unreserving record))
  | _, _ => (F, some (.unreserving record))

def resumeResuming (id : TransactionId) (record : FailedCompanyLiquidityTransaction)
    (withdrawalId : WithdrawalId) (providerWithdrawalId : Reference) (o : Outcome) (F : Flow) :
    Flow × Option Actor :=
  match o with
  | .ok =>
    (F.run (FailedCompanyLiquidity.resumeWithdrawalBlock id withdrawalId providerWithdrawalId),
      some .clearing)
  | .dies => (F, none)
  | _ => (F, some (.unreserving record))

def resume (cache : ConvertCurrency.DefaultNetworkCache) (q : Confirm) (id : TransactionId)
    (withdrawalId : WithdrawalId) (a : Actor) (o : Outcome) (F : Flow) : Flow × Option Actor :=
  match a with
  | .calling => resumeCalling o F
  | .recording providerWithdrawalId =>
    (if o = .ok then F.run (recordBlock id withdrawalId providerWithdrawalId) else F, none)
  | .compensating again => resumeCompensating q id withdrawalId again o F
  | .asking found => resumeAsking found o F
  | .releasing found => resumeReleasing found o F
  | .confirming event found => resumeConfirming cache event found o F
  | .settling event found amountBase => resumeSettling cache event found amountBase o F
  | .failing withdrawalId => resumeFailing withdrawalId o F
  | .retrying record => resumeRetrying record o F
  | .recreating record => resumeRecreating id record o F
  | .resuming record withdrawalId providerWithdrawalId =>
    resumeResuming id record withdrawalId providerWithdrawalId o F
  | .unreserving record =>
    (if o = .ok then F.run (releaseLiquidity record.currency record.amountBase) else F, none)
  | .clearing => (if o = .ok then F.run (FailedCompanyLiquidity.deleteRecord id) else F, none)
  | .expiring transaction =>
    (if o = .ok then F.refund (FailedCompanyLiquidity.expireBlock id transaction) else F, none)

def outside : Outside → Flow → Flow
  | .executes, F => { F with provider := if F.provider = .open then .executed else F.provider }
  | .rejects, F => { F with provider := if F.provider = .open then .rejected else F.provider }
  | .company currency row, F => { F with ledger := F.ledger.setCompany currency row }

/-- The handlers around one withdrawal. -/
def races (cache : ConvertCurrency.DefaultNetworkCache) (q : Confirm) (id : TransactionId)
    (withdrawalId : WithdrawalId) : Handlers Flow Actor Start Outcome Outside where
  start := start q id
  resume := resume cache q id withdrawalId
  outside := outside

/-- The withdrawal as its confirmation leaves it: the provider is called unless it was queued. -/
def confirmed (result : ConfirmResult) (L : Ledger) : System Flow Actor :=
  ⟨⟨L, .absent, false⟩, if result = .reserved then [.calling] else []⟩

/-! ### The rows of the withdrawal -/

/-- The columns that name the withdrawal of a confirmed send. -/
structure Confirm.OwnsWithdrawal (q : Confirm) (id : TransactionId) (w : Withdrawal) : Prop where
  userId : w.userId = q.userId
  transactionId : w.transactionId = some id
  reference : w.reference = some q.previewId
  currency : w.currency = q.currency

structure Confirm.OwnsTransaction (q : Confirm) (t : Transaction) : Prop where
  userId : t.userId = q.userId
  currency : t.currency = q.currency
  context : t.transactionContext = .WITHDRAWAL
  totalAmountSentBase : t.totalAmountSentBase = some q.total
  platformFeeBase : t.platformFeeBase = some q.platformFee

theorem Confirm.OwnsTransaction.sentBase {q : Confirm} {t : Transaction}
    (h : q.OwnsTransaction t) : t.sentBase = q.total := by
  simp [Transaction.sentBase, h.totalAmountSentBase]

/-- Both rows are stored, every query by the withdrawal's columns finds it, the transaction has
`status`, and `reserved` is what the user's wallet holds reserved. -/
structure Tracked (q : Confirm) (id : TransactionId) (withdrawalId : WithdrawalId)
    (status : TransactionStatus) (reserved : Int) (L : Ledger) : Prop where
  withdrawal : ∃ w, L.withdrawals.lookup withdrawalId = some w ∧ q.OwnsWithdrawal id w
  found : ∀ p, (∀ w, q.OwnsWithdrawal id w → p w = true) → findWithdrawal L p = some withdrawalId
  transaction : ∃ t, L.transactions.lookup id = some t ∧ q.OwnsTransaction t ∧ t.status = status
  reserved : L.reservedBalance q.key = reserved

section Tracked

variable {q : Confirm} {id : TransactionId} {withdrawalId : WithdrawalId}
  {status : TransactionStatus} {reserved : Int} {L M : Ledger}

theorem Tracked.of_records (h : Tracked q id withdrawalId status reserved L)
    (hM : M.records = L.records) {r : Int} (hr : M.reservedBalance q.key = r) :
    Tracked q id withdrawalId status r M := by
  have hwithdrawals : M.withdrawals = L.withdrawals := (congrArg Ledger.withdrawals hM :)
  have htransactions : M.transactions = L.transactions := (congrArg Ledger.transactions hM :)
  constructor
  · rw [hwithdrawals]
    exact h.withdrawal
  · unfold findWithdrawal
    rw [hwithdrawals]
    exact h.found
  · rw [htransactions]
    exact h.transaction
  · exact hr

theorem updateWithdrawal_tracked {f : Withdrawal → Withdrawal}
    (hf : ∀ w, q.OwnsWithdrawal id w → q.OwnsWithdrawal id (f w)) :
    Preserves (Tracked q id withdrawalId status reserved) (updateWithdrawal withdrawalId f) := by
  apply preserves_update
  intro L h
  obtain ⟨w, hw, hown⟩ := h.withdrawal
  constructor
  · exact ⟨f w, by simp [hw], hf w hown⟩
  · intro p hp
    apply Table.find?_modify_of_lookup (h.found p hp)
    intro r hr _
    rw [hw] at hr
    cases hr
    exact hp (f w) (hf w hown)
  · exact h.transaction
  · exact h.reserved

theorem updateTransaction_tracked {f : Transaction → Transaction} {next : TransactionStatus}
    (hf : ∀ t, q.OwnsTransaction t → t.status = status →
      q.OwnsTransaction (f t) ∧ (f t).status = next)
    {u : Unit} (h : Tracked q id withdrawalId status reserved L)
    (hM : (updateTransaction id f).Commits L u M) :
    Tracked q id withdrawalId next reserved M := by
  rw [← commits_update.mp hM]
  obtain ⟨t, ht, hown, hstatus⟩ := h.transaction
  exact ⟨h.withdrawal, h.found, ⟨f t, by simp [ht], hf t hown hstatus⟩, h.reserved⟩

theorem updateCompany_tracked (c : Currency) (p : CompanyLiquidity → Prop) [DecidablePred p]
    (f : CompanyLiquidity → CompanyLiquidity) :
    Preserves (Tracked q id withdrawalId status reserved) (updateCompany c p f) := by
  intro L b M h hM
  have hrecords := updateCompany_onBalances c p f _ L b M rfl hM
  rcases updateCompany_commits.mp hM with ⟨r, -, -, -, rfl⟩ | ⟨-, -, rfl⟩
  · exact h.of_records hrecords h.reserved
  · exact h

theorem releaseLiquidity_tracked (c : Currency) (amount : Nat) :
    Preserves (Tracked q id withdrawalId status reserved) (releaseLiquidity c amount) :=
  preserves_ite (preserves_pure ())
    (preserves_bind (updateCompany_tracked _ _ _) fun _ => preserves_require _ _)

/-- The wallet still holds the total reserved. -/
def Confirm.HoldsReserved (q : Confirm) (network : PinnedNetwork) (L : Ledger) : Prop :=
  ∃ w, L.wallets.lookup q.key = some w ∧ network.agrees w ∧ (q.total : Int) ≤ w.reservedBalance

/-- And so does the company. -/
def Confirm.HoldsLiquidity (q : Confirm) (L : Ledger) : Prop :=
  q.total = 0 ∨ ∃ r, L.companyLiquidity.lookup q.currency = some r ∧
    (q.total : Int) ≤ r.reservedBalance

theorem releaseBalance_tracked {network : PinnedNetwork} {u : Unit}
    (h : Tracked q id withdrawalId status reserved L)
    (hM : (releaseBalance q.userId q.currency q.total network).Commits L u M) :
    q.HoldsReserved network L ∧ Tracked q id withdrawalId status (reserved - q.total) M ∧
      M.companyLiquidity = L.companyLiquidity := by
  have hrecords := releaseBalance_onBalances _ _ _ _ _ L u M rfl hM
  obtain ⟨w, hw, hagrees, hle, rfl⟩ := releaseBalance_commits.mp hM
  have hreserved := h.reserved
  change L.wallets.lookup q.key = some w at hw
  rw [Ledger.reservedBalance_of_lookup hw] at hreserved
  constructor
  · exact ⟨w, hw, hagrees, hle⟩
  · constructor
    · apply h.of_records hrecords
      change (L.setWallet q.key _).reservedBalance q.key = _
      simp [hreserved]
    · rfl

theorem releaseLiquidity_holds {u : Unit}
    (hM : (releaseLiquidity q.currency q.total).Commits L u M) : q.HoldsLiquidity L := by
  rcases releaseLiquidity_commits.mp hM with ⟨h0, -⟩ | ⟨-, r, hr, hle, -⟩
  · exact .inl h0
  · exact .inr ⟨r, hr, hle⟩

/-! ### What the blocks do to the withdrawal -/

theorem recordBlock_tracked (providerWithdrawalId : Reference) :
    Preserves (Tracked q id withdrawalId status reserved)
      (recordBlock id withdrawalId providerWithdrawalId) := by
  apply preserves_bind
  · intro L u M h hM
    apply updateTransaction_tracked _ h hM
    intro t hown hstatus
    exact ⟨⟨hown.userId, hown.currency, hown.context, hown.totalAmountSentBase,
      hown.platformFeeBase⟩, hstatus⟩
  · intro u
    apply updateWithdrawal_tracked
    intro w hown
    exact ⟨hown.userId, hown.transactionId, hown.reference, hown.currency⟩

theorem failedBlock_tracked :
    Preserves (Tracked q id withdrawalId status reserved)
      (WithdrawalWebhook.failedBlock withdrawalId) := by
  apply updateWithdrawal_tracked
  intro w hown
  exact ⟨hown.userId, hown.transactionId, hown.reference, hown.currency⟩

theorem resumeWithdrawalBlock_tracked (providerWithdrawalId : Reference) :
    Preserves (Tracked q id withdrawalId .PENDING reserved)
      (FailedCompanyLiquidity.resumeWithdrawalBlock id withdrawalId providerWithdrawalId) := by
  apply preserves_bind
  · apply updateWithdrawal_tracked
    intro w hown
    exact ⟨hown.userId, hown.transactionId, hown.reference, hown.currency⟩
  · intro u L v M h hM
    apply updateTransaction_tracked _ h hM
    intro t hown _
    exact ⟨⟨hown.userId, hown.currency, hown.context, hown.totalAmountSentBase,
      hown.platformFeeBase⟩, rfl⟩

theorem deleteRecord_tracked :
    Preserves (Tracked q id withdrawalId status reserved)
      (FailedCompanyLiquidity.deleteRecord id) := by
  refine preserves_bind (preserves_read _) fun record => ?_
  refine preserves_bind (preserves_require _ _) fun _ => ?_
  apply preserves_update
  intro L h
  exact ⟨h.withdrawal, h.found, h.transaction, h.reserved⟩

theorem updateStatus_tracked {next : TransactionStatus} {isProcessed : Bool} {u : Unit}
    (h : Tracked q id withdrawalId status reserved L)
    (hM : (updateTransaction id (fun t => { t with
      status := next, isProcessed := isProcessed })).Commits L u M) :
    Tracked q id withdrawalId next reserved M := by
  apply updateTransaction_tracked _ h hM
  intro t hown _
  exact ⟨⟨hown.userId, hown.currency, hown.context, hown.totalAmountSentBase,
    hown.platformFeeBase⟩, rfl⟩

theorem compensateBlock_tracked {u : Unit} (h : Tracked q id withdrawalId status reserved L)
    (hM : (compensateBlock q id withdrawalId).Commits L u M) :
    (q.HoldsReserved none L ∧ q.HoldsLiquidity L) ∧
      Tracked q id withdrawalId .FAILED (reserved - q.total) M := by
  obtain ⟨_, A, hbalance, hM⟩ := commits_bind.mp hM
  obtain ⟨_, B, hliquidity, hM⟩ := commits_bind.mp hM
  obtain ⟨_, C, htransaction, hM⟩ := commits_bind.mp hM
  obtain ⟨hholds, hA, hcompany⟩ := releaseBalance_tracked h hbalance
  have hcovers := releaseLiquidity_holds hliquidity
  have hB := releaseLiquidity_tracked _ _ _ _ _ hA hliquidity
  have hC := updateStatus_tracked hB htransaction
  unfold Confirm.HoldsLiquidity at hcovers
  rw [hcompany] at hcovers
  exact ⟨⟨hholds, hcovers⟩, failedBlock_tracked _ _ _ hC hM⟩

/-- What a cancellation has read. -/
structure Found.Of (q : Confirm) (id : TransactionId) (withdrawalId : WithdrawalId)
    (found : Found) : Prop where
  withdrawalId : found.withdrawalId = withdrawalId
  withdrawal : q.OwnsWithdrawal id found.withdrawal
  id : found.id = id
  transaction : q.OwnsTransaction found.transaction

/-- The provider was called for the withdrawal, or is about to be: the company's part is
reserved. -/
def Found.companyReserved (found : Found) : Prop :=
  found.withdrawal.providerWithdrawalId.isSome ∨ found.withdrawal.status = .PROCESSING

def Found.cancelBlock (found : Found) : LedgerBlock Unit :=
  WithdrawalService.cancelBlock found.id found.transaction found.withdrawalId found.withdrawal

theorem cancelBlock_tracked {found : Found} (hfound : found.Of q id withdrawalId) {u : Unit}
    (h : Tracked q id withdrawalId status reserved L)
    (hM : found.cancelBlock.Commits L u M) :
    (q.HoldsReserved (some found.transaction.network) L ∧
        (found.companyReserved → q.HoldsLiquidity L)) ∧
      Tracked q id withdrawalId .FAILED (reserved - q.total) M := by
  unfold Found.cancelBlock cancelBlock at hM
  rw [hfound.transaction.userId, hfound.transaction.currency, hfound.transaction.sentBase,
    hfound.withdrawalId, hfound.id] at hM
  simp only [commits_read_bind, commits_require_bind] at hM
  obtain ⟨-, hM⟩ := hM
  obtain ⟨_, A, hbalance, hM⟩ := commits_bind.mp hM
  obtain ⟨_, B, hliquidity, hM⟩ := commits_bind.mp hM
  obtain ⟨_, C, hwithdrawal, hM⟩ := commits_bind.mp hM
  obtain ⟨hholds, hA, hcompany⟩ := releaseBalance_tracked h hbalance
  have hB := preserves_onlyIf (releaseLiquidity_tracked _ _) _ _ _ hA hliquidity
  have hC := failedBlock_tracked _ _ _ hB hwithdrawal
  refine ⟨⟨hholds, fun hreserved => ?_⟩, updateStatus_tracked hC hM⟩
  rcases commits_onlyIf.mp hliquidity with ⟨-, hreleased⟩ | ⟨hnot, -⟩
  · have hcovers := releaseLiquidity_holds hreleased
    unfold Confirm.HoldsLiquidity at hcovers
    rwa [hcompany] at hcovers
  · exact absurd hreserved hnot

theorem settleBlock_tracked {cache : ConvertCurrency.DefaultNetworkCache}
    {event : WithdrawalWebhook.Event} {found : Found} (hfound : found.Of q id withdrawalId)
    {amountBase : Int} {u : Unit} (h : Tracked q id withdrawalId status reserved L)
    (hM : (found.settleBlock cache event amountBase).Commits L u M) :
    WithdrawalWebhook.CanClose cache event q.key q.total q.platformFee L ∧
      Tracked q id withdrawalId (if event = .successful then .COMPLETED else .FAILED)
        (reserved - q.total) M := by
  obtain ⟨hcan, hclosed, hsettled⟩ := WithdrawalWebhook.settleBlock_commits hM
  have hkey : WithdrawalWebhook.walletOf found.transaction found.withdrawal = q.key :=
    Prod.ext hfound.transaction.userId hfound.withdrawal.currency
  have hfee : found.transaction.platformFeeBase.getD 0 = q.platformFee := by
    simp [hfound.transaction.platformFeeBase]
  rw [hkey, hfound.transaction.sentBase] at hclosed
  rw [hkey, hfound.transaction.sentBase, hfee] at hcan
  have hwithdrawals := hsettled.withdrawals
  have htransactions := hsettled.transactions
  rw [hfound.withdrawalId] at hwithdrawals
  rw [hfound.id] at htransactions
  obtain ⟨w, hw, hownW⟩ := h.withdrawal
  obtain ⟨t, ht, hownT, -⟩ := h.transaction
  have hnew (w : Withdrawal) (s : WithdrawalStatus) (hown : q.OwnsWithdrawal id w) :
      q.OwnsWithdrawal id { w with
        status := s, currency := found.withdrawal.currency
        network := found.withdrawal.network } :=
    ⟨hown.userId, hown.transactionId, hown.reference, hfound.withdrawal.currency⟩
  refine ⟨hcan, ⟨?_, ?_, ?_, ?_⟩⟩
  · rw [hwithdrawals]
    exact ⟨_, by rw [Table.lookup_modify_self, hw]; rfl, hnew w _ hownW⟩
  · intro p hp
    unfold findWithdrawal
    rw [hwithdrawals]
    apply Table.find?_modify_of_lookup (h.found p hp)
    intro r hr _
    rw [hw] at hr
    cases hr
    exact hp _ (hnew w _ hownW)
  · have hrow : M.transactions.lookup id = some { t with
        status := if event = .successful then .COMPLETED else .FAILED
        isProcessed := true
        executedCryptoAmountBase := some amountBase } := by
      rw [htransactions, Table.lookup_modify_self, ht]
      rfl
    exact ⟨_, hrow, ⟨hownT.userId, hownT.currency, hownT.context, hownT.totalAmountSentBase,
      hownT.platformFeeBase⟩, rfl⟩
  · rw [hclosed.reserved, h.reserved]

theorem expireBlock_tracked {transaction : Transaction} (hown : q.OwnsTransaction transaction)
    {u : Unit} (h : Tracked q id withdrawalId status reserved L)
    (hM : (FailedCompanyLiquidity.expireBlock id transaction).Commits L u M) :
    ((0 < q.total → q.HoldsReserved none L) ∧ (L.failedCompanyLiquidity.lookup id).isSome = true) ∧
      Tracked q id withdrawalId .FAILED (reserved - q.total) M := by
  obtain ⟨_, A, hrelease, hM⟩ := commits_bind.mp hM
  obtain ⟨_, B, htransaction, hM⟩ := commits_bind.mp hM
  have hamount : transaction.totalSentBase = q.total := by
    simp [Transaction.totalSentBase, hown.totalAmountSentBase]
  have hA : ((0 < q.total → q.HoldsReserved none L) ∧
      Tracked q id withdrawalId status (reserved - q.total) A) ∧
        A.failedCompanyLiquidity = L.failedCompanyLiquidity := by
    by_cases hpos : 0 < q.total
    · simp only [FailedCompanyLiquidity.releaseReserved,
        FailedCompanyLiquidity.userReservedBalanceRelease, hown.context, hamount, hpos,
        hown.userId, hown.currency] at hrelease
      obtain ⟨hholds, htracked, -⟩ := releaseBalance_tracked h hrelease
      obtain ⟨w, -, -, -, rfl⟩ := releaseBalance_commits.mp hrelease
      exact ⟨⟨fun _ => hholds, htracked⟩, rfl⟩
    · simp only [FailedCompanyLiquidity.releaseReserved,
        FailedCompanyLiquidity.userReservedBalanceRelease, hamount, hpos, and_false,
        if_false] at hrelease
      rw [(commits_pure.mp hrelease).2] at h ⊢
      have hzero : (q.total : Int) = 0 := by omega
      rw [hzero, sub_zero]
      exact ⟨⟨fun h => absurd h hpos, h⟩, rfl⟩
  obtain ⟨⟨hholds, hA⟩, hrecords⟩ := hA
  have hB := updateStatus_tracked hA htransaction
  have hrecord : (L.failedCompanyLiquidity.lookup id).isSome = true := by
    simp only [FailedCompanyLiquidity.deleteRecord, commits_read_bind,
      commits_require_bind] at hM
    have hsome := hM.1
    rwa [← commits_update.mp htransaction, hrecords] at hsome
  exact ⟨⟨hholds, hrecord⟩, deleteRecord_tracked _ _ _ hB hM⟩

theorem confirmBlock_tracked {result : ConfirmResult}
    (hM : (confirmBlock q id withdrawalId).Commits L result M) (hnew : result ≠ .duplicate) :
    Tracked q id withdrawalId .PENDING (M.reservedBalance q.key) M := by
  simp only [confirmBlock, commits_requireMinimum_bind, commits_read_bind] at hM
  replace hM := hM.2
  split at hM
  · exact absurd (commits_pure.mp hM).1.symm hnew
  · simp only [commits_bind, insertTransaction_commits, createWithdrawal_commits] at hM
    obtain ⟨_, A, -, _, _, ⟨-, -, rfl⟩, hasLiquidity, B, hreserve, _, _, ⟨-, rfl⟩, hM⟩ := hM
    have htransactions := congrArg Ledger.transactions
      (reserveLiquidity_onBalances _ _ _ _ _ _ rfl hreserve)
    change B.transactions = A.transactions.insert id q.transaction at htransactions
    have hown : q.OwnsWithdrawal id (q.withdrawal id hasLiquidity) := ⟨rfl, rfl, rfl, rfl⟩
    have htracked : Tracked q id withdrawalId .PENDING (B.reservedBalance q.key)
        { B with withdrawals :=
            B.withdrawals.insert withdrawalId (q.withdrawal id hasLiquidity) } := by
      constructor
      · exact ⟨_, AList.lookup_insert _, hown⟩
      · intro p hp
        simp [findWithdrawal, AList.entries_insert, hp _ hown]
      · rw [htransactions]
        exact ⟨q.transaction, AList.lookup_insert _, ⟨rfl, rfl, rfl, rfl, rfl⟩, rfl⟩
      · rfl
    split at hM
    · rw [← (commits_pure.mp hM).2]
      exact htracked
    · obtain ⟨_, C, hcreate, hM⟩ := commits_bind.mp hM
      rw [← (commits_pure.mp hM).2]
      simp only [createFailedCompanyLiquidity, commits_read_bind, commits_require_bind,
        upsertFailedCompanyLiquidity, commits_update] at hcreate
      rw [← hcreate.2]
      exact ⟨htracked.withdrawal, htracked.found, htracked.transaction, rfl⟩

end Tracked

/-! ### Runs -/

/-- The withdrawal's transaction is still open. -/
def Flow.Pending (id : TransactionId) (F : Flow) : Prop :=
  ∃ t, F.ledger.transactions.lookup id = some t ∧ t.status = .PENDING

/-- What an actor's block needs to close the reservations. -/
def Actor.Closes (cache : ConvertCurrency.DefaultNetworkCache) (q : Confirm) (id : TransactionId)
    (L : Ledger) : Actor → Prop
  | .compensating _ => q.HoldsReserved none L ∧ q.HoldsLiquidity L
  | .releasing found => q.HoldsReserved (some found.transaction.network) L ∧
      (found.companyReserved → q.HoldsLiquidity L)
  | .settling event _ _ => WithdrawalWebhook.CanClose cache event q.key q.total q.platformFee L
  | .expiring _ => (0 < q.total → q.HoldsReserved none L) ∧
      (L.failedCompanyLiquidity.lookup id).isSome = true
  | _ => False

/-- Its block gives the funds back to the user. -/
def Actor.refunds : Actor → Bool
  | .compensating _ | .releasing _ | .expiring _ => true
  | .settling event _ _ => event = .rejected
  | _ => false

/-- The provider may have executed the withdrawal, or may still do so. -/
def ProviderState.live (p : ProviderState) : Prop := p = .open ∨ p = .executed

/-- A step closes the reservations only while the transaction is pending, and gives them back
only where the provider holds nothing; the provider takes no request after that, and a retry
resumes a pending transaction only. -/
def Actor.Orderly (cache : ConvertCurrency.DefaultNetworkCache) (q : Confirm) (id : TransactionId)
    (F : Flow) : Actor → Outcome → Prop
  | .calling, .accepted _ _ => F.refunded = false
  | .recreating _, .accepted _ _ => F.refunded = false
  | .resuming _ _ _, .ok => F.Pending id
  | a, .ok => a.Closes cache q id F.ledger →
      F.Pending id ∧ (a.refunds = true → ¬ F.provider.live)
  | _, _ => True

def Orderly (cache : ConvertCurrency.DefaultNetworkCache) (q : Confirm) (id : TransactionId)
    (s : System Flow Actor) : Event Start Outcome Outside → Prop
  | .resume n o => ∀ a, s.running[n]? = some a → a.Orderly cache q id s.state o
  | _ => True

/-- The reservation is there while the transaction is pending, and is closed once after that;
what was refunded is not executed. -/
structure Sound (q : Confirm) (id : TransactionId) (withdrawalId : WithdrawalId) (reserved : Int)
    (F : Flow) : Prop where
  tracked : ∃ status, Tracked q id withdrawalId status
    (if status = .PENDING then reserved else reserved - q.total) F.ledger ∧
      (status = .PENDING → F.refunded = false)
  provider : F.refunded = true → ¬ F.provider.live

/-- What an actor has read are the withdrawal's rows. -/
def Actor.Reads (q : Confirm) (id : TransactionId) (withdrawalId : WithdrawalId) : Actor → Prop
  | .asking found | .releasing found | .confirming _ found | .settling _ found _ =>
    found.Of q id withdrawalId
  | .failing j | .resuming _ j _ => j = withdrawalId
  | .expiring transaction => q.OwnsTransaction transaction
  | _ => True

section Steps

variable {cache : ConvertCurrency.DefaultNetworkCache} {q : Confirm} {id : TransactionId}
  {withdrawalId : WithdrawalId} {reserved : Int} {F : Flow}

theorem Sound.run (h : Sound q id withdrawalId reserved F) {α : Type} {x : LedgerBlock α}
    (hx : ∀ status r, Preserves (Tracked q id withdrawalId status r) x) :
    Sound q id withdrawalId reserved (F.run x) := by
  obtain ⟨status, htracked, hpending⟩ := h.tracked
  exact ⟨⟨status, (hx _ _).commit htracked, hpending⟩, h.provider⟩

theorem Sound.of_pending (h : Sound q id withdrawalId reserved F) (hp : F.Pending id) :
    Tracked q id withdrawalId .PENDING reserved F.ledger ∧ F.refunded = false := by
  obtain ⟨status, htracked, hpending⟩ := h.tracked
  obtain ⟨t, ht, -, hstatus⟩ := htracked.transaction
  obtain ⟨u, hu, hopen⟩ := hp
  rw [ht] at hu
  cases hu
  rw [hopen] at hstatus
  subst hstatus
  rw [if_pos rfl] at htracked
  exact ⟨htracked, hpending rfl⟩

theorem Sound.close (h : Sound q id withdrawalId reserved F) {x : LedgerBlock Unit} {C : Prop}
    {next : TransactionStatus} (hnext : next ≠ .PENDING)
    (hx : ∀ status r M u, Tracked q id withdrawalId status r F.ledger →
      x.Commits F.ledger u M → C ∧ Tracked q id withdrawalId next (r - q.total) M)
    (hC : C → F.Pending id) : Sound q id withdrawalId reserved (F.run x) := by
  rcases x.commit_cases F.ledger with hsame | ⟨u, hu⟩
  · have hrun : F.run x = F := by
      unfold Flow.run
      rw [hsame]
    rw [hrun]
    exact h
  · obtain ⟨status, htracked, -⟩ := h.tracked
    have hp := hC (hx _ _ _ _ htracked hu).1
    obtain ⟨hopen, hnot⟩ := h.of_pending hp
    refine ⟨⟨next, ?_, fun he => absurd he hnext⟩, fun hr => ?_⟩
    · rw [if_neg hnext]
      exact (hx _ _ _ _ hopen hu).2
    · rw [show (F.run x).refunded = F.refunded from rfl, hnot] at hr
      cases hr

theorem Sound.refund (h : Sound q id withdrawalId reserved F) {x : LedgerBlock Unit} {C : Prop}
    {next : TransactionStatus} (hnext : next ≠ .PENDING)
    (hx : ∀ status r M u, Tracked q id withdrawalId status r F.ledger →
      x.Commits F.ledger u M → C ∧ Tracked q id withdrawalId next (r - q.total) M)
    (hC : C → F.Pending id ∧ ¬ F.provider.live) :
    Sound q id withdrawalId reserved (F.refund x) := by
  have hclosed := h.close hnext hx fun hc => (hC hc).1
  obtain ⟨status, htracked, hpending⟩ := hclosed.tracked
  cases hresult : x.result F.ledger with
  | none =>
    have hsame : F.refund x = F.run x := by
      simp [Flow.refund, Flow.run, hresult]
    rw [hsame]
    exact hclosed
  | some u =>
    have hu := result_eq_some.mp hresult
    obtain ⟨old, hold, -⟩ := h.tracked
    have hc := (hx _ _ _ _ hold hu).1
    refine ⟨⟨next, ?_, fun he => absurd he hnext⟩, fun _ => (hC hc).2⟩
    rw [if_neg hnext]
    exact (hx _ _ _ _ (h.of_pending (hC hc).1).1 hu).2

theorem Tracked.found_of {status : TransactionStatus} {r : Int} {L : Ledger}
    (h : Tracked q id withdrawalId status r L) {p : Withdrawal → Bool}
    (hp : ∀ w, q.OwnsWithdrawal id w → p w = true) {j : WithdrawalId} {w : Withdrawal}
    {t : Transaction} (hj : findWithdrawal L p = some j) (hw : L.withdrawals.lookup j = some w)
    (ht : L.transactions.lookup id = some t) : Found.Of q id withdrawalId ⟨j, w, id, t⟩ := by
  rw [h.found p hp] at hj
  cases hj
  obtain ⟨v, hv, hownW⟩ := h.withdrawal
  obtain ⟨u, hu, hownT, -⟩ := h.transaction
  rw [hw] at hv
  rw [ht] at hu
  cases hv
  cases hu
  exact ⟨rfl, hownW, rfl, hownT⟩

theorem startCancel_reads (h : Sound q id withdrawalId reserved F) {userId : UserId} {a : Actor}
    (ha : startCancel userId id F.ledger = some a) : a.Reads q id withdrawalId := by
  obtain ⟨status, htracked, -⟩ := h.tracked
  obtain ⟨t, ht, ha⟩ := Option.bind_eq_some_iff.mp ha
  obtain ⟨_, hguard, ha⟩ := Option.bind_eq_some_iff.mp ha
  obtain ⟨j, hj, ha⟩ := Option.bind_eq_some_iff.mp ha
  obtain ⟨w, hw, ha⟩ := Option.bind_eq_some_iff.mp ha
  obtain ⟨_, -, ha⟩ := Option.bind_eq_some_iff.mp ha
  have huser : t.userId = userId := ((Option.guard_eq_some' _).mp hguard).1
  obtain ⟨u, hu, hown, -⟩ := htracked.transaction
  rw [ht] at hu
  cases hu
  have hfound : Found.Of q id withdrawalId ⟨j, w, id, t⟩ := by
    apply htracked.found_of _ hj hw ht
    intro w hw
    simp [hw.transactionId, hw.userId, ← huser, hown.userId]
  cases ha
  split
  · exact hfound
  · exact hfound

theorem startWebhook_reads (h : Sound q id withdrawalId reserved F)
    {event : WithdrawalWebhook.Event} {a : Actor}
    (ha : startWebhook event q.previewId F.ledger = some a) : a.Reads q id withdrawalId := by
  obtain ⟨status, htracked, -⟩ := h.tracked
  obtain ⟨⟨j, w, i, t⟩, hfind, ha⟩ := Option.bind_eq_some_iff.mp ha
  obtain ⟨_, -, ha⟩ := Option.bind_eq_some_iff.mp ha
  obtain ⟨hj, hw, hi, ht⟩ := WithdrawalWebhook.findWithdrawal_eq_some.mp hfind
  have hfound := htracked.found (fun w => w.reference = some q.previewId)
    (fun w hw => by simp [hw.reference])
  change findWithdrawal F.ledger (fun w => w.reference = some q.previewId) = some j at hj
  rw [hfound] at hj
  cases hj
  obtain ⟨v, hv, hownW⟩ := htracked.withdrawal
  rw [hw] at hv
  cases hv
  rw [hownW.transactionId] at hi
  cases hi
  obtain ⟨u, hu, hownT, -⟩ := htracked.transaction
  rw [ht] at hu
  cases hu
  cases ha
  exact ⟨rfl, hownW, rfl, hownT⟩

theorem startRetry_reads (h : Sound q id withdrawalId reserved F) {expire : Bool} {a : Actor}
    (ha : startRetry expire id F.ledger = some a) : a.Reads q id withdrawalId := by
  obtain ⟨status, htracked, -⟩ := h.tracked
  obtain ⟨record, -, ha⟩ := Option.bind_eq_some_iff.mp ha
  obtain ⟨t, ht, ha⟩ := Option.bind_eq_some_iff.mp ha
  obtain ⟨u, hu, hown, -⟩ := htracked.transaction
  rw [ht] at hu
  cases hu
  cases ha
  split
  · trivial
  · split
    · exact hown
    · trivial

theorem start_reads (h : Sound q id withdrawalId reserved F) {i : Start} {a : Actor}
    (ha : start q id i F = some a) : a.Reads q id withdrawalId := by
  cases i with
  | cancel userId => exact startCancel_reads h ha
  | webhook event => exact startWebhook_reads h ha
  | retry => exact startRetry_reads h ha
  | expire => exact startRetry_reads h ha

/-- What a step of an actor leaves: a sound state, and an actor that has read the right rows. -/
def Keeps (q : Confirm) (id : TransactionId) (withdrawalId : WithdrawalId) (reserved : Int)
    (next : Flow × Option Actor) : Prop :=
  Sound q id withdrawalId reserved next.1 ∧ ∀ a ∈ next.2, a.Reads q id withdrawalId

theorem Sound.stops (h : Sound q id withdrawalId reserved F) :
    Keeps q id withdrawalId reserved (F, none) := ⟨h, fun _ ha => nomatch ha⟩

theorem Sound.goesOn (h : Sound q id withdrawalId reserved F) {a : Actor}
    (ha : a.Reads q id withdrawalId) : Keeps q id withdrawalId reserved (F, some a) :=
  ⟨h, fun b hb => by
    cases hb
    exact ha⟩

theorem Sound.accept (h : Sound q id withdrawalId reserved F) (hnot : F.refunded = false) :
    Sound q id withdrawalId reserved F.accept :=
  ⟨h.tracked, fun hr => by
    change F.refunded = true at hr
    rw [hnot] at hr
    cases hr⟩

theorem Sound.reject (h : Sound q id withdrawalId reserved F) :
    Sound q id withdrawalId reserved
      { F with provider := if F.provider = .open then .rejected else F.provider } := by
  refine ⟨h.tracked, fun hr hlive => ?_⟩
  have hdead := h.provider hr
  dsimp only at hlive
  split at hlive
  · rcases hlive with hlive | hlive <;> cases hlive
  · exact hdead hlive

theorem resumeCalling_keeps (h : Sound q id withdrawalId reserved F) {o : Outcome}
    (ho : Actor.Orderly cache q id F .calling o) :
    Keeps q id withdrawalId reserved (resumeCalling o F) := by
  cases o with
  | dies => exact h.stops
  | accepted providerWithdrawalId answer =>
    have haccept := h.accept ho
    cases answer with
    | success => exact haccept.goesOn trivial
    | malformed => exact haccept.goesOn trivial
    | lost => exact haccept.goesOn trivial
  | ok | throws | lasting | refused | cancelled | confirmed => exact h.goesOn trivial

theorem resumeCompensating_keeps (h : Sound q id withdrawalId reserved F) {again : Bool}
    {o : Outcome} (ho : Actor.Orderly cache q id F (.compensating again) o) :
    Keeps q id withdrawalId reserved (resumeCompensating q id withdrawalId again o F) := by
  have hagain : Keeps q id withdrawalId reserved
      (F, if again then some (.compensating false) else none) := by
    cases again with
    | true => exact h.goesOn trivial
    | false => exact h.stops
  cases o with
  | ok =>
    have hclosed := h.refund (show TransactionStatus.FAILED ≠ .PENDING by decide)
      (fun _ _ _ _ htracked hM => compensateBlock_tracked htracked hM)
      (fun hc => ⟨(ho hc).1, (ho hc).2 rfl⟩)
    exact hclosed.stops
  | dies => exact h.stops
  | throws | lasting | refused | accepted | cancelled | confirmed => exact hagain

theorem resumeReleasing_keeps (h : Sound q id withdrawalId reserved F) {found : Found}
    (hfound : found.Of q id withdrawalId) {o : Outcome}
    (ho : Actor.Orderly cache q id F (.releasing found) o) :
    Keeps q id withdrawalId reserved (resumeReleasing found o F) := by
  cases o with
  | ok =>
    have hclosed := h.refund (show TransactionStatus.FAILED ≠ .PENDING by decide)
      (fun _ _ _ _ htracked hM => cancelBlock_tracked hfound htracked hM)
      (fun hc => ⟨(ho hc).1, (ho hc).2 rfl⟩)
    exact hclosed.stops
  | throws | lasting | dies | refused | accepted | cancelled | confirmed => exact h.stops

theorem resumeConfirming_keeps (h : Sound q id withdrawalId reserved F)
    {event : WithdrawalWebhook.Event} {found : Found} (hfound : found.Of q id withdrawalId)
    (o : Outcome) :
    Keeps q id withdrawalId reserved (resumeConfirming cache event found o F) := by
  cases o with
  | confirmed c =>
    simp only [resumeConfirming]
    split
    · exact h.stops
    · split
      · exact h.goesOn hfound
      · exact h.stops
  | ok | throws | lasting | dies | refused | accepted | cancelled => exact h.stops

theorem resumeSettling_keeps (h : Sound q id withdrawalId reserved F)
    {event : WithdrawalWebhook.Event} {found : Found} (hfound : found.Of q id withdrawalId)
    {amountBase : Int} {o : Outcome}
    (ho : Actor.Orderly cache q id F (.settling event found amountBase) o) :
    Keeps q id withdrawalId reserved (resumeSettling cache event found amountBase o F) := by
  cases o with
  | ok =>
    have hnext : (if event = .successful then TransactionStatus.COMPLETED else .FAILED) ≠
        .PENDING := by
      cases event <;> decide
    have hsound : Sound q id withdrawalId reserved
        (if event = .successful then F.run (found.settleBlock cache event amountBase)
          else F.refund (found.settleBlock cache event amountBase)) := by
      cases event with
      | successful =>
        exact h.close hnext (fun _ _ _ _ htracked hM => settleBlock_tracked hfound htracked hM)
          (fun hc => (ho hc).1)
      | rejected =>
        exact h.refund hnext (fun _ _ _ _ htracked hM => settleBlock_tracked hfound htracked hM)
          (fun hc => ⟨(ho hc).1, (ho hc).2 rfl⟩)
    refine ⟨hsound, fun a ha => ?_⟩
    simp only [resumeSettling] at ha
    split at ha
    · cases ha
    · cases ha
      exact hfound.withdrawalId
  | lasting => exact h.goesOn hfound.withdrawalId
  | throws | dies | refused | accepted | cancelled | confirmed => exact h.stops

theorem resumeRetrying_keeps (h : Sound q id withdrawalId reserved F)
    (record : FailedCompanyLiquidityTransaction) (o : Outcome) :
    Keeps q id withdrawalId reserved (resumeRetrying record o F) := by
  cases o with
  | ok =>
    have hrun := h.run (x := reserveLiquidity record.currency record.amountBase)
      fun _ _ => updateCompany_tracked _ _ _
    simp only [resumeRetrying]
    split
    · exact hrun.goesOn trivial
    · exact hrun.stops
  | throws | lasting | dies | refused | accepted | cancelled | confirmed => exact h.stops

theorem resumeRecreating_keeps (h : Sound q id withdrawalId reserved F)
    {record : FailedCompanyLiquidityTransaction} {o : Outcome}
    (ho : Actor.Orderly cache q id F (.recreating record) o) :
    Keeps q id withdrawalId reserved (resumeRecreating id record o F) := by
  obtain ⟨status, htracked, -⟩ := h.tracked
  have hfound := htracked.found (fun w => w.transactionId = some id)
    (fun w hw => by simp [hw.transactionId])
  unfold resumeRecreating
  rw [hfound]
  cases o with
  | dies => exact h.stops
  | accepted providerWithdrawalId answer =>
    have haccept := h.accept ho
    cases answer with
    | success => exact haccept.goesOn rfl
    | malformed => exact haccept.goesOn trivial
    | lost => exact haccept.goesOn trivial
  | ok | throws | lasting | refused | cancelled | confirmed => exact h.goesOn trivial

theorem resumeResuming_keeps (h : Sound q id withdrawalId reserved F)
    {record : FailedCompanyLiquidityTransaction} {providerWithdrawalId : Reference} {o : Outcome}
    (ho : Actor.Orderly cache q id F (.resuming record withdrawalId providerWithdrawalId) o) :
    Keeps q id withdrawalId reserved
      (resumeResuming id record withdrawalId providerWithdrawalId o F) := by
  cases o with
  | ok =>
    obtain ⟨htracked, hnot⟩ := h.of_pending ho
    have hresumed := (resumeWithdrawalBlock_tracked providerWithdrawalId).commit htracked
    have hsound : Sound q id withdrawalId reserved
        (F.run (FailedCompanyLiquidity.resumeWithdrawalBlock id withdrawalId
          providerWithdrawalId)) :=
      ⟨⟨.PENDING, by rwa [if_pos rfl], fun _ => hnot⟩, h.provider⟩
    exact hsound.goesOn trivial
  | dies => exact h.stops
  | throws | lasting | refused | accepted | cancelled | confirmed => exact h.goesOn trivial

theorem resume_keeps (h : Sound q id withdrawalId reserved F) {a : Actor}
    (ha : a.Reads q id withdrawalId) {o : Outcome} (ho : a.Orderly cache q id F o) :
    Keeps q id withdrawalId reserved (resume cache q id withdrawalId a o F) := by
  have hrun {x : LedgerBlock Unit}
      (hx : ∀ status r, Preserves (Tracked q id withdrawalId status r) x) :
      Keeps q id withdrawalId reserved (if o = .ok then F.run x else F, none) := by
    split
    · exact (h.run hx).stops
    · exact h.stops
  cases a with
  | calling => exact resumeCalling_keeps h ho
  | recording providerWithdrawalId => exact hrun fun _ _ => recordBlock_tracked _
  | compensating again => exact resumeCompensating_keeps h ho
  | asking found =>
    cases o with
    | cancelled answered =>
      cases answered with
      | true => exact h.reject.goesOn ha
      | false => exact h.reject.stops
    | ok | throws | lasting | dies | refused | accepted | confirmed => exact h.stops
  | releasing found => exact resumeReleasing_keeps h ha ho
  | confirming event found => exact resumeConfirming_keeps h ha o
  | settling event found amountBase => exact resumeSettling_keeps h ha ho
  | failing j =>
    have hj : j = withdrawalId := ha
    subst hj
    cases o with
    | ok => exact (h.run fun _ _ => failedBlock_tracked).stops
    | throws | lasting | dies | refused | accepted | cancelled | confirmed => exact h.stops
  | retrying record => exact resumeRetrying_keeps h record o
  | recreating record => exact resumeRecreating_keeps h ho
  | resuming record j providerWithdrawalId =>
    have hj : j = withdrawalId := ha
    subst hj
    exact resumeResuming_keeps h ho
  | unreserving record => exact hrun fun _ _ => releaseLiquidity_tracked _ _
  | clearing => exact hrun fun _ _ => deleteRecord_tracked
  | expiring transaction =>
    by_cases hok : o = .ok
    · subst hok
      have hclosed := h.refund (show TransactionStatus.FAILED ≠ .PENDING by decide)
        (fun _ _ _ _ htracked hM => expireBlock_tracked ha htracked hM)
        (fun hc => ⟨(ho hc).1, (ho hc).2 rfl⟩)
      exact hclosed.stops
    · simp only [resume, if_neg hok]
      exact h.stops

theorem outside_sound (h : Sound q id withdrawalId reserved F) (x : Outside) :
    Sound q id withdrawalId reserved (outside x F) := by
  cases x with
  | executes =>
    refine ⟨h.tracked, fun hr hlive => ?_⟩
    have hdead := h.provider hr
    simp only [outside] at hlive
    split at hlive
    · rename_i hopen
      exact hdead (.inl hopen)
    · exact hdead hlive
  | rejects => exact h.reject
  | company currency row =>
    obtain ⟨status, htracked, hpending⟩ := h.tracked
    have hset : Tracked q id withdrawalId status
        (if status = .PENDING then reserved else reserved - q.total)
        (F.ledger.setCompany currency row) :=
      htracked.of_records (M := F.ledger.setCompany currency row) rfl htracked.reserved
    exact ⟨⟨status, hset, hpending⟩, h.provider⟩

end Steps

/-- Everything around a withdrawal is sound, and its actors have read its rows. -/
structure Consistent (q : Confirm) (id : TransactionId) (withdrawalId : WithdrawalId)
    (reserved : Int) (s : System Flow Actor) : Prop where
  state : Sound q id withdrawalId reserved s.state
  actors : ∀ a ∈ s.running, a.Reads q id withdrawalId

theorem Consistent.step {cache : ConvertCurrency.DefaultNetworkCache} {q : Confirm}
    {id : TransactionId} {withdrawalId : WithdrawalId} {reserved : Int} {s : System Flow Actor}
    (hs : Consistent q id withdrawalId reserved s) {e : Event Start Outcome Outside}
    (he : Orderly cache q id s e) :
    Consistent q id withdrawalId reserved ((races cache q id withdrawalId).step e s) := by
  cases e with
  | start i =>
    exact ⟨hs.state, Handlers.forall_running_start hs.actors fun a ha => start_reads hs.state ha⟩
  | outside x => exact ⟨outside_sound hs.state x, hs.actors⟩
  | resume n o =>
    cases hn : s.running[n]? with
    | none =>
      rw [Handlers.step_resume_none hn]
      exact hs
    | some a =>
      have hkeeps := resume_keeps hs.state (hs.actors a (List.mem_of_getElem? hn)) (he a hn)
      rw [Handlers.step_resume hn]
      refine ⟨hkeeps.1, fun u hu => ?_⟩
      rcases List.mem_append.mp hu with hu | hu
      · exact hs.actors u (List.mem_of_mem_eraseIdx hu)
      · exact hkeeps.2 u (Option.mem_toList.mp hu)

/-- Of what was reserved for the withdrawal at most the total has left, and nothing that was
executed was also refunded. -/
def ClosedOnce (q : Confirm) (reserved : Int) (F : Flow) : Prop :=
  reserved - F.ledger.reservedBalance q.key ≤ q.total ∧
    ¬ (F.provider = .executed ∧ F.refunded = true)

theorem Sound.closedOnce {q : Confirm} {id : TransactionId} {withdrawalId : WithdrawalId}
    {reserved : Int} {F : Flow} (h : Sound q id withdrawalId reserved F) :
    ClosedOnce q reserved F := by
  obtain ⟨status, htracked, -⟩ := h.tracked
  have hreserved := htracked.reserved
  constructor
  · split at hreserved
    · omega
    · omega
  · intro hboth
    exact h.provider hboth.2 (.inr hboth.1)

/-- In every run around a confirmed withdrawal whose steps are orderly, its reservation is closed
at most once, and an execution is never refunded. -/
theorem withdrawal_closed_once (cache : ConvertCurrency.DefaultNetworkCache) {q : Confirm}
    {id : TransactionId} {withdrawalId : WithdrawalId} {result : ConfirmResult} {L₀ L₁ : Ledger}
    (hconfirm : (confirmBlock q id withdrawalId).Commits L₀ result L₁)
    (hnew : result ≠ .duplicate) {events : List (Event Start Outcome Outside)}
    (h : Run.Along (races cache q id withdrawalId).step (Orderly cache q id)
      (confirmed result L₁) events) :
    Run.Throughout (races cache q id withdrawalId).step
      (fun s => ClosedOnce q (L₁.reservedBalance q.key) s.state) (confirmed result L₁) events := by
  have hstart : Consistent q id withdrawalId (L₁.reservedBalance q.key)
      (confirmed result L₁) := by
    constructor
    · refine ⟨⟨.PENDING, ?_, fun _ => rfl⟩, fun hr => by cases hr⟩
      rw [if_pos rfl]
      exact confirmBlock_tracked hconfirm hnew
    · intro a ha
      simp only [confirmed] at ha
      split at ha
      · rw [List.mem_singleton] at ha
        subst ha
        trivial
      · cases ha
  have hrun := Run.throughout_of_along
    (P := fun s => Consistent q id withdrawalId (L₁.reservedBalance q.key) s)
    (fun _ _ hs he => hs.step he) hstart h
  exact hrun.mono fun _ hs => hs.state.closedOnce

/-- The provider refuses, and the compensation gives the funds back. -/
theorem refused_withdrawal_closed_once :
    Run.Throughout (races (fun _ => none) send 2 1).step
      (fun s => ClosedOnce send ((sent 1000).reservedBalance send.key) s.state)
      (confirmed .reserved (sent 1000)) [.resume 0 .refused, .resume 0 .ok] := by
  have hconfirm : (confirmBlock send 2 1).result (beforeSend 1000) = some .reserved := by
    decide +kernel
  have hpending : ((sent 1000).transactions.lookup 2).map Transaction.status = some .PENDING := by
    decide +kernel
  apply withdrawal_closed_once (fun _ => none) (result_eq_some.mp hconfirm) (by decide)
  refine ⟨fun a ha => ?_, fun a ha => ?_, trivial⟩
  · cases ha
    trivial
  · cases ha
    refine fun _ => ⟨?_, fun _ hlive => ?_⟩
    · obtain ⟨t, ht, hstatus⟩ := Option.map_eq_some_iff.mp hpending
      exact ⟨t, ht, hstatus⟩
    · rcases hlive with hlive | hlive <;> cases hlive

/-- The provider takes a withdrawal and its answer is lost: the compensation gives the funds back,
and the provider executes. -/
theorem compensated_withdrawal_executed :
    ¬ ∀ (cache : ConvertCurrency.DefaultNetworkCache) (q : Confirm) (id : TransactionId)
      (withdrawalId : WithdrawalId) (result : ConfirmResult) (L₀ L₁ : Ledger),
      (confirmBlock q id withdrawalId).Commits L₀ result L₁ → result ≠ .duplicate →
      ∀ events, Run.Throughout (races cache q id withdrawalId).step
        (fun s => ClosedOnce q (L₁.reservedBalance q.key) s.state) (confirmed result L₁)
        events := by
  intro h
  have hconfirm : (confirmBlock send 2 1).result (beforeSend 1000) = some .reserved := by
    decide +kernel
  have hlast := (h (fun _ => none) send 2 1 .reserved _ _ (result_eq_some.mp hconfirm)
    (by decide) [.resume 0 (.accepted 31 .lost), .resume 0 .ok, .outside .executes]).last
  have hboth : (Run.final (races (fun _ => none) send 2 1).step (confirmed .reserved (sent 1000))
      [.resume 0 (.accepted 31 .lost), .resume 0 .ok, .outside .executes]).state.provider =
        .executed ∧
      (Run.final (races (fun _ => none) send 2 1).step (confirmed .reserved (sent 1000))
      [.resume 0 (.accepted 31 .lost), .resume 0 .ok, .outside .executes]).state.refunded =
        true := by
    decide +kernel
  exact hlast.2 hboth

end WithdrawalService

end ExchangeLedger
