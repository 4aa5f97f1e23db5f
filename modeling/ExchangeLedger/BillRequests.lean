import ExchangeLedger.QuoteUse

set_option autoImplicit false

/-! The requests that pay a bill at its provider: the bill branch of `order.done`, and the
scheduler that retries a request which failed. -/

namespace ExchangeLedger

open Block Concurrent

namespace BillPayment

inductive BillingStatus where
  | PENDING_ORDER | PROCESSING | ORDER_REFERENCE_PERSIST_FAILED
  | ORDER_REFERENCE_RECONCILIATION_FAILED | FAILED_ORDER_SUBMIT | PAYING | PAYING_RETRY
  | PROVIDER_SUBMITTED | PROVIDER_SUBMIT_FAILED_RETRYABLE | PROVIDER_SUBMIT_RETRY_EXHAUSTED
  | MANUAL_RECONCILIATION_REQUIRED | PENDING | COMPLETED | FAILED
  deriving DecidableEq, Repr

inductive WebhookStatus where
  | PENDING | COMPLETED | FAILED | SUCCESS_AFTER_RELEASE
  deriving DecidableEq, Repr

inductive BillPaymentStatus where
  | PENDING | PROCESSING | COMPLETED | FAILED
  deriving DecidableEq, Repr

/-- The keys of a bill payment's metadata that the code branches on. The amounts among them are
those of its confirmation. -/
structure BillingMetadata where
  billingStatus : BillingStatus
  billingRequiresReconciliation : Option Bool
  quidaxOrderReference : Option Reference
  quidaxOrderId : Option Reference
  sellProceedsAdded : Bool
  billingRetryCount : Nat
  billingRetryLockedAt : Option Nat
  billingNextRetryAt : Option Nat
  userBalanceReservationStatus : Option LiquidityReservationStatus
  liquidityReservationStatus : Option LiquidityReservationStatus
  xpresspayWebhookStatus : Option WebhookStatus
  deriving DecidableEq, Repr

/-- The transaction of a bill payment, with its order and its bill. -/
structure Bill where
  status : TransactionStatus
  isProcessed : Bool
  metadata : BillingMetadata
  referenceNo : Reference
  orderStatus : OrderStatus
  orderPaymentStatus : PaymentStatus
  billStatus : BillPaymentStatus
  deriving DecidableEq, Repr

inductive Closing where
  | consumed | released
  deriving DecidableEq, Repr

/-- A bill payment, the balances, the clock in milliseconds, how many requests the bill provider
has accepted, and how the reservations of the user and the company were closed. -/
structure Payment where
  bill : Bill
  ledger : Ledger
  now : Nat
  accepted : Nat
  userClosings : List Closing
  companyClosings : List Closing

/-- An `order.done` event of the USDT that a bill payment sells. -/
structure SaleEvent where
  reference : Reference
  status : OrderDone.EventStatus
  executedVolume : Option Text
  avgPrice : Option Text
  deriving DecidableEq, Repr

def SaleEvent.event (e : SaleEvent) : OrderDone.Event where
  reference := e.reference
  side := .SELL
  baseUnit := .usdt
  quoteUnit := .ngn
  status := e.status
  executedVolume := e.executedVolume
  avgPrice := e.avgPrice

inductive Claimant where
  | orderDone | retry
  deriving DecidableEq, Repr

inductive Task where
  /-- `order.done` after its check of the status, with the metadata that it read. -/
  | claiming (copy : BillingMetadata) (amounts : OrderDone.ExecutedAmounts)
  | failingOrder (copy : BillingMetadata)
  | retrying
  | reconciling
  /-- `payBill` has been called, with the metadata that the claim wrote. -/
  | paying (claimant : Claimant) (claim : BillingMetadata)
  | recording (claimant : Claimant) (claim : BillingMetadata)
  /-- The `catch` around the request. -/
  | catching (claimant : Claimant) (claim : BillingMetadata)
  /-- The rest of the confirmation: its order is placed, its answer recorded, its quote deleted. -/
  | ordering
  | recordingOrder (reference id : Reference)
  | deletingQuote (reference id : Reference)
  | persistFailed (reference id : Reference)
  | submitFailed
  deriving DecidableEq, Repr

inductive Outcome where
  | ok | fails
  | accepted
  /-- The provider accepts the request, but its answer does not arrive. -/
  | acceptedUnseen
  | refused
  | orderAccepted (reference id : Reference)
  /-- The worker goes down. -/
  | dies
  deriving DecidableEq, Repr

inductive Delivery where
  | orderDone (e : SaleEvent)
  /-- The scheduler looks at the payment. -/
  | tick
  /-- A duplicated job has looked at it before. -/
  | retryJob
  deriving DecidableEq, Repr

namespace Payment

def setMetadata (m : BillingMetadata) (p : Payment) : Payment :=
  { p with bill := { p.bill with metadata := m } }

/-- `releaseBalance` inside a `try`, and whether it went through. -/
def releaseUser (q : BillsService.Confirm) (p : Payment) : Payment × Bool :=
  match releaseBalance q.userId .usdt q.total none p.ledger with
  | .ok (_, M) => ({ p with ledger := M, userClosings := .released :: p.userClosings }, true)
  | .error _ => (p, false)

def releaseCompany (q : BillsService.Confirm) (p : Payment) : Payment × Bool :=
  match releaseLiquidity BASE_CURRENCY q.netFiat p.ledger with
  | .ok (_, M) => ({ p with ledger := M, companyClosings := .released :: p.companyClosings }, true)
  | .error _ => (p, false)

end Payment

/-! ### `order.done` -/

/-- The block of a cancelled, rejected or failed order. -/
def failOrder (q : BillsService.Confirm) (copy : BillingMetadata) (p : Payment) : Payment :=
  if p.bill.status.isFinal then p
  else
    let released := (p.releaseUser q).1
    let failed := { released with
      bill := { released.bill with
        status := .FAILED, isProcessed := true, orderStatus := .FAILED
        orderPaymentStatus := .FAILED } }
    if 0 < q.netFiat ∧ copy.liquidityReservationStatus.getD .RESERVED = .RESERVED then
      match failed.releaseCompany q with
      | (closed, true) => closed.setMetadata { copy with
          liquidityReservationStatus := some .RELEASED }
      | (_, false) => p
    else failed

/-- A status at which `order.done` pays no more. -/
def BillingStatus.submitted (s : BillingStatus) : Bool := s = .PROVIDER_SUBMITTED ∨ s = .COMPLETED

/-- The block with which `order.done` claims the payment, adding the proceeds of the sale. -/
def claimPayment (amounts : OrderDone.ExecutedAmounts) (p : Payment) :
    Payment × Option BillingMetadata :=
  if p.bill.metadata.billingStatus.submitted then (p, none)
  else
    let claim := { p.bill.metadata with sellProceedsAdded := true, billingStatus := .PAYING }
    ({ p with
        ledger :=
          if p.bill.metadata.sellProceedsAdded then p.ledger
          else (addLiquidity BASE_CURRENCY amounts.fiatAmountBase).commit p.ledger
        bill := { p.bill with
          isProcessed := false, metadata := claim, orderStatus := .PROCESSING
          orderPaymentStatus := .PAID } },
      some claim)

/-- What `order.done` does when its claim, its request or its record has failed. -/
def requestFailed (claim : BillingMetadata) (p : Payment) : Payment :=
  { p with
    bill := { p.bill with
      status := .PENDING, isProcessed := false
      metadata := { claim with billingStatus := .PROVIDER_SUBMIT_FAILED_RETRYABLE }
      orderStatus := .PROCESSING, orderPaymentStatus := .PAID, billStatus := .PROCESSING } }

/-! ### `BillPaymentRetryScheduler` -/

def MAX_ATTEMPTS : Nat := 5

/-- `safeDateDue`: a missing date is due. -/
def safeDateDue (value : Option Nat) (due : Nat → Bool) : Bool := value.all due

def isDue (m : BillingMetadata) (now : Nat) : Bool :=
  match m.billingStatus with
  | .ORDER_REFERENCE_PERSIST_FAILED => m.billingRequiresReconciliation ≠ some false
  | .PROVIDER_SUBMIT_FAILED_RETRYABLE => safeDateDue m.billingNextRetryAt (· ≤ now)
  | .PAYING_RETRY => safeDateDue m.billingRetryLockedAt (· + 15 * 60 * 1000 ≤ now)
  | _ => false

/-- What a tick of the scheduler makes of the payment. -/
def retryAction (p : Payment) : Option Task :=
  if p.bill.status = .PENDING ∧ isDue p.bill.metadata p.now then
    some (if p.bill.metadata.billingStatus = .ORDER_REFERENCE_PERSIST_FAILED then .reconciling
      else .retrying)
  else none

/-- `metadata.quidaxOrderReference || metadata.quidaxOrderId`. -/
def BillingMetadata.providerReference (m : BillingMetadata) : Option Reference :=
  m.quidaxOrderReference.or m.quidaxOrderId

def reconcileAcceptedOrder (p : Payment) : Payment :=
  if p.bill.status ≠ .PENDING ∨
      (p.bill.metadata.billingStatus ≠ .ORDER_REFERENCE_PERSIST_FAILED ∧
        p.bill.metadata.billingRequiresReconciliation ≠ some true) then p
  else
    match p.bill.metadata.providerReference with
    | none => p.setMetadata { p.bill.metadata with
        billingStatus := .ORDER_REFERENCE_RECONCILIATION_FAILED
        billingRequiresReconciliation := some true }
    | some reference =>
      { p with
        bill := { p.bill with
          metadata := { p.bill.metadata with
            billingStatus := .PROCESSING, billingRequiresReconciliation := some false
            quidaxOrderReference := some reference }
          referenceNo := reference, orderStatus := .PROCESSING, orderPaymentStatus := .PENDING
          billStatus := .PROCESSING } }

/-- A status at which the scheduler retries. -/
def BillingStatus.retryable (s : BillingStatus) : Bool :=
  s = .PROVIDER_SUBMIT_FAILED_RETRYABLE ∨ s = .PAYING_RETRY

/-- The block with which `retryOne` claims the payment. -/
def claimRetry (p : Payment) : Payment × Option BillingMetadata :=
  if p.bill.status ≠ .PENDING ∨ p.bill.metadata.billingStatus.retryable = false ∨
      MAX_ATTEMPTS ≤ p.bill.metadata.billingRetryCount then (p, none)
  else
    let claim := { p.bill.metadata with
      billingStatus := .PAYING_RETRY, billingRetryLockedAt := some p.now }
    (p.setMetadata claim, some claim)

/-- The releases of a retry that was the last one: the metadata that each leaves, and whether it
failed. -/
def exhaustUser (q : BillsService.Confirm) (m : BillingMetadata) (p : Payment) :
    Payment × BillingMetadata × Bool :=
  if 0 < q.total ∧ m.userBalanceReservationStatus ≠ some .RELEASED then
    match p.releaseUser q with
    | (released, true) =>
      (released, { m with userBalanceReservationStatus := some .RELEASED }, false)
    | (same, false) => (same, m, true)
  else (p, m, false)

def exhaustCompany (q : BillsService.Confirm) (m : BillingMetadata) (releaseFailed : Bool)
    (p : Payment) : Payment × BillingMetadata × Bool :=
  if 0 < q.netFiat ∧ m.liquidityReservationStatus = some .RESERVED then
    match p.releaseCompany q with
    | (released, true) =>
      (released, { m with liquidityReservationStatus := some .RELEASED }, releaseFailed)
    | (same, false) => (same, m, true)
  else (p, m, releaseFailed)

def exhaust (q : BillsService.Confirm) (m : BillingMetadata) (p : Payment) :
    Payment × BillingMetadata × Bool :=
  let user := exhaustUser q m p
  exhaustCompany q user.2.1 user.2.2 user.1

/-- What `retryOne` does when its request or its record has failed. -/
def retryFailed (q : BillsService.Confirm) (claim : BillingMetadata) (p : Payment) : Payment :=
  let nextAttempt := claim.billingRetryCount + 1
  if MAX_ATTEMPTS ≤ nextAttempt then
    let closed := exhaust q { claim with
      billingStatus := .PROVIDER_SUBMIT_RETRY_EXHAUSTED, billingRetryCount := nextAttempt
      billingNextRetryAt := none } p
    { closed.1 with
      bill := { closed.1.bill with
        status := if closed.2.2 then .PENDING else .FAILED
        isProcessed := !closed.2.2, metadata := closed.2.1, orderStatus := .FAILED
        orderPaymentStatus := .FAILED, billStatus := .FAILED } }
  else
    { p with
      bill := { p.bill with
        status := .PENDING, isProcessed := false
        metadata := { claim with
          billingStatus := .PROVIDER_SUBMIT_FAILED_RETRYABLE, billingRetryCount := nextAttempt
          billingNextRetryAt :=
            some (p.now + min 60 (2 ^ nextAttempt * 5) * (60 * 1000)) } } }

/-! ### The rest of the confirmation -/

/-- The accepted order is recorded. -/
def recordOrder (reference id : Reference) (p : Payment) : Payment :=
  { p with
    bill := { p.bill with
      metadata := { p.bill.metadata with
        billingStatus := .PROCESSING, quidaxOrderReference := some reference
        quidaxOrderId := some id }
      referenceNo := reference, billStatus := .PROCESSING } }

/-- The `catch` of the confirmation once its order was accepted. -/
def orderPersistFailed (reference id : Reference) (p : Payment) : Payment :=
  { p with
    bill := { p.bill with
      status := .PENDING, isProcessed := false
      metadata := { p.bill.metadata with
        billingStatus := .ORDER_REFERENCE_PERSIST_FAILED
        billingRequiresReconciliation := some true, quidaxOrderReference := some reference
        quidaxOrderId := some id }
      referenceNo := reference, orderStatus := .PROCESSING, orderPaymentStatus := .PENDING
      billStatus := .PROCESSING } }

/-- The `catch` of the confirmation before its order was accepted. -/
def orderSubmitFailed (q : BillsService.Confirm) (p : Payment) : Payment :=
  let released := ((p.releaseUser q).1.releaseCompany q).1
  { released with
    bill := { released.bill with
      status := .FAILED
      metadata := { p.bill.metadata with
        liquidityReservationStatus := some .RELEASED, billingStatus := .FAILED_ORDER_SUBMIT }
      billStatus := .FAILED } }

/-! ### The handlers, step by step -/

def start (cache : ConvertCurrency.DefaultNetworkCache) (q : BillsService.Confirm) (d : Delivery)
    (p : Payment) : Option Task :=
  match d with
  | .orderDone e =>
    if p.bill.referenceNo ≠ e.reference then none
    else if e.event.isFailure then some (.failingOrder p.bill.metadata)
    else if p.bill.status.isFinal then none
    else
      match p.ledger.walletDefaultNetwork q.userId .usdt,
        OrderDone.executedAmounts cache .usdt e.event with
      | some _, .ok amounts => some (.claiming p.bill.metadata amounts)
      | _, _ => none
  | .tick => retryAction p
  | .retryJob => some .retrying

/-- One step of the request that a claim leads to. A failure of the `catch` ends the handler. -/
def resumeRequest (q : BillsService.Confirm) (t : Task) (o : Outcome) (p : Payment) :
    Payment × Option Task :=
  match t, o with
  | .paying claimant claim, .accepted =>
    ({ p with accepted := p.accepted + 1 }, some (.recording claimant claim))
  | .paying claimant claim, .acceptedUnseen =>
    ({ p with accepted := p.accepted + 1 }, some (.catching claimant claim))
  | .paying claimant claim, .refused => (p, some (.catching claimant claim))
  | .recording _ claim, .ok =>
    ({ p with
        bill := { p.bill with
          metadata := { claim with billingStatus := .PROVIDER_SUBMITTED }
          billStatus := .PROCESSING } }, none)
  | .recording claimant claim, .fails => (p, some (.catching claimant claim))
  | .catching .orderDone claim, .ok => (requestFailed claim p, none)
  | .catching .retry claim, .ok => (retryFailed q claim p, none)
  | _, _ => (p, none)

/-- One step of the confirmation after its reservations. -/
def resumeOrder (q : BillsService.Confirm) (t : Task) (o : Outcome) (p : Payment) :
    Payment × Option Task :=
  match t, o with
  | .ordering, .orderAccepted reference id => (p, some (.recordingOrder reference id))
  | .ordering, .refused => (p, some .submitFailed)
  | .recordingOrder reference id, .ok =>
    (recordOrder reference id p, some (.deletingQuote reference id))
  | .recordingOrder reference id, .fails => (p, some (.persistFailed reference id))
  | .deletingQuote reference id, .fails => (p, some (.persistFailed reference id))
  | .persistFailed reference id, .ok => (orderPersistFailed reference id p, none)
  | .submitFailed, .ok => (orderSubmitFailed q p, none)
  | _, _ => (p, none)

/-- One step of a handler. A failed claim of `order.done` falls into its `catch`, with the metadata
that was read before the claim. -/
def resume (q : BillsService.Confirm) (t : Task) (o : Outcome) (p : Payment) :
    Payment × Option Task :=
  match t, o with
  | .claiming _ amounts, .ok =>
    ((claimPayment amounts p).1, (claimPayment amounts p).2.map (.paying .orderDone))
  | .claiming copy _, .fails => (p, some (.catching .orderDone copy))
  | .failingOrder copy, .ok => (failOrder q copy p, none)
  | .retrying, .ok => ((claimRetry p).1, (claimRetry p).2.map (.paying .retry))
  | .reconciling, .ok => (reconcileAcceptedOrder p, none)
  | .paying _ _, _ | .recording _ _, _ | .catching _ _, _ => resumeRequest q t o p
  | .ordering, _ | .recordingOrder _ _, _ | .deletingQuote _ _, _ | .persistFailed _ _, _
  | .submitFailed, _ => resumeOrder q t o p
  | _, _ => (p, none)

/-- The handlers that request a payment, while the clock goes on. -/
def requests (cache : ConvertCurrency.DefaultNetworkCache) (q : BillsService.Confirm) :
    Handlers Payment Task Delivery Outcome Nat where
  start := start cache q
  resume := resume q
  outside := fun now p => { p with now }

/-! ### One request at a time -/

/-- A request that has been sent and not answered. -/
def Task.inFlight : Task → Bool
  | .paying _ _ => true
  | _ => false

/-- A claim that has not led to an accepted request. -/
def Task.unanswered : Task → Bool
  | .paying _ _ | .catching _ _ => true
  | _ => false

/-- A claim whose request was accepted and is not recorded yet. -/
def Task.unrecorded : Task → Bool
  | .recording _ _ => true
  | _ => false

/-- A handler between its claim and its record. -/
def Task.holds (t : Task) : Bool := t.unanswered || t.unrecorded

/-- At most one request is in flight, and none after one was accepted. -/
structure OneRequest (s : System Payment Task) : Prop where
  single : s.running.countP Task.inFlight ≤ 1
  last : 0 < s.state.accepted → s.running.countP Task.inFlight = 0

/-- What a step of a handler has to meet: nobody else holds a claim when it claims, every answer
that the provider gives arrives and is recorded, and nothing undoes that record. -/
def Calm (s : System Payment Task) : Task → Outcome → Prop
  | .claiming _ _, .ok =>
    s.state.bill.metadata.billingStatus.submitted = true ∨ s.running.countP Task.holds = 0
  | .claiming _ _, .fails =>
    s.state.bill.metadata.billingStatus.submitted = false ∧ s.running.countP Task.holds = 0
  | .retrying, .ok =>
    (claimRetry s.state).2 = none ∨ s.running.countP Task.holds = 0
  | .reconciling, .ok =>
    s.state.bill.metadata.billingStatus = .PROVIDER_SUBMITTED →
      s.state.bill.metadata.billingRequiresReconciliation ≠ some true
  | .failingOrder copy, .ok =>
    s.state.bill.metadata.billingStatus = .PROVIDER_SUBMITTED →
      copy.billingStatus = .PROVIDER_SUBMITTED
  | .paying _ _, o => o ≠ .acceptedUnseen
  | .recording _ _, o => o = .ok
  | .recordingOrder _ _, _ | .persistFailed _ _, _ | .submitFailed, _ =>
    s.state.bill.metadata.billingStatus ≠ .PROVIDER_SUBMITTED
  | _, _ => True

def Orderly (s : System Payment Task) : Event Delivery Outcome Nat → Prop
  | .resume n o => ∀ t, s.running[n]? = some t → Calm s t o
  | _ => True

theorem countP_holds (ts : List Task) :
    ts.countP Task.holds = ts.countP Task.unanswered + ts.countP Task.unrecorded := by
  induction ts with
  | nil => rfl
  | cons t ts ih =>
    simp only [List.countP_cons, ih]
    cases t <;> simp [Task.holds, Task.unanswered, Task.unrecorded] <;> omega

theorem countP_inFlight_le (ts : List Task) :
    ts.countP Task.inFlight ≤ ts.countP Task.unanswered := by
  refine List.countP_mono_left fun t _ ht => ?_
  cases t <;> simp_all [Task.inFlight, Task.unanswered]

/-- At most one handler holds a claim, and what the provider accepted is on its way to the record
or recorded. -/
structure Serial (s : System Payment Task) : Prop where
  single : s.running.countP Task.unanswered + s.running.countP Task.unrecorded ≤ 1
  fresh : s.running.countP Task.unanswered + s.state.accepted ≤ 1
  recorded : s.state.accepted ≤ s.running.countP Task.unrecorded ∨
    s.state.bill.metadata.billingStatus = .PROVIDER_SUBMITTED

theorem Serial.oneRequest {s : System Payment Task} (h : Serial s) : OneRequest s := by
  have hle := countP_inFlight_le s.running
  have hsingle := h.single
  have hfresh := h.fresh
  exact ⟨by omega, fun haccepted => by omega⟩

/-! ### What the blocks leave alone -/

section Frame

variable {q : BillsService.Confirm} {p : Payment}

@[simp] theorem releaseUser_bill : (p.releaseUser q).1.bill = p.bill := by
  unfold Payment.releaseUser
  split <;> rfl

@[simp] theorem releaseUser_accepted : (p.releaseUser q).1.accepted = p.accepted := by
  unfold Payment.releaseUser
  split <;> rfl

@[simp] theorem releaseCompany_accepted : (p.releaseCompany q).1.accepted = p.accepted := by
  unfold Payment.releaseCompany
  split <;> rfl

theorem failOrder_frame (copy : BillingMetadata) :
    (failOrder q copy p).accepted = p.accepted ∧
      ((failOrder q copy p).bill.metadata.billingStatus = p.bill.metadata.billingStatus ∨
        (failOrder q copy p).bill.metadata.billingStatus = copy.billingStatus) := by
  unfold failOrder
  split
  · exact ⟨rfl, .inl rfl⟩
  · dsimp only
    split
    · split
      · rename_i closed hclosed
        have haccepted := congrArg (fun r => r.1.accepted) hclosed
        simp only [releaseCompany_accepted, releaseUser_accepted] at haccepted
        exact ⟨haccepted.symm, .inr rfl⟩
      · exact ⟨rfl, .inl rfl⟩
    · simp

theorem reconcileAcceptedOrder_accepted :
    (reconcileAcceptedOrder p).accepted = p.accepted := by
  unfold reconcileAcceptedOrder
  split
  · rfl
  · split <;> rfl

theorem reconcileAcceptedOrder_submitted
    (hstatus : p.bill.metadata.billingStatus = .PROVIDER_SUBMITTED)
    (hflag : p.bill.metadata.billingRequiresReconciliation ≠ some true) :
    reconcileAcceptedOrder p = p := by
  simp [reconcileAcceptedOrder, hstatus, hflag]

theorem exhaust_accepted (m : BillingMetadata) : (exhaust q m p).1.accepted = p.accepted := by
  have huser : (exhaustUser q m p).1.accepted = p.accepted := by
    unfold exhaustUser
    split
    · have h := releaseUser_accepted (q := q) (p := p)
      generalize p.releaseUser q = r at h
      obtain ⟨released, b⟩ := r
      cases b <;> exact h
    · rfl
  unfold exhaust exhaustCompany
  dsimp only
  split
  · have h := releaseCompany_accepted (q := q) (p := (exhaustUser q m p).1)
    generalize Payment.releaseCompany q (exhaustUser q m p).1 = r at h
    obtain ⟨released, b⟩ := r
    cases b <;> exact h.trans huser
  · exact huser

theorem retryFailed_accepted (claim : BillingMetadata) :
    (retryFailed q claim p).accepted = p.accepted := by
  unfold retryFailed
  dsimp only
  split
  · exact exhaust_accepted _
  · rfl

theorem claimPayment_cases (amounts : OrderDone.ExecutedAmounts) :
    (p.bill.metadata.billingStatus.submitted = true ∧ claimPayment amounts p = (p, none)) ∨
      (p.bill.metadata.billingStatus.submitted = false ∧ (claimPayment amounts p).2.isSome ∧
        (claimPayment amounts p).1.accepted = p.accepted) := by
  unfold claimPayment
  split
  · rename_i h
    exact .inl ⟨h, rfl⟩
  · rename_i h
    exact .inr ⟨by simpa using h, rfl, rfl⟩

theorem claimRetry_cases :
    claimRetry p = (p, none) ∨
      (p.bill.metadata.billingStatus.retryable = true ∧ (claimRetry p).2.isSome ∧
        (claimRetry p).1.accepted = p.accepted) := by
  unfold claimRetry
  split
  · exact .inl rfl
  · rename_i h
    simp only [not_or, Bool.not_eq_false] at h
    exact .inr ⟨h.2.1, rfl, rfl⟩

theorem resumeOrder_accepted {t : Task} {o : Outcome} :
    (resumeOrder q t o p).1.accepted = p.accepted := by
  unfold resumeOrder
  split <;> simp [recordOrder, orderPersistFailed, orderSubmitFailed]

theorem resumeOrder_next {t u : Task} {o : Outcome} (h : (resumeOrder q t o p).2 = some u) :
    u.unanswered = false ∧ u.unrecorded = false := by
  unfold resumeOrder at h
  split at h
  all_goals cases h <;> exact ⟨rfl, rfl⟩

end Frame

/-! ### The steps -/

section Steps

variable {cache : ConvertCurrency.DefaultNetworkCache} {q : BillsService.Confirm}
  {s : System Payment Task}

theorem start_holds {d : Delivery} {p : Payment} {t : Task} (h : start cache q d p = some t) :
    t.unanswered = false ∧ t.unrecorded = false := by
  cases d with
  | orderDone e =>
    simp only [start] at h
    split at h
    · cases h
    · split at h
      · cases h
        exact ⟨rfl, rfl⟩
      · split at h
        · cases h
        · split at h
          · cases h
            exact ⟨rfl, rfl⟩
          · cases h
  | tick =>
    simp only [start, retryAction] at h
    split at h
    · cases h
      split <;> exact ⟨rfl, rfl⟩
    · cases h
  | retryJob =>
    cases h
    exact ⟨rfl, rfl⟩

theorem Serial.start (h : Serial s) (d : Delivery) :
    Serial ((requests cache q).step (.start d) s) := by
  have hu := Handlers.countP_start (h := requests cache q) (s := s) (i := d)
    fun t ht => (start_holds ht).1
  have hr := Handlers.countP_start (h := requests cache q) (s := s) (i := d)
    fun t ht => (start_holds ht).2
  constructor
  · rw [hu, hr]
    exact h.single
  · rw [hu]
    exact h.fresh
  · rw [hr]
    exact h.recorded

theorem Serial.idle (h : Serial s) {n : Nat} {t : Task} {o : Outcome}
    (ht : s.running[n]? = some t) (hclaim : t.unanswered = false ∧ t.unrecorded = false)
    (hnext : ∀ u, (resume q t o s.state).2 = some u → u.unanswered = false ∧ u.unrecorded = false)
    (haccepted : (resume q t o s.state).1.accepted = s.state.accepted)
    (hstatus : s.state.bill.metadata.billingStatus = .PROVIDER_SUBMITTED →
      (resume q t o s.state).1.bill.metadata.billingStatus = .PROVIDER_SUBMITTED) :
    Serial ((requests cache q).step (.resume n o) s) := by
  have hu := Handlers.countP_resume (h := requests cache q) Task.unanswered ht o
  have hr := Handlers.countP_resume (h := requests cache q) Task.unrecorded ht o
  have hstate := congrArg System.state (Handlers.step_resume (h := requests cache q) ht o)
  have hany : ((requests cache q).resume t o s.state).2.any Task.unanswered = false ∧
      ((requests cache q).resume t o s.state).2.any Task.unrecorded = false := by
    change (resume q t o s.state).2.any _ = false ∧ (resume q t o s.state).2.any _ = false
    cases hn : (resume q t o s.state).2 with
    | none => exact ⟨rfl, rfl⟩
    | some u => exact hnext u hn
  simp only [hclaim, hany, Bool.toNat_false, Nat.add_zero] at hu hr
  change System.state _ = (resume q t o s.state).1 at hstate
  constructor
  · rw [hu, hr]
    exact h.single
  · rw [hu, hstate, haccepted]
    exact h.fresh
  · rw [hr, hstate, haccepted]
    exact h.recorded.imp id hstatus

theorem Serial.claim (h : Serial s) {n : Nat} {t u : Task} {o : Outcome}
    (ht : s.running[n]? = some t) (hclaim : t.unanswered = false ∧ t.unrecorded = false)
    (hnext : (resume q t o s.state).2 = some u) (hu : u.unanswered = true ∧ u.unrecorded = false)
    (haccepted : (resume q t o s.state).1.accepted = s.state.accepted)
    (hfree : s.running.countP Task.holds = 0)
    (hstatus : s.state.bill.metadata.billingStatus ≠ .PROVIDER_SUBMITTED) :
    Serial ((requests cache q).step (.resume n o) s) := by
  have hcount := Handlers.countP_resume (h := requests cache q) Task.unanswered ht o
  have hr := Handlers.countP_resume (h := requests cache q) Task.unrecorded ht o
  have hstate := congrArg System.state (Handlers.step_resume (h := requests cache q) ht o)
  change _ + _ = _ + ((resume q t o s.state).2.any _).toNat at hcount hr
  change System.state _ = (resume q t o s.state).1 at hstate
  simp only [hclaim, hnext, Option.any_some, hu, Bool.toNat_false, Bool.toNat_true,
    Nat.add_zero] at hcount hr
  have hnone : s.state.accepted = 0 := by
    rw [countP_holds] at hfree
    rcases h.recorded with hle | hsubmitted
    · omega
    · exact absurd hsubmitted hstatus
  rw [countP_holds] at hfree
  constructor
  · omega
  · rw [hstate, haccepted]
    omega
  · rw [hstate, haccepted]
    omega

theorem Serial.request (h : Serial s) {n : Nat} {t : Task} {o : Outcome}
    (ht : s.running[n]? = some t) (hclaim : t.holds = true) (hc : Calm s t o) :
    Serial ((requests cache q).step (.resume n o) s) := by
  have hu := Handlers.countP_resume (h := requests cache q) Task.unanswered ht o
  have hr := Handlers.countP_resume (h := requests cache q) Task.unrecorded ht o
  have hstate := congrArg System.state (Handlers.step_resume (h := requests cache q) ht o)
  change _ + _ = _ + ((resume q t o s.state).2.any _).toNat at hu hr
  change System.state _ = (resume q t o s.state).1 at hstate
  have hsingle := h.single
  have hfresh := h.fresh
  have hmem := List.mem_of_getElem? ht
  cases t with
  | paying claimant claim =>
    have hone : 0 < s.running.countP Task.unanswered := List.countP_pos_iff.mpr ⟨_, hmem, rfl⟩
    cases o with
    | acceptedUnseen => exact absurd rfl hc
    | accepted =>
      simp only [resume, resumeRequest, Task.unanswered, Task.unrecorded, Option.any_some,
        Bool.toNat_true, Bool.toNat_false] at hu hr hstate
      constructor
      · omega
      · rw [hstate]
        dsimp only
        omega
      · rw [hstate]
        dsimp only
        omega
    | _ =>
      simp only [resume, resumeRequest, Task.unanswered, Task.unrecorded, Option.any_some,
        Option.any_none, Bool.toNat_true, Bool.toNat_false] at hu hr hstate
      constructor
      · omega
      · rw [hstate]
        omega
      · rw [hstate]
        omega
  | recording claimant claim =>
    cases hc
    have hone : 0 < s.running.countP Task.unrecorded := List.countP_pos_iff.mpr ⟨_, hmem, rfl⟩
    simp only [resume, resumeRequest, Task.unanswered, Task.unrecorded, Option.any_none,
      Bool.toNat_true, Bool.toNat_false] at hu hr hstate
    constructor
    · omega
    · rw [hstate]
      dsimp only
      omega
    · rw [hstate]
      exact .inr rfl
  | catching claimant claim =>
    have hone : 0 < s.running.countP Task.unanswered := List.countP_pos_iff.mpr ⟨_, hmem, rfl⟩
    have haccepted : (resume q (.catching claimant claim) o s.state).1.accepted =
        s.state.accepted := by
      cases o <;> cases claimant <;>
        simp [resume, resumeRequest, requestFailed, retryFailed_accepted]
    have hnext : (resume q (.catching claimant claim) o s.state).2 = none := by
      cases o <;> cases claimant <;> rfl
    simp only [hnext, Task.unanswered, Task.unrecorded, Option.any_none, Bool.toNat_true,
      Bool.toNat_false] at hu hr
    constructor
    · omega
    · rw [hstate, haccepted]
      omega
    · rw [hstate, haccepted]
      omega
  | _ => cases hclaim

theorem Serial.unclaimed (h : Serial s) {n : Nat} {t : Task} {o : Outcome}
    (ht : s.running[n]? = some t) (hclaim : t.holds = false) (hc : Calm s t o) :
    Serial ((requests cache q).step (.resume n o) s) := by
  have hnone : t.unanswered = false ∧ t.unrecorded = false := by
    simpa [Task.holds] using hclaim
  cases t with
  | claiming copy amounts =>
    cases o with
    | ok =>
      rcases claimPayment_cases (p := s.state) amounts with ⟨-, hsame⟩ | ⟨hstatus, hsome, hacc⟩
      · refine h.idle ht hnone ?_ ?_ ?_ <;> simp [resume, hsame]
      · obtain ⟨m, hm⟩ := Option.isSome_iff_exists.mp hsome
        have hfree : s.running.countP Task.holds = 0 := by
          rcases hc with hsubmitted | hfree
          · rw [hstatus] at hsubmitted
            cases hsubmitted
          · exact hfree
        refine h.claim ht hnone (u := .paying .orderDone m) ?_ ⟨rfl, rfl⟩ hacc hfree ?_
        · simp [resume, hm]
        · intro heq
          simp [BillingStatus.submitted, heq] at hstatus
    | fails =>
      refine h.claim ht hnone rfl ⟨rfl, rfl⟩ rfl hc.2 ?_
      intro heq
      simp [BillingStatus.submitted, heq, Calm] at hc
    | _ => exact h.idle ht hnone (fun _ hu => nomatch hu) rfl id
  | failingOrder copy =>
    cases o with
    | ok =>
      obtain ⟨hacc, hkeep⟩ := failOrder_frame (q := q) (p := s.state) copy
      refine h.idle ht hnone (fun _ hu => nomatch hu) hacc ?_
      intro hstatus
      rcases hkeep with hsame | hcopy
      · exact hsame.trans hstatus
      · exact hcopy.trans (hc hstatus)
    | _ => exact h.idle ht hnone (fun _ hu => nomatch hu) rfl id
  | retrying =>
    cases o with
    | ok =>
      rcases claimRetry_cases (p := s.state) with hsame | ⟨hstatus, hsome, hacc⟩
      · refine h.idle ht hnone ?_ ?_ ?_ <;> simp [resume, hsame]
      · obtain ⟨m, hm⟩ := Option.isSome_iff_exists.mp hsome
        have hfree : s.running.countP Task.holds = 0 := by
          rcases hc with hstopped | hfree
          · rw [hm] at hstopped
            cases hstopped
          · exact hfree
        refine h.claim ht hnone (u := .paying .retry m) ?_ ⟨rfl, rfl⟩ hacc hfree ?_
        · simp [resume, hm]
        · intro heq
          simp [BillingStatus.retryable, heq] at hstatus
    | _ => exact h.idle ht hnone (fun _ hu => nomatch hu) rfl id
  | reconciling =>
    cases o with
    | ok =>
      refine h.idle ht hnone (fun _ hu => nomatch hu) reconcileAcceptedOrder_accepted ?_
      intro hstatus
      rw [resume, reconcileAcceptedOrder_submitted hstatus (hc hstatus)]
      exact hstatus
    | _ => exact h.idle ht hnone (fun _ hu => nomatch hu) rfl id
  | paying claimant claim => cases hclaim
  | recording claimant claim => cases hclaim
  | catching claimant claim => cases hclaim
  | ordering =>
    refine h.idle ht hnone (fun _ => resumeOrder_next) resumeOrder_accepted fun hstatus => ?_
    cases o <;> exact hstatus
  | deletingQuote reference id =>
    refine h.idle ht hnone (fun _ => resumeOrder_next) resumeOrder_accepted fun hstatus => ?_
    cases o <;> exact hstatus
  | recordingOrder reference id =>
    exact h.idle ht hnone (fun _ => resumeOrder_next) resumeOrder_accepted
      fun hstatus => absurd hstatus hc
  | persistFailed reference id =>
    exact h.idle ht hnone (fun _ => resumeOrder_next) resumeOrder_accepted
      fun hstatus => absurd hstatus hc
  | submitFailed =>
    exact h.idle ht hnone (fun _ => resumeOrder_next) resumeOrder_accepted
      fun hstatus => absurd hstatus hc

theorem Serial.step (h : Serial s) (a : Event Delivery Outcome Nat) (ha : Orderly s a) :
    Serial ((requests cache q).step a s) := by
  cases a with
  | start d => exact h.start d
  | outside now => exact ⟨h.single, h.fresh, h.recorded⟩
  | resume n o =>
    cases ht : s.running[n]? with
    | none =>
      rw [Handlers.step_resume_none ht]
      exact h
    | some t =>
      cases hclaim : t.holds with
      | true => exact h.request ht hclaim (ha t ht)
      | false => exact h.unclaimed ht hclaim (ha t ht)

end Steps

/-- For every bill payment that no handler has claimed, in every run whose claims are made while
nobody else holds one, and whose accepted requests are answered and recorded for good, at most one
request is in flight at any time, and none after one was accepted. -/
theorem requests_once (cache : ConvertCurrency.DefaultNetworkCache) (q : BillsService.Confirm)
    {s : System Payment Task} (hs : s.state.accepted = 0)
    (hrunning : s.running.countP Task.holds = 0) {events : List (Event Delivery Outcome Nat)}
    (h : Run.Along (requests cache q).step Orderly s events) :
    Run.Throughout (requests cache q).step OneRequest s events := by
  have hstart : Serial s := by
    rw [countP_holds] at hrunning
    exact ⟨by omega, by omega, .inl (by omega)⟩
  exact (Run.throughout_of_along (fun _ a hi ha => hi.step a ha) hstart h).mono
    fun _ hi => hi.oneRequest

/-- A bill of 1500 naira, paid with one USDT. -/
def electricity : BillsService.Confirm where
  userId := 1
  quoteId := 3
  crypto := 1000000
  fee := 5000
  total := 1005000
  netFiat := 150000
  walletDefaultNetwork := some .trc20

/-- The metadata that the confirmation writes, once its order was recorded. -/
def BillingMetadata.placed (reference : Reference) : BillingMetadata where
  billingStatus := .PROCESSING
  billingRequiresReconciliation := none
  quidaxOrderReference := some reference
  quidaxOrderId := some reference
  sellProceedsAdded := false
  billingRetryCount := 0
  billingRetryLockedAt := none
  billingNextRetryAt := none
  userBalanceReservationStatus := none
  liquidityReservationStatus := some .RESERVED
  xpresspayWebhookStatus := none

/-- Its reservations are held, and its order is at the exchange. -/
def placedBill : Payment where
  bill :=
    { status := .PENDING, isProcessed := false, metadata := .placed 7, referenceNo := 7
      orderStatus := .PENDING, orderPaymentStatus := .PENDING, billStatus := .PROCESSING }
  ledger := { Ledger.empty with
    wallets := (∅ : Table WalletKey Wallet).insert (1, .usdt) { Wallet.empty with
      currencyId := some .usdt, baseBalance := 3000000, reservedBalance := 1005000
      defaultNetwork := some .trc20 }
    companyLiquidity := (∅ : Table Currency CompanyLiquidity).insert .ngn
      { CompanyLiquidity.empty with totalBalance := 900000, reservedBalance := 150000 } }
  now := 0
  accepted := 0
  userClosings := []
  companyClosings := []

/-- One USDT was sold at 1600 naira. -/
def sold : SaleEvent := ⟨7, .done, some ['1'], some ['1', '6', '0', '0']⟩

theorem orderly_resume {s : System Payment Task} {n : Nat} {t : Task} {o : Outcome}
    (ht : s.running[n]? = some t) (hc : Calm s t o) : Orderly s (.resume n o) := by
  intro u hu
  rw [ht] at hu
  cases hu
  exact hc

/-- What `order.done` claims it with. -/
def claimedBill : BillingMetadata :=
  { BillingMetadata.placed 7 with sellProceedsAdded := true, billingStatus := .PAYING }

/-- The event is delivered again after the request was accepted and recorded. -/
def redelivered : List (Event Delivery Outcome Nat) :=
  [.start (.orderDone sold), .resume 0 .ok, .resume 0 .accepted, .resume 0 .ok,
    .start (.orderDone sold), .resume 0 .ok, .start .retryJob, .resume 0 .ok]

theorem redelivered_requests_once :
    Run.Throughout (requests (fun _ => some .trc20) electricity).step OneRequest
      ⟨placedBill, []⟩ redelivered := by
  refine requests_once (fun _ => some .trc20) electricity rfl rfl ?_
  refine ⟨trivial, ?_, ?_, ?_, trivial, ?_, trivial, ?_, trivial⟩
  · exact orderly_resume (t := .claiming (.placed 7) ⟨1000000, 160000⟩) (by decide +kernel)
      (.inr (by decide +kernel))
  · exact orderly_resume (t := .paying .orderDone claimedBill) (by decide +kernel) (by simp [Calm])
  · exact orderly_resume (t := .recording .orderDone claimedBill) (by decide +kernel) rfl
  · exact orderly_resume (t := .claiming
      { claimedBill with billingStatus := .PROVIDER_SUBMITTED } ⟨1000000, 160000⟩)
      (by decide +kernel) (.inl (by decide +kernel))
  · exact orderly_resume (t := .retrying) (by decide +kernel) (.inr (by decide +kernel))

/-- `order.done` is delivered twice before the first delivery has been answered. -/
def duplicated : List (Event Delivery Outcome Nat) :=
  [.start (.orderDone sold), .start (.orderDone sold), .resume 0 .ok, .resume 0 .ok]

theorem duplicated_in_flight_twice :
    ¬ Run.Throughout (requests (fun _ => some .trc20) electricity).step OneRequest
      ⟨placedBill, []⟩ duplicated := by
  intro h
  have hsingle := h.last.single
  revert hsingle
  decide +kernel

end BillPayment

end ExchangeLedger
