import ExchangeLedger.BillRequests

set_option autoImplicit false

/-! What becomes of the two reservations of a bill payment: the reports of the bill provider, next
to `order.done`, the retries and the rest of the confirmation. -/

namespace ExchangeLedger

open Block Concurrent

namespace BillPayment

/-- `payload.Status`: `00`, a terminal status, or any other text. -/
inductive ProviderStatus where
  | zeroZero | ninetyNine | FAILED | FAILURE | REVERSED | CANCELLED | CANCELED | DECLINED | ERROR
  | other
  deriving DecidableEq, Repr

structure Webhook where
  isSuccessful : Option Bool
  status : ProviderStatus
  deriving DecidableEq, Repr

def Webhook.ok (w : Webhook) : Bool := w.isSuccessful = some true ∧ w.status = .zeroZero

def terminalStatuses : List ProviderStatus :=
  [.ninetyNine, .FAILED, .FAILURE, .REVERSED, .CANCELLED, .CANCELED, .DECLINED, .ERROR]

def Webhook.isTerminalFailure (w : Webhook) : Bool :=
  w.isSuccessful = some false ∧ w.status ∈ terminalStatuses

theorem Webhook.not_terminalFailure_of_ok {w : Webhook} (h : w.ok = true) :
    w.isTerminalFailure = false := by
  have hsuccess : w.isSuccessful = some true ∧ w.status = .zeroZero := by simpa [Webhook.ok] using h
  simp [Webhook.isTerminalFailure, hsuccess.1]

/-- The balances of a bill that was paid. The user's balance does not fall below zero, and is
written out with six decimals. -/
def settleBlock (q : BillsService.Confirm) : LedgerBlock Unit := do
  releaseBalance q.userId .usdt q.total none
  mustUpdateWallet (q.userId, .usdt) (fun _ => True)
    (fun w => { w with baseBalance := max (w.baseBalance - q.total) 0 })
    (.thrown "undefined is not iterable")
  restateWith (fun base => (bigIntOfText base).map (ConvertCurrency.fromBaseUnits 6 false))
    (q.userId, .usdt)
  let consumedLiquidity ← consumeReservedLiquidity BASE_CURRENCY q.netFiat
  require (consumedLiquidity = true)
    (.thrown "Unable to consume reserved bill payment liquidity")
  subtractInternalBalance .usdt q.total

/-- A success report that finds the reservations released is left to a person. -/
def reconcile (p : Payment) : Payment :=
  { p with
    bill := { p.bill with
      status := .PENDING, isProcessed := false
      metadata := { p.bill.metadata with
        xpresspayWebhookStatus := some .SUCCESS_AFTER_RELEASE
        billingStatus := .MANUAL_RECONCILIATION_REQUIRED }
      billStatus := .PROCESSING, orderStatus := .PROCESSING, orderPaymentStatus := .PAID } }

def BillingMetadata.reservationAlreadyReleased (m : BillingMetadata) : Bool :=
  m.liquidityReservationStatus = some .RELEASED ∨ m.xpresspayWebhookStatus = some .FAILED

/-- A success report. An error of the settlement rolls everything back. -/
def succeed (q : BillsService.Confirm) (p : Payment) : Payment :=
  if p.bill.metadata.reservationAlreadyReleased then reconcile p
  else if q.total = 0 then p
  else
    match settleBlock q p.ledger with
    | .ok (_, M) =>
      { p with
        ledger := M
        bill := { p.bill with
          status := .COMPLETED, isProcessed := true
          metadata := { p.bill.metadata with
            userBalanceReservationStatus := some .CONSUMED
            liquidityReservationStatus := some .CONSUMED
            xpresspayWebhookStatus := some .COMPLETED, billingStatus := .COMPLETED }
          billStatus := .COMPLETED, orderStatus := .COMPLETED, orderPaymentStatus := .PAID }
        userClosings := .consumed :: p.userClosings
        companyClosings := .consumed :: p.companyClosings }
    | .error _ => p

/-- The user's part of a failure report, whose release is caught. -/
def failUser (q : BillsService.Confirm) (p : Payment) : Payment :=
  if 0 < q.total ∧ p.bill.metadata.userBalanceReservationStatus ≠ some .RELEASED then
    match p.releaseUser q with
    | (released, true) => released.setMetadata { released.bill.metadata with
        userBalanceReservationStatus := some .RELEASED }
    | (same, false) => same
  else p

/-- The company's part of a failure report, whose release is caught too. -/
def failCompany (q : BillsService.Confirm) (p : Payment) : Payment :=
  if p.bill.metadata.liquidityReservationStatus = some .RESERVED then
    match p.releaseCompany q with
    | (released, true) => released.setMetadata { released.bill.metadata with
        liquidityReservationStatus := some .RELEASED }
    | (same, false) => same
  else p

/-- The status that a report which closes nothing more writes everywhere. -/
def report (status : TransactionStatus) (processed : Bool) (webhook : WebhookStatus)
    (billing : BillingStatus) (bill : BillPaymentStatus) (order : OrderStatus)
    (payment : PaymentStatus) (p : Payment) : Payment :=
  { p with
    bill := { p.bill with
      status := status, isProcessed := processed
      metadata := { p.bill.metadata with
        xpresspayWebhookStatus := some webhook, billingStatus := billing }
      billStatus := bill, orderStatus := order, orderPaymentStatus := payment } }

/-- `XpresspayWebhookHandler.process` for a bill payment. -/
def webhook (q : BillsService.Confirm) (w : Webhook) (p : Payment) : Payment :=
  if p.bill.metadata.xpresspayWebhookStatus = some .COMPLETED ∨
      (p.bill.metadata.xpresspayWebhookStatus = some .FAILED ∧ w.isTerminalFailure) then p
  else if w.ok then succeed q p
  else if w.isTerminalFailure then
    report .FAILED true .FAILED .FAILED .FAILED .FAILED .FAILED (failCompany q (failUser q p))
  else report .PENDING false .PENDING .PENDING .PENDING .PROCESSING .PENDING p

/-- What happens to a payment besides its handlers. -/
inductive Outside where
  | clock (now : Nat)
  | report (w : Webhook)
  deriving DecidableEq, Repr

def payments (cache : ConvertCurrency.DefaultNetworkCache) (q : BillsService.Confirm) :
    Handlers Payment Task Delivery Outcome Outside where
  start := start cache q
  resume := resume q
  outside
    | .clock now, p => { p with now }
    | .report w, p => webhook q w p

/-- The payment as its confirmation leaves it, before its order is placed. -/
def confirmed (reference : Reference) (L : Ledger) : System Payment Task where
  state :=
    { bill :=
        { status := .PENDING, isProcessed := false
          metadata := { BillingMetadata.placed reference with
            billingStatus := .PENDING_ORDER, quidaxOrderReference := none, quidaxOrderId := none }
          referenceNo := reference, orderStatus := .PENDING, orderPaymentStatus := .PENDING
          billStatus := .PENDING }
      ledger := L, now := 0, accepted := 0, userClosings := [], companyClosings := [] }
  running := [.ordering]

/-- The keys that say how the reservations stand. -/
def BillingMetadata.flags (m : BillingMetadata) :
    Option LiquidityReservationStatus × Option LiquidityReservationStatus × Option WebhookStatus :=
  (m.userBalanceReservationStatus, m.liquidityReservationStatus, m.xpresspayWebhookStatus)

/-- Each reservation is closed at most once, and the balances show it; a payment that has ended
closed both: one that was completed consumed them, and one that failed released them. -/
structure ClosedOnce (q : BillsService.Confirm) (L : Ledger) (p : Payment) : Prop where
  user : p.userClosings.length ≤ 1
  company : p.companyClosings.length ≤ 1
  reservedBalance : p.ledger.reservedBalance (q.userId, .usdt) =
    L.reservedBalance (q.userId, .usdt) - q.total * p.userClosings.length
  reservedLiquidity : p.ledger.reservedLiquidity BASE_CURRENCY =
    L.reservedLiquidity BASE_CURRENCY - q.netFiat * p.companyClosings.length
  completed : p.bill.status = .COMPLETED →
    p.userClosings = [.consumed] ∧ p.companyClosings = [.consumed]
  failed : p.bill.status = .FAILED →
    p.userClosings = [.released] ∧ p.companyClosings = [.released]

/-- What a step does not do to an ended payment, and what a success report does. -/
structure StaysEnded (p : Payment) (a : Event Delivery Outcome Outside) (next : Payment) :
    Prop where
  /-- Only a success report reopens a payment: one that failed, without moving a balance. -/
  ended : p.bill.status.isFinal = true → next.bill.status = p.bill.status ∨
    ∃ w : Webhook, a = .outside (.report w) ∧ w.ok = true ∧ p.bill.status = .FAILED ∧
      next.bill.status = .PENDING ∧ next.ledger = p.ledger ∧
      next.bill.metadata.billingStatus = .MANUAL_RECONCILIATION_REQUIRED
  /-- A success report consumes both reservations, unless they were released before. -/
  executed : ∀ w : Webhook, a = .outside (.report w) → w.ok = true →
    Closing.released ∉ p.userClosings →
      next.userClosings = [.consumed] ∧ next.companyClosings = [.consumed]

/-- A report of success comes before the user's funds are given back. -/
def Unrefunded (p : Payment) (a : Event Delivery Outcome Outside) : Prop :=
  ∀ w : Webhook, a = .outside (.report w) → w.ok = true → Closing.released ∉ p.userClosings

/-- An ended payment stays as it ended, and a report of success consumes both reservations. -/
structure Upheld (p : Payment) (a : Event Delivery Outcome Outside) (next : Payment) : Prop where
  ended : p.bill.status.isFinal = true → next.bill.status = p.bill.status
  executed : ∀ w : Webhook, a = .outside (.report w) → w.ok = true →
    next.userClosings = [.consumed] ∧ next.companyClosings = [.consumed]

theorem StaysEnded.upheld {p next : Payment} {a : Event Delivery Outcome Outside}
    (hp : p.bill.status = .FAILED → Closing.released ∈ p.userClosings)
    (hunrefunded : Unrefunded p a) (h : StaysEnded p a next) : Upheld p a next where
  ended hfinal := by
    rcases h.ended hfinal with hsame | ⟨w, ha, hok, hfailed, -⟩
    · exact hsame
    · exact absurd (hp hfailed) (hunrefunded w ha hok)
  executed w ha hok := h.executed w ha hok (hunrefunded w ha hok)

/-- What a step of a handler has to find: a payment that has not ended where it writes a status, a
reservation that is still held where it releases without looking, and in its copy of the metadata
what the row says of the reservations. -/
def Careful (p : Payment) : Task → Outcome → Prop
  | .failingOrder copy, .ok =>
    p.bill.status.isFinal = true ∨
      (p.bill.metadata.liquidityReservationStatus = some .RESERVED ∧
        copy.flags = p.bill.metadata.flags)
  | .recording _ claim, .ok => claim.flags = p.bill.metadata.flags
  | .catching claimant claim, .ok =>
    p.bill.status.isFinal = false ∧ claim.flags = p.bill.metadata.flags ∧
      (claimant = .retry → MAX_ATTEMPTS ≤ claim.billingRetryCount + 1 →
        claim.liquidityReservationStatus = some .RELEASED →
          claim.userBalanceReservationStatus = some .RELEASED)
  | .persistFailed _ _, .ok => p.bill.status.isFinal = false
  | .submitFailed, .ok =>
    p.bill.status.isFinal = false ∧ p.bill.metadata.liquidityReservationStatus = some .RESERVED
  | _, _ => True

/-- What a report has to find: a success one balances that settle, where they are still reserved;
a failure one the user's reservation marked as released wherever the company's is; and one that is
neither a payment that has not failed. -/
def Timely (q : BillsService.Confirm) (p : Payment) (w : Webhook) : Prop :=
  if w.ok then
    p.bill.metadata.liquidityReservationStatus = some .RESERVED →
      ∃ M, (settleBlock q).Commits p.ledger () M
  else if w.isTerminalFailure then
    p.bill.metadata.xpresspayWebhookStatus = some .FAILED ∨
      (p.bill.metadata.liquidityReservationStatus = some .RELEASED →
        p.bill.metadata.userBalanceReservationStatus = some .RELEASED)
  else p.bill.status ≠ .FAILED

def Undisturbed (q : BillsService.Confirm) (s : System Payment Task) :
    Event Delivery Outcome Outside → Prop
  | .resume n o => ∀ t, s.running[n]? = some t → Careful s.state t o
  | .outside (.report w) => Timely q s.state w
  | _ => True

/-! ### The stages of a payment -/

inductive Stage (status : TransactionStatus) (m : BillingMetadata) : List Closing → List Closing →
    Prop where
  | held : status = .PENDING → m.userBalanceReservationStatus = none →
      m.liquidityReservationStatus = some .RESERVED →
      (m.xpresspayWebhookStatus = none ∨ m.xpresspayWebhookStatus = some .PENDING) →
      Stage status m [] []
  | completed : status = .COMPLETED → m.xpresspayWebhookStatus = some .COMPLETED →
      m.liquidityReservationStatus = some .CONSUMED → Stage status m [.consumed] [.consumed]
  | released : status = .FAILED ∨ status = .PENDING →
      m.liquidityReservationStatus = some .RELEASED →
      m.xpresspayWebhookStatus ≠ some .COMPLETED → Stage status m [.released] [.released]

section Stage

variable {status : TransactionStatus} {m n : BillingMetadata} {users companies : List Closing}

theorem Stage.congr (h : Stage status m users companies) (hflags : n.flags = m.flags) :
    Stage status n users companies := by
  simp only [BillingMetadata.flags, Prod.mk.injEq] at hflags
  obtain ⟨huser, hcompany, hwebhook⟩ := hflags
  cases h with
  | held hstatus hu hl hw =>
    rw [← huser] at hu
    rw [← hcompany] at hl
    rw [← hwebhook] at hw
    exact .held hstatus hu hl hw
  | completed hstatus hw hl =>
    rw [← hcompany] at hl
    rw [← hwebhook] at hw
    exact .completed hstatus hw hl
  | released hstatus hl hw =>
    rw [← hcompany] at hl
    rw [← hwebhook] at hw
    exact .released hstatus hl hw

theorem Stage.pending (h : Stage status m users companies) (hopen : status.isFinal = false) :
    Stage .PENDING m users companies := by
  cases h with
  | held hstatus hu hl hw => exact .held rfl hu hl hw
  | completed hstatus hw hl =>
    rw [hstatus] at hopen
    cases hopen
  | released hstatus hl hw => exact .released (.inr rfl) hl hw

theorem Stage.of_reserved (h : Stage status m users companies)
    (hl : m.liquidityReservationStatus = some .RESERVED) :
    status = .PENDING ∧ m.userBalanceReservationStatus = none ∧ users = [] ∧ companies = [] ∧
      (m.xpresspayWebhookStatus = none ∨ m.xpresspayWebhookStatus = some .PENDING) := by
  cases h with
  | held hstatus hu _ hw => exact ⟨hstatus, hu, rfl, rfl, hw⟩
  | completed _ _ hconsumed =>
    rw [hl] at hconsumed
    cases hconsumed
  | released _ hreleased _ =>
    rw [hl] at hreleased
    cases hreleased

theorem Stage.once (h : Stage status m users companies) :
    users.length ≤ 1 ∧ companies.length ≤ 1 := by
  cases h <;> simp

theorem Stage.consumed (h : Stage status m users companies) (hcompleted : status = .COMPLETED) :
    users = [.consumed] ∧ companies = [.consumed] := by
  cases h with
  | completed _ _ _ => exact ⟨rfl, rfl⟩
  | held hstatus _ _ _ => simp [hcompleted] at hstatus
  | released hstatus _ _ => simp [hcompleted] at hstatus

theorem Stage.refunded (h : Stage status m users companies) (hfailed : status = .FAILED) :
    users = [.released] ∧ companies = [.released] := by
  cases h with
  | released _ _ _ => exact ⟨rfl, rfl⟩
  | held hstatus _ _ _ => simp [hfailed] at hstatus
  | completed hstatus _ _ => simp [hfailed] at hstatus

end Stage

/-- A payment in one of its stages, with the balances that belong to it. -/
structure Standing (q : BillsService.Confirm) (L : Ledger) (p : Payment) : Prop where
  stage : Stage p.bill.status p.bill.metadata p.userClosings p.companyClosings
  reservedBalance : p.ledger.reservedBalance (q.userId, .usdt) =
    L.reservedBalance (q.userId, .usdt) - q.total * p.userClosings.length
  reservedLiquidity : p.ledger.reservedLiquidity BASE_CURRENCY =
    L.reservedLiquidity BASE_CURRENCY - q.netFiat * p.companyClosings.length

/-- The ledger holds the two reservations of a bill. -/
structure Reserved (q : BillsService.Confirm) (L : Ledger) : Prop where
  total : 0 < q.total
  netFiat : 0 < q.netFiat
  user : (q.total : Int) ≤ L.reservedBalance (q.userId, .usdt)
  company : (q.netFiat : Int) ≤ L.reservedLiquidity BASE_CURRENCY

section Standing

variable {q : BillsService.Confirm} {L : Ledger} {p r : Payment}

theorem Standing.closedOnce (h : Standing q L p) : ClosedOnce q L p where
  user := h.stage.once.1
  company := h.stage.once.2
  reservedBalance := h.reservedBalance
  reservedLiquidity := h.reservedLiquidity
  completed := h.stage.consumed
  failed := h.stage.refunded

theorem Standing.of_frame (h : Standing q L p)
    (hstage : Stage r.bill.status r.bill.metadata p.userClosings p.companyClosings)
    (hledger : r.ledger.reservedBalance (q.userId, .usdt) =
        p.ledger.reservedBalance (q.userId, .usdt) ∧
      r.ledger.reservedLiquidity BASE_CURRENCY = p.ledger.reservedLiquidity BASE_CURRENCY)
    (husers : r.userClosings = p.userClosings)
    (hcompanies : r.companyClosings = p.companyClosings) : Standing q L r := by
  constructor
  · rw [husers, hcompanies]
    exact hstage
  · rw [hledger.1, husers]
    exact h.reservedBalance
  · rw [hledger.2, hcompanies]
    exact h.reservedLiquidity

theorem Standing.releases (h : Standing q L p) (hL : Reserved q L) (husers : p.userClosings = [])
    (hcompanies : p.companyClosings = []) :
    ∃ M N, releaseBalance q.userId .usdt q.total none p.ledger = .ok ((), M) ∧
      releaseLiquidity BASE_CURRENCY q.netFiat M = .ok ((), N) ∧
      N.reservedBalance (q.userId, .usdt) = L.reservedBalance (q.userId, .usdt) - q.total ∧
      N.reservedLiquidity BASE_CURRENCY = L.reservedLiquidity BASE_CURRENCY - q.netFiat := by
  have htotal := hL.total
  have hnetFiat := hL.netFiat
  have huser := hL.user
  have hcompany := hL.company
  have hbalance := h.reservedBalance
  have hliquidity := h.reservedLiquidity
  simp only [husers, hcompanies, List.length_nil, Nat.cast_zero, Int.mul_zero, Int.sub_zero]
    at hbalance hliquidity
  rw [← hbalance] at huser
  rw [← hliquidity] at hcompany
  cases hw : p.ledger.wallets.lookup (q.userId, .usdt) with
  | none =>
    simp only [Ledger.reservedBalance, hw, Option.elim_none] at huser
    omega
  | some w =>
    cases hr : p.ledger.companyLiquidity.lookup BASE_CURRENCY with
    | none =>
      simp only [Ledger.reservedLiquidity, hr, Option.elim_none] at hcompany
      omega
    | some r =>
      rw [Ledger.reservedBalance_of_lookup hw] at hbalance huser
      rw [Ledger.reservedLiquidity_of_lookup hr] at hliquidity hcompany
      obtain ⟨M, hM⟩ : ∃ M, M = p.ledger.setWallet (q.userId, .usdt)
          { w with reservedBalance := w.reservedBalance - q.total } := ⟨_, rfl⟩
      obtain ⟨N, hN⟩ : ∃ N, N = M.setCompany BASE_CURRENCY
          { r with reservedBalance := r.reservedBalance - q.netFiat } := ⟨_, rfl⟩
      have hrow : M.companyLiquidity.lookup BASE_CURRENCY = some r := by rw [hM]; exact hr
      refine ⟨M, N, ?_, ?_, ?_, ?_⟩
      · exact releaseBalance_commits.mpr ⟨w, hw, .inl rfl, huser, hM.symm⟩
      · exact releaseLiquidity_commits.mpr (.inr ⟨by omega, r, hrow, hcompany, hN.symm⟩)
      · simp [hN, hM, hbalance]
      · simp [hN, hliquidity]

theorem Standing.of_released (h : Stage r.bill.status r.bill.metadata [.released] [.released])
    (husers : r.userClosings = [.released]) (hcompanies : r.companyClosings = [.released])
    (hbalance : r.ledger.reservedBalance (q.userId, .usdt) =
      L.reservedBalance (q.userId, .usdt) - q.total)
    (hliquidity : r.ledger.reservedLiquidity BASE_CURRENCY =
      L.reservedLiquidity BASE_CURRENCY - q.netFiat) : Standing q L r := by
  constructor
  · rw [husers, hcompanies]
    exact h
  · simpa [husers] using hbalance
  · simpa [hcompanies] using hliquidity

theorem failOrder_standing (h : Standing q L p) (hL : Reserved q L) {copy : BillingMetadata}
    (hopen : p.bill.status.isFinal = false)
    (hl : p.bill.metadata.liquidityReservationStatus = some .RESERVED)
    (hcopy : copy.flags = p.bill.metadata.flags) : Standing q L (failOrder q copy p) := by
  obtain ⟨-, -, husers, hcompanies, hw⟩ := h.stage.of_reserved hl
  obtain ⟨M, N, hM, hN, hbalance, hliquidity⟩ := h.releases hL husers hcompanies
  simp only [BillingMetadata.flags, Prod.mk.injEq] at hcopy
  have hreserved : copy.liquidityReservationStatus = some .RESERVED := hcopy.2.1.trans hl
  have hnext : failOrder q copy p =
      { p with
        ledger := N, userClosings := [.released], companyClosings := [.released]
        bill := { p.bill with
          status := .FAILED, isProcessed := true, orderStatus := .FAILED
          orderPaymentStatus := .FAILED
          metadata := { copy with liquidityReservationStatus := some .RELEASED } } } := by
    simp [failOrder, hopen, Payment.releaseUser, hM, hL.netFiat, hreserved,
      Payment.releaseCompany, hN, Payment.setMetadata, husers, hcompanies]
  rw [hnext]
  refine .of_released (.released (.inl rfl) rfl ?_) rfl rfl hbalance hliquidity
  show copy.xpresspayWebhookStatus ≠ some .COMPLETED
  rw [hcopy.2.2]
  rcases hw with hw | hw <;> simp [hw]

theorem orderSubmitFailed_standing (h : Standing q L p) (hL : Reserved q L)
    (hl : p.bill.metadata.liquidityReservationStatus = some .RESERVED) :
    Standing q L (orderSubmitFailed q p) := by
  obtain ⟨-, -, husers, hcompanies, hw⟩ := h.stage.of_reserved hl
  obtain ⟨M, N, hM, hN, hbalance, hliquidity⟩ := h.releases hL husers hcompanies
  have hnext : orderSubmitFailed q p =
      { p with
        ledger := N, userClosings := [.released], companyClosings := [.released]
        bill := { p.bill with
          status := .FAILED, billStatus := .FAILED
          metadata := { p.bill.metadata with
            liquidityReservationStatus := some .RELEASED
            billingStatus := .FAILED_ORDER_SUBMIT } } } := by
    simp [orderSubmitFailed, Payment.releaseUser, hM, Payment.releaseCompany, hN, husers,
      hcompanies]
  rw [hnext]
  refine .of_released (.released (.inl rfl) rfl ?_) rfl rfl hbalance hliquidity
  rcases hw with hw | hw <;> simp [hw]

theorem exhaust_standing (h : Standing q L p) (hL : Reserved q L) {m : BillingMetadata}
    (hopen : p.bill.status.isFinal = false) (hflags : m.flags = p.bill.metadata.flags)
    (hreleased : m.liquidityReservationStatus = some .RELEASED →
      m.userBalanceReservationStatus = some .RELEASED) (status : BillPaymentStatus)
    (order : OrderStatus) (payment : PaymentStatus) :
    (exhaust q m p).2.2 = false ∧
      Standing q L { (exhaust q m p).1 with
        bill := { (exhaust q m p).1.bill with
          status := .FAILED, isProcessed := true, metadata := (exhaust q m p).2.1
          orderStatus := order, orderPaymentStatus := payment, billStatus := status } } := by
  have hstage := h.stage
  have hm := hstage.congr hflags
  generalize husers : p.userClosings = users, hcompanies : p.companyClosings = companies at hm
  cases hm with
  | held hstatus hu hl hw =>
    obtain ⟨M, N, hM, hN, hbalance, hliquidity⟩ := h.releases hL husers hcompanies
    have hnext : exhaust q m p =
        ({ p with ledger := N, userClosings := [.released], companyClosings := [.released] },
          { m with
            userBalanceReservationStatus := some .RELEASED
            liquidityReservationStatus := some .RELEASED }, false) := by
      simp [exhaust, exhaustUser, exhaustCompany, hL.total, hL.netFiat, hu, hl,
        Payment.releaseUser, hM, Payment.releaseCompany, hN, husers, hcompanies]
    rw [hnext]
    refine ⟨rfl, .of_released (.released (.inl rfl) rfl ?_) rfl rfl hbalance hliquidity⟩
    rcases hw with hw | hw <;> simp [hw]
  | completed hstatus _ _ =>
    rw [hstatus] at hopen
    cases hopen
  | released hstatus hl hw =>
    have hnext : exhaust q m p = (p, m, false) := by
      simp [exhaust, exhaustUser, exhaustCompany, hreleased hl, hl]
    rw [hnext]
    refine ⟨rfl, h.of_frame ?_ ⟨rfl, rfl⟩ rfl rfl⟩
    rw [husers, hcompanies]
    exact .released (.inl rfl) hl hw

theorem subtractInternalBalance_reservedLiquidity {c d : Currency} {amount : Int} {M N : Ledger}
    {u : Unit} (h : (subtractInternalBalance c amount).Commits M u N) :
    N.reservedLiquidity d = M.reservedLiquidity d ∧ N.wallets = M.wallets := by
  obtain ⟨r, hr, -, rfl⟩ := subtractInternalBalance_commits.mp h
  refine ⟨?_, rfl⟩
  rw [Ledger.reservedLiquidity_setCompany]
  split
  · rename_i hd
    rw [hd, Ledger.reservedLiquidity_of_lookup hr]
  · rfl

theorem settleBlock_reserved {M N : Ledger} {u : Unit} (h : (settleBlock q).Commits M u N) :
    N.reservedBalance (q.userId, .usdt) = M.reservedBalance (q.userId, .usdt) - q.total ∧
      N.reservedLiquidity BASE_CURRENCY = M.reservedLiquidity BASE_CURRENCY - q.netFiat := by
  simp only [settleBlock, commits_bind, commits_require] at h
  obtain ⟨_, A, hrelease, _, B, hdebit, _, C, hrestate, b, D, hconsume, _, _, ⟨rfl, rfl⟩,
    hsubtract⟩ := h
  obtain ⟨w, hw, -, -, rfl⟩ := releaseBalance_commits.mp hrelease
  obtain ⟨v, hv, -, rfl⟩ := mustUpdateWallet_commits.mp hdebit
  simp only [Ledger.setWallet_wallets, Table.lookup_insert, if_true, Option.some.injEq] at hv
  subst hv
  rcases restateWith_commits.mp hrestate with ⟨hnone, -⟩ | ⟨x, text, hx, -, rfl⟩
  · simp at hnone
  rcases consumeReservedLiquidity_commits.mp hconsume with ⟨r, hr, -, -, rfl⟩ | ⟨-, hfalse, -⟩
  · obtain ⟨hliquidity, hwallets⟩ := subtractInternalBalance_reservedLiquidity (d := BASE_CURRENCY)
      hsubtract
    simp only [Ledger.setWallet_wallets, Table.lookup_insert, if_true, Option.some.injEq] at hx
    subst hx
    constructor
    · rw [Ledger.reservedBalance, hwallets, ← Ledger.reservedBalance]
      simp [Ledger.reservedBalance_of_lookup hw]
    · rw [hliquidity]
      have hrow : M.companyLiquidity.lookup BASE_CURRENCY = some r := hr
      simp [Ledger.reservedLiquidity_of_lookup hrow]
  · cases hfalse

theorem succeed_standing (h : Standing q L p) (hL : Reserved q L)
    (hw : p.bill.metadata.xpresspayWebhookStatus ≠ some .COMPLETED)
    (hsettles : p.bill.metadata.liquidityReservationStatus = some .RESERVED →
      ∃ M, (settleBlock q).Commits p.ledger () M) :
    Standing q L (succeed q p) ∧
      ((p.userClosings = [.released] ∧ succeed q p = reconcile p) ∨
        (p.bill.status.isFinal = false ∧ (succeed q p).userClosings = [.consumed] ∧
          (succeed q p).companyClosings = [.consumed])) := by
  have hstage := h.stage
  generalize husers : p.userClosings = users, hcompanies : p.companyClosings = companies at hstage
  cases hstage with
  | held hstatus hu hl hwebhook =>
    obtain ⟨M, hM⟩ := hsettles hl
    obtain ⟨hbalance, hliquidity⟩ := settleBlock_reserved hM
    have hreleased : p.bill.metadata.reservationAlreadyReleased = false := by
      rcases hwebhook with hnone | hpending
      · simp [BillingMetadata.reservationAlreadyReleased, hl, hnone]
      · simp [BillingMetadata.reservationAlreadyReleased, hl, hpending]
    have hpos : q.total ≠ 0 := Nat.pos_iff_ne_zero.mp hL.total
    have hM' : settleBlock q p.ledger = .ok ((), M) := hM
    have hnext : succeed q p =
        { p with
          ledger := M, userClosings := [.consumed], companyClosings := [.consumed]
          bill := { p.bill with
            status := .COMPLETED, isProcessed := true
            metadata := { p.bill.metadata with
              userBalanceReservationStatus := some .CONSUMED
              liquidityReservationStatus := some .CONSUMED
              xpresspayWebhookStatus := some .COMPLETED, billingStatus := .COMPLETED }
            billStatus := .COMPLETED, orderStatus := .COMPLETED,
            orderPaymentStatus := .PAID } } := by
      simp [succeed, hreleased, hpos, hM', husers, hcompanies]
    rw [hnext]
    have hopen : p.bill.status.isFinal = false := by simp [hstatus, TransactionStatus.isFinal]
    refine ⟨⟨.completed rfl rfl rfl, ?_, ?_⟩, .inr ⟨hopen, rfl, rfl⟩⟩
    · have hbefore := h.reservedBalance
      simp only [husers, List.length_nil, Nat.cast_zero, Int.mul_zero, Int.sub_zero] at hbefore
      simp [hbalance, hbefore]
    · have hbefore := h.reservedLiquidity
      simp only [hcompanies, List.length_nil, Nat.cast_zero, Int.mul_zero, Int.sub_zero] at hbefore
      simp [hliquidity, hbefore]
  | completed _ hcompleted _ => exact absurd hcompleted hw
  | released hstatus hl _ =>
    have hnext : succeed q p = reconcile p := by
      simp [succeed, BillingMetadata.reservationAlreadyReleased, hl]
    rw [hnext]
    refine ⟨h.of_frame ?_ ⟨rfl, rfl⟩ rfl rfl, .inl ⟨rfl, rfl⟩⟩
    rw [husers, hcompanies]
    exact .released (.inr rfl) hl (by simp [reconcile])

theorem failureReport_standing (h : Standing q L p) (hL : Reserved q L)
    (hw : p.bill.metadata.xpresspayWebhookStatus ≠ some .COMPLETED)
    (hreleased : p.bill.metadata.liquidityReservationStatus = some .RELEASED →
      p.bill.metadata.userBalanceReservationStatus = some .RELEASED) :
    Standing q L
      (report .FAILED true .FAILED .FAILED .FAILED .FAILED .FAILED
        (failCompany q (failUser q p))) := by
  have hstage := h.stage
  generalize husers : p.userClosings = users, hcompanies : p.companyClosings = companies at hstage
  cases hstage with
  | held hstatus hu hl hwebhook =>
    obtain ⟨M, N, hM, hN, hbalance, hliquidity⟩ := h.releases hL husers hcompanies
    have hnext : failCompany q (failUser q p) =
        { p with
          ledger := N, userClosings := [.released], companyClosings := [.released]
          bill := { p.bill with
            metadata := { p.bill.metadata with
              userBalanceReservationStatus := some .RELEASED
              liquidityReservationStatus := some .RELEASED } } } := by
      simp [failUser, failCompany, hL.total, hu, hl, Payment.releaseUser, hM,
        Payment.releaseCompany, hN, Payment.setMetadata, husers, hcompanies]
    rw [hnext]
    exact .of_released (.released (.inl rfl) rfl (by simp [report])) rfl rfl hbalance hliquidity
  | completed _ hcompleted _ => exact absurd hcompleted hw
  | released hstatus hl _ =>
    have hnext : failCompany q (failUser q p) = p := by
      simp [failUser, failCompany, hreleased hl, hl]
    rw [hnext]
    refine h.of_frame ?_ ⟨rfl, rfl⟩ rfl rfl
    rw [husers, hcompanies]
    exact .released (.inl rfl) hl (by simp [report])

end Standing

/-! ### The steps -/

section Steps

variable {q : BillsService.Confirm} {L : Ledger} {p : Payment}

theorem report_standing (h : Standing q L p) (hL : Reserved q L) {w : Webhook}
    (hw : Timely q p w) :
    Standing q L (webhook q w p) ∧ StaysEnded p (.outside (.report w)) (webhook q w p) := by
  have hstage := h.stage
  unfold Timely at hw
  unfold webhook
  split
  · -- the report is stopped: the payment was completed, or failed by an earlier report
    rename_i hstop
    refine ⟨h, fun _ => .inl rfl, ?_⟩
    rintro v ⟨⟩ hok hreleased
    have hcompleted : p.bill.metadata.xpresspayWebhookStatus = some .COMPLETED := by
      simpa [Webhook.not_terminalFailure_of_ok hok] using hstop
    generalize p.userClosings = users, p.companyClosings = companies at *
    cases hstage with
    | held _ _ _ hwebhook => simp [hcompleted] at hwebhook
    | completed _ _ _ => exact ⟨rfl, rfl⟩
    | released _ _ hnot => exact absurd hcompleted hnot
  · rename_i hgo
    simp only [not_or, not_and] at hgo
    split
    · rename_i hok
      rw [if_pos hok] at hw
      obtain ⟨hnext, hreconciled | hsettled⟩ := succeed_standing h hL hgo.1 hw
      · refine ⟨hnext, fun hended => ?_, ?_⟩
        · rw [hreconciled.2]
          refine .inr ⟨w, rfl, hok, ?_, rfl, rfl, rfl⟩
          rw [hreconciled.1] at hstage
          generalize p.companyClosings = companies at hstage
          cases hstage with
          | released hstatus _ _ =>
            rcases hstatus with hfailed | hpending
            · exact hfailed
            · simp [hpending, TransactionStatus.isFinal] at hended
        · rintro v ⟨⟩ - hreleased
          simp [hreconciled.1] at hreleased
      · refine ⟨hnext, fun hended => ?_, ?_⟩
        · rw [hsettled.1] at hended
          cases hended
        · rintro v ⟨⟩ - -
          exact hsettled.2
    · rename_i hok
      rw [if_neg hok] at hw
      have hexecuted (next : Payment) : ∀ v : Webhook,
          (Event.outside (.report w) : Event Delivery Outcome Outside) = .outside (.report v) →
            v.ok = true → Closing.released ∉ p.userClosings →
              next.userClosings = [.consumed] ∧ next.companyClosings = [.consumed] := by
        rintro v ⟨⟩ hv
        exact absurd hv hok
      split
      · rename_i hfailure
        rw [if_pos hfailure] at hw
        have hreleased := hw.resolve_left fun hfailed => hgo.2 hfailed hfailure
        refine ⟨failureReport_standing h hL hgo.1 hreleased, fun hended => ?_, hexecuted _⟩
        left
        show TransactionStatus.FAILED = p.bill.status
        generalize p.userClosings = users, p.companyClosings = companies at hstage
        cases hstage with
        | held hstatus _ _ _ => simp [hstatus, TransactionStatus.isFinal] at hended
        | completed _ hcompleted _ => exact absurd hcompleted hgo.1
        | released hstatus _ _ =>
          rcases hstatus with hfailed | hpending
          · exact hfailed.symm
          · simp [hpending, TransactionStatus.isFinal] at hended
      · rename_i hfailure
        rw [if_neg hfailure] at hw
        have hpending : p.bill.status = .PENDING := by
          generalize p.userClosings = users, p.companyClosings = companies at hstage
          cases hstage with
          | held hstatus _ _ _ => exact hstatus
          | completed _ hcompleted _ => exact absurd hcompleted hgo.1
          | released hstatus _ _ => exact hstatus.resolve_left hw
        refine ⟨h.of_frame ?_ ⟨rfl, rfl⟩ rfl rfl, fun hended => ?_, hexecuted _⟩
        · generalize p.userClosings = users, p.companyClosings = companies at hstage ⊢
          cases hstage with
          | held _ hu hl _ => exact .held rfl hu hl (.inr rfl)
          | completed _ hcompleted _ => exact absurd hcompleted hgo.1
          | released _ hl _ => exact .released (.inr rfl) hl (by simp [report])
        · simp [hpending, TransactionStatus.isFinal] at hended

/-- Only what `addLiquidity` does to the balances is not visible in what is reserved. -/
theorem addLiquidity_reserved (L : Ledger) (c : Currency) (amount : Int) (d : Currency) :
    ((addLiquidity c amount).commit L).reservedLiquidity d = L.reservedLiquidity d := by
  simp only [Block.commit, Block.update, addLiquidity, Ledger.reservedLiquidity_setCompany]
  split
  · rename_i hd
    rw [hd]
    cases hr : L.companyLiquidity.lookup c with
    | none => simp [Ledger.reservedLiquidity, hr, CompanyLiquidity.empty]
    | some r => simp [Ledger.reservedLiquidity, hr]
  · rfl

theorem resume_standing (h : Standing q L p) (hL : Reserved q L) {t : Task} {o : Outcome}
    (hc : Careful p t o) :
    Standing q L (resume q t o p).1 ∧
      (p.bill.status.isFinal = true → (resume q t o p).1.bill.status = p.bill.status) := by
  cases t with
  | claiming copy amounts =>
    cases o with
    | ok =>
      simp only [resume, claimPayment]
      split
      · exact ⟨h, fun _ => rfl⟩
      · refine ⟨h.of_frame (h.stage.congr rfl) ⟨?_, ?_⟩ rfl rfl, fun _ => rfl⟩
        · dsimp only
          split <;> rfl
        · dsimp only
          split
          · rfl
          · exact addLiquidity_reserved _ _ _ _
    | _ => exact ⟨h, fun _ => rfl⟩
  | failingOrder copy =>
    cases o with
    | ok =>
      simp only [resume]
      cases hfinal : p.bill.status.isFinal with
      | true => simp [failOrder, hfinal, h]
      | false =>
        rcases hc with hended | ⟨hl, hcopy⟩
        · rw [hfinal] at hended
          cases hended
        · exact ⟨failOrder_standing h hL hfinal hl hcopy, fun hended => Bool.noConfusion hended⟩
    | _ => exact ⟨h, fun _ => rfl⟩
  | retrying =>
    cases o with
    | ok =>
      simp only [resume, claimRetry]
      split
      · exact ⟨h, fun _ => rfl⟩
      · exact ⟨h.of_frame (h.stage.congr rfl) ⟨rfl, rfl⟩ rfl rfl, fun _ => rfl⟩
    | _ => exact ⟨h, fun _ => rfl⟩
  | reconciling =>
    cases o with
    | ok =>
      simp only [resume, reconcileAcceptedOrder]
      split
      · exact ⟨h, fun _ => rfl⟩
      · split
        · exact ⟨h.of_frame (h.stage.congr rfl) ⟨rfl, rfl⟩ rfl rfl, fun _ => rfl⟩
        · exact ⟨h.of_frame (h.stage.congr rfl) ⟨rfl, rfl⟩ rfl rfl, fun _ => rfl⟩
    | _ => exact ⟨h, fun _ => rfl⟩
  | paying claimant claim =>
    cases o with
    | accepted => exact ⟨h.of_frame h.stage ⟨rfl, rfl⟩ rfl rfl, fun _ => rfl⟩
    | acceptedUnseen => exact ⟨h.of_frame h.stage ⟨rfl, rfl⟩ rfl rfl, fun _ => rfl⟩
    | _ => exact ⟨h, fun _ => rfl⟩
  | recording claimant claim =>
    cases o with
    | ok => exact ⟨h.of_frame (h.stage.congr hc) ⟨rfl, rfl⟩ rfl rfl, fun _ => rfl⟩
    | _ => exact ⟨h, fun _ => rfl⟩
  | catching claimant claim =>
    cases o with
    | ok =>
      obtain ⟨hopen, hflags, hexhausted⟩ := hc
      have hended (next : Payment) : p.bill.status.isFinal = true →
          next.bill.status = p.bill.status := by
        intro hfinal
        rw [hopen] at hfinal
        cases hfinal
      refine ⟨?_, hended _⟩
      cases claimant with
      | orderDone =>
        exact h.of_frame ((h.stage.pending hopen).congr hflags) ⟨rfl, rfl⟩ rfl rfl
      | retry =>
        simp only [resume, resumeRequest, retryFailed]
        split
        · rename_i hlast
          obtain ⟨hreleases, hnext⟩ := exhaust_standing h hL (m := { claim with
            billingStatus := .PROVIDER_SUBMIT_RETRY_EXHAUSTED
            billingRetryCount := claim.billingRetryCount + 1, billingNextRetryAt := none })
            hopen hflags (hexhausted rfl hlast) .FAILED .FAILED .FAILED
          rw [hreleases]
          exact hnext
        · exact h.of_frame ((h.stage.pending hopen).congr hflags) ⟨rfl, rfl⟩ rfl rfl
    | _ => cases claimant <;> exact ⟨h, fun _ => rfl⟩
  | ordering => cases o <;> exact ⟨h, fun _ => rfl⟩
  | recordingOrder reference id =>
    cases o with
    | ok => exact ⟨h.of_frame (h.stage.congr rfl) ⟨rfl, rfl⟩ rfl rfl, fun _ => rfl⟩
    | _ => exact ⟨h, fun _ => rfl⟩
  | deletingQuote reference id => cases o <;> exact ⟨h, fun _ => rfl⟩
  | persistFailed reference id =>
    cases o with
    | ok =>
      refine ⟨h.of_frame ((h.stage.pending hc).congr rfl) ⟨rfl, rfl⟩ rfl rfl, fun hfinal => ?_⟩
      rw [hc] at hfinal
      cases hfinal
    | _ => exact ⟨h, fun _ => rfl⟩
  | submitFailed =>
    cases o with
    | ok =>
      refine ⟨orderSubmitFailed_standing h hL hc.2, fun hfinal => ?_⟩
      rw [hc.1] at hfinal
      cases hfinal
    | _ => exact ⟨h, fun _ => rfl⟩

theorem Standing.step {cache : ConvertCurrency.DefaultNetworkCache} {s : System Payment Task}
    (h : Standing q L s.state) (hL : Reserved q L) (a : Event Delivery Outcome Outside)
    (ha : Undisturbed q s a) :
    Standing q L ((payments cache q).step a s).state ∧
      StaysEnded s.state a ((payments cache q).step a s).state := by
  cases a with
  | start d => exact ⟨h, fun _ => .inl rfl, fun _ hw => nomatch hw⟩
  | outside x =>
    cases x with
    | clock now =>
      exact ⟨h.of_frame h.stage ⟨rfl, rfl⟩ rfl rfl, fun _ => .inl rfl, fun _ hw => nomatch hw⟩
    | report w => exact report_standing h hL ha
  | resume n o =>
    cases ht : s.running[n]? with
    | none =>
      rw [Handlers.step_resume_none ht]
      exact ⟨h, fun _ => .inl rfl, fun _ hw => nomatch hw⟩
    | some t =>
      obtain ⟨hnext, hended⟩ := resume_standing (o := o) h hL (ha t ht)
      rw [Handlers.step_resume ht]
      exact ⟨hnext, fun hfinal => .inl (hended hfinal), fun _ hw => nomatch hw⟩

end Steps

theorem confirmed_standing (q : BillsService.Confirm) (reference : Reference) (L : Ledger) :
    Standing q L (confirmed reference L).state := by
  refine ⟨.held rfl rfl rfl (.inl rfl), ?_, ?_⟩
  · simp [confirmed]
  · simp [confirmed]

/-- The reservations of the bill are held, and the company owns the USDT. -/
def heldFunds : Ledger :=
  { placedBill.ledger with
    companyLiquidity := placedBill.ledger.companyLiquidity.insert .usdt
      { CompanyLiquidity.empty with totalBalance := 5000000, internalBalance := 4000000 } }

theorem heldFunds_reserved : Reserved electricity heldFunds := by
  constructor <;> decide +kernel

def reportOf (ok : Bool) : Event Delivery Outcome Outside :=
  .outside (.report ⟨some ok, if ok then .zeroZero else .FAILED⟩)

/-- The order is placed, done and paid for, and its answers are recorded. -/
def paidBill : List (Event Delivery Outcome Outside) :=
  [.resume 0 (.orderAccepted 7 7), .resume 0 .ok, .resume 0 .ok, .start (.orderDone sold),
    .resume 0 .ok, .resume 0 .accepted, .resume 0 .ok]

theorem undisturbed_resume {q : BillsService.Confirm} {s : System Payment Task} {n : Nat} {t : Task}
    {o : Outcome} (ht : s.running[n]? = some t) (hc : Careful s.state t o) :
    Undisturbed q s (.resume n o) := by
  intro u hu
  rw [ht] at hu
  cases hu
  exact hc

end BillPayment

end ExchangeLedger
